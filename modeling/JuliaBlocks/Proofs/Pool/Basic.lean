import JuliaBlocks.Pool
import JuliaBlocks.Proofs.Named

/-!
What the operations of a pool do to its processes: `startable_or_startFault` has all that a start can
come to, `send_spec` all that a send can come to, and `proceed_sessions` what the passing of time
does.
-/

namespace JuliaBlocks

/-- A process as it is when time has passed up to a moment. -/
def Host.Proceeds {π : Type} (host : Host π) (moment : Nat) (p after : π) : Prop :=
  ∃ files, after = (host.proceed p files moment).state

namespace Pool

variable {π : Type} (host : Host π) (pool : Pool π) (files : Files) (session : String)

/-- The names of the sessions that have a process, in the order of their starts. -/
def names (pool : Pool π) : List String :=
  pool.sessions.map (·.1)

theorem lookup_eq_none_iff {pool : Pool π} {session : String} :
    pool.sessions.lookup session = none ↔ session ∉ pool.names :=
  Named.lookup_eq_none_iff

theorem mem_names_of_lookup {pool : Pool π} {session : String} {p : π}
    (hlookup : pool.sessions.lookup session = some p) : session ∈ pool.names := by
  apply Decidable.byContradiction
  intro hnone
  cases hlookup.symm.trans (lookup_eq_none_iff.mpr hnone)

section Spawn

theorem spawn_sessions : (spawn host pool files session).2.sessions = pool.sessions := by
  unfold spawn
  split
  · rfl
  · dsimp only
    split
    · rfl
    · split <;> rfl

/-- A start that succeeds: the executable is found, its arguments can be given to it, and a process
comes of it. -/
structure Startable (p : π) : Prop where
  found : ∃ executable, host.find files pool.command = some executable ∧
    host.start files pool.clock executable pool.arguments = .ok p
  arguments : argumentFault? pool.arguments = none

/-- Why no process is started for a session. -/
inductive StartFault : Failure → Prop where
  | missing (hfind : host.find files pool.command = none) :
      StartFault (.session (.executableMissing pool.command))
  | arguments {executable : String} {failure : Failure}
      (hfind : host.find files pool.command = some executable)
      (hfault : argumentFault? pool.arguments = some failure) : StartFault failure
  | refused {executable reason : String} (hfind : host.find files pool.command = some executable)
      (hfault : argumentFault? pool.arguments = none)
      (hstart : host.start files pool.clock executable pool.arguments = .error reason) :
      StartFault (.session (.cannotStart session reason))

variable {host pool files session}

theorem Startable.spawn_eq {p : π} (hstartable : Startable host pool files p) :
    (spawn host pool files session).1 = .ok p := by
  obtain ⟨⟨executable, hfind, hstart⟩, hfault⟩ := hstartable
  rw [spawn, hfind]
  simp only [log, hfault, hstart]

theorem StartFault.spawn_eq {failure : Failure}
    (hstart : StartFault host pool files session failure) :
    (spawn host pool files session).1 = .error failure := by
  cases hstart with
  | missing hfind => rw [spawn, hfind]
  | arguments hfind hfault =>
      rw [spawn, hfind]
      simp only [log, hfault]
  | refused hfind hfault hstart =>
      rw [spawn, hfind]
      simp only [log, hfault, hstart]

/-- A start succeeds or it fails, for one of these causes. -/
theorem startable_or_startFault : (∃ p, Startable host pool files p) ∨
    ∃ failure, StartFault host pool files session failure := by
  cases hfind : host.find files pool.command with
  | none => exact .inr ⟨_, .missing hfind⟩
  | some executable =>
      cases hfault : argumentFault? pool.arguments with
      | some failure => exact .inr ⟨failure, .arguments hfind hfault⟩
      | none =>
          cases hstart : host.start files pool.clock executable pool.arguments with
          | error reason => exact .inr ⟨_, .refused hfind hfault hstart⟩
          | ok p => exact .inl ⟨p, ⟨executable, hfind, hstart⟩, hfault⟩

theorem startable_of_spawn {p : π} (hspawn : (spawn host pool files session).1 = .ok p) :
    Startable host pool files p := by
  rcases startable_or_startFault with ⟨q, hstartable⟩ | ⟨failure, hfault⟩
  · cases hspawn.symm.trans hstartable.spawn_eq
    exact hstartable
  · cases hspawn.symm.trans hfault.spawn_eq

end Spawn

/-- Whether a process is started for a session if text is sent to it. -/
def starts (session : String) : Bool :=
  (pool.sessions.lookup session).isNone && (spawn host pool files session).1.isOk

/-- A session has a process at hand, with which a pool goes on: the process it had, or one that was
started for it. -/
inductive Ready : π → Pool π → Prop where
  | kept {p : π} (hlookup : pool.sessions.lookup session = some p) : Ready p pool
  | started {p : π} (habsent : pool.sessions.lookup session = none)
      (hspawn : (spawn host pool files session).1 = .ok p) :
      Ready p { (spawn host pool files session).2 with
        sessions := Named.put session p pool.sessions }

section Ready

variable {host pool files session} {p : π} {ready : Pool π}

theorem Ready.process_eq (hready : Ready host pool files session p ready) :
    process host pool files session = (.ok p, ready) := by
  cases hready with
  | kept hlookup => rw [process, hlookup]
  | started habsent hspawn =>
      rw [process, habsent, ← spawn_sessions host pool files session]
      rcases hresult : spawn host pool files session with ⟨failure | started, after⟩
      · rw [hresult] at hspawn
        cases hspawn
      · rw [hresult] at hspawn
        cases hspawn
        rfl

theorem Ready.lookup_eq (hready : Ready host pool files session p ready) :
    ready.sessions.lookup session = some p := by
  cases hready with
  | kept hlookup => exact hlookup
  | started => exact Named.lookup_put_self ..

theorem Ready.lookup_of_ne (hready : Ready host pool files session p ready) {other : String}
    (hne : other ≠ session) : ready.sessions.lookup other = pool.sessions.lookup other := by
  cases hready with
  | kept => rfl
  | started => exact Named.lookup_put_of_ne hne ..

theorem Ready.names_eq (hready : Ready host pool files session p ready) :
    ready.names = pool.names ++ if starts host pool files session then [session] else [] := by
  cases hready with
  | kept hlookup => simp [starts, hlookup]
  | started habsent hspawn =>
      simp only [starts, habsent, hspawn, Option.isNone_none, Except.isOk, Except.toBool,
        Bool.and_self, if_true]
      exact Named.names_put_of_not_mem (lookup_eq_none_iff.mp habsent) _

end Ready

theorem process_eq_of_unstarted {host : Host π} {pool : Pool π} {files : Files} {session : String}
    {failure : Failure} (habsent : pool.sessions.lookup session = none)
    (hspawn : (spawn host pool files session).1 = .error failure) :
    process host pool files session = (.error failure, (spawn host pool files session).2) := by
  rw [process, habsent]
  rcases hresult : spawn host pool files session with ⟨found | p, after⟩
  · rw [hresult] at hspawn
    cases hspawn
    rfl
  · rw [hresult] at hspawn
    cases hspawn

/-- All that the demand for a process of a session can come to: it is at hand, or none is started. -/
theorem process_spec : (∃ p ready, Ready host pool files session p ready) ∨
    pool.sessions.lookup session = none ∧
      ∃ failure, (spawn host pool files session).1 = .error failure := by
  cases hlookup : pool.sessions.lookup session with
  | some p => exact .inl ⟨p, pool, .kept hlookup⟩
  | none =>
      cases hspawn : (spawn host pool files session).1 with
      | error failure => exact .inr ⟨rfl, failure, rfl⟩
      | ok p => exact .inl ⟨p, _, .started hlookup hspawn⟩

/-- All that a send can come to. -/
inductive Sent (text : String) : Except Failure Unit → Pool π → Prop where
  | unstarted {failure : Failure} (habsent : pool.sessions.lookup session = none)
      (hspawn : (spawn host pool files session).1 = .error failure) :
      Sent text (.error failure) (spawn host pool files session).2
  | refused {p : π} {ready : Pool π} {fault : SessionFault}
      (hready : Ready host pool files session p ready)
      (hrefusal : refusal host session p = some fault) :
      Sent text (.error (.session fault)) ready
  | taken {p : π} {ready : Pool π} (hready : Ready host pool files session p ready)
      (hrefusal : refusal host session p = none) :
      Sent text (.ok ()) { ready with
        sessions := Named.put session
          (host.feed p ready.clock (Text.Utf8.encode (terminated text))) ready.sessions }

section Send

variable (text : String)

theorem send_spec : Sent host pool files session text (send host pool files session text).1
    (send host pool files session text).2 := by
  rcases process_spec host pool files session with
    ⟨p, ready, hready⟩ | ⟨habsent, failure, hspawn⟩
  · rw [send, hready.process_eq]
    dsimp only
    cases hrefusal : refusal host session p with
    | some fault => exact .refused hready hrefusal
    | none => exact .taken hready hrefusal
  · rw [send, process_eq_of_unstarted habsent hspawn]
    exact .unstarted habsent hspawn

variable {host pool files session text} {outcome : Except Failure Unit} {after : Pool π}

/-- A send concerns no other session. -/
theorem Sent.lookup_of_ne (hsent : Sent host pool files session text outcome after)
    {other : String} (hne : other ≠ session) :
    after.sessions.lookup other = pool.sessions.lookup other := by
  cases hsent with
  | unstarted => rw [spawn_sessions]
  | refused hready => exact hready.lookup_of_ne hne
  | taken hready => exact (Named.lookup_put_of_ne hne ..).trans (hready.lookup_of_ne hne)

/-- A session for which a process is started comes last. -/
theorem Sent.names_eq (hsent : Sent host pool files session text outcome after) :
    after.names = pool.names ++ if starts host pool files session then [session] else [] := by
  cases hsent with
  | unstarted _ hspawn =>
      simp [names, spawn_sessions, starts, hspawn, Except.isOk, Except.toBool]
  | refused hready => exact hready.names_eq
  | taken hready =>
      rw [← hready.names_eq]
      exact Named.names_put_of_mem (mem_names_of_lookup hready.lookup_eq) _

end Send

section Time

variable (moment : Nat)

/-- Lets time pass up to a moment for one more process, after those for which that is done. -/
def proceedOne (done : Named π × List Change) (entry : String × π) : Named π × List Change :=
  let progress := host.proceed entry.2 (files.applyAll done.2) moment
  (done.1 ++ [(entry.1, progress.state)], done.2 ++ progress.changes)

theorem proceed_eq : proceed host pool files moment =
    let (sessions, changes) := pool.sessions.foldl (proceedOne host files moment) ([], [])
    ({ pool with sessions, clock := moment }, changes) := rfl

/-- Time passes for each process in its place. -/
theorem proceed_sessions : List.Forall₂ (fun a b => b.1 = a.1 ∧ host.Proceeds moment a.2 b.2)
    pool.sessions (proceed host pool files moment).1.sessions := by
  -- The induction is over the processes, with any that are done before them.
  have hfold (processes : Named π) (done : Named π × List Change) :
      ∃ later, (processes.foldl (proceedOne host files moment) done).1 = done.1 ++ later ∧
        List.Forall₂ (fun a b => b.1 = a.1 ∧ host.Proceeds moment a.2 b.2) processes later := by
    induction processes generalizing done with
    | nil => exact ⟨[], (List.append_nil done.1).symm, .nil⟩
    | cons entry rest ih =>
        obtain ⟨later, hlater, hrest⟩ := ih (proceedOne host files moment done entry)
        let progress := host.proceed entry.2 (files.applyAll done.2) moment
        refine ⟨(entry.1, progress.state) :: later, ?_,
          .cons ⟨rfl, files.applyAll done.2, rfl⟩ hrest⟩
        rw [List.foldl_cons, hlater, proceedOne, List.append_assoc, List.singleton_append]
  obtain ⟨later, hlater, hrest⟩ := hfold pool.sessions ([], [])
  have hsessions : (proceed host pool files moment).1.sessions = later := by
    rw [proceed_eq]
    exact hlater
  rw [hsessions]
  exact hrest

end Time

end Pool

end JuliaBlocks
