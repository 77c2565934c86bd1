import JuliaBlocks.Proofs.Pool.Basic
import Mathlib.Logic.Relation

/-!
Runs of a pool: texts are sent and the pool is closed in any order, while time passes and others
change files. What one act that closes nothing does to the processes is said once, by `take_names`
and `take_moves`; from that follows what a run between two closings does.
-/

namespace JuliaBlocks.Pool

/-- A pool with the files that its processes and others work on. -/
structure World (π : Type) where
  pool : Pool π
  files : Files

/-- What is done with a pool, or happens around it. -/
inductive Act
  | send (session text : String)
  | close
  /-- Time passes up to a moment. -/
  | elapse (moment : Nat)
  /-- Others change files. -/
  | alter (changes : List Change)

variable {π : Type} (host : Host π)

namespace Act

def isClose : Act → Bool
  | close => true
  | _ => false

theorem eq_close_of_isClose {act : Act} (hclose : act.isClose = true) : act = close := by
  cases act with
  | close => rfl
  | send | elapse | alter => cases hclose

/-- The session that text is sent to. -/
def recipient? : Act → Option String
  | send session _ => some session
  | _ => none

/-- Does what is asked. Only sending can fail. -/
def take (act : Act) (world : World π) : Except Failure Unit × World π :=
  match act with
  | send session text =>
    let (outcome, pool) := world.pool.send host world.files session text
    (outcome, { world with pool })
  | close =>
    let (pool, changes) := world.pool.close host world.files
    (.ok (), { pool, files := world.files.applyAll changes })
  | elapse moment =>
    let (pool, changes) := world.pool.proceed host world.files moment
    (.ok (), { pool, files := world.files.applyAll changes })
  | alter changes => (.ok (), { world with files := world.files.applyAll changes })

/-- The session that an act starts a process for, if there is one. -/
def started (act : Act) (world : World π) : List String :=
  match act with
  | send session _ => if world.pool.starts host world.files session then [session] else []
  | _ => []

end Act

/-- Does what is asked in order. -/
def runActs (acts : List Act) (world : World π) : World π :=
  acts.foldl (fun world act => (act.take host world).2) world

/-- The acts of a run, each with the world in which it is done. -/
def visits : List Act → World π → List (Act × World π)
  | [], _ => []
  | act :: rest, world => (act, world) :: visits rest (act.take host world).2

/-- The sessions that a run starts processes for, one for each start. -/
def started (acts : List Act) (world : World π) : List String :=
  (visits host acts world).flatMap fun visit => visit.1.started host visit.2

/-- What an act that closes nothing does to the process of a session: nothing, or time passes for it,
or it is given text that it takes. -/
inductive Moves (session : String) : π → π → Prop
  | kept (p : π) : Moves session p p
  | proceeded {p q : π} {moment : Nat} (hproceeds : host.Proceeds moment p q) : Moves session p q
  | fed {p : π} {moment : Nat} {input : List UInt8} (hrefusal : refusal host session p = none) :
      Moves session p (host.feed p moment input)

section Time

variable (pool : Pool π) (files : Files) (moment : Nat)

theorem proceed_lookup (session : String) : Option.Rel (host.Proceeds moment)
    (pool.sessions.lookup session) ((proceed host pool files moment).1.sessions.lookup session) :=
  Named.lookup_of_forall₂ (proceed_sessions host pool files moment) session

theorem proceed_names : (proceed host pool files moment).1.names = pool.names :=
  Named.names_of_forall₂ (proceed_sessions host pool files moment)

end Time

theorem Sent.moves {host : Host π} {pool after : Pool π} {files : Files} {session text : String}
    {outcome : Except Failure Unit} (hsent : Sent host pool files session text outcome after)
    {p : π} (hlookup : pool.sessions.lookup session = some p) :
    ∃ q, after.sessions.lookup session = some q ∧ Moves host session p q := by
  have hkept : Ready host pool files session p pool := .kept hlookup
  cases hsent with
  | unstarted habsent => cases habsent.symm.trans hlookup
  | refused hready =>
      cases hready.process_eq.symm.trans hkept.process_eq
      exact ⟨p, hlookup, .kept p⟩
  | taken hready hrefusal =>
      cases hready.process_eq.symm.trans hkept.process_eq
      exact ⟨_, Named.lookup_put_self .., .fed hrefusal⟩

section Step

variable {host} {act : Act} {world : World π}

/-- Between two closings processes only come to those there are. -/
theorem take_names (hopen : act.isClose = false) :
    (act.take host world).2.pool.names = world.pool.names ++ act.started host world := by
  cases act with
  | send session text => exact (send_spec host world.pool world.files session text).names_eq
  | close => cases hopen
  | elapse moment =>
      have hnone : (Act.elapse moment).started host world = [] := rfl
      rw [hnone, List.append_nil]
      exact proceed_names host world.pool world.files moment
  | alter changes => exact (List.append_nil _).symm

/-- Between two closings a session keeps its process. -/
theorem take_moves (hopen : act.isClose = false) {session : String} {p : π}
    (hlookup : world.pool.sessions.lookup session = some p) :
    ∃ q, (act.take host world).2.pool.sessions.lookup session = some q ∧
      Moves host session p q := by
  cases act with
  | send name text =>
      have hsent := send_spec host world.pool world.files name text
      by_cases hname : session = name
      · subst hname
        exact hsent.moves hlookup
      · exact ⟨p, (hsent.lookup_of_ne hname).trans hlookup, .kept p⟩
  | close => cases hopen
  | elapse moment =>
      have hrel := proceed_lookup host world.pool world.files moment session
      rw [hlookup] at hrel
      simp only [Act.take]
      generalize (proceed ..).1.sessions.lookup session = later at hrel ⊢
      cases hrel with
      | some hproceeds => exact ⟨_, rfl, .proceeded hproceeds⟩
  | alter changes => exact ⟨p, hlookup, .kept p⟩

/-- A process is started only for a session that has none. -/
theorem not_mem_names_of_started {session : String} (hstarted : session ∈ act.started host world) :
    session ∉ world.pool.names := by
  cases act with
  | send name text =>
      rw [Act.started] at hstarted
      split at hstarted
      · next hstarts =>
        cases List.mem_singleton.mp hstarted
        rw [starts, Bool.and_eq_true, Option.isNone_iff_eq_none] at hstarts
        exact lookup_eq_none_iff.mp hstarts.1
      · cases hstarted
  | close | elapse | alter => cases hstarted

end Step

section Runs

variable {host} {acts : List Act} {world : World π}

theorem runActs_append (acts later : List Act) (world : World π) :
    runActs host (acts ++ later) world = runActs host later (runActs host acts world) :=
  List.foldl_append

theorem names_runActs (hopen : ∀ act ∈ acts, act.isClose = false) :
    (runActs host acts world).pool.names = world.pool.names ++ started host acts world := by
  induction acts generalizing world with
  | nil => exact (List.append_nil _).symm
  | cons act rest ih =>
      have hrest : ∀ act ∈ rest, act.isClose = false := fun a ha => hopen a (.tail _ ha)
      have hnames := @ih (act.take host world).2 hrest
      rw [take_names (hopen act (.head _)), List.append_assoc] at hnames
      exact hnames

/-- Between two closings at most one process is started for a session, and none for one that has a
process. -/
theorem started_nodup (hopen : ∀ act ∈ acts, act.isClose = false) :
    (started host acts world).Nodup ∧ ∀ name ∈ started host acts world,
      name ∉ world.pool.names := by
  induction acts generalizing world with
  | nil => exact ⟨.nil, fun _ hname => nomatch hname⟩
  | cons act rest ih =>
      have hrest : ∀ act ∈ rest, act.isClose = false := fun a ha => hopen a (.tail _ ha)
      obtain ⟨hnodup, hnew⟩ := @ih (act.take host world).2 hrest
      have hcons : started host (act :: rest) world =
          act.started host world ++ started host rest (act.take host world).2 := rfl
      -- What the rest starts is new also beside what the first act starts.
      rw [take_names (hopen act (.head _))] at hnew
      have hone : (act.started host world).Nodup := by
        cases act with
        | send session text =>
            rw [Act.started]
            split
            · exact List.pairwise_singleton _ session
            · exact .nil
        | close | elapse | alter => exact .nil
      rw [hcons]
      constructor
      · refine List.nodup_append.mpr ⟨hone, hnodup, ?_⟩
        rintro name hname _ hagain rfl
        exact hnew name hagain (List.mem_append_right _ hname)
      · intro name hname
        rcases List.mem_append.mp hname with hname | hname
        · exact not_mem_names_of_started hname
        · exact fun hmem => hnew name hname (List.mem_append_left _ hmem)

/-- What holds of the process of a session, and is kept by its moves, holds until the pool is
closed. -/
theorem runActs_lookup {P : π → Prop} {session : String}
    (hkeep : ∀ p q, Moves host session p q → P p → P q)
    (hopen : ∀ act ∈ acts, act.isClose = false) {p : π}
    (hlookup : world.pool.sessions.lookup session = some p) (hp : P p) :
    ∃ q, (runActs host acts world).pool.sessions.lookup session = some q ∧ P q := by
  induction acts generalizing world p with
  | nil => exact ⟨p, hlookup, hp⟩
  | cons act rest ih =>
      obtain ⟨q, hq, hmoves⟩ := take_moves (hopen act (.head _)) hlookup
      exact ih (fun a ha => hopen a (.tail _ ha)) hq (hkeep p q hmoves hp)

end Runs

/-- A machine on which a command is the path of a file, and a process counts the texts it is given
and ends at so many of them. -/
def counter (limit : Nat) : Host Nat where
  find files command := (files.read? command).map fun _ => command
  start _ _ _ _ := .ok 0
  feed count _ _ := count + 1
  finish count _ := count
  proceed count _ _ := { state := count }
  await count _ _ := { state := count }
  next? _ := none
  exit? count := if limit ≤ count then some { code := 3, moment := 0 } else none
  hasInput _ := true
  listens _ := true
  output _ := []
  kill _ := []

end JuliaBlocks.Pool
