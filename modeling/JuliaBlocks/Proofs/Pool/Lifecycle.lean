import JuliaBlocks.Proofs.Pool.Steps

/-!
The life of a session: it has no process, until one can be started for it; that one it keeps, also
when it has ended, until the pool is closed. Main statement: `started_once`.
-/

namespace JuliaBlocks

/-- A process that has ended stays so, with its code, however much time passes. -/
def Host.KeepsExits {π : Type} (host : Host π) : Prop :=
  ∀ p files moment e, host.exit? p = some e →
    host.exit? (host.proceed p files moment).state = some e

namespace Pool

variable {π : Type} {host : Host π} {session : String} {p q : π} {e : Exit}

theorem Moves.exit?_eq (hkeeps : host.KeepsExits) (hmoves : Moves host session p q)
    (hexit : host.exit? p = some e) : host.exit? q = some e := by
  cases hmoves with
  | kept => exact hexit
  | proceeded hproceeds =>
      obtain ⟨files, rfl⟩ := hproceeds
      exact hkeeps p files _ e hexit
  | fed hrefusal =>
      rw [refusal, hexit] at hrefusal
      cases hrefusal

variable {world : World π} {text : String}

/-- A send to a process that has ended fails, and leaves all as it is. -/
theorem take_exited (hlookup : world.pool.sessions.lookup session = some p)
    (hexit : host.exit? p = some e) : (Act.send session text).take host world =
      (.error (.session (.exited session e.code)), world) := by
  have hready : Ready host world.pool world.files session p world.pool := .kept hlookup
  simp only [Act.take, send, hready.process_eq, refusal, hexit]

/-- A start that fails leaves the processes as they are. -/
theorem take_unstarted {failure : Failure} (habsent : world.pool.sessions.lookup session = none)
    (hfault : StartFault host world.pool world.files session failure) :
    ((Act.send session text).take host world).1 = .error failure ∧
    ((Act.send session text).take host world).2.pool.sessions = world.pool.sessions ∧
    ((Act.send session text).take host world).2.files = world.files := by
  have hprocess := process_eq_of_unstarted habsent hfault.spawn_eq
  simp only [Act.take, send, hprocess, spawn_sessions, and_self]

theorem take_started (habsent : world.pool.sessions.lookup session = none)
    (hstart : Startable host world.pool world.files p) :
    (Act.send session text).started host world = [session] ∧
    ∃ q, ((Act.send session text).take host world).2.pool.sessions.lookup session = some q ∧
      Moves host session p q := by
  have hready : Ready host world.pool world.files session p _ := .started habsent hstart.spawn_eq
  constructor
  · simp [Act.started, starts, habsent, hstart.spawn_eq, Except.isOk, Except.toBool]
  · simp only [Act.take, send, hready.process_eq]
    cases hrefusal : refusal host session p with
    | some fault => exact ⟨p, hready.lookup_eq, .kept p⟩
    | none => exact ⟨_, Named.lookup_put_self .., .fed hrefusal⟩

/-- From the end of its process on until the pool is closed, a session might as well be sent
nothing. -/
theorem runActs_exited (hkeeps : host.KeepsExits) {acts : List Act}
    (hopen : ∀ act ∈ acts, act.isClose = false)
    (hlookup : world.pool.sessions.lookup session = some p) (hexit : host.exit? p = some e) :
    (∀ visit ∈ visits host acts world, ∀ text, visit.1 = .send session text →
      visit.1.take host visit.2 = (.error (.session (.exited session e.code)), visit.2)) ∧
    runActs host (acts.filter (·.recipient? ≠ some session)) world = runActs host acts world := by
  induction acts generalizing world p with
  | nil => exact ⟨fun _ hvisit => (nomatch hvisit), rfl⟩
  | cons act rest ih =>
      obtain ⟨q, hq, hmoves⟩ := take_moves (hopen act (.head _)) hlookup
      obtain ⟨hfails, hsame⟩ :=
        ih (fun a ha => hopen a (.tail _ ha)) hq (hmoves.exit?_eq hkeeps hexit)
      constructor
      · intro visit hvisit text hsend
        rcases List.mem_cons.mp hvisit with rfl | hvisit
        · cases hsend
          exact take_exited hlookup hexit
        · exact hfails visit hvisit text hsend
      · by_cases hsend : act.recipient? = some session
        -- The send changes nothing, so the rest runs from the same world without it.
        · have hfails : (act.take host world).2 = world := by
            cases act with
            | send name text =>
                cases hsend
                rw [take_exited hlookup hexit]
            | close | elapse | alter => cases hsend
          rw [List.filter_cons_of_neg (by simpa using hsend)]
          rw [hfails] at hsame
          rw [hsame, runActs, runActs, List.foldl_cons, hfails]
        · rw [List.filter_cons_of_pos (by simpa using hsend)]
          exact hsame

/-- From any world on: -/
theorem started_once (hkeeps : host.KeepsExits) (world : World π) :
    -- between two closings at most one process is started for a session, and none for one that has
    -- a process, which it keeps,
    (∀ acts : List Act, (∀ act ∈ acts, act.isClose = false) →
      (started host acts world).Nodup ∧
      (runActs host acts world).pool.names = world.pool.names ++ started host acts world ∧
      ∀ session p, world.pool.sessions.lookup session = some p →
        session ∉ started host acts world ∧
        ∃ q, (runActs host acts world).pool.sessions.lookup session = some q ∧
          Relation.ReflTransGen (Moves host session) p q) ∧
    -- a session without one gets one by a send, if it can be started, and else the send fails,
    (∀ session text, world.pool.sessions.lookup session = none →
      (∀ p, Startable host world.pool world.files p →
        (Act.send session text).started host world = [session] ∧
        ∃ q, ((Act.send session text).take host world).2.pool.sessions.lookup session = some q ∧
          Moves host session p q) ∧
      ∀ failure, StartFault host world.pool world.files session failure →
        ((Act.send session text).take host world).1 = .error failure ∧
        ((Act.send session text).take host world).2.pool.sessions = world.pool.sessions ∧
        ((Act.send session text).take host world).2.files = world.files) ∧
    -- sends to a process that has ended fail, and the others have the effects they have without them,
    (∀ session p e, world.pool.sessions.lookup session = some p → host.exit? p = some e →
      ∀ acts : List Act, (∀ act ∈ acts, act.isClose = false) →
        (∀ visit ∈ visits host acts world, ∀ text, visit.1 = .send session text →
          visit.1.take host visit.2 = (.error (.session (.exited session e.code)), visit.2)) ∧
        runActs host (acts.filter (·.recipient? ≠ some session)) world =
          runActs host acts world) ∧
    -- a send concerns no other session,
    (∀ session text other, other ≠ session →
      ((Act.send session text).take host world).2.pool.sessions.lookup other =
        world.pool.sessions.lookup other) ∧
    -- and a closing leaves no process, so that the next send to a session starts another.
    let closed := (Act.close.take host world).2
    closed.pool.sessions = [] ∧
    ∀ session text p, Startable host closed.pool closed.files p →
      (Act.send session text).started host closed = [session] ∧
      ∃ q, ((Act.send session text).take host closed).2.pool.sessions.lookup session = some q ∧
        Moves host session p q := by
  refine ⟨?_, ?_, ?_, ?_, rfl, fun session text p => take_started rfl⟩
  · intro acts hopen
    obtain ⟨hnodup, hnew⟩ : (started host acts world).Nodup ∧
        ∀ name ∈ started host acts world, name ∉ world.pool.names := started_nodup hopen
    refine ⟨hnodup, names_runActs hopen, ?_⟩
    intro session p hlookup
    constructor
    · intro hstarted
      exact hnew session hstarted (mem_names_of_lookup hlookup)
    · exact runActs_lookup (P := Relation.ReflTransGen (Moves host session) p)
        (fun _ _ hmoves hled => hled.tail hmoves) hopen hlookup .refl
  · intro session text habsent
    exact ⟨fun p => take_started habsent, fun failure => take_unstarted habsent⟩
  · intro session p e hlookup hexit acts hopen
    exact runActs_exited hkeeps hopen hlookup hexit
  · intro session text other hne
    exact (send_spec host world.pool world.files session text).lookup_of_ne hne

/-- A session that is started at the second attempt, when its executable is there, and whose process
ends at the first text. -/
theorem started_once_second :
    let world : World Nat := { pool := { command := "/julia", arguments := [] }, files := {} }
    let acts : List Act := [.send "a" "1", .alter [.write "/julia" []], .send "a" "2"]
    let reached := runActs (counter 1) acts world
    ((Act.send "a" "1").take (counter 1) world).1 =
      .error (.session (.executableMissing "/julia")) ∧
    reached.pool.names = started (counter 1) acts world ∧
    (Act.send "a" "3").take (counter 1) reached =
      (.error (.session (.exited "a" 3)), reached) ∧
    ((Act.send "b" "4").take (counter 1) reached).2.pool.sessions.lookup "a" = some 1 := by
  intro world acts reached
  have hkeeps : (counter 1).KeepsExits := fun _ _ _ _ hexit => hexit
  have hlookup : reached.pool.sessions.lookup "a" = some 1 := by decide +kernel
  obtain ⟨honce, habsent, -⟩ := started_once hkeeps world
  obtain ⟨-, -, hended, hapart, -⟩ := started_once hkeeps reached
  refine ⟨((habsent "a" "1" rfl).2 _ (.missing rfl)).1, (honce acts (by decide)).2.1, ?_, ?_⟩
  · exact (hended "a" 1 ⟨3, 0⟩ hlookup rfl [.send "a" "3"] (by decide)).1 (_, reached) (.head _)
      "3" rfl
  · rw [hapart "b" "4" "a" (by decide), hlookup]

end Pool

end JuliaBlocks
