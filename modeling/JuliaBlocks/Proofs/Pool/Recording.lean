import JuliaBlocks.Proofs.Pool.Steps

/-!
A host that keeps what each process is given, from its start on, and does all else as another does.
Runs on it are runs on the other, with these inputs beside them (`runActs_recorded`).
-/

namespace JuliaBlocks

variable {π : Type} (host : Host π)

/-- The host with processes that have beside them all input they were given. -/
def Host.recorded : Host (π × List UInt8) where
  find := host.find
  start files moment executable arguments :=
    (host.start files moment executable arguments).map fun p => (p, [])
  feed p moment input := (host.feed p.1 moment input, p.2 ++ input)
  finish p moment := (host.finish p.1 moment, p.2)
  proceed p files moment :=
    let progress := host.proceed p.1 files moment
    { state := (progress.state, p.2), changes := progress.changes }
  await p files moment :=
    let progress := host.await p.1 files moment
    { state := (progress.state, p.2), changes := progress.changes }
  next? p := host.next? p.1
  exit? p := host.exit? p.1
  hasInput p := host.hasInput p.1
  listens p := host.listens p.1
  output p := host.output p.1
  kill p := host.kill p.1

namespace Pool

/-- Processes without what was kept of their input. -/
def unrecord (processes : Named (π × List UInt8)) : Named π :=
  processes.map (Prod.map id Prod.fst)

def unrecorded (pool : Pool (π × List UInt8)) : Pool π :=
  { pool with sessions := unrecord pool.sessions }

def World.unrecorded (world : World (π × List UInt8)) : World π where
  pool := world.pool.unrecorded
  files := world.files

/-- A world from which on the input of processes is kept. -/
def World.recording (world : World π) : World (π × List UInt8) where
  pool := { world.pool with sessions := world.pool.sessions.map (Prod.map id fun p => (p, [])) }
  files := world.files

theorem unrecorded_recording (world : World π) : world.recording.unrecorded = world := by
  have hentry : Prod.map id Prod.fst ∘ Prod.map id (fun p : π => (p, ([] : List UInt8))) =
      (id : String × π → String × π) := rfl
  obtain ⟨pool, files⟩ := world
  simp only [World.recording, World.unrecorded, unrecorded, unrecord, List.map_map, hentry,
    List.map_id]

variable (pool : Pool (π × List UInt8)) (files : Files) (session : String)

theorem unrecorded_lookup : pool.unrecorded.sessions.lookup session =
    (pool.sessions.lookup session).map Prod.fst :=
  Named.lookup_map Prod.fst session pool.sessions

theorem unrecorded_names : pool.unrecorded.names = pool.names := by
  simp [names, unrecorded, unrecord]

theorem spawn_recorded : spawn host pool.unrecorded files session =
    ((spawn host.recorded pool files session).1.map Prod.fst,
      (spawn host.recorded pool files session).2.unrecorded) := by
  unfold spawn
  have hfind : host.recorded.find = host.find := rfl
  rw [hfind]
  have hcommand : pool.unrecorded.command = pool.command := rfl
  rw [hcommand]
  cases host.find files pool.command with
  | none => rfl
  | some executable =>
      simp only [log, unrecorded]
      cases argumentFault? pool.arguments with
      | some failure => rfl
      | none =>
          simp only [Host.recorded]
          cases host.start files pool.clock executable pool.arguments with
          | error reason => rfl
          | ok p => rfl

theorem process_recorded : process host pool.unrecorded files session =
    ((process host.recorded pool files session).1.map Prod.fst,
      (process host.recorded pool files session).2.unrecorded) := by
  rw [process, unrecorded_lookup, spawn_recorded, process]
  cases pool.sessions.lookup session with
  | some p => rfl
  | none =>
      rcases spawn host.recorded pool files session with ⟨failure | p, after⟩
      · rfl
      · simp only [Option.map_none, Except.map, unrecorded, unrecord, Named.put_map]

theorem send_recorded (text : String) : send host pool.unrecorded files session text =
    ((send host.recorded pool files session text).1,
      (send host.recorded pool files session text).2.unrecorded) := by
  rw [send, process_recorded, send]
  rcases process host.recorded pool files session with ⟨failure | p, after⟩
  · rfl
  · have hrefusal : refusal host.recorded session p = refusal host session p.1 := rfl
    simp only [Except.map, hrefusal]
    cases refusal host session p.1 with
    | some fault => rfl
    | none => simp only [unrecorded, unrecord, Host.recorded, ← Named.put_map]

theorem proceedOne_recorded (moment : Nat) (done : Named (π × List UInt8) × List Change)
    (entry : String × π × List UInt8) :
    proceedOne host files moment (done.map unrecord id) (entry.map id Prod.fst) =
      (proceedOne host.recorded files moment done entry).map unrecord id := by
  simp only [proceedOne, Prod.map, unrecord, List.map_append]
  rfl

theorem proceed_recorded (moment : Nat) : proceed host pool.unrecorded files moment =
    ((proceed host.recorded pool files moment).1.unrecorded,
      (proceed host.recorded pool files moment).2) := by
  have hfold (done : Named (π × List UInt8) × List Change) :
      (unrecord pool.sessions).foldl (proceedOne host files moment) (done.map unrecord id) =
        (pool.sessions.foldl (proceedOne host.recorded files moment) done).map unrecord id := by
    rw [unrecord, List.foldl_map]
    exact List.foldl_hom (Prod.map unrecord id) (proceedOne_recorded host files moment)
  rw [proceed_eq, proceed_eq]
  exact congrArg (fun done => ({ pool.unrecorded with sessions := done.1, clock := moment }, done.2))
    (hfold ([], []))

theorem shut_recorded (clock : Nat) (p : π × List UInt8) :
    shut host.recorded files clock session p = shut host files clock session p.1 := by
  have hinput : host.recorded.hasInput p = host.hasInput p.1 := rfl
  unfold shut
  rw [hinput]
  cases host.hasInput p.1 <;> rfl

theorem close_recorded : close host pool.unrecorded files =
    ((close host.recorded pool files).1.unrecorded, (close host.recorded pool files).2) := by
  unfold close
  simp only [unrecorded, unrecord, List.foldl_map, shut_recorded]
  rfl

section Runs

variable (acts : List Act) (world : World (π × List UInt8))

theorem take_recorded (act : Act) : act.take host world.unrecorded =
    ((act.take host.recorded world).1, (act.take host.recorded world).2.unrecorded) := by
  cases act with
  | send session text =>
      simp only [Act.take, World.unrecorded, send_recorded]
  | close => simp only [Act.take, World.unrecorded, close_recorded]
  | elapse moment => simp only [Act.take, World.unrecorded, proceed_recorded]
  | alter changes => rfl

theorem runActs_recorded :
    runActs host acts world.unrecorded = (runActs host.recorded acts world).unrecorded := by
  apply List.foldl_hom World.unrecorded
  intro world act
  rw [take_recorded]

end Runs

end Pool

end JuliaBlocks
