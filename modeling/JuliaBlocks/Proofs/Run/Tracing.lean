import JuliaBlocks.Proofs.Run.Wait

/-!
Two runs beside each other, one of which sends a trace before each trampoline. A session side that
overlooks traces brings them to the same files.
-/

namespace JuliaBlocks

variable {σ : Type}

/-- A session side that accepts traces and does nothing about them. It may keep them, in a state
that is alike to the state without them: what it does about anything else is the same in both. -/
structure Sink.Overlooks (sink : Sink σ) (alike : σ → σ → Prop) : Prop where
  trace : ∀ state other files session text, alike state other →
    let reaction := sink.send state files session (.trace text)
    reaction.changes = [] ∧ reaction.fault = none ∧ alike reaction.state other
  send : ∀ state other files session message, (∀ text, message ≠ .trace text) →
    alike state other →
    let reaction := sink.send state files session message
    let usual := sink.send other files session message
    reaction.changes = usual.changes ∧ reaction.fault = usual.fault ∧
      alike reaction.state usual.state
  pause : ∀ state other files interval, alike state other →
    let reaction := sink.pause state files interval
    let usual := sink.pause other files interval
    reaction.changes = usual.changes ∧ reaction.fault = usual.fault ∧
      alike reaction.state usual.state

/-- An event as it is when debugging: a trampoline is sent just behind a trace. -/
def Event.traced (text : String) : Event → List Event
  | sent session (.trampoline files line) =>
    [sent session (.trace text), sent session (.trampoline files line)]
  | event => [event]

namespace Run

variable {sink : Sink σ} {alike : σ → σ → Prop} {text : String} {first second : List Event}
  {run twin : Run σ}

/-- Runs that differ in their histories, and in what the session side has kept of them. -/
structure Twins (alike : σ → σ → Prop) (run twin : Run σ) : Prop where
  state : alike run.state twin.state
  files : run.files = twin.files
  naming : run.naming = twin.naming
  created : run.created = twin.created
  session : run.session = twin.session

/-- Runs that have done the same since their histories were `first` and `second`, but for a trace
before each trampoline of the one. -/
structure Beside (alike : σ → σ → Prop) (text : String) (first second : List Event)
    (run twin : Run σ) : Prop extends Twins alike run twin where
  history : ∃ added, run.events.toList = first ++ added.flatMap (Event.traced text) ∧
    twin.events.toList = second ++ added

/-- Outcomes that are the same, with runs beside each other. -/
def Agree {α : Type} (alike : σ → σ → Prop) (text : String) (first second : List Event)
    (sent usual : α × Run σ) : Prop :=
  ∃ outcome after usualAfter, sent = (outcome, after) ∧ usual = (outcome, usualAfter) ∧
    Beside alike text first second after usualAfter

theorem Agree.of_eq {α : Type} {sent usual : α × Run σ} (houtcome : sent.1 = usual.1)
    (hbeside : Beside alike text first second sent.2 usual.2) :
    Agree alike text first second sent usual :=
  ⟨sent.1, sent.2, usual.2, rfl, Prod.ext houtcome.symm rfl, hbeside⟩

/-- What has been done since both runs set out differs by the traces. -/
theorem Agree.traced {α : Type} {start twinStart : Run σ} {sent usual : α × Run σ}
    (hagree : Agree alike text start.events.toList twinStart.events.toList sent usual) :
    sent.1 = usual.1 ∧ Twins alike sent.2 usual.2 ∧
      sent.2.events.toList.drop start.events.size =
        (usual.2.events.toList.drop twinStart.events.size).flatMap (Event.traced text) := by
  obtain ⟨outcome, after, usualAfter, rfl, rfl, hbeside⟩ := hagree
  obtain ⟨added, hadded, husual⟩ := hbeside.history
  refine ⟨rfl, hbeside.toTwins, ?_⟩
  rw [hadded, husual, ← Array.length_toList, ← Array.length_toList, List.drop_left, List.drop_left]

theorem Twins.beside (htwins : Twins alike run twin) (text : String) :
    Beside alike text run.events.toList twin.events.toList run twin where
  toTwins := htwins
  history := ⟨[], by simp, by simp⟩

/-- What is not a trace is taken or refused alike. -/
theorem Twins.send (htwins : Twins alike run twin) (hsink : sink.Overlooks alike)
    (session : String) (message : Message) (hmessage : ∀ text, message ≠ .trace text) :
    (run.send sink session message).1 = (twin.send sink session message).1 ∧
      Twins alike (run.send sink session message).2 (twin.send sink session message).2 := by
  obtain ⟨hchanges, hfault, hstate⟩ :=
    hsink.send run.state twin.state twin.files session message hmessage htwins.state
  refine ⟨?_, ?_, ?_, ?_, ?_, ?_⟩
  · rw [send_eq, send_eq, htwins.files]
    simp only [hfault]
  · rw [send_state, send_state, htwins.files]
    exact hstate
  · rw [send_files, send_files, htwins.files, hchanges]
  · rw [send_naming, send_naming, htwins.naming]
  · rw [send_created, send_created, htwins.created]
  · rw [send_session, send_session, htwins.session]

namespace Beside

/-- Runs stay beside each other when something is done in both of them. -/
theorem push (hbeside : Beside alike text first second run twin) {next nextTwin : Run σ}
    {event : Event} (htwins : Twins alike next nextTwin)
    (hnext : next.events.toList = run.events.toList ++ event.traced text)
    (hnextTwin : nextTwin.events = twin.events.push event) :
    Beside alike text first second next nextTwin where
  toTwins := htwins
  history := by
    obtain ⟨added, hadded, haddedTwin⟩ := hbeside.history
    refine ⟨added ++ [event], ?_, ?_⟩
    · rw [hnext, hadded, List.flatMap_append, List.flatMap_singleton, List.append_assoc]
    · rw [hnextTwin, Array.toList_push, haddedTwin, List.append_assoc]

theorem bound (hbeside : Beside alike text first second run twin) (session : String) :
    Beside alike text first second { run with session } { twin with session } where
  state := hbeside.state
  files := hbeside.files
  naming := hbeside.naming
  created := hbeside.created
  session := rfl
  history := hbeside.history

theorem note (hbeside : Beside alike text first second run twin) {event : Event}
    (hevent : event.traced text = [event]) :
    Beside alike text first second (run.note event) (twin.note event) := by
  refine hbeside.push ?_ ?_ (note_events twin event)
  · exact ⟨hbeside.state, hbeside.files, hbeside.naming, hbeside.created, hbeside.session⟩
  · rw [note_events, Array.toList_push, hevent]

theorem log (hbeside : Beside alike text first second run twin) (level : Level)
    (message : String) :
    Beside alike text first second (run.log level message) (twin.log level message) := by
  rw [Run.log, hbeside.session]
  exact hbeside.note rfl

theorem sleep (hbeside : Beside alike text first second run twin)
    (hsink : sink.Overlooks alike) (interval : Value) :
    Agree alike text first second (run.sleep sink interval) (twin.sleep sink interval) := by
  obtain ⟨hchanges, hfault, hstate⟩ :=
    hsink.pause run.state twin.state twin.files interval hbeside.state
  refine .of_eq ?_ (hbeside.push ⟨?_, ?_, ?_, ?_, ?_⟩ ?_ (sleep_events twin sink interval))
  · rw [sleep_eq, sleep_eq, hbeside.files]
    simp only [hfault]
  · rw [sleep_state, sleep_state, hbeside.files]
    exact hstate
  · rw [sleep_files, sleep_files, hbeside.files, hchanges]
  · rw [sleep_naming, sleep_naming, hbeside.naming]
  · rw [sleep_created, sleep_created, hbeside.created]
  · rw [sleep_session, sleep_session, hbeside.session]
  · rw [sleep_events, Array.toList_push]
    rfl

/-- Waiting for an output ends at the same look in both runs. -/
theorem awaitOutput (hbeside : Beside alike text first second run twin)
    (hsink : sink.Overlooks alike) (path : String) (interval : Value) (attempts : Nat) :
    Agree alike text first second (awaitOutput sink path interval attempts run)
      (awaitOutput sink path interval attempts twin) := by
  induction attempts generalizing run twin with
  | zero =>
      rw [Run.awaitOutput, Run.awaitOutput, hbeside.files]
      exact ⟨_, run, twin, rfl, rfl, hbeside⟩
  | succ attempts ih =>
      rw [Run.awaitOutput, Run.awaitOutput, hbeside.files]
      by_cases harrived : Output.arrived (twin.files.read? path) = true
      · rw [if_pos harrived, if_pos harrived]
        exact ⟨.ok true, run, twin, rfl, rfl, hbeside⟩
      · rw [if_neg harrived, if_neg harrived]
        obtain ⟨slept, after, usualAfter, hslept, husual, hafter⟩ := hbeside.sleep hsink interval
        rw [hslept, husual]
        cases slept with
        | error failure => exact ⟨_, _, _, rfl, rfl, hafter⟩
        | ok _ => exact ih hafter

/-- Source is sent the same way in both runs. -/
theorem sendSource (hbeside : Beside alike text first second run twin)
    (hsink : sink.Overlooks alike) (session source : String) :
    Agree alike text first second (run.send sink session (.source source))
      (twin.send sink session (.source source)) := by
  obtain ⟨houtcome, htwins⟩ := hbeside.toTwins.send hsink session (.source source) nofun
  refine .of_eq houtcome (hbeside.push htwins ?_
    (send_events twin sink session (.source source)))
  rw [send_events, Array.toList_push]
  rfl

/-- A trace is accepted, and the trampoline behind it meets with the same as one without it. -/
theorem sendTraced (hbeside : Beside alike text first second run twin)
    (hsink : sink.Overlooks alike) (session : String) (files : SideFiles) (line : String) :
    ∃ traced, run.send sink session (.trace text) = (.ok (), traced) ∧
      Agree alike text first second (traced.send sink session (.trampoline files line))
        (twin.send sink session (.trampoline files line)) := by
  obtain ⟨hchanges, hfault, hstate⟩ :=
    hsink.trace run.state twin.state run.files session text hbeside.state
  let traced := (run.send sink session (.trace text)).2
  have haccepted : run.send sink session (.trace text) = (.ok (), traced) := by
    refine Prod.ext ?_ rfl
    simp only [send_eq, hfault]
  -- The trace has changed no file, and the session side is in a state that is alike.
  have htraced : Twins alike traced twin := by
    refine ⟨?_, ?_, ?_, ?_, ?_⟩
    · rw [send_state]
      exact hstate
    · rw [send_files, hchanges]
      exact hbeside.files
    · rw [send_naming, hbeside.naming]
    · rw [send_created, hbeside.created]
    · rw [send_session, hbeside.session]
  obtain ⟨houtcome, htwins⟩ := htraced.send hsink session (.trampoline files line) nofun
  refine ⟨traced, haccepted, .of_eq houtcome (hbeside.push htwins ?_
    (send_events twin sink session (.trampoline files line)))⟩
  rw [send_events, Array.toList_push, send_events, Array.toList_push, List.append_assoc]
  rfl

end Beside

end Run

end JuliaBlocks
