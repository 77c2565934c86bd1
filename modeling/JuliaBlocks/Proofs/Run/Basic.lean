import JuliaBlocks.Run

/-!
What the operations of a run do to its parts: to the files, to the count of side files, to the
bound session and to the history.
-/

namespace JuliaBlocks.Run

variable {σ : Type} (run : Run σ) (sink : Sink σ)

@[simp] theorem note_events (event : Event) : (run.note event).events = run.events.push event := rfl

/-- What a view of the history shows when there is one more event. -/
theorem filterMap_events_push {α : Type} (view : Event → Option α) {run after : Run σ}
    {event : Event} (hevents : after.events = run.events.push event) :
    after.events.toList.filterMap view =
      run.events.toList.filterMap view ++ (view event).toList := by
  rw [hevents, Array.toList_push, List.filterMap_append]
  congr 1

@[simp] theorem log_state (level : Level) (message : String) :
    (run.log level message).state = run.state := rfl

@[simp] theorem log_files (level : Level) (message : String) :
    (run.log level message).files = run.files := rfl

@[simp] theorem log_naming (level : Level) (message : String) :
    (run.log level message).naming = run.naming := rfl

@[simp] theorem log_created (level : Level) (message : String) :
    (run.log level message).created = run.created := rfl

@[simp] theorem log_session (level : Level) (message : String) :
    (run.log level message).session = run.session := rfl

@[simp] theorem log_events (level : Level) (message : String) :
    (run.log level message).events =
      run.events.push (.logged ⟨level, run.session, message⟩) := rfl

/-- A run goes on the same way whether or not the session side fails at an event. -/
theorem meet_eq (event : Event) (reaction : Reaction σ) : run.meet event reaction =
    (match reaction.fault with
      | none => .ok ()
      | some fault => .error fault,
      { run with
        state := reaction.state
        files := run.files.applyAll reaction.changes
        events := run.events.push event }) := by
  simp only [meet, note]
  cases reaction.fault with
  | none => rfl
  | some fault => rfl

section Send

variable (session : String) (message : Message)

/-- A send ends as the session side has it. -/
theorem send_eq : run.send sink session message =
    let reaction := sink.send run.state run.files session message
    (match reaction.fault with
      | none => .ok ()
      | some fault => .error fault,
      { run with
        state := reaction.state
        files := run.files.applyAll reaction.changes
        events := run.events.push (.sent session message) }) :=
  meet_eq run _ _

@[simp] theorem send_state : (run.send sink session message).2.state =
    (sink.send run.state run.files session message).state := by
  rw [send_eq]

@[simp] theorem send_files : (run.send sink session message).2.files =
    run.files.applyAll (sink.send run.state run.files session message).changes := by
  rw [send_eq]

@[simp] theorem send_naming : (run.send sink session message).2.naming = run.naming := by
  rw [send_eq]

@[simp] theorem send_created : (run.send sink session message).2.created = run.created := by
  rw [send_eq]

@[simp] theorem send_session : (run.send sink session message).2.session = run.session := by
  rw [send_eq]

@[simp] theorem send_events : (run.send sink session message).2.events =
    run.events.push (.sent session message) := by
  rw [send_eq]

end Send

section Sleep

variable (interval : Value)

/-- A sleep ends as the session side has it. -/
theorem sleep_eq : run.sleep sink interval =
    let reaction := sink.pause run.state run.files interval
    (match reaction.fault with
      | none => .ok ()
      | some fault => .error fault,
      { run with
        state := reaction.state
        files := run.files.applyAll reaction.changes
        events := run.events.push (.slept interval) }) :=
  meet_eq run _ _

@[simp] theorem sleep_state : (run.sleep sink interval).2.state =
    (sink.pause run.state run.files interval).state := by
  rw [sleep_eq]

@[simp] theorem sleep_files : (run.sleep sink interval).2.files =
    run.files.applyAll (sink.pause run.state run.files interval).changes := by
  rw [sleep_eq]

@[simp] theorem sleep_naming : (run.sleep sink interval).2.naming = run.naming := by
  rw [sleep_eq]

@[simp] theorem sleep_created : (run.sleep sink interval).2.created = run.created := by
  rw [sleep_eq]

@[simp] theorem sleep_session : (run.sleep sink interval).2.session = run.session := by
  rw [sleep_eq]

@[simp] theorem sleep_events :
    (run.sleep sink interval).2.events = run.events.push (.slept interval) := by
  rw [sleep_eq]

end Sleep

end JuliaBlocks.Run
