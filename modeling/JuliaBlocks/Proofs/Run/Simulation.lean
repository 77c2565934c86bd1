import JuliaBlocks.Proofs.Run.Deliver

/-!
A run depends on the session side by what that does, not by how it keeps its state. Two session
sides that act alike, with one's states mapped to the other's, give runs that differ in these states
only.
-/

namespace JuliaBlocks

variable {σ τ : Type}

/-- What a session side does, with the state that it is left in replaced by its image. -/
def Reaction.mapState (f : σ → τ) (reaction : Reaction σ) : Reaction τ where
  state := f reaction.state
  changes := reaction.changes
  fault := reaction.fault

/-- A session side that acts like another one, states of which are mapped to its own. -/
structure Sink.Simulates (f : σ → τ) (sink : Sink σ) (image : Sink τ) : Prop where
  send : ∀ state files session message,
    image.send (f state) files session message =
      (sink.send state files session message).mapState f
  pause : ∀ state files interval,
    image.pause (f state) files interval = (sink.pause state files interval).mapState f

namespace Run

/-- A run with the session side's state replaced by its image. -/
def mapState (f : σ → τ) (run : Run σ) : Run τ where
  state := f run.state
  files := run.files
  naming := run.naming
  created := run.created
  session := run.session
  events := run.events

variable {f : σ → τ} {sink : Sink σ} {image : Sink τ}

theorem meet_mapState (f : σ → τ) (run : Run σ) (event : Event) (reaction : Reaction σ) :
    (run.mapState f).meet event (reaction.mapState f) =
      Prod.map id (mapState f) (run.meet event reaction) := by
  rw [meet_eq, meet_eq]
  rfl

theorem send_mapState (hsim : sink.Simulates f image) (run : Run σ) (session : String)
    (message : Message) :
    (run.mapState f).send image session message =
      Prod.map id (mapState f) (run.send sink session message) := by
  rw [send, send, ← meet_mapState, ← hsim.send]
  rfl

theorem sleep_mapState (hsim : sink.Simulates f image) (run : Run σ) (interval : Value) :
    (run.mapState f).sleep image interval =
      Prod.map id (mapState f) (run.sleep sink interval) := by
  rw [sleep, sleep, ← meet_mapState, ← hsim.pause]
  rfl

theorem awaitOutput_mapState (hsim : sink.Simulates f image) (path : String) (interval : Value)
    (attempts : Nat) (run : Run σ) :
    awaitOutput image path interval attempts (run.mapState f) =
      Prod.map id (mapState f) (awaitOutput sink path interval attempts run) := by
  induction attempts generalizing run with
  | zero => rfl
  | succ attempts ih =>
      rw [awaitOutput, awaitOutput]
      by_cases harrived : Output.arrived (run.files.read? path) = true
      · rw [if_pos harrived, if_pos (by exact harrived)]
        rfl
      · rw [if_neg harrived, if_neg (by exact harrived), sleep_mapState hsim]
        rcases run.sleep sink interval with ⟨_ | _, after⟩
        · rfl
        · exact ih after

theorem deliver_mapState (hsim : sink.Simulates f image) (session : String)
    (messages : List Message) (run : Run σ) :
    deliver image session messages (run.mapState f) =
      Prod.map id (mapState f) (deliver sink session messages run) := by
  induction messages generalizing run with
  | nil => rfl
  | cons message messages ih =>
      rw [deliver, deliver, send_mapState hsim]
      rcases run.send sink session message with ⟨_ | _, after⟩
      · rfl
      · exact ih after

end Run

end JuliaBlocks
