import JuliaBlocks.Run

/-!
A session side that only keeps what it is sent.
-/

namespace JuliaBlocks

/-- What was sent, each text with its session, from the first to the latest. -/
structure Recording where
  sent : List (String × String) := []
deriving DecidableEq

namespace Recording

/-- Keeps one more text. -/
def add (recording : Recording) (session text : String) : Recording :=
  { recording with sent := recording.sent ++ [(session, text)] }

/-- The texts sent to one session. -/
def texts (recording : Recording) (session : String) : List String :=
  (recording.sent.filter (·.1 == session)).map (·.2)

/-- The recording as the session side of a run: it refuses nothing and touches no file. -/
def sink : Sink Recording where
  send recording _ session message := { state := recording.add session message.text }
  pause recording _ _ := { state := recording }

end Recording

end JuliaBlocks
