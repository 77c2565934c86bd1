import JuliaBlocks.Run

/-!
Scripted sessions: a sink that answers each trampoline with the next of the replies it was
given. It stands in for a session where none can be started.
-/

namespace JuliaBlocks

/-- An answer to a trampoline: nothing, output at once or after some intervals of waiting, the
removal of the output file, or a refusal of the message. -/
inductive Reply
  | silence
  | output (content : List UInt8) (after : Nat)
  | removal (after : Nat)
  | refusal (failure : Failure)

/-- The state of a scripted session side: the replies left, the changes still to come with the
number of intervals until then, and the source files as they stood when they were to be run. -/
structure Script where
  replies : List Reply := []
  pending : List (Nat × Change) := []
  sources : List String := []

namespace Script

/-- Makes a change at once, or puts it off. -/
def schedule (script : Script) (change : Change) : Nat → Reaction Script
  | 0 => { state := script, changes := [change] }
  | after + 1 => { state := { script with pending := [(after + 1, change)] } }

/-- Answers a trampoline by the next reply. What an earlier reply had still to do is dropped. -/
def answer (script : Script) (files : Files) (side : SideFiles) : Reaction Script :=
  let source := ((files.read? side.source).map fun c => String.ofList (Text.Utf8.decode c)).getD ""
  let next := { script with
    replies := script.replies.drop 1, pending := [], sources := script.sources ++ [source] }
  match script.replies.head? with
  | none => { state := next }
  | some .silence => { state := next }
  | some (.output content after) => next.schedule (.write side.output content) after
  | some (.removal after) => next.schedule (.remove side.output) after
  | some (.refusal failure) => { state := next, fault := some failure }

/-- The sink of scripted sessions. Only trampolines are answered. -/
def sink : Sink Script where
  send script files _ message :=
    match message with
    | .trampoline side _ => script.answer files side
    | _ => { state := script }
  pause script _ _ :=
    let due := script.pending.filter (·.1 ≤ 1)
    let later := (script.pending.filter (1 < ·.1)).map fun p => (p.1 - 1, p.2)
    { state := { script with pending := later }, changes := due.map (·.2) }

end Script

end JuliaBlocks
