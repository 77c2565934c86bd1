import JuliaBlocks.Log
import JuliaBlocks.Naming
import JuliaBlocks.Output
import JuliaBlocks.Request

/-!
A run: the state that evaluations share with the sessions, and the history of what can be seen
of it. The session side is any state machine that takes messages and the passing of time; it may
change any file at either, and either may fail.
-/

namespace JuliaBlocks

/-- What is sent to a session: the commented trace of an evaluation, the line that starts one,
or source to be run as it is. -/
inductive Message
  | trace (text : String)
  | trampoline (files : SideFiles) (text : String)
  | source (text : String)

def Message.text : Message → String
  | trace text => text
  | trampoline _ text => text
  | source text => text

/-- What the session side does at a message or during a wait: changes to files, and a failure if the
message is refused or the wait is none. -/
structure Reaction (σ : Type) where
  state : σ
  changes : List Change := []
  fault : Option Failure := none

/-- The session side, with states `σ`. -/
structure Sink (σ : Type) where
  /-- Takes a message for a session. -/
  send : σ → Files → (session : String) → Message → Reaction σ
  /-- Goes on for as long as a wait for an interval lasts. -/
  pause : σ → Files → (interval : Value) → Reaction σ

/-- What can be seen of a run. -/
inductive Event
  | created (files : SideFiles)
  | sent (session : String) (message : Message)
  | slept (interval : Value)
  | logged (record : Record)
  | observed (request : Request) (result : String)

/-- The state of a run, with its events from the first to the latest. -/
structure Run (σ : Type) where
  state : σ
  files : Files
  /-- How side files are named. -/
  naming : Naming := .numbered
  /-- How many pairs of side files were created. -/
  created : Nat := 0
  /-- The session that log records are marked with. -/
  session : String := Log.noSession
  events : Array Event := #[]

namespace Run

variable {σ : Type}

def note (run : Run σ) (event : Event) : Run σ :=
  { run with events := run.events.push event }

/-- Logs a record marked with the bound session. -/
def log (run : Run σ) (level : Level) (message : String) : Run σ :=
  run.note (.logged ⟨level, run.session, message⟩)

/-- Goes on with what the session side does at an event. Its changes happen even if it fails. -/
def meet (run : Run σ) (event : Event) (reaction : Reaction σ) : Except Failure Unit × Run σ :=
  let run := { run with
    state := reaction.state, files := run.files.applyAll reaction.changes }
  let run := run.note event
  match reaction.fault with
  | none => (.ok (), run)
  | some fault => (.error fault, run)

/-- Sends a message. -/
def send (run : Run σ) (sink : Sink σ) (session : String) (message : Message) :
    Except Failure Unit × Run σ :=
  run.meet (.sent session message) (sink.send run.state run.files session message)

def sleep (run : Run σ) (sink : Sink σ) (interval : Value) : Except Failure Unit × Run σ :=
  run.meet (.slept interval) (sink.pause run.state run.files interval)

/-- Waits until a file has content, looking before each of `attempts` intervals and once after
the last. The flag tells whether it has. An interval that cannot be waited for ends the wait. -/
def awaitOutput (sink : Sink σ) (path : String) (interval : Value) :
    Nat → Run σ → Except Failure Bool × Run σ
  | 0, run => (.ok (Output.arrived (run.files.read? path)), run)
  | attempts + 1, run =>
    if Output.arrived (run.files.read? path) then (.ok true, run)
    else match run.sleep sink interval with
      | (.error failure, run) => (.error failure, run)
      | (.ok (), run) => awaitOutput sink path interval attempts run

end Run

end JuliaBlocks
