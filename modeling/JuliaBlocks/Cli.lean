import JuliaBlocks.Cli.Command
import JuliaBlocks.Framework
import JuliaBlocks.Text.Control

/-!
The commands at work: what each prints and how it ends. Failures that are the user's own are
reported by the commands on blocks; any other failure escapes.
-/

namespace JuliaBlocks.Cli

/-- What surrounds a command: the environment, the environment file, the standard input, the files,
and how side files among them are named. -/
structure Surroundings where
  environment : List (String × String) := []
  dotenv : Option String := none
  input : String := ""
  files : Files := {}
  naming : Naming := .numbered

/-- Where an evaluation can take place: the plugins that are advertised, what is left of those that
are refused, the sinks of the channels, the state of all these at the start, how a channel is closed,
and how that fails if it does. -/
structure Venue (σ : Type) where
  sinks : Channel → Sink σ
  initial : Settings → σ
  shut : Channel → Run σ → Run σ
  advertised : List (EntryPoint σ) := []
  leaving : Leaving := .nothing
  closingFault : Channel → Run σ → Option Failure := fun _ _ => none

/-- How a command ends. When the channel of an evaluation cannot be closed, the failure to do so
escapes, whatever the evaluation has come to. -/
inductive Outcome
  | printed (text : String)
  | misused (misuse : Misuse)
  | reported (failure : Failure)
  | escaped (failure : Failure)
  | unclosed (before : Outcome) (failure : Failure)

namespace Outcome

def exitCode : Outcome → Nat
  | printed _ => 0
  | misused (.help _) => 0
  | misused .malformed => 2
  | reported _ => 1
  | escaped _ => 1
  | unclosed _ _ => 1

/-- A text as it is written to what is no terminal. -/
def plain (text : String) : String :=
  String.ofList (Text.dropControls text.toList)

def usage : Option Verb → String
  | some verb => verb.usage ++ "\n"
  | none => String.join (Verb.all.map fun verb => verb.usage ++ "\n")

def standardOutput : Outcome → String
  | printed text => plain text
  | misused (.help verb) => usage verb
  | unclosed before _ => before.standardOutput
  | _ => ""

def errorLine (failure : Failure) : String :=
  plain ("error: " ++ failure.message ++ "\n")

def standardError : Outcome → String
  | misused .malformed => usage none
  | reported failure | escaped failure => errorLine failure
  | unclosed before failure => before.standardError ++ errorLine failure
  | _ => ""

/-- The outcome of a command that reports failures of the user's own. -/
def ofBlock : Except Failure String → Outcome
  | .ok text => printed text
  | .error failure => if failure.isReported then reported failure else escaped failure

/-- The outcome of a command that reports nothing. -/
def ofListing : Except Failure String → Outcome
  | .ok text => printed text
  | .error failure => escaped failure

end Outcome

namespace Surroundings

def settings (surroundings : Surroundings) (overrides : List (String × Value) := []) :
    Except Failure Settings :=
  Settings.load
    { overrides, environment := surroundings.environment, dotenv := surroundings.dotenv }

/-- The request for a block. Line ends of the standard input are read as line feeds. -/
def request (surroundings : Surroundings) (block : Block) : Except Failure Request :=
  block.request (String.ofList (Text.universalNewlines surroundings.input.toList))

def expand (surroundings : Surroundings) (block : Block) : Except Failure String := do
  let request ← surroundings.request block
  return (← Snippet.expand request) ++ "\n"

/-- The wrapped snippet of a block, in the form its session asks for. -/
def wrap (surroundings : Surroundings) (block : Block) : Except Failure String := do
  let request ← surroundings.request block
  let settings ← surroundings.settings
  let ref ← Transport.requested settings request
  let snippet ← Snippet.expand request
  return (← Template.wrap snippet request.resultKind ref.persistent) ++ "\n"

variable {σ : Type}

/-- A framework with the advertised plugins. -/
def framework (surroundings : Surroundings) (venue : Venue σ) (settings : Settings) :
    Framework σ :=
  let framework : Framework σ := {
    settings
    registry := { leaving := venue.leaving }
    run := {
      state := venue.initial settings
      files := surroundings.files
      naming := surroundings.naming } }
  (framework.loadPlugins venue.advertised).2

/-- Gets ready to evaluate: the settings, and logging by them. -/
def prepare (surroundings : Surroundings) (debug : Bool) : Except Failure Settings := do
  let settings ← surroundings.settings (if debug then [("debug", .bool true)] else [])
  (({} : Log.Logging).configure Log.Profile.cli.name settings.logLevel).1
  return settings

/-- Evaluates a block. The framework, if it came to one, is returned as well. -/
def evaluate (surroundings : Surroundings) (venue : Venue σ) (block : Block) (debug : Bool) :
    Except Failure String × Option (Framework σ) :=
  match surroundings.prepare debug with
  | .error failure => (.error failure, none)
  | .ok settings =>
    -- The framework comes before the request, and is closed even if that is refused.
    let framework := surroundings.framework venue settings
    match surroundings.request block with
    | .error failure => (.error failure, some framework)
    | .ok request => (framework.evaluate venue.sinks request).map id some

def hookLine (entry : String × List String) : String :=
  entry.1 ++ ": " ++ String.intercalate ", " entry.2 ++ "\n"

def hooks (surroundings : Surroundings) (venue : Venue σ) : Except Failure String := do
  let settings ← surroundings.settings
  match (surroundings.framework venue settings).registry.report with
  | [] => return "(no hook implementations)\n"
  | report => return String.join (report.map hookLine)

end Surroundings

/-- Ends an evaluation: the framework, if it came to one, is closed however the evaluation has
ended, and is returned for its history. -/
def conclude {σ : Type} (venue : Venue σ) (outcome : Outcome) (framework : Option (Framework σ)) :
    Outcome × Option (Framework σ) :=
  let closed := framework.map (·.close venue.shut)
  match framework.bind (·.closingFault? venue.closingFault) with
  | none => (outcome, closed)
  | some failure => (.unclosed outcome failure, closed)

def run {σ : Type} (surroundings : Surroundings) (venue : Venue σ) :
    Command → Outcome × Option (Framework σ)
  | .expand block => (.ofBlock (surroundings.expand block), none)
  | .wrap block => (.ofBlock (surroundings.wrap block), none)
  | .evaluate block debug =>
    let (result, framework) := surroundings.evaluate venue block debug
    conclude venue (.ofBlock result) framework
  | .hooks => (.ofListing (surroundings.hooks venue), none)

def runLine {σ : Type} (surroundings : Surroundings) (venue : Venue σ) (line : List String) :
    Outcome × Option (Framework σ) :=
  match Command.read line with
  | .error misuse => (.misused misuse, none)
  | .ok command => run surroundings venue command

end JuliaBlocks.Cli
