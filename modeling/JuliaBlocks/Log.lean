import JuliaBlocks.Failure
import JuliaBlocks.Text.Upper

/-!
Logging: levels, the handlers that records go to, the profile that was configured, and the
session that records are marked with while an evaluation is under way.
-/

namespace JuliaBlocks

inductive Level
  | trace
  | debug
  | info
  | success
  | warning
  | error
  | critical
deriving DecidableEq, Repr

namespace Level

def name : Level → String
  | trace => "TRACE"
  | debug => "DEBUG"
  | info => "INFO"
  | success => "SUCCESS"
  | warning => "WARNING"
  | error => "ERROR"
  | critical => "CRITICAL"

/-- The rank of a level; a handler takes records of its own rank and above. -/
def rank : Level → Nat
  | trace => 5
  | debug => 10
  | info => 20
  | success => 25
  | warning => 30
  | error => 40
  | critical => 50

def all : List Level := [trace, debug, info, success, warning, error, critical]

/-- The level of a name, in just this spelling. -/
def ofName? (s : String) : Option Level :=
  all.find? (·.name == s)

/-- The level of a name, or the failure that there is none. -/
def ofName (s : String) : Except Failure Level :=
  match ofName? s with
  | some level => .ok level
  | none => .error (.unknownLevel s)

end Level

/-- A log record: its level, the session that was bound, and its message. -/
structure Record where
  level : Level
  session : String
  message : String
deriving DecidableEq

namespace Log

/-- The mark of records outside every session. -/
def noSession : String := "-"

/-- How records are laid out: with time, level, place and session, or as bare messages for the
terminal. -/
inductive Profile
  | standard
  | cli
deriving DecidableEq, Repr

def Profile.name : Profile → String
  | standard => "default"
  | cli => "cli"

def Profile.ofName? : String → Option Profile
  | "default" => some standard
  | "cli" => some cli
  | _ => none

/-- A place that records of a level and above go to, in the form of a profile. -/
structure Handler where
  profile : Profile
  threshold : Level
deriving DecidableEq

/-- A binding that can be undone once: the session bound before, and whether it was undone. -/
structure Binding where
  previous : String
  spent : Bool
deriving DecidableEq

/-- The state of logging, with no handlers at the start. Bindings are numbered from zero in the order
they were made. -/
structure Logging where
  handlers : List Handler := []
  configured : Option Profile := none
  session : String := noSession
  bindings : List Binding := []
deriving DecidableEq

namespace Logging

/-- Puts one handler of a profile in place of all others. The profile that is configured already
is left as it is. Otherwise the old handlers are gone before the level is looked up, so a level
that does not exist leaves none. -/
def configure (log : Logging) (profile level : String) : Except Failure Unit × Logging :=
  if log.configured.map Profile.name = some profile then (.ok (), log)
  else
    let cleared := { log with handlers := [] }
    match Profile.ofName? profile with
    | none => (.error (.unknownProfile profile), cleared)
    | some p =>
      match Level.ofName (Text.upper level) with
      | .error f => (.error f, cleared)
      | .ok threshold =>
        (.ok (), { cleared with handlers := [⟨p, threshold⟩], configured := some p })

/-- Marks the records to come with a session. -/
def bind (log : Logging) (name : String) : Logging :=
  { log with session := name, bindings := log.bindings ++ [⟨log.session, false⟩] }

/-- Undoes a binding: what was bound before it is bound again. Each can be undone once. -/
def unbind (log : Logging) (token : Nat) : Except Failure Unit × Logging :=
  match log.bindings[token]? with
  | some ⟨previous, false⟩ =>
    (.ok (), { log with session := previous, bindings := log.bindings.set token ⟨previous, true⟩ })
  | _ => (.error .spentToken, log)

/-- The lines that a record is written as, one for each handler that takes its level. Without
handlers the level is not looked up. -/
def write (log : Logging) (level message : String) : Except Failure (List Record) :=
  if log.handlers.isEmpty then .ok []
  else do
    let level ← Level.ofName level
    return (log.handlers.filter (·.threshold.rank ≤ level.rank)).map fun _ =>
      ⟨level, log.session, message⟩

/-- The name of a level, blanks added up to six characters. -/
def paddedName (level : Level) : String :=
  level.name ++ String.ofList (List.replicate (6 - level.name.length) ' ')

end Logging

end Log

end JuliaBlocks
