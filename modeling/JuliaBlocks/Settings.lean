import JuliaBlocks.Failure
import JuliaBlocks.Session
import JuliaBlocks.Settings.Dotenv
import JuliaBlocks.Settings.Field
import JuliaBlocks.Settings.Json

/-!
Settings and where they come from. A value given directly prevails over one of the environment,
that over one of an environment file, and that over the default.
-/

namespace JuliaBlocks

structure Settings where
  debug : Bool
  pollInterval : Binary64
  pollAttempts : Int
  maxLineLength : Int
  tempDir : Option String
  defaultSession : String
  juliaCommand : String
  juliaArgs : List WideText
  logLevel : String
deriving DecidableEq

namespace Settings

/-- A tenth, as near as it can be. -/
def tenth : Binary64 := .ofDecimal false 1 (-1)

/-- The settings when nothing is given. -/
def usual : Settings where
  debug := false
  pollInterval := tenth
  pollAttempts := 100
  maxLineLength := 12000
  tempDir := none
  defaultSession := SessionRef.usualDefault
  juliaCommand := "julia"
  juliaArgs := ["--quiet", "--interactive"].map WideText.ofString
  logLevel := "INFO"

instance : Inhabited Settings := ⟨usual⟩

/-- Where settings come from: values given directly, with what becomes of objects among them, the
environment, and the text of an environment file, with its reader. -/
structure Sources where
  overrides : List (String × Value) := []
  objects : Field.Objects := {}
  environment : List (String × String) := []
  dotenv : Option String := none
  readDotenv : Named String → String → Named (Option String) := Dotenv.read

def lowerNames {α : Type} (bindings : List (String × α)) : List (String × α) :=
  bindings.map fun e => (Text.lowerAscii e.1, e.2)

/-- Bindings under names in lower case, later ones prevailing. -/
def foldCase {α : Type} (bindings : List (String × α)) : Named α :=
  Named.ofList (lowerNames bindings)

/-- The name of a field in the environment, in lower case. -/
def environmentName (field : String) : String := "babel_julia_" ++ field

/-- The fields that are given as plain texts. -/
def textFields : List String :=
  ["debug", "poll_interval", "poll_attempts", "max_line_length", "temp_dir", "default_session",
    "julia_command", "log_level"]

/-- The one field whose text is JSON. -/
def listField : String := "julia_args"

/-- What a source gives: values by field, and the list apart. -/
structure Given where
  values : Named Value := []
  list : Option Json := none

/-- What a source with texts gives. The text of a list must be JSON, and the JSON value `null`
counts as no list. -/
def ofTexts (source : String) (bindings : Named (Option String)) : Except Failure Given := do
  let text? (field : String) : Option String :=
    (bindings.lookup (environmentName field)).join
  let values := textFields.filterMap fun field => (text? field).map fun s => (field, Value.text s)
  match text? listField with
  | none => return { values }
  | some s =>
    match Json.read? s with
    | none => throw (.unreadableSetting listField source)
    | some .null => return { values }
    | some j => return { values, list := some j }

/-- What prevails for each field. Of overrides whose names differ in case only, the one given first
counts. -/
def gather (sources : Sources) : Except Failure Given := do
  let environment := Named.ofList sources.environment
  let fromEnvironment ← ofTexts "EnvSettingsSource"
    (foldCase (environment.map fun e => (e.1, some e.2)))
  let fromFile ← match sources.dotenv with
    | some s => ofTexts "DotEnvSettingsSource" (foldCase (sources.readDotenv environment s))
    | none => pure {}
  return {
    -- The first value under a name counts, so the sources stand in the order of their rank.
    values := lowerNames (Named.ofList sources.overrides) ++ fromEnvironment.values ++
      fromFile.values
    list := fromEnvironment.list <|> fromFile.list }

/-- The value for a field, or the default; a refusal is noted with the field's name. -/
def take {α : Type} (values : Named Value) (field : String) (reader : Field.Reader α)
    (default : α) : Except (List Issue) α :=
  match values.lookup field with
  | none => .ok default
  | some v => (reader v).mapError fun rule => [⟨field, rule⟩]

def jsonItem : Json → Except Rule WideText
  | .text s => .ok s
  | _ => .error .stringType

/-- Reads the list of texts; each item that is none is noted with its index. -/
def takeList (objects : Field.Objects) (given : Given) : Except (List Issue) (List WideText) :=
  let items : Option (List (Except Rule WideText)) :=
    match given.values.lookup listField, given.list with
    | some v, _ => (Field.listItems? objects v).map
        (·.map fun v => WideText.ofString <$> Field.text objects v)
    | none, some (.list items) => some (items.map jsonItem)
    | none, some _ => none
    | none, none => some (usual.juliaArgs.map .ok)
  match items with
  | none => .error [⟨listField, .listType⟩]
  | some items =>
    let issues := items.zipIdx.filterMap fun
      | (.error rule, i) => some (⟨listField ++ "." ++ Numeral.render i, rule⟩ : Issue)
      | (.ok _, _) => none
    if issues.isEmpty then .ok (items.filterMap Except.toOption) else .error issues

def issues {α : Type} : Except (List Issue) α → List Issue
  | .ok _ => []
  | .error found => found

/-- Reads the interval between two looks at an output file. -/
def interval (objects : Field.Objects) : Field.Reader Binary64 :=
  Field.require (Field.float objects) (!·.isNonpositive) fun _ => "poll_interval must be positive"

/-- Reads a number of things of which there is at least one. -/
def count (objects : Field.Objects) : Field.Reader Int :=
  Field.require (Field.int objects) (1 ≤ ·) fun _ => "must be at least 1"

/-- Reads the name of a persistent session, blanks around it dropped. -/
def sessionName (objects : Field.Objects) : Field.Reader String :=
  Field.require (fun v => Text.trim <$> Field.text objects v)
    (fun s => s != "" && s != SessionRef.ephemeralKey)
    fun s => "default_session must name a persistent session, got " ++ Text.quoted s

/-- The settings that are given, or all refusals in the order of the fields. -/
def ofGiven (objects : Field.Objects) (given : Given) : Except Failure Settings :=
  let values := given.values
  let debug := take values "debug" (Field.bool objects) usual.debug
  let pollInterval := take values "poll_interval" (interval objects) usual.pollInterval
  let pollAttempts := take values "poll_attempts" (count objects) usual.pollAttempts
  let maxLineLength := take values "max_line_length" (count objects) usual.maxLineLength
  let tempDir := take values "temp_dir" (Field.path objects) usual.tempDir
  let defaultSession := take values "default_session" (sessionName objects) usual.defaultSession
  let juliaCommand := take values "julia_command" (Field.text objects) usual.juliaCommand
  let juliaArgs := takeList objects given
  let logLevel := take values "log_level" (Field.text objects) usual.logLevel
  -- All fields have been read by now, so that every refusal is reported.
  let read : Except (List Issue) Settings := do
    return {
      debug := ← debug, pollInterval := ← pollInterval, pollAttempts := ← pollAttempts,
      maxLineLength := ← maxLineLength, tempDir := ← tempDir, defaultSession := ← defaultSession,
      juliaCommand := ← juliaCommand, juliaArgs := ← juliaArgs, logLevel := ← logLevel }
  read.mapError fun _ => .configuration
    (issues debug ++ issues pollInterval ++ issues pollAttempts ++ issues maxLineLength ++
      issues tempDir ++ issues defaultSession ++ issues juliaCommand ++ issues juliaArgs ++
      issues logLevel)

/-- The settings that sources give. -/
def load (sources : Sources) : Except Failure Settings := do
  ofGiven sources.objects (← gather sources)

end Settings

end JuliaBlocks
