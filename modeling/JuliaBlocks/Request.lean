import JuliaBlocks.Request.Variables
import JuliaBlocks.Text.Order

/-!
Requests to evaluate one source block, and how they are built from the block's header arguments.
Header arguments that are not recognised, and most that are malformed, count as absent.
-/

namespace JuliaBlocks

/-- What an evaluation reports to the document: the value of the block, or what it prints. A
request may carry anything else as its kind; that is refused when the block is wrapped. -/
inductive ResultKind
  | value
  | output
  | other (given : Value)
deriving Inhabited

namespace ResultKind

/-- The kind of a name, in just this spelling. -/
def ofName? : String → Option ResultKind
  | "value" => some value
  | "output" => some output
  | _ => none

def ofValue : Value → ResultKind
  | .text s => (ofName? s).getD (.other (.text s))
  | v => .other v

def toValue : ResultKind → Value
  | value => .text "value"
  | output => .text "output"
  | other given => given

def display (kind : ResultKind) : Except Failure String :=
  kind.toValue.display

/-- Refuses what is neither of the two kinds. -/
def refusal {α : Type} (given : Value) : Except Failure α := do
  throw (.unknownKind (← given.quoted))

end ResultKind

/-- A request to evaluate one source block. A part that is null is absent. Header arguments give
texts and integers for the parts; a request made otherwise may carry any value, and what cannot
be used is refused when it is needed. -/
structure Request where
  body : String
  resultKind : ResultKind := .value
  sessionKey : Value := .null
  prologue : Value := .null
  epilogue : Value := .null
  width : Value := .int 600
  height : Value := .int 400
  /-- The result parameters in increasing order, each once. -/
  resultParams : List String := []
  graphicsFile : Value := .null
  bindings : List (String × Value) := []
  params : Named Value := []
deriving Inhabited

namespace Request

def wantsGraphics (r : Request) : Bool :=
  r.resultParams.contains "graphics"

end Request

namespace Header

/-- The header argument of a name, absent ones being null. -/
def get (params : Named Value) (name : String) : Value :=
  (params.lookup name).getD .null

/-- The result kind a header argument names, blanks and case aside; values are reported unless
output is asked for. -/
def resultKind (v : Value) : ResultKind :=
  match v.display? with
  | some s => (ResultKind.ofName? (Text.lowerAscii (Text.trim s))).getD .value
  | none => .value

/-- The session key of a header argument: its text, or null. -/
def sessionKey : Value → Except Failure Value
  | .null => .ok .null
  | v => return .text (← v.display)

/-- The text of a header argument that is not blank, or null. -/
def optionalText : Value → Except Failure Value
  | .null => .ok .null
  | v => do
    let s ← v.display
    return if Text.isBlankText s then .null else .text s

/-- The integer of a reading; one that fails gives none. -/
def readingInt? : Numeral.Reading → Option Int
  | .integer n => some n
  | _ => none

/-- The integer that a value stands for. A float is cut towards zero; an infinite one is the one
value that is refused. -/
def toInt? : Value → Except Failure (Option Int)
  | .bool b => .ok (some (if b then 1 else 0))
  | .int n => .ok (some n)
  | .float (.infinity _) => .error .infiniteDimension
  | .float x => .ok x.truncate?
  | .text s => .ok (readingInt? (Numeral.read s.toList))
  | .octets bytes => .ok (readingInt? (Numeral.readOctets bytes))
  | _ => .ok none

/-- A dimension of plots: a positive integer, or else the usual one. -/
def dimension (usual : Int) (v : Value) : Except Failure Int := do
  match ← toInt? v with
  | some n => return if 0 < n then n else usual
  | none => return usual

/-- The result parameters: the words of a text, or the texts of a collection. -/
def resultParams : Value → Except Failure (List String)
  | .null => .ok []
  | .text s => .ok (Text.sortDistinct (Text.words s))
  | v =>
    match v.items? with
    | some items => do return Text.sortDistinct (← items.mapM Value.display)
    | none => .error (.notCollection v.kindName)

end Header

/-- The request for a body under header arguments. The arguments are looked at in a fixed order,
and the first failure ends it. -/
def Request.ofHeader (body : String) (params : Named Value) : Except Failure Request := do
  let get := Header.get params
  let resultKind := Header.resultKind (get "result-type")
  let sessionKey ← Header.sessionKey (get "session")
  let prologue ← Header.optionalText (get "prologue")
  let epilogue ← Header.optionalText (get "epilogue")
  let width ← Header.dimension 600 (get "width")
  let height ← Header.dimension 400 (get "height")
  let resultParams ← Header.resultParams (get "result-params")
  let graphicsFile ← Header.optionalText (get "file")
  let bindings ← readVariables (get "var")
  return {
    body, resultKind, sessionKey, prologue, epilogue, width := .int width, height := .int height,
    resultParams, graphicsFile, bindings, params }

end JuliaBlocks
