import JuliaBlocks.Failure
import JuliaBlocks.Julia.Identifier
import JuliaBlocks.Julia.Quote

/-!
Values as Julia source, and the assignments that bind them to variables. A table, that is a
sequence of equally long rows of plain cells, is written as a matrix.
-/

namespace JuliaBlocks

/-- The cells of a row: of a list or a tuple that is not empty. -/
def Value.row? : Value → Option (List Value)
  | .list (c :: cells) => some (c :: cells)
  | .tuple (c :: cells) => some (c :: cells)
  | _ => none

/-- Whether a value may stand in a cell of a table. -/
def Value.isCell : Value → Bool
  | .list _ => false
  | .tuple _ => false
  | .map _ => false
  | _ => true

/-- Whether items are the rows of a table: at least one, all rows of one length and of cells. -/
def Value.isTable (items : List Value) : Bool :=
  match items.mapM Value.row? with
  | some (first :: others) =>
    others.all (·.length == first.length) && (first :: others).all (·.all Value.isCell)
  | _ => false

namespace Julia

def floatLiteral : Binary64 → String
  | .nan => "NaN"
  | .infinity negative => if negative then "-Inf" else "Inf"
  | x => x.render

mutual

/-- The literal of a value; there is none when an integer in it has too many digits. Sets and
foreign values are written as the string they display as. -/
def literal? : Value → Option String
  | .null => some "nothing"
  | .bool b => some (if b then "true" else "false")
  | .int n => Numeral.render? n
  | .float x => some (floatLiteral x)
  | .text s => some (quote s)
  | .map entries => do
    return "Dict(" ++ String.intercalate ", " (← literalEntries? entries) ++ ")"
  | .list items => do
    if Value.isTable items then
      return "[" ++ String.intercalate "; " (← literalRows? items) ++ "]"
    else return "[" ++ String.intercalate ", " (← literalItems? items) ++ "]"
  | .tuple items => do
    if Value.isTable items then
      return "[" ++ String.intercalate "; " (← literalRows? items) ++ "]"
    else return "[" ++ String.intercalate ", " (← literalItems? items) ++ "]"
  | .octets bytes =>
    some ("[" ++ String.intercalate ", " (bytes.map fun b => Numeral.render b.toNat) ++ "]")
  | .set items => (Value.set items).display?.map quote
  | .foreign object => some (quote object.shown)

/-- The literals of several values. -/
def literalItems? : List Value → Option (List String)
  | [] => some []
  | v :: rest => do
    let written ← literal? v
    return written :: (← literalItems? rest)

/-- The rows of a matrix, their cells side by side. -/
def literalRows? : List Value → Option (List String)
  | [] => some []
  | .list cells :: rest => do
    let written ← literalItems? cells
    return String.intercalate " " written :: (← literalRows? rest)
  | .tuple cells :: rest => do
    let written ← literalItems? cells
    return String.intercalate " " written :: (← literalRows? rest)
  | _ :: _ => none

def literalEntries? : List (Value × Value) → Option (List String)
  | [] => some []
  | (k, v) :: rest => do
    let key ← literal? k
    let value ← literal? v
    return (key ++ " => " ++ value) :: (← literalEntries? rest)

end

/-- One of the texts that a string literal is made of: a single special character is escaped, and
a longer text is taken as it is. -/
def escapeItem (s : String) : String :=
  match s.toList with
  | [c] => String.ofList (escapeChar c)
  | _ => s

/-- The string literal of a value that yields texts one by one, such as a text its characters. -/
def quoteValue : Value → Except Failure String
  | .text s => .ok (quote s)
  | v =>
    match v.items? with
    | none => .error (.notCollection v.kindName)
    | some items =>
      match Value.unfitKeys? items with
      | some kind => .error (.unfitKey kind)
      | none => do return "\"" ++ String.join ((← Value.texts items).map escapeItem) ++ "\""

/-- The literal of a value; without one this fails. -/
def literal (v : Value) : Except Failure String :=
  match literal? v with
  | some s => .ok s
  | none => .error .unprintableInteger

/-- The assignment of a value to a variable. The name is looked at first. -/
def assignment (name : String) (value : Value) : Except Failure String := do
  if isIdentifier name then return name ++ " = " ++ (← literal value)
  else throw (.invalidVariable name)

/-- One assignment for each variable, up to the first that fails. -/
def assignments (bindings : List (String × Value)) : Except Failure (List String) :=
  bindings.mapM fun (name, value) => assignment name value

end Julia

end JuliaBlocks
