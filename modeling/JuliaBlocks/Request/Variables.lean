import JuliaBlocks.Failure
import JuliaBlocks.Number.Decimal

/-!
Variables as header arguments give them: a map of names to values, a collection of pairs, or
texts of the form `name=value`.
-/

namespace JuliaBlocks

/-- The text between matching single or double quotes, if it stands between such. -/
def unquote? (s : List Char) : Option (List Char) :=
  match s with
  | first :: second :: rest =>
    if (first = '"' ∨ first = '\'') ∧ (second :: rest).getLast? = some first then
      some (second :: rest).dropLast
    else none
  | _ => none

/-- The value that a written text stands for: what is between quotes is text, what has the form
of a number is that number, anything else is itself. -/
def Value.ofWritten (s : String) : Except Failure Value :=
  match unquote? s.toList with
  | some inside => .ok (.text (String.ofList inside))
  | none =>
    match Numeral.readPlain? s.toList with
    | some (.integer n) => .ok (.int n)
    | some (.tooLong digits) => .error (.overlongNumeral digits)
    | _ =>
      match Decimal.readPlain? s.toList with
      | some x => .ok (.float x)
      | none => .ok (.text s)

/-- A variable in the form `name=value`, blanks around both parts dropped; a text without an
equals sign gives none. -/
def readBinding (s : String) : Except Failure (Option (String × Value)) :=
  let cs := s.toList
  match cs.dropWhile (· != '=') with
  | [] => .ok none
  | _ :: written => do
    let name := Text.trim (String.ofList (cs.takeWhile (· != '=')))
    let value ← Value.ofWritten (Text.trim (String.ofList written))
    return some (name, value)

/-- The variable that one item gives: a binding in text, or a collection of just two values, of
which the first names the second. Any other item gives none. -/
def readVariable (item : Value) : Except Failure (Option (String × Value)) :=
  match item with
  | .text s => readBinding s
  | item =>
    match item.items? with
    | some [name, value] => do return some (← name.display, value)
    | _ => .ok none

def readItems : List Value → Except Failure (List (String × Value))
  | [] => .ok []
  | item :: rest => do
    match ← readVariable item with
    | some binding => return binding :: (← readItems rest)
    | none => readItems rest

/-- Named values with the texts of the keys as names. -/
def readEntries : List (Value × Value) → Except Failure (List (String × Value))
  | [] => .ok []
  | (name, value) :: rest => do
    let name ← name.display
    return (name, value) :: (← readEntries rest)

/-- The variables that a header argument gives. Only a value that is no collection is refused;
items that give no variable are passed over. -/
def readVariables : Value → Except Failure (List (String × Value))
  | .null => .ok []
  | .map entries => readEntries entries
  | .text s => readItems [.text s]
  | v =>
    match v.items? with
    | some items => readItems items
    | none => .error (.notCollection v.kindName)

end JuliaBlocks
