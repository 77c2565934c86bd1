import JuliaBlocks.Settings.Issue
import JuliaBlocks.Settings.Path
import JuliaBlocks.Number.Decimal
import JuliaBlocks.Text.Utf8
import JuliaBlocks.Value

/-!
How a value is taken as a setting of a given type, and which rule refuses it otherwise. Texts,
and octets as their text, may stand for truth values and numbers; numbers may stand for each
other where nothing is lost. What becomes of foreign values, such as paths and decimals, each type
has to say.
-/

namespace JuliaBlocks.Field

/-- What a reader of one field does. -/
abbrev Reader (α : Type) := Value → Except Rule α

/-- What the types make of foreign values. If nothing is said of them they are refused. -/
structure Objects where
  bool : Foreign → Except Rule Bool := fun _ => .error .boolType
  float : Foreign → Except Rule Binary64 := fun _ => .error .floatType
  int : Foreign → Except Rule Int := fun _ => .error .intType
  text : Foreign → Except Rule String := fun _ => .error .stringType
  path : Foreign → Except Rule String := fun _ => .error .pathType
  items? : Foreign → Option (List Value) := fun _ => none

/-- The text of a text or of octets; octets that are not UTF-8 are refused by `rule`. -/
def textOf? (rule : Rule) : Value → Option (Except Rule String)
  | .text s => some (.ok s)
  | .octets bytes =>
    some (match Text.Utf8.decode? bytes with
      | some s => .ok s
      | none => .error rule)
  | _ => none

/-- Whether an integer fits in 64 bits with a sign. -/
def isWord (n : Int) : Bool :=
  Int64.minValue.toInt ≤ n && n ≤ Int64.maxValue.toInt

/-- The integer that a float is, strictly within 64 bits. -/
def wordOf? (x : Binary64) : Option Int :=
  x.toInt?.filter fun n => Int64.minValue.toInt < n && n ≤ Int64.maxValue.toInt

/-- The texts of the truth values, in lower case. -/
def boolTexts : List (String × Bool) :=
  [("0", false), ("off", false), ("f", false), ("false", false), ("n", false), ("no", false),
    ("1", true), ("on", true), ("t", true), ("true", true), ("y", true), ("yes", true)]

/-- The truth values among integers. -/
def boolOfInt (n : Int) : Except Rule Bool :=
  if n = 0 then .ok false else if n = 1 then .ok true else .error .boolParsing

def bool (objects : Objects) : Reader Bool
  | .bool b => .ok b
  | .foreign object => objects.bool object
  | .int n => if isWord n then boolOfInt n else .error .boolType
  | .float x =>
    match wordOf? x with
    | some n => boolOfInt n
    | none => .error .boolType
  | v =>
    match textOf? .boolParsing v with
    | some (.ok s) =>
      match boolTexts.lookup (Text.lowerAscii s) with
      | some b => .ok b
      | none => .error .boolParsing
    | some (.error r) => .error r
    | none => .error .boolType

/-- A text without underscores, which may stand singly anywhere but at the ends. -/
def dropUnderscores? (s : List Char) : Option (List Char) :=
  let parts := Text.pieces (· == '_') s
  if parts.any List.isEmpty then none else some parts.flatten

/-- Reads a number from a text: white space around it, and underscores if it does not read
without leaving them out. -/
def floatOfText? (s : List Char) : Option Binary64 :=
  let plain (cs : List Char) : Option Binary64 :=
    if cs.any fun c => Text.isSpace c || c == '_' then none else Decimal.read? cs
  plain (Text.stripWhile Text.isSpace s) <|> (dropUnderscores? s).bind plain

def float (objects : Objects) : Reader Binary64
  | .foreign object => objects.float object
  | .bool b => .ok (.ofInt (if b then 1 else 0))
  | .int n =>
    match Binary64.ofInt n with
    | .infinity _ => .error .floatType
    | x => .ok x
  | .float x => .ok x
  | v =>
    match textOf? .floatParsing v with
    | some (.ok s) =>
      match floatOfText? s.toList with
      | some x => .ok x
      | none => .error .floatParsing
    | some (.error r) => .error r
    | none => .error .floatType

/-- The text before a point that zeros follow, at least one and nothing else. -/
def dropZeroPlaces (s : List Char) : List Char :=
  match s.dropWhile (· != '.') with
  | _ :: places =>
    if !places.isEmpty && places.all (· == '0') then s.takeWhile (· != '.') else s
  | [] => s

/-- Reads an integer in plain form: a minus sign or none, and digits, the first of them no zero
but in zero itself. A run of too many digits is refused as such whatever follows it. -/
def plainInt (s : List Char) : Except Rule Int :=
  let (negative, rest) := match s with
    | '-' :: rest => (true, rest)
    | rest => (false, rest)
  let digits := rest.takeWhile Char.isDigit
  let after := rest.dropWhile Char.isDigit
  let n := Numeral.ofDigits (digits.filterMap Numeral.asciiDigit?)
  if digits.isEmpty || digits.head? == some '0' && 1 < digits.length then .error .intParsing
  else if Numeral.digitLimit < digits.length then .error .intParsingSize
  else if after.isEmpty then .ok (if negative then -(n : Int) else n)
  else .error .intParsing

/-- A text without the zeros at its front, and the underscores among them, that a digit or a minus
sign follows; before a point and at the end the last of them stays. -/
def dropLeadingZeros? (s : List Char) : Option (List Char) :=
  let isZero (c : Char) : Bool := c == '0' || c == '_'
  match s with
  | '0' :: _ =>
    let last := (s.takeWhile isZero).getLast?.toList
    match s.dropWhile isZero with
    | [] => some last
    | '.' :: places => some (last ++ '.' :: places)
    | c :: rest => if c.isDigit || c == '-' then some (c :: rest) else none
  | c :: _ => if c.isDigit then some s else none
  | [] => none

/-- A text in plain form if it is an integer at all: without white space around it, a plus sign,
zeros in front of the digits, zeros behind a point and single underscores. -/
def plainForm? (s : List Char) : Option (List Char) := do
  let (negative, s) ← match Text.stripWhile Text.isSpace s with
    | '+' :: '-' :: _ => none
    | '+' :: rest => some (false, rest)
    | '-' :: rest => some (true, rest)
    | s => some (false, s)
  let plain ← dropUnderscores? (dropZeroPlaces (← dropLeadingZeros? s))
  return if negative then '-' :: plain else plain

/-- Reads an integer from a text, as it stands or else from its plain form. Only a text as it
stands is refused for its size. -/
def intOfText (s : List Char) : Except Rule Int :=
  match plainInt s with
  | .error .intParsing =>
    match (plainForm? s).map plainInt with
    | some (.ok n) => .ok n
    | _ => .error .intParsing
  | result => result

def int (objects : Objects) : Reader Int
  | .foreign object => objects.int object
  | .bool b => .ok (if b then 1 else 0)
  | .int n => .ok n
  | .float x =>
    match x.truncate?, x.toInt? with
    | none, _ => .error .finiteNumber
    | _, none => .error .intFromFloat
    | _, _ =>
      match wordOf? x with
      | some n => .ok n
      | none => .error .intParsingSize
  | v =>
    match textOf? .intParsing v with
    | some (.ok s) => intOfText s.toList
    | some (.error r) => .error r
    | none => .error .intType

def text (objects : Objects) : Reader String
  | .foreign object => objects.text object
  | v =>
    match textOf? .stringUnicode v with
    | some r => r
    | none => .error .stringType

/-- Reads a path or nothing. -/
def path (objects : Objects) : Reader (Option String)
  | .null => .ok none
  | .text s => .ok (some (Path.normalize s))
  | .foreign object => (objects.path object).map some
  | _ => .error .pathType

/-- The items of a value that can be a list. -/
def listItems? (objects : Objects) : Value → Option (List Value)
  | .foreign object => objects.items? object
  | .list items => some items
  | .tuple items => some items
  | .set items => some items
  | _ => none

/-- A reading adds a condition of its own. -/
def require {α : Type} (reader : Reader α) (holds : α → Bool) (message : α → String) :
    Reader α := fun v => do
  let a ← reader v
  if holds a then return a else throw (.condition (message a))

end JuliaBlocks.Field
