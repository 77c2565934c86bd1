import JuliaBlocks.Number.Decimal
import JuliaBlocks.Text.Wide

/-!
JSON text, for settings that are lists of texts. Only what such a list can be told from is kept.
Every reader takes fuel that the length of the text bounds.
-/

namespace JuliaBlocks

/-- What a JSON text denotes: nothing, a string, an array, or something else. -/
inductive Json
  | null
  | text (s : WideText)
  | list (items : List Json)
  | other
deriving Inhabited

namespace Json

/-- The white space between the parts of a JSON text. -/
def isSpace (c : Char) : Bool :=
  c == ' ' || c == '\t' || c == '\n' || c == '\r'

/-- What follows white space. -/
def skip (s : List Char) : List Char :=
  s.dropWhile isSpace

def hexValue? (c : Char) : Option Nat :=
  if c.isDigit then some (c.toNat - 48)
  else if 'a' ≤ c ∧ c ≤ 'f' then some (c.toNat - 87)
  else if 'A' ≤ c ∧ c ≤ 'F' then some (c.toNat - 55)
  else none

/-- The code unit that four hexadecimal digits give. -/
def hexUnit? (s : List Char) : Option (Nat × List Char) :=
  match s with
  | a :: b :: c :: d :: rest => do
    let digits ← [a, b, c, d].mapM hexValue?
    return (digits.foldl (fun n d => n * 16 + d) 0, rest)
  | _ => none

/-- The character that a letter stands for after a backslash. -/
def escape? : Char → Option Char
  | '"' => some '"'
  | '\\' => some '\\'
  | '/' => some '/'
  | 'b' => some '\x08'
  | 'f' => some '\x0c'
  | 'n' => some '\n'
  | 'r' => some '\r'
  | 't' => some '\t'
  | _ => none

/-- Joins a surrogate pair at the front. -/
def joinPair : List Nat → List Nat
  | high :: low :: rest =>
    if WideText.isHighHalf high && WideText.isLowHalf low then
      (0x10000 + (high - 0xD800) * 0x400 + (low - 0xDC00)) :: rest
    else high :: low :: rest
  | units => units

/-- Reads the inside of a string up to its closing quote, as code points; a pair of escaped
surrogates gives one. -/
def readCodes : Nat → List Char → Option (List Nat × List Char)
  | 0, _ => none
  | _, [] => none
  | _ + 1, '"' :: rest => some ([], rest)
  | fuel + 1, '\\' :: 'u' :: rest => do
    let (unit, rest) ← hexUnit? rest
    let (codes, after) ← readCodes fuel rest
    return (joinPair (unit :: codes), after)
  | fuel + 1, '\\' :: c :: rest => do
    let e ← escape? c
    let (codes, after) ← readCodes fuel rest
    return (e.toNat :: codes, after)
  | fuel + 1, c :: rest => do
    if c.toNat < 0x20 ∨ c = '\\' then none
    else
      let (codes, after) ← readCodes fuel rest
      return (c.toNat :: codes, after)

/-- The integer part of a number: one zero, or digits that do not start with zero. -/
def takeWhole? (s : List Char) : Option (List Nat × List Char) :=
  match s with
  | '0' :: rest => some ([0], rest)
  | s =>
    match Decimal.takeDigits s with
    | ([], _) => none
    | r => some r

/-- The places after a point, if a digit follows it. -/
def takePlaces (s : List Char) : Option (List Nat) × List Char :=
  match s with
  | '.' :: rest =>
    match Decimal.takeDigits rest with
    | ([], _) => (none, s)
    | (digits, after) => (some digits, after)
  | s => (none, s)

/-- The exponent of a number, if it has a digit. -/
def takeExponent (s : List Char) : Option Int × List Char :=
  match s with
  | c :: _ =>
    if c = 'e' ∨ c = 'E' then
      match Decimal.takeExponent? s with
      | some (e, after) => (some e, after)
      | none => (none, s)
    else (none, s)
  | [] => (none, s)

/-- Goes over a number. An integer, which has neither places nor an exponent, must not have too
many digits. -/
def skipNumber? (s : List Char) : Option (List Char) := do
  let s := match s with
    | '-' :: rest => rest
    | s => s
  let (whole, rest) ← takeWhole? s
  let (places, rest) := takePlaces rest
  let (exponent, rest) := takeExponent rest
  if places.isNone && exponent.isNone && Numeral.digitLimit < whole.length then none
  else some rest

/-- The words that stand for values of their own. -/
def words : List (String × Json) :=
  [("null", .null), ("true", .other), ("false", .other), ("NaN", .other), ("Infinity", .other),
    ("-Infinity", .other)]

def readWord? (s : List Char) : Option (Json × List Char) :=
  (words.find? fun w => w.1.toList.isPrefixOf s).map fun w => (w.2, s.drop w.1.length)

mutual

/-- Reads one value from the front of a text. -/
def readValue : Nat → List Char → Option (Json × List Char)
  | 0, _ => none
  | fuel + 1, s =>
    match s with
    | '"' :: rest => do
      let (codes, after) ← readCodes (rest.length + 1) rest
      return (.text codes, after)
    | '[' :: rest =>
      match skip rest with
      | ']' :: after => some (.list [], after)
      | rest => do
        let (items, after) ← readItems fuel rest
        return (.list items, after)
    | '\x7b' :: rest =>
      match skip rest with
      | '\x7d' :: after => some (.other, after)
      | rest => do return (.other, ← skipMembers? fuel rest)
    | s =>
      match readWord? s with
      | some r => some r
      | none => do return (.other, ← skipNumber? s)

/-- Reads the items of an array that has some, through its closing bracket. -/
def readItems : Nat → List Char → Option (List Json × List Char)
  | 0, _ => none
  | fuel + 1, s => do
    let (item, rest) ← readValue fuel s
    match skip rest with
    | ']' :: after => return ([item], after)
    | ',' :: rest =>
      let (items, after) ← readItems fuel (skip rest)
      return (item :: items, after)
    | _ => none

/-- Goes over the members of an object that has some, through its closing brace. -/
def skipMembers? : Nat → List Char → Option (List Char)
  | 0, _ => none
  | fuel + 1, s =>
    match s with
    | '"' :: rest => do
      let (_, rest) ← readCodes (rest.length + 1) rest
      match skip rest with
      | ':' :: rest =>
        let (_, rest) ← readValue fuel (skip rest)
        match skip rest with
        | '\x7d' :: after => return after
        | ',' :: rest => skipMembers? fuel (skip rest)
        | _ => none
      | _ => none
    | _ => none

end

/-- What a whole text denotes. -/
def read? (s : String) : Option Json := do
  let cs := s.toList
  let (v, rest) ← readValue (2 * cs.length + 2) (skip cs)
  if (skip rest).isEmpty then some v else none

end Json

end JuliaBlocks
