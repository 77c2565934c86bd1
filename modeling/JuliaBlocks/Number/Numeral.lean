import JuliaBlocks.Text.Digit
import JuliaBlocks.Text.Line

/-!
Integers as decimal text. Neither direction handles more than `digitLimit` digits: an integer
that long has no text, and a numeral that long, leading zeros included, is not read.
-/

namespace JuliaBlocks.Numeral

/-- The most digits an integer may have as text. -/
def digitLimit : Nat := 4300

/-- The text of an integer of any size: no plus sign, no leading zeros. -/
def render (n : Int) : String :=
  let digits := String.ofList (Nat.toDigits 10 n.natAbs)
  if n < 0 then "-" ++ digits else digits

/-- The text of an integer, unless it has too many digits. -/
def render? (n : Int) : Option String :=
  if (Nat.toDigits 10 n.natAbs).length ≤ digitLimit then some (render n) else none

inductive Reading
  | integer (n : Int)
  | malformed
  | tooLong (digits : Nat)
deriving Repr, DecidableEq

/-- The number that digit values denote. -/
def ofDigits (digits : List Nat) : Nat :=
  digits.foldl (fun n d => n * 10 + d) 0

/-- Splits off a sign; no sign counts as plus. The flag tells whether it is minus. -/
def takeSign : List Char → Bool × List Char
  | '-' :: rest => (true, rest)
  | '+' :: rest => (false, rest)
  | s => (false, s)

def asciiDigit? (c : Char) : Option Nat :=
  if c.isDigit then some (c.toNat - 48) else none

/-- Digits, with at most one underscore between two of them. -/
def groupedDigits? (digit? : Char → Option Nat) : List Char → Option (List Nat)
  | [] => none
  | [c] => (digit? c).map ([·])
  | c :: '_' :: rest => do
    let d ← digit? c
    return d :: (← groupedDigits? digit? rest)
  | c :: rest => do
    let d ← digit? c
    return d :: (← groupedDigits? digit? rest)

/-- An integer from a sign and digit values, if there are not too many of them. -/
def ofSignedDigits (negative : Bool) (digits : List Nat) : Reading :=
  if digits.length ≤ digitLimit then
    .integer (if negative then -(ofDigits digits : Int) else ofDigits digits)
  else .tooLong digits.length

/-- Reads a numeral in digits of any script, with white space around it, an optional sign and
single underscores between digits. -/
def read (s : List Char) : Reading :=
  let (negative, digits) := takeSign (Text.stripWhile Text.isSpace s)
  match groupedDigits? Text.digitValue? digits with
  | some ds => ofSignedDigits negative ds
  | none => .malformed

/-- The ASCII reading of octets, the form in which numbers stand in binary values; octets beyond
ASCII belong to no numeral. -/
def readOctets (octets : List UInt8) : Reading :=
  if octets.all (· < 0x80) then
    read (octets.map fun b => Char.ofNat b.toNat)
  else .malformed

/-- Reads a plain integer: an optional sign and ASCII digits, before at most one final line
feed. -/
def readPlain? (s : List Char) : Option Reading :=
  let (negative, digits) := takeSign (Text.dropFinalNewline s)
  if digits.isEmpty then none
  else (digits.mapM asciiDigit?).map (ofSignedDigits negative)

end JuliaBlocks.Numeral
