import JuliaBlocks.Number.Arithmetic
import JuliaBlocks.Shell.Awk.Syntax
import JuliaBlocks.Shell.Awk.Token

/-!
The values of programs. A value is a number or a text and is taken for either as it is needed; a text
from outside that looks like a number is compared as one.
-/

namespace JuliaBlocks.Shell.Awk

/-- Values. -/
inductive Cell
  | unset
  | number (x : Binary64)
  | text (s : List Char)
  /-- A text from outside with the number that it looks like. -/
  | either (s : List Char) (x : Binary64)
deriving Inhabited

def isBlank (c : Char) : Bool :=
  c == ' ' || c == '\t' || c == '\n'

/-- A number at the front after blanks, and what follows it. -/
def takeNumber? (s : List Char) : Option (Binary64 × List Char) :=
  let (negative, body) := Numeral.takeSign (s.dropWhile isBlank)
  match takeDecimal? body with
  | some (coefficient, power, rest) => some (.ofDecimal negative coefficient power, rest)
  | none =>
    let word := (body.takeWhile Char.isAlpha).map Char.toLower
    let rest := body.drop word.length
    match String.ofList word with
    | "inf" | "infinity" => some (.infinity negative, rest)
    | "nan" => some (.nan, rest)
    | _ => none

/-- The number that a text starts with, or zero. -/
def numberOf (s : List Char) : Binary64 :=
  match takeNumber? s with
  | some (x, _) => x
  | none => .zero false

namespace Cell

def ofNat (n : Nat) : Cell :=
  number (.ofInt n)

def ofBool (b : Bool) : Cell :=
  ofNat (if b then 1 else 0)

/-- The value of a text from outside. -/
def ofInput (s : List Char) : Cell :=
  match takeNumber? s with
  | some (x, rest) => if rest.all isBlank then either s x else text s
  | none => text s

def toNumber : Cell → Binary64
  | unset => .zero false
  | number x => x
  | text s => numberOf s
  | either _ x => x

def isTrue : Cell → Bool
  | unset => false
  | number x => !x.isZero
  | text s => !s.isEmpty
  | either _ x => !x.isZero

end Cell

/-- The text of a number that is no integer, or too large for one, by a directive. -/
def realText (d : Format.Directive) (letter : Char) (x : Binary64) : List Char :=
  match x with
  | .nan => d.fill ((if letter.isUpper then "-NAN" else "-nan").toList)
  | x => d.real letter x

/-- The least and the greatest integer that are written as such. -/
def integerBounds : Int × Int := (-9223372036854775808, 18446744073709551615)

/-- A number without its places, within the bounds of integers. -/
def clamped (x : Binary64) : Int :=
  match x.truncate? with
  | some n => max integerBounds.1 (min n integerBounds.2)
  | none => if x = .infinity false then integerBounds.2 else integerBounds.1

/-! ## Formatted text -/

/-- Why text cannot be formatted. -/
inductive FormatFault
  /-- The arguments are too few. -/
  | arguments
  /-- The directive of a number is none. -/
  | directive (number : Nat)

/-- Formatting: what is to be formatted yet, the number of the next directive, and a way to get the
text of a number. -/
structure Formatter where
  arguments : List Cell
  number : Nat := 1
  textOf : Cell → List Char

def Formatter.next (f : Formatter) : Except FormatFault (Cell × Formatter) :=
  match f.arguments with
  | [] => .error .arguments
  | c :: rest => .ok (c, { f with arguments := rest })

/-- Takes a count, which may stand among the arguments. -/
def Formatter.takeCount (f : Formatter) (s : List Char) :
    Except FormatFault (Option Int × List Char × Formatter) := do
  match s with
  | '*' :: rest =>
    let (c, f) ← f.next
    return (some (clamped c.toNumber), rest, f)
  | s =>
    let (n, rest) := Format.takeCount s
    return (n.map Int.ofNat, rest, f)

def Formatter.takeDirective (f : Formatter) (s : List Char) :
    Except FormatFault (Format.Directive × List Char × Formatter) := do
  let isFlag (c : Char) : Bool := "#-+ 0".toList.contains c
  let flags := s.takeWhile isFlag
  let (width, rest, f) ← f.takeCount (s.dropWhile isFlag)
  let width := width.getD 0
  let d : Format.Directive :=
    { flags := if width < 0 then '-' :: flags else flags, width := width.natAbs }
  match rest with
  | '.' :: rest =>
    let (precision, rest, f) ← f.takeCount rest
    let precision := precision.getD 0
    return ({ d with precision := if precision < 0 then none else some precision.toNat }, rest, f)
  | rest => return (d, rest, f)

def Formatter.convert (f : Formatter) (d : Format.Directive) (letter : Char) :
    Except FormatFault (List Char × Formatter) := do
  let natural (base : Nat) (shown : List Char) : Except FormatFault (List Char × Formatter) := do
    let (c, f) ← f.next
    let n := ((clamped c.toNumber).emod 18446744073709551616).toNat
    return (d.integer [] base n shown, f)
  match letter with
  | 'd' | 'i' =>
    let (c, f) ← f.next
    let n := clamped c.toNumber
    return (d.integer (d.sign (n < 0)) 10 n.natAbs [], f)
  | 'o' => natural 8 []
  | 'u' => natural 10 []
  | 'x' => natural 16 ['0', 'x']
  | 'X' =>
    let (s, f) ← natural 16 ['0', 'x']
    return (s.map Char.toUpper, f)
  | 'c' =>
    let (c, f) ← f.next
    match c with
    | .number x => return (d.fill [Char.ofNat ((clamped x).emod 256).toNat], f)
    | c => return (d.fill ((f.textOf c).take 1), f)
  | 's' =>
    let (c, f) ← f.next
    let s := f.textOf c
    return (d.fill (match d.precision with
      | some n => s.take n
      | none => s), f)
  | 'e' | 'E' | 'f' | 'F' | 'g' | 'G' =>
    let (c, f) ← f.next
    return (realText d letter c.toNumber, f)
  | _ => throw (.directive f.number)

/-- The text of values by a format, up to a fault if there is one. -/
def Formatter.format : Nat → Formatter → List Char → List Char × Option FormatFault
  | 0, _, _ => ([], none)
  | _, _, [] => ([], none)
  | fuel + 1, f, '%' :: '%' :: rest =>
    let (s, fault) := f.format fuel rest
    ('%' :: s, fault)
  | fuel + 1, f, '%' :: rest =>
    let step : Except FormatFault (List Char × List Char × Formatter) := do
      let (d, rest, f) ← f.takeDirective rest
      match rest with
      | [] => throw .arguments
      | letter :: rest =>
        let (s, f) ← f.convert d letter
        return (s, rest, { f with number := f.number + 1 })
    match step with
    | .error fault => ([], some fault)
    | .ok (s, rest, f) =>
      let (others, fault) := f.format fuel rest
      (s ++ others, fault)
  | fuel + 1, f, c :: rest =>
    let (s, fault) := f.format fuel rest
    (c :: s, fault)

/-- The text of a number by a format for those that are no integers. -/
def numberText (format : List Char) (x : Binary64) : List Char :=
  let byFormat : List Char :=
    let f : Formatter := { arguments := [.number x], textOf := fun _ => [] }
    (f.format (format.length + 1) format).1
  match x.toInt? with
  | some n =>
    if integerBounds.1 ≤ n ∧ n ≤ integerBounds.2 then (Numeral.render n).toList else byFormat
  | none => byFormat

def Cell.toText (format : List Char) : Cell → List Char
  | unset => []
  | number x => numberText format x
  | text s | either s _ => s

/-- How two values compare. Texts are compared as such unless both look like numbers; not a number
compares with nothing. -/
def Cell.compare? (format : List Char) (a b : Cell) : Option Ordering :=
  let byText : Option Ordering := some (Ord.compare (a.toText format) (b.toText format))
  match a, b with
  | .text _, _ | _, .text _ => byText
  | _, _ => a.toNumber.compare? b.toNumber

end JuliaBlocks.Shell.Awk
