import JuliaBlocks.Number.Decimal
import JuliaBlocks.Number.Places
import JuliaBlocks.Shell.Arithmetic

/-!
Formatted text: the escapes of `echo`, and the formats of `printf`.
-/

namespace JuliaBlocks.Shell.Format

def isOctal (c : Char) : Bool := '0' ≤ c && c ≤ '7'

def octet (digits : List Char) : Char :=
  Char.ofNat (digits.foldl (fun n d => n * 8 + (d.toNat - 48)) 0 % 256)

/-- The character that a letter after a backslash stands for. -/
def named? (c : Char) : Option Char :=
  match c with
  | '\\' => some '\\'
  | 'a' => some '\x07'
  | 'b' => some '\x08'
  | 'e' => some '\x1b'
  | 'f' => some '\x0c'
  | 'n' => some '\n'
  | 'r' => some '\r'
  | 't' => some '\t'
  | 'v' => some '\x0b'
  | _ => none

/-- The character that an escape after a backslash stands for, and what follows it; an unknown
escape is a backslash alone. -/
def takeEscape (s : List Char) : Char × List Char :=
  match s with
  | [] => ('\\', [])
  | c :: rest =>
    if isOctal c then
      let digits := (s.take 3).takeWhile isOctal
      (octet digits, s.drop digits.length)
    else match named? c with
      | some d => (d, rest)
      | none => ('\\', s)

/-- A text with its escapes replaced; the flag tells that all output ends with it. -/
def unescape : Nat → List Char → List Char × Bool
  | 0, _ => ([], false)
  | _, [] => ([], false)
  | fuel + 1, '\\' :: rest =>
    match rest with
    | 'c' :: _ => ([], true)
    | _ =>
      let digits := match rest with
        | '0' :: d :: _ => if isOctal d then rest.drop 1 else rest
        | rest => rest
      let (c, after) := takeEscape digits
      let (text, ends) := unescape fuel after
      (c :: text, ends)
  | fuel + 1, c :: rest =>
    let (text, ends) := unescape fuel rest
    (c :: text, ends)

/-- A directive: its flags, its width and its precision. -/
structure Directive where
  flags : List Char := []
  width : Nat := 0
  precision : Option Nat := none

def Directive.has (d : Directive) (flag : Char) : Bool :=
  d.flags.contains flag

def Directive.fill (d : Directive) (s : List Char) : List Char :=
  let blanks := List.replicate (d.width - s.length) ' '
  if d.has '-' then s ++ blanks else blanks ++ s

/-- Fills a field with a number: its sign and its digits, between which zeros may stand. -/
def Directive.fillNumber (d : Directive) (zeros : Bool) (sign digits : List Char) : List Char :=
  if zeros && d.has '0' && !d.has '-' then
    sign ++ List.replicate (d.width - sign.length - digits.length) '0' ++ digits
  else d.fill (sign ++ digits)

/-- The sign of a number that may be negative. -/
def Directive.sign (d : Directive) (negative : Bool) : List Char :=
  if negative then ['-'] else if d.has '+' then ['+'] else if d.has ' ' then [' '] else []

/-- The text of an integer in a base, with its prefix if that is asked for. -/
def Directive.integer (d : Directive) (sign : List Char) (base n : Nat) (before : List Char) :
    List Char :=
  let digits := if n = 0 ∧ d.precision = some 0 then [] else Nat.toDigits base n
  let digits := List.replicate (d.precision.getD 0 - digits.length) '0' ++ digits
  let digits :=
    if base = 8 ∧ d.has '#' ∧ digits.head? ≠ some '0' then '0' :: digits else digits
  let sign := if d.has '#' ∧ n ≠ 0 then sign ++ before else sign
  d.fillNumber d.precision.isNone sign digits

/-- The digits of a number in base sixteen, of which one stands before the point, and its exponent
to base two. -/
def powerText (places : Option Nat) (point : Bool) (significand : Nat) (exponent : Int) :
    List Char :=
  let exponent : Int := if significand = 0 then 0
    else if significand < Nat.pow 2 52 then -1022 else exponent + 52
  let kept := min 13 (places.getD 13)
  let unit := Nat.pow 16 kept
  let rounded := Binary64.roundDiv significand (Nat.pow 16 (13 - kept))
  let digits := Nat.toDigits 16 (rounded % unit)
  let digits := if kept = 0 then [] else List.replicate (kept - digits.length) '0' ++ digits
  let digits := match places with
    | some places => digits ++ List.replicate (places - kept) '0'
    | none => digits.reverse.dropWhile (· == '0') |>.reverse
  Nat.toDigits 16 (rounded / unit) ++
    (if digits.isEmpty then (if point then ['.'] else []) else '.' :: digits) ++
    'p' :: (if exponent < 0 then '-' else '+') :: Nat.toDigits 10 exponent.natAbs

/-- The text of a floating-point number by the letter of its conversion; what is no number may have a
minus sign too. -/
def Directive.real (d : Directive) (letter : Char) (x : Binary64) (minus : Bool := false) :
    List Char :=
  let capital := letter.isUpper
  let cased (s : List Char) : List Char := if capital then s.map Char.toUpper else s
  match x with
  | .nan => d.fill (cased (d.sign minus ++ "nan".toList))
  | .infinity negative => d.fill (cased (d.sign negative ++ "inf".toList))
  | .finite negative significand exponent _ =>
    let value := Binary64.fraction significand exponent
    let places := d.precision.getD 6
    let sign := d.sign negative
    match letter.toLower with
    | 'f' => d.fillNumber true sign (cased (Binary64.fixedText places (d.has '#') value))
    | 'e' => d.fillNumber true sign (cased (Binary64.scientificText places (d.has '#') value))
    | 'a' =>
      d.fillNumber true (sign ++ cased ['0', 'x'])
        (cased (powerText d.precision (d.has '#') significand exponent))
    | _ => d.fillNumber true sign (cased (Binary64.generalText places (d.has '#') value))

/-- What formatting comes to so far: the text, what is wrong with arguments, the arguments left,
whether all output is over, and what is wrong with the format. -/
structure Outcome where
  text : List Char := []
  warnings : List (List Char) := []
  arguments : List (List Char)
  closed : Bool := false
  fault : Option (List Char) := none

def Outcome.add (o : Outcome) (text : List Char) : Outcome :=
  { o with text := o.text ++ text }

/-- Takes the next argument; one that is missing is empty. -/
def Outcome.next (o : Outcome) : List Char × Outcome :=
  (o.arguments.headD [], { o with arguments := o.arguments.drop 1 })

/-- Notes what is wrong with a number. -/
def Outcome.check (o : Outcome) (argument rest : List Char) (inRange : Bool) : Outcome :=
  let problem (message : String) : Outcome :=
    { o with warnings := o.warnings ++ [argument ++ ": ".toList ++ message.toList] }
  if !rest.isEmpty then
    if rest.length = argument.length then problem "expected numeric value"
    else problem "not completely converted"
  else if inRange then o
  else problem "Numerical result out of range"

/-- The number that a quoted character stands for: its octet. -/
def quotedOctet? (argument : List Char) : Option Nat :=
  match argument with
  | '\'' :: rest | '"' :: rest => some ((rest.headD '\x00').toNat)
  | _ => none

def Outcome.nextInteger (o : Outcome) : Int × Outcome :=
  let (argument, o) := o.next
  match quotedOctet? argument with
  | some n => (n, o)
  | none =>
    let r := Integer.readWith Integer.takeUnsigned argument
    (r.value, o.check argument r.rest r.inRange)

/-- Takes an argument as an integer without a sign; a negative one wraps around. -/
def Outcome.nextNatural (o : Outcome) : Nat × Outcome :=
  let (argument, o) := o.next
  match quotedOctet? argument with
  | some n => (n, o)
  | none =>
    let (negative, body) := Numeral.takeSign (argument.dropWhile Integer.isWhite)
    let (size, rest) := Integer.takeUnsigned body
    let rest := if rest.length = body.length then argument else rest
    if 18446744073709551615 < size then
      (18446744073709551615, o.check argument rest false)
    else
      let n : Int := if negative then -(size : Int) else size
      ((n.emod 18446744073709551616).toNat, o.check argument rest true)

/-- A number at the front of a text: whether it has a minus sign, its value, what follows, and whether
it is in the range of the exact ones. -/
structure RealRead where
  negative : Bool
  value : Binary64
  rest : List Char
  inRange : Bool := true

def hexDigit? (c : Char) : Option Nat :=
  if c.isDigit then some (c.toNat - 48)
  else if 'a' ≤ c.toLower && c.toLower ≤ 'f' then some (c.toLower.toNat - 87)
  else none

/-- The digits at the front, around a point and before an exponent that a letter marks, as a
coefficient and an exponent that counts the digits after the point; and what follows. -/
def takeDigits (digit? : Char → Option Nat) (base : Nat) (mark : Char) (perDigit : Nat)
    (s : List Char) : Option (Nat × Int × List Char) :=
  let isDigit (c : Char) : Bool := (digit? c).isSome
  let whole := s.takeWhile isDigit
  let (places, after) := match s.dropWhile isDigit with
    | '.' :: rest => (rest.takeWhile isDigit, rest.dropWhile isDigit)
    | rest => ([], rest)
  let digits := (whole ++ places).filterMap digit?
  let coefficient := digits.foldl (fun n d => n * base + d) 0
  let shift : Int := -((places.length * perDigit : Nat) : Int)
  if digits.isEmpty then none
  else match after with
    | c :: rest =>
      let (negative, rest) := Numeral.takeSign rest
      let power := rest.takeWhile Char.isDigit
      if c.toLower = mark ∧ power ≠ [] then
        let n := min 100000 (Numeral.ofDigits (power.filterMap Numeral.asciiDigit?))
        some (coefficient, (if negative then -(n : Int) else n) + shift, rest.drop power.length)
      else some (coefficient, shift, after)
    | [] => some (coefficient, shift, after)

/-- The number that is a coefficient times a power of a base; it is out of range if it has become
infinite, or less exact than numbers of the usual size. -/
def scaled (negative : Bool) (base coefficient : Nat) (exponent : Int) (rest : List Char) :
    RealRead :=
  let bound : Int := 1100 + (Nat.toDigits 2 coefficient).length
  let exponent := max (-bound) (min bound exponent)
  let numerator := coefficient * Nat.pow base exponent.toNat
  let denominator := Nat.pow base (-exponent).toNat
  let value := Binary64.ofFraction negative numerator denominator
  let inRange := match value with
    | .finite _ significand e _ =>
      let (n, d) := Binary64.fraction significand e
      decide (Nat.pow 2 52 ≤ significand) || n * denominator == numerator * d
    | _ => false
  { negative, value, rest, inRange }

/-- What follows a word at the front, in letters of either case. -/
def afterWord? (word : String) (s : List Char) : Option (List Char) :=
  let length := word.length
  if (s.take length).map Char.toLower = word.toList then some (s.drop length) else none

/-- The floating-point number at the front of a text; without one the text is left as it is. -/
def takeReal (s : List Char) : RealRead :=
  let (negative, body) := Numeral.takeSign (s.dropWhile Integer.isWhite)
  let hexadecimal := (afterWord? "0x" body).bind (takeDigits hexDigit? 16 'p' 4)
  if let some rest := (afterWord? "infinity" body).or (afterWord? "inf" body) then
    { negative, value := .infinity negative, rest }
  else if let some rest := afterWord? "nan" body then
    let inside := (rest.drop 1).takeWhile fun c => c.isAlphanum || c == '_'
    let closes := rest.head? == some '(' && (rest.drop (inside.length + 1)).head? == some ')'
    { negative, value := .nan, rest := if closes then rest.drop (inside.length + 2) else rest }
  else if let some (coefficient, exponent, rest) := hexadecimal then
    scaled negative 2 coefficient exponent rest
  else if let some (coefficient, exponent, rest) := takeDigits Numeral.asciiDigit? 10 'e' 1 body then
    scaled negative 10 coefficient exponent rest
  else { negative := false, value := .zero false, rest := s }

def Outcome.nextReal (o : Outcome) : RealRead × Outcome :=
  let (argument, o) := o.next
  match quotedOctet? argument with
  | some n => ({ negative := false, value := .ofInt n, rest := [] }, o)
  | none =>
    let x := takeReal argument
    (x, o.check argument x.rest x.inRange)

/-- The digits at the front as a number, if there are any. -/
def takeCount (s : List Char) : Option Nat × List Char :=
  let digits := s.takeWhile Char.isDigit
  (if digits.isEmpty then none else some (Numeral.ofDigits (digits.filterMap Numeral.asciiDigit?)),
    s.drop digits.length)

/-- Takes an argument as a width or a precision, which has thirty-two bits. -/
def Outcome.nextCount (o : Outcome) : Int × Outcome :=
  let (n, o) := o.nextInteger
  (n.bmod 4294967296, o)

/-- Whether a directive asks for more characters than can be counted. -/
def Directive.isVast (d : Directive) : Bool :=
  2147483647 < max d.width (d.precision.getD 0)

/-- Reads the flags, width and precision of a directive; a star takes an argument for one of them. -/
def takeDirective (s : List Char) (o : Outcome) : Directive × List Char × Outcome :=
  let isFlag (c : Char) : Bool := c == '#' || c == '-' || c == '+' || c == ' ' || c == '0'
  let d : Directive := { flags := s.takeWhile isFlag }
  let (d, rest, o) := match s.dropWhile isFlag with
    | '*' :: rest =>
      let (n, o) := o.nextCount
      ({ d with width := n.natAbs, flags := if n < 0 then '-' :: d.flags else d.flags }, rest, o)
    | rest =>
      let (n, rest) := takeCount rest
      ({ d with width := n.getD 0 }, rest, o)
  match rest with
  | '.' :: '*' :: rest =>
    let (n, o) := o.nextCount
    ({ d with precision := if n < 0 then none else some n.toNat }, rest, o)
  | '.' :: rest =>
    let (n, rest) := takeCount rest
    ({ d with precision := some (n.getD 0) }, rest, o)
  | rest => (d, rest, o)

/-- Writes an argument by a directive and its letter; `shown` is the directive as it stands. -/
def convertCounted (d : Directive) (letter : Char) (shown : List Char) (o : Outcome) : Outcome :=
  let cut (s : List Char) : List Char := match d.precision with
    | some n => s.take n
    | none => s
  match letter with
  | 's' =>
    let (argument, o) := o.next
    o.add (d.fill (cut argument))
  | 'b' =>
    let (argument, o) := o.next
    let (text, ends) := unescape (argument.length + 1) argument
    { o.add (d.fill (cut text)) with closed := ends }
  | 'c' =>
    let (argument, o) := o.next
    o.add (d.fill [argument.headD '\x00'])
  | 'd' | 'i' =>
    let (n, o) := o.nextInteger
    o.add (d.integer (d.sign (n < 0)) 10 n.natAbs [])
  | 'u' =>
    let (n, o) := o.nextNatural
    o.add (d.integer [] 10 n [])
  | 'o' =>
    let (n, o) := o.nextNatural
    o.add (d.integer [] 8 n [])
  | 'x' =>
    let (n, o) := o.nextNatural
    o.add (d.integer [] 16 n ['0', 'x'])
  | 'X' =>
    let (n, o) := o.nextNatural
    o.add ((d.integer [] 16 n ['0', 'x']).map Char.toUpper)
  | 'a' | 'A' | 'e' | 'E' | 'f' | 'F' | 'g' | 'G' =>
    let (x, o) := o.nextReal
    o.add (d.real letter x.value x.negative)
  | _ => { o with closed := true, fault := some (shown ++ ": invalid directive".toList) }

/-- Writes an argument by a directive and its letter, unless that takes more characters than can be
counted. -/
def convert (d : Directive) (letter : Char) (shown : List Char) (o : Outcome) : Outcome :=
  if d.isVast then
    let after := convertCounted {} letter shown o
    { after with
      text := o.text
      closed := true
      fault := after.fault.or (some "xvsnprintf failed".toList) }
  else convertCounted d letter shown o

/-- Writes arguments by a format once. -/
def once : Nat → List Char → Outcome → Outcome
  | 0, _, o => o
  | _, [], o => o
  | fuel + 1, '\\' :: rest, o =>
    let (c, after) := takeEscape rest
    once fuel after (o.add [c])
  | fuel + 1, '%' :: '%' :: rest, o => once fuel rest (o.add ['%'])
  | fuel + 1, '%' :: rest, o =>
    let (d, after, o) := takeDirective rest o
    match after with
    | [] => { o with closed := true, fault := some "missing format character".toList }
    | letter :: after =>
      let o := convert d letter ('%' :: rest.take (rest.length - after.length)) o
      if o.closed then o else once fuel after o
  | fuel + 1, c :: rest, o => once fuel rest (o.add [c])

/-- Writes arguments by a format, which is used again while it takes arguments that are left. -/
def all : Nat → List Char → Outcome → Outcome
  | 0, _, o => o
  | fuel + 1, format, o =>
    let after := once (format.length + 1) format o
    if after.closed || after.arguments.isEmpty || after.arguments.length = o.arguments.length then
      after
    else all fuel format after

end JuliaBlocks.Shell.Format
