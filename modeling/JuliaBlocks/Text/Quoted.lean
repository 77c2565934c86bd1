import JuliaBlocks.Text.Printable

/-!
Quoted text, the form in which values and messages show a text: between single quotes, or
between double quotes when it holds single ones only, with escapes for the quote itself, the
backslash and whatever cannot be printed.
-/

namespace JuliaBlocks.Text

/-- One hexadecimal digit, in lower case. -/
def hexDigit (n : Nat) : Char :=
  if n < 10 then Char.ofNat (48 + n) else Char.ofNat (87 + n)

/-- The last `width` hexadecimal digits of `n`. -/
def hexDigits : Nat → Nat → List Char
  | 0, _ => []
  | width + 1, n => hexDigits width (n / 16) ++ [hexDigit (n % 16)]

/-- A code point written with two, four or eight hexadecimal digits. -/
def numericEscape (n : Nat) : List Char :=
  if n < 0x100 then '\\' :: 'x' :: hexDigits 2 n
  else if n < 0x10000 then '\\' :: 'u' :: hexDigits 4 n
  else '\\' :: 'U' :: hexDigits 8 n

/-- A double quote is used for a text with single quotes and no double ones. -/
def chooseQuote (hasSingle hasDouble : Bool) : Char :=
  if hasSingle && !hasDouble then '"' else '\''

/-- One character inside quoted text. -/
def quotedChar (quote c : Char) : List Char :=
  if c = quote ∨ c = '\\' then ['\\', c]
  else if c = '\n' then ['\\', 'n']
  else if c = '\r' then ['\\', 'r']
  else if c = '\t' then ['\\', 't']
  else if isPrintable c then [c]
  else numericEscape c.toNat

/-- The quoted form of a text. -/
def quoted (s : String) : String :=
  let cs := s.toList
  let quote := chooseQuote (cs.contains '\'') (cs.contains '"')
  String.ofList (quote :: cs.flatMap (quotedChar quote) ++ [quote])

/-- One octet inside quoted octets: as text if it is printable ASCII, else escaped. -/
def quotedOctet (quote : Char) (b : UInt8) : List Char :=
  if b < 0x7F then quotedChar quote (Char.ofNat b.toNat) else numericEscape b.toNat

/-- The quoted form of octets, marked by a leading `b`. -/
def quotedOctets (octets : List UInt8) : String :=
  let quote := chooseQuote (octets.contains 39) (octets.contains 34)
  String.ofList ('b' :: quote :: octets.flatMap (quotedOctet quote) ++ [quote])

end JuliaBlocks.Text
