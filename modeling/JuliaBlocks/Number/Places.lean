import JuliaBlocks.Number.Binary64

/-!
Decimal text of floating-point numbers with a given number of places: positional, with an exponent,
or whichever of the two suits the size of the number. All are rounded from the exact value, a half
going to the even neighbour. The texts are without a sign.
-/

namespace JuliaBlocks.Binary64

def fraction (significand : Nat) (exponent : Int) : Nat × Nat :=
  (significand <<< exponent.toNat, 1 <<< (-exponent).toNat)

/-- The decimal digits of a number, with zeros in front up to a length. -/
def paddedDigits (length n : Nat) : List Char :=
  let digits := Nat.toDigits 10 n
  List.replicate (length - digits.length) '0' ++ digits

/-- The digits before the last `places` ones, a point, and those; without places the point stands
only if it is asked for. -/
def withPoint (places : Nat) (pointed : Bool) (n : Nat) : List Char :=
  let digits := paddedDigits (places + 1) n
  let whole := digits.take (digits.length - places)
  if places = 0 then if pointed then whole ++ ['.'] else whole
  else whole ++ '.' :: digits.drop (digits.length - places)

def fixedText (places : Nat) (pointed : Bool) (value : Nat × Nat) : List Char :=
  withPoint places pointed (roundDiv (value.1 * Nat.pow 10 places) value.2)

/-- The power of ten of the first digit of a fraction that is not zero. -/
def leadingPower (value : Nat × Nat) : Int :=
  if value.2 ≤ value.1 then (Nat.toDigits 10 (value.1 / value.2)).length - 1
  else
    let least := (value.2 + value.1 - 1) / value.1
    Int.negOfNat (Nat.toDigits 10 (least - 1)).length

/-- The first `places + 1` digits of a fraction as a number, and the power of ten of the first. -/
def scientific (places : Nat) (value : Nat × Nat) : Nat × Int :=
  if value.1 = 0 then (0, 0)
  else
    let power := leadingPower value
    let shift := (places : Int) - power
    let n := roundDiv (value.1 * Nat.pow 10 shift.toNat) (value.2 * Nat.pow 10 (-shift).toNat)
    if n = Nat.pow 10 (places + 1) then (Nat.pow 10 places, power + 1) else (n, power)

/-- An exponent of at least two digits. -/
def exponentText (power : Int) : List Char :=
  'e' :: (if power < 0 then '-' else '+') :: paddedDigits 2 power.natAbs

def scientificText (places : Nat) (pointed : Bool) (value : Nat × Nat) : List Char :=
  let (n, power) := scientific places value
  withPoint places pointed n ++ exponentText power

/-- Places without the zeros at their end, and without the point if nothing follows it. -/
def dropZeros (s : List Char) : List Char :=
  if s.contains '.' then
    let kept := (s.reverse.dropWhile (· == '0')).reverse
    if kept.getLast? = some '.' then kept.dropLast else kept
  else s

/-- Text of so many digits: positional, unless the number is less than a ten thousandth or has more
digits before its point. Zeros at the end are kept only if that is asked for. -/
def generalText (digits : Nat) (kept : Bool) (value : Nat × Nat) : List Char :=
  let digits := max digits 1
  let (n, power) := scientific (digits - 1) value
  let trim := if kept then id else dropZeros
  if -4 ≤ power ∧ power < digits then
    trim (fixedText ((digits : Int) - 1 - power).toNat kept value)
  else trim (withPoint (digits - 1) kept n) ++ exponentText power

end JuliaBlocks.Binary64
