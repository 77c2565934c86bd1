import JuliaBlocks.Number.Numeral

/-!
Binary floating-point numbers of 64 bits, as exact numbers: a finite one is a significand of at
most 53 bits times a power of two, in its one canonical form, so that equal numbers with equal
signs are equal values. All arithmetic here is on integers.
-/

namespace JuliaBlocks

/-- The canonical forms: a significand with all its 53 bits, or any smaller one at the least
exponent. -/
def Binary64.Canonical (significand : Nat) (exponent : Int) : Prop :=
  significand < 1 <<< 53 ∧ -1074 ≤ exponent ∧ exponent ≤ 971 ∧
    (1 <<< 52 ≤ significand ∨ exponent = -1074)

instance (significand : Nat) (exponent : Int) :
    Decidable (Binary64.Canonical significand exponent) :=
  inferInstanceAs (Decidable (_ ∧ _ ∧ _ ∧ _))

/-- A 64-bit floating-point number; all that are not numbers count as one. -/
inductive Binary64
  | nan
  | infinity (negative : Bool)
  | finite (negative : Bool) (significand : Nat) (exponent : Int)
      (canonical : Binary64.Canonical significand exponent)
deriving DecidableEq

namespace Binary64

def zero (negative : Bool) : Binary64 :=
  .finite negative 0 (-1074) (by decide)

instance : Inhabited Binary64 := ⟨zero false⟩

/-- A significand and exponent in canonical form; forms beyond the range are infinite. -/
def ofParts (negative : Bool) (significand : Nat) (exponent : Int) : Binary64 :=
  if h : Canonical significand exponent then .finite negative significand exponent h
  else .infinity negative

/-- The quotient rounded to the nearest integer, a half going to the even neighbour. -/
def roundDiv (numerator denominator : Nat) : Nat :=
  let q := numerator / denominator
  let r := numerator % denominator
  if 2 * r < denominator then q
  else if 2 * r = denominator then q + q % 2
  else q + 1

/-- The fraction `numerator / denominator` over two to the power `exponent`, as a fraction of
integers. -/
def scale (numerator denominator : Nat) (exponent : Int) : Nat × Nat :=
  (numerator <<< (-exponent).toNat, denominator <<< exponent.toNat)

/-- The nearest number to a fraction, a tie going to the even significand. -/
def ofFraction (negative : Bool) (numerator denominator : Nat) : Binary64 :=
  if numerator = 0 then zero negative
  else
    let guess : Int := (numerator.log2 : Int) - denominator.log2 - 53
    let (n, d) := scale numerator denominator guess
    -- The quotient has 53 or 54 bits at the guess.
    let exponent := max (if n / d < 1 <<< 53 then guess else guess + 1) (-1074)
    let (n, d) := scale numerator denominator exponent
    let significand := roundDiv n d
    -- Rounding up may have carried into one more bit.
    if significand = 1 <<< 53 then ofParts negative (1 <<< 52) (exponent + 1)
    else ofParts negative significand exponent

/-- The nearest number to `coefficient` times ten to the power `exponent`. Orders of magnitude
far outside the range are settled without computing the power. -/
def ofDecimal (negative : Bool) (coefficient : Nat) (exponent : Int) : Binary64 :=
  let order := (Nat.toDigits 10 coefficient).length + exponent
  if coefficient = 0 ∨ order < -330 then zero negative
  else if 320 < order then .infinity negative
  else ofFraction negative (coefficient * Nat.pow 10 exponent.toNat) (Nat.pow 10 (-exponent).toNat)

def ofInt (n : Int) : Binary64 :=
  ofFraction (n < 0) n.natAbs 1

/-- Whether the number is greater than zero. -/
def isPositive : Binary64 → Bool
  | .nan => false
  | .infinity negative => !negative
  | .finite negative significand _ _ => !negative && significand != 0

/-- Whether the number is at most zero; neither this nor `isPositive` holds of `nan`. -/
def isNonpositive : Binary64 → Bool
  | .nan => false
  | .infinity negative => negative
  | .finite negative significand _ _ => negative || significand == 0

/-- The integer towards zero from a finite number. -/
def truncate? : Binary64 → Option Int
  | .finite negative significand exponent _ =>
    let size := significand <<< exponent.toNat >>> (-exponent).toNat
    some (if negative then -(size : Int) else size)
  | _ => none

/-- The integer that a finite number is, if it is one. -/
def toInt? : Binary64 → Option Int
  | .finite negative significand exponent h =>
    if significand % (1 <<< (-exponent).toNat) = 0 then
      (Binary64.finite negative significand exponent h).truncate?
    else none
  | _ => none

/-- The whole microseconds in a number of seconds, none if it is not positive or not finite. -/
def microseconds : Binary64 → Nat
  | .finite false significand exponent _ =>
    significand * 1000000 <<< exponent.toNat >>> (-exponent).toNat
  | _ => 0

end Binary64

end JuliaBlocks
