import JuliaBlocks.Number.Binary64

/-!
The shortest decimal text of a floating-point number. A decimal reads back as the number when
it lies in the interval of reals that round to it; the coarsest power of ten with a multiple in
that interval gives the digits.
-/

namespace JuliaBlocks.Binary64

/-- The reals that round to a number, in units of `1 / denominator`: from `low` to `high` around
`value`, the ends belonging to it when `closed`. -/
structure Interval where
  low : Nat
  value : Nat
  high : Nat
  denominator : Nat
  closed : Bool

/-- The interval of `significand * 2 ^ exponent`. It is narrower below a power of two, where the
next number is only half as far, and has its ends when the significand is even. -/
def Interval.of (significand : Nat) (exponent : Int) : Interval :=
  let below := if significand = 1 <<< 52 ∧ -1074 < exponent then 1 else 2
  { low := (4 * significand - below) <<< exponent.toNat
    value := (4 * significand) <<< exponent.toNat
    high := (4 * significand + 2) <<< exponent.toNat
    denominator := 4 <<< (-exponent).toNat
    closed := significand % 2 == 0 }

/-- Whether `point` lies in the interval once all its bounds are multiplied by `factor`. -/
def Interval.holds (i : Interval) (factor point : Nat) : Bool :=
  if i.closed then i.low * factor ≤ point && point ≤ i.high * factor
  else i.low * factor < point && point < i.high * factor

/-- The multiple of ten to the power `exponent` that lies in the interval and is nearest to its
value, the even one of two as near. Only the two neighbours of the value can be. -/
def Interval.multiple? (i : Interval) (exponent : Int) : Option Nat :=
  let factor := Nat.pow 10 (-exponent).toNat
  let step := i.denominator * Nat.pow 10 exponent.toNat
  let value := i.value * factor
  let k := value / step
  let lower := i.holds factor (k * step)
  let upper := i.holds factor ((k + 1) * step)
  if lower && upper then
    let r := 2 * (value % step)
    some (if r < step then k else if r = step then k + k % 2 else k + 1)
  else if lower then some k
  else if upper then some (k + 1)
  else none

/-- Searches the powers of ten downwards from `exponent`. -/
def Interval.coarsest (i : Interval) : Nat → Int → Nat × Int
  | 0, exponent => (0, exponent)
  | fuel + 1, exponent =>
    match i.multiple? exponent with
    | some k => (k, exponent)
    | none => i.coarsest fuel (exponent - 1)

/-- The shortest decimal that reads back: a coefficient and the power of ten it multiplies. The
powers run from the greatest below the largest number down to the finest decimal of the
smallest. -/
def shortest (significand : Nat) (exponent : Int) : Nat × Int :=
  if significand = 0 then (0, 0)
  else (Interval.of significand exponent).coarsest 700 309

/-- How a decimal is laid out: which decimal orders are written positionally, and how many
digits an exponent has at least. -/
structure Layout where
  leastPositional : Int
  mostPositional : Int
  exponentDigits : Nat

/-- Numbers from a ten-thousandth up to below ten to the power 16 are written positionally, the
others with an exponent of at least two digits. -/
def layout : Layout := ⟨-4, 15, 2⟩

/-- A positional decimal, always with a point and a digit on either side of it. -/
def positional (digits : List Char) (point : Int) : List Char :=
  if point ≤ 0 then '0' :: '.' :: List.replicate (-point).toNat '0' ++ digits
  else if digits.length ≤ point.toNat then
    digits ++ List.replicate (point.toNat - digits.length) '0' ++ ['.', '0']
  else digits.take point.toNat ++ '.' :: digits.drop point.toNat

/-- A decimal with one digit before the point, which is left out when nothing follows it. -/
def exponential (digits : List Char) (order : Int) : List Char :=
  let size := Nat.toDigits 10 order.natAbs
  digits.take 1 ++ (if digits.length ≤ 1 then [] else '.' :: digits.drop 1) ++
    'e' :: (if order < 0 then '-' else '+') ::
    List.replicate (layout.exponentDigits - size.length) '0' ++ size

/-- The digits of a coefficient with its decimal exponent, laid out. -/
def layOut (coefficient : Nat) (exponent : Int) : List Char :=
  let digits := Nat.toDigits 10 coefficient
  let point := digits.length + exponent
  if layout.leastPositional ≤ point - 1 ∧ point - 1 ≤ layout.mostPositional then
    positional digits point
  else exponential digits (point - 1)

/-- The text of a number: the shortest decimal that reads back as it. -/
def render : Binary64 → String
  | .nan => "nan"
  | .infinity negative => if negative then "-inf" else "inf"
  | .finite negative significand exponent _ =>
    let (coefficient, power) := shortest significand exponent
    String.ofList ((if negative then ['-'] else []) ++ layOut coefficient power)

end JuliaBlocks.Binary64
