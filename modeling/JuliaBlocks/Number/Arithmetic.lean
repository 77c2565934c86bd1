import JuliaBlocks.Number.Binary64

/-!
Arithmetic on floating-point numbers: the exact result of an operation is rounded to the nearest
number.
-/

namespace JuliaBlocks.Binary64

/-- A finite number as a fraction of integers, the denominator not zero. -/
def toFraction? : Binary64 → Option (Int × Nat)
  | .finite negative significand exponent _ =>
    let n : Nat := significand <<< exponent.toNat
    some (if negative then -(n : Int) else n, 1 <<< (-exponent).toNat)
  | _ => none

def isNegative : Binary64 → Bool
  | .nan => false
  | .infinity negative => negative
  | .finite negative _ _ _ => negative

def isZero : Binary64 → Bool
  | .finite _ significand _ _ => significand == 0
  | _ => false

def neg : Binary64 → Binary64
  | .nan => .nan
  | .infinity negative => .infinity !negative
  | .finite negative significand exponent h => .finite (!negative) significand exponent h

/-- The nearest number to a fraction. A zero gets the sign given. -/
def ofRatio (zeroSign : Bool) (numerator : Int) (denominator : Nat) : Binary64 :=
  ofFraction (if numerator = 0 then zeroSign else numerator < 0) numerator.natAbs denominator

def add (a b : Binary64) : Binary64 :=
  match a.toFraction?, b.toFraction? with
  | some (n, d), some (m, e) =>
    ofRatio (a.isNegative && b.isNegative) (n * e + m * d) (d * e)
  | _, _ =>
    match a, b with
    | .infinity s, .infinity t => if s = t then .infinity s else .nan
    | .infinity s, .finite .. | .finite .., .infinity s => .infinity s
    | _, _ => .nan

def sub (a b : Binary64) : Binary64 :=
  a.add b.neg

def mul (a b : Binary64) : Binary64 :=
  let sign := a.isNegative != b.isNegative
  match a.toFraction?, b.toFraction? with
  | some (n, d), some (m, e) => ofRatio sign (n * m) (d * e)
  | _, _ => if a = .nan ∨ b = .nan ∨ a.isZero ∨ b.isZero then .nan else .infinity sign

def div (a b : Binary64) : Binary64 :=
  let sign := a.isNegative != b.isNegative
  match a.toFraction?, b.toFraction? with
  | some (n, d), some (m, e) =>
    if m = 0 then (if n = 0 then .nan else .infinity sign)
    else ofRatio sign (if m < 0 then -(n * e) else n * e) (d * m.natAbs)
  | some _, none => if b = .nan then .nan else zero sign
  | none, some _ => if a = .nan then .nan else .infinity sign
  | none, none => .nan

/-- The remainder of a division towards zero. -/
def mod (a b : Binary64) : Binary64 :=
  match a.toFraction?, b.toFraction? with
  | some (n, d), some (m, e) =>
    if m = 0 then .nan
    else ofRatio a.isNegative (Int.tmod (n * e) (m * d)) (d * e)
  | some _, none => if b = .nan then .nan else a
  | none, _ => .nan

def toWhole (a : Binary64) : Binary64 :=
  match a.truncate? with
  | some n => ofRatio a.isNegative n 1
  | none => a

/-- How two numbers compare, if they do. -/
def compare? (a b : Binary64) : Option Ordering :=
  match a.toFraction?, b.toFraction? with
  | some (n, d), some (m, e) => some (compare (n * e) (m * d))
  | _, _ =>
    match a, b with
    | .nan, _ | _, .nan => none
    | .infinity s, .infinity t => some (if s = t then .eq else if s then .lt else .gt)
    | .infinity s, _ => some (if s then .lt else .gt)
    | _, .infinity t => some (if t then .gt else .lt)
    | _, _ => none

/-- The greatest integer whose square is at most a number, by halving an interval. -/
def integerRoot (n : Nat) : Nat → Nat → Nat → Nat
  | 0, low, _ => low
  | fuel + 1, low, high =>
    if high ≤ low + 1 then low
    else
      let middle := (low + high) / 2
      if middle * middle ≤ n then integerRoot n fuel middle high
      else integerRoot n fuel low middle

def sqrt (a : Binary64) : Binary64 :=
  match a.toFraction? with
  | some (n, d) =>
    if n < 0 then .nan
    else if n = 0 then a
    else
      -- More binary places than the result holds, with a last one for what is cut off.
      let shift := 2 * (64 + d.log2)
      let value := (n.toNat <<< shift) / d
      let root := integerRoot value (value.log2 + 2) 0 (1 <<< (value.log2 / 2 + 1))
      let exact := root * root = value ∧ (n.toNat <<< shift) % d = 0
      ofFraction false (2 * root + (if exact then 0 else 1)) (2 <<< (shift / 2))
  | none => if a = .infinity false then a else .nan

/-- A power with a natural exponent, by squaring. -/
def powNat (a : Binary64) : Nat → Nat → Binary64
  | 0, _ => ofInt 1
  | _, 0 => ofInt 1
  | fuel + 1, n =>
    let half := powNat a fuel (n / 2)
    let square := half.mul half
    if n % 2 = 0 then square else square.mul a

/-- The number as one of the machine, for functions that the machine has. -/
def toFloat : Binary64 → Float
  | .nan => 0.0 / 0.0
  | .infinity negative => if negative then -1.0 / 0.0 else 1.0 / 0.0
  | .finite negative significand exponent _ =>
    let x := Float.scaleB (Float.ofNat significand) exponent
    if negative then -x else x

/-- The number that one of the machine is. -/
def ofFloat (x : Float) : Binary64 :=
  let bits := x.toBits.toNat
  let negative := bits >>> 63 == 1
  let order := (bits >>> 52) % 2048
  let fraction := bits % (1 <<< 52)
  if order = 2047 then (if fraction = 0 then .infinity negative else .nan)
  else if order = 0 then ofParts negative fraction (-1074)
  else ofParts negative (fraction + (1 <<< 52)) ((order : Int) - 1075)

/-- The power. Small whole exponents of whole numbers are worked out exactly. -/
def pow (a b : Binary64) : Binary64 :=
  match a.toInt?, b.toInt? with
  | some n, some m =>
    if 0 ≤ m ∧ m ≤ 1100 ∧ n.natAbs.log2 * m.natAbs ≤ 1100 then
      ofRatio false (if n < 0 ∧ m % 2 = 1 then -(Nat.pow n.natAbs m.natAbs : Int)
        else (Nat.pow n.natAbs m.natAbs : Int)) 1
    else ofFloat (a.toFloat.pow b.toFloat)
  | _, _ => ofFloat (a.toFloat.pow b.toFloat)

end JuliaBlocks.Binary64
