import JuliaBlocks.Number.Decimal
import JuliaBlocks.Proofs.Number.Word
import Mathlib.Algebra.Order.Field.Basic
import Mathlib.Data.Rat.Cast.Order
import Mathlib.Tactic.Ring

/-!
What a laid out decimal denotes. Whether a coefficient with its power of ten is written positionally
or with an exponent, the text is that of a decimal of the same value. Main statement:
`layOut_value`.
-/

namespace JuliaBlocks

namespace Decimal

open Numeral

/-- The coefficient and the power of ten of a decimal without a sign. -/
def parts? (s : List Char) : Option (Nat × Int) :=
  let (whole, rest) := takeDigits s
  let (places, rest) := match rest with
    | '.' :: rest => takeDigits rest
    | rest => ([], rest)
  match takeExponent? rest with
  | some (exponent, []) => some (ofDigits (whole ++ places), exponent - places.length)
  | _ => none

theorem takeDigits_append (digits rest : List Char) (hdigits : ∀ c ∈ digits, c.isDigit = true)
    (hrest : ∀ c ∈ rest.head?, c.isDigit = false) :
    takeDigits (digits ++ rest) = (digits.map fun c => c.toNat - 48, rest) := by
  induction digits with
  | nil =>
      cases rest with
      | nil => rfl
      | cons c rest =>
          have hc : c.isDigit = false := hrest c rfl
          simp [takeDigits, asciiDigit?, hc]
  | cons c digits ih =>
      obtain ⟨hc, hdigits⟩ := List.forall_mem_cons.mp hdigits
      simp [takeDigits, asciiDigit?, hc, ih hdigits]

theorem parts?_pointed (whole places rest : List Char) {exponent : Int}
    (hwhole : ∀ c ∈ whole, c.isDigit = true) (hplaces : ∀ c ∈ places, c.isDigit = true)
    (hrest : ∀ c ∈ rest.head?, c.isDigit = false)
    (hexponent : takeExponent? rest = some (exponent, [])) :
    parts? (whole ++ '.' :: (places ++ rest)) =
      some (Nat.ofDigitChars 10 (whole ++ places) 0, exponent - places.length) := by
  have htake : takeDigits (whole ++ '.' :: (places ++ rest)) =
      (whole.map fun c => c.toNat - 48, '.' :: (places ++ rest)) :=
    takeDigits_append _ _ hwhole (by simp)
  simp [parts?, htake, takeDigits_append _ _ hplaces hrest, hexponent, ← ofDigits_map]

theorem parts?_positional (whole places : List Char) (hwhole : ∀ c ∈ whole, c.isDigit = true)
    (hplaces : ∀ c ∈ places, c.isDigit = true) :
    parts? (whole ++ '.' :: places) =
      some (Nat.ofDigitChars 10 (whole ++ places) 0, -(places.length : Int)) := by
  have hparts := parts?_pointed whole places [] hwhole hplaces (by simp) rfl
  rwa [List.append_nil, Int.zero_sub] at hparts

theorem parts?_whole (whole rest : List Char) {exponent : Int}
    (hwhole : ∀ c ∈ whole, c.isDigit = true)
    (hexponent : takeExponent? ('e' :: rest) = some (exponent, [])) :
    parts? (whole ++ 'e' :: rest) = some (Nat.ofDigitChars 10 whole 0, exponent) := by
  have htake : takeDigits (whole ++ 'e' :: rest) =
      (whole.map fun c => c.toNat - 48, 'e' :: rest) := takeDigits_append _ _ hwhole (by simp)
  simp [parts?, htake, hexponent, ← ofDigits_map]

theorem isDigit_of_mem_zeros {c : Char} {zeros : Nat} (hc : c ∈ List.replicate zeros '0') :
    c.isDigit = true := by
  rw [(List.mem_replicate.mp hc).2]
  rfl

/-- An exponent is read as what it was written for; zeros before its digits do not count. -/
theorem takeExponent?_written (order : Int) (zeros : Nat) :
    takeExponent? ('e' :: (if order < 0 then '-' else '+') ::
        (List.replicate zeros '0' ++ Nat.toDigits 10 order.natAbs)) = some (order, []) := by
  have hdigits : ∀ c ∈ List.replicate zeros '0' ++ Nat.toDigits 10 order.natAbs,
      c.isDigit = true := by
    intro c hc
    rcases List.mem_append.mp hc with hc | hc
    · exact isDigit_of_mem_zeros hc
    · exact isDigit_of_mem_digits hc
  have htake := takeDigits_append _ [] hdigits (by simp)
  rw [List.append_nil] at htake
  have hvalue : ofDigits ((List.replicate zeros '0' ++ Nat.toDigits 10 order.natAbs).map
      fun c => c.toNat - 48) = order.natAbs := by
    rw [ofDigits_map, Nat.ofDigitChars_append, Nat.ofDigitChars_replicate_zero, Nat.mul_zero,
      Nat.ofDigitChars_ten_toDigits]
  obtain ⟨d, ds, hsome⟩ : ∃ d ds, (List.replicate zeros '0' ++ Nat.toDigits 10 order.natAbs).map
      (fun c => c.toNat - 48) = d :: ds := by
    apply List.exists_cons_of_ne_nil
    simp [Nat.toDigits_ne_nil]
  rw [hsome] at htake hvalue
  by_cases hneg : order < 0
  · simp [takeExponent?, takeSign, hneg, htake, hvalue, abs_of_neg hneg]
  · have hpositive : 0 ≤ order := Int.not_lt.mp hneg
    simp [takeExponent?, takeSign, hneg, htake, hvalue, abs_of_nonneg hpositive]

end Decimal

namespace Binary64

/-- The number that a coefficient times a power of ten is. -/
def scaled (d : Nat × Int) : ℚ :=
  d.1 * (10 : ℚ) ^ d.2

variable {coefficient : Nat} {digits : List Char}

theorem leading_zeros_value (zeros : Nat) (hall : ∀ c ∈ digits, c.isDigit = true)
    (hvalue : Nat.ofDigitChars 10 digits 0 = coefficient) :
    Decimal.parts? ('0' :: '.' :: List.replicate zeros '0' ++ digits) =
      some (coefficient, -(zeros + digits.length : Int)) := by
  have hparts := Decimal.parts?_positional ['0'] (List.replicate zeros '0' ++ digits)
    (List.forall_mem_singleton.mpr rfl)
    (List.forall_mem_append.mpr ⟨fun c => Decimal.isDigit_of_mem_zeros, hall⟩)
  simpa [Nat.ofDigitChars_append, Nat.ofDigitChars_cons, hvalue] using hparts

/-- Zeros that fill up to the point multiply by a power of ten, and so does the one behind it. -/
theorem trailing_zeros_value (zeros : Nat) (hall : ∀ c ∈ digits, c.isDigit = true)
    (hvalue : Nat.ofDigitChars 10 digits 0 = coefficient) :
    Decimal.parts? (digits ++ List.replicate zeros '0' ++ ['.', '0']) =
      some (10 * (10 ^ zeros * coefficient), -1) := by
  have hparts := Decimal.parts?_positional (digits ++ List.replicate zeros '0') ['0']
    (List.forall_mem_append.mpr ⟨hall, fun c => Decimal.isDigit_of_mem_zeros⟩)
    (List.forall_mem_singleton.mpr rfl)
  simpa [Nat.ofDigitChars_append, Nat.ofDigitChars_cons, hvalue] using hparts

theorem inner_point_value (point : Nat) (hall : ∀ c ∈ digits, c.isDigit = true)
    (hvalue : Nat.ofDigitChars 10 digits 0 = coefficient) :
    Decimal.parts? (digits.take point ++ '.' :: digits.drop point) =
      some (coefficient, -((digits.length - point : Nat) : Int)) := by
  have hparts := Decimal.parts?_positional (digits.take point) (digits.drop point)
    (fun c hc => hall c (List.mem_of_mem_take hc)) (fun c hc => hall c (List.mem_of_mem_drop hc))
  rwa [List.take_append_drop, hvalue, List.length_drop] at hparts

theorem positional_value (exponent : Int) (hall : ∀ c ∈ digits, c.isDigit = true)
    (hvalue : Nat.ofDigitChars 10 digits 0 = coefficient) :
    ∃ d, Decimal.parts? (positional digits (digits.length + exponent)) = some d ∧
      scaled d = scaled (coefficient, exponent) := by
  unfold positional
  split
  · next hpoint =>
    refine ⟨_, leading_zeros_value _ hall hvalue, ?_⟩
    have hplaces : -((-(digits.length + exponent : Int)).toNat + digits.length : Int) =
        exponent := by
      omega
    rw [hplaces]
  · next hpoint =>
    split
    · next hlength =>
      refine ⟨_, trailing_zeros_value _ hall hvalue, ?_⟩
      obtain ⟨k, rfl⟩ : ∃ k : Nat, exponent = k := ⟨exponent.toNat, by omega⟩
      rw [show (digits.length + k : Int).toNat - digits.length = k by omega]
      simp [scaled]
      ring
    · next hlength =>
      refine ⟨_, inner_point_value _ hall hvalue, ?_⟩
      have hplaces :
          -((digits.length - (digits.length + exponent : Int).toNat : Nat) : Int) = exponent := by
        omega
      rw [hplaces]

theorem exponential_value (exponent : Int) (hall : ∀ c ∈ digits, c.isDigit = true)
    (hsome : digits ≠ []) (hvalue : Nat.ofDigitChars 10 digits 0 = coefficient) :
    Decimal.parts? (exponential digits (digits.length + exponent - 1)) =
      some (coefficient, exponent) := by
  have hexponent := Decimal.takeExponent?_written (digits.length + exponent - 1)
    (layout.exponentDigits -
      (Nat.toDigits 10 (digits.length + exponent - 1 : Int).natAbs).length)
  obtain ⟨first, others, rfl⟩ := List.exists_cons_of_ne_nil hsome
  obtain ⟨hfirst, hothers⟩ := List.forall_mem_cons.mp hall
  unfold exponential
  cases others with
  | nil =>
      have hparts := Decimal.parts?_whole [first] _ (by simpa using hfirst) hexponent
      rw [hvalue] at hparts
      simpa using hparts
  | cons second others =>
      have hparts := Decimal.parts?_pointed [first] (second :: others) _
        (by simpa using hfirst) hothers (by simp) hexponent
      have hwhole : Nat.ofDigitChars 10 ([first] ++ second :: others) 0 = coefficient := hvalue
      have hplaces : (first :: second :: others).length + exponent - 1 -
          ((second :: others).length : Int) = exponent := by
        rw [List.length_cons]
        omega
      rw [hwhole, hplaces] at hparts
      simpa using hparts

/-- Laying a decimal out keeps its value. -/
theorem layOut_value (coefficient : Nat) (exponent : Int) :
    ∃ d, Decimal.parts? (layOut coefficient exponent) = some d ∧
      scaled d = scaled (coefficient, exponent) := by
  have hall : ∀ c ∈ Nat.toDigits 10 coefficient, c.isDigit = true :=
    fun c hc => Numeral.isDigit_of_mem_digits hc
  have hvalue : Nat.ofDigitChars 10 (Nat.toDigits 10 coefficient) 0 = coefficient :=
    Nat.ofDigitChars_ten_toDigits
  simp only [layOut]
  split
  · exact positional_value exponent hall hvalue
  · exact ⟨_, exponential_value exponent hall Nat.toDigits_ne_nil hvalue, rfl⟩

end Binary64

end JuliaBlocks
