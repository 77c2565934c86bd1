import JuliaBlocks.Number.Shortest
import Mathlib.Data.List.Basic

/-!
Numbers as words. The text of an integer is read back as that integer. The text of a finite
floating-point number is a decimal: it starts like a number and holds a point or an exponent, so
that it is never taken for an integer.
-/

namespace JuliaBlocks

namespace Numeral

/-- The integer that a word denotes: a sign, if any, and ASCII digits. -/
def readInteger? (word : List Char) : Option Int :=
  let (negative, digits) := takeSign word
  if digits.isEmpty then none
  else (digits.mapM asciiDigit?).map fun ds =>
    if negative then -(ofDigits ds : Int) else ofDigits ds

/-- What may stand for the sign of a number, nothing included. -/
def signs : List (List Char) := [[], ['+'], ['-']]

theorem takeSign_eq_append (s : List Char) : ∃ sign ∈ signs, s = sign ++ (takeSign s).2 := by
  unfold takeSign
  split
  · exact ⟨['-'], by decide, rfl⟩
  · exact ⟨['+'], by decide, rfl⟩
  · exact ⟨[], by decide, rfl⟩

/-- A text that does not start with a sign is all that stands behind any sign before it. -/
theorem takeSign_append {sign s : List Char} (hsign : sign ∈ signs)
    (hs : ∀ c ∈ s.head?, c ≠ '+' ∧ c ≠ '-') : (takeSign (sign ++ s)).2 = s := by
  simp only [signs, List.mem_cons, List.not_mem_nil, or_false] at hsign
  rcases hsign with rfl | rfl | rfl
  · rw [List.nil_append]
    unfold takeSign
    split
    · exact absurd rfl (hs '-' rfl).2
    · exact absurd rfl (hs '+' rfl).1
    · rfl
  · rfl
  · rfl

theorem mem_sign {sign : List Char} (hsign : sign ∈ signs) {c : Char} (hc : c ∈ sign) :
    c = '+' ∨ c = '-' := by
  simp only [signs, List.mem_cons, List.not_mem_nil, or_false] at hsign
  rcases hsign with rfl | rfl | rfl
  · cases hc
  · exact Or.inl (List.mem_singleton.mp hc)
  · exact Or.inr (List.mem_singleton.mp hc)

theorem toList_render (n : Int) :
    (render n).toList = (if n < 0 then ['-'] else []) ++ Nat.toDigits 10 n.natAbs := by
  unfold render
  by_cases hneg : n < 0
  · simp [hneg]
  · simp [hneg]

theorem isDigit_of_mem_digits {n : Nat} {c : Char} (hmem : c ∈ Nat.toDigits 10 n) :
    c.isDigit = true :=
  Nat.isDigit_of_mem_toDigits (by decide) (by decide) hmem

theorem newline_not_mem_render (n : Int) : '\n' ∉ (render n).toList := by
  rw [toList_render, List.mem_append, not_or]
  constructor
  · split
    · decide
    · decide
  · intro hmem
    exact absurd (isDigit_of_mem_digits hmem) (by decide)

/-- Digits are mapped to their values one by one, so a fold over the values is a fold over the
characters. -/
theorem mapM_asciiDigit? (s : List Char) (hdigits : ∀ c ∈ s, c.isDigit = true) :
    s.mapM asciiDigit? = some (s.map fun c => c.toNat - 48) := by
  induction s with
  | nil => rfl
  | cons c s ih =>
      have hc : asciiDigit? c = some (c.toNat - 48) := by
        rw [asciiDigit?, if_pos (hdigits c (by simp))]
      have hs := ih fun d hd => hdigits d (by simp [hd])
      rw [List.mapM_cons, hc, hs]
      rfl

theorem mapM_asciiDigit?_eq_none {s : List Char} {c : Char} (hmem : c ∈ s)
    (hc : c.isDigit = false) : s.mapM asciiDigit? = none := by
  induction s with
  | nil => exact absurd hmem List.not_mem_nil
  | cons d s ih =>
      rw [List.mapM_cons]
      rcases List.mem_cons.mp hmem with rfl | hmem
      · simp [asciiDigit?, hc]
      · rw [ih hmem]
        cases asciiDigit? d <;> rfl

theorem ofDigits_map (s : List Char) :
    ofDigits (s.map fun c => c.toNat - 48) = Nat.ofDigitChars 10 s 0 := by
  rw [ofDigits, List.foldl_map, Nat.ofDigitChars_eq_foldl]
  congr 1
  funext n c
  rw [Nat.mul_comm]
  rfl

/-- The digits of a number denote it. -/
theorem read_toDigits (n : Nat) :
    ((Nat.toDigits 10 n).mapM asciiDigit?).map ofDigits = some n := by
  rw [mapM_asciiDigit? _ fun c hc => isDigit_of_mem_digits hc, Option.map_some, ofDigits_map,
    Nat.ofDigitChars_ten_toDigits]

theorem takeSign_of_isDigit {c : Char} (s : List Char) (hdigit : c.isDigit = true) :
    takeSign (c :: s) = (false, c :: s) := by
  unfold takeSign
  split
  · next heq =>
    cases heq
    exact absurd hdigit (by decide)
  · next heq =>
    cases heq
    exact absurd hdigit (by decide)
  · rfl

theorem exists_toDigits_cons (n : Nat) :
    ∃ c s, Nat.toDigits 10 n = c :: s ∧ c.isDigit = true := by
  cases hdigits : Nat.toDigits 10 n with
  | nil => exact absurd hdigits Nat.toDigits_ne_nil
  | cons c s => exact ⟨c, s, rfl, isDigit_of_mem_digits (n := n) (by simp [hdigits])⟩

/-- The sign and the digits of an integer's text. -/
theorem takeSign_render (n : Int) :
    takeSign (render n).toList = (decide (n < 0), Nat.toDigits 10 n.natAbs) := by
  rw [toList_render]
  by_cases hneg : n < 0
  · simp only [hneg, if_true, decide_true]
    rfl
  · obtain ⟨c, s, hdigits, hc⟩ := exists_toDigits_cons n.natAbs
    simp only [hneg, if_false, decide_false, List.nil_append]
    rw [hdigits]
    exact takeSign_of_isDigit s hc

/-- Every integer is what its text denotes. -/
theorem readInteger?_render (n : Int) : readInteger? (render n).toList = some n := by
  have hread := read_toDigits n.natAbs
  obtain ⟨ds, hds, hvalue⟩ := Option.map_eq_some_iff.mp hread
  have hsome : (Nat.toDigits 10 n.natAbs).isEmpty = false := by
    simp [Nat.toDigits_ne_nil]
  simp only [readInteger?, takeSign_render, hsome, hds, Option.map_some, hvalue]
  by_cases hneg : n < 0
  · simp only [hneg, decide_true, if_true, Bool.false_eq_true, if_false, Option.some.injEq]
    omega
  · simp only [hneg, decide_false, Bool.false_eq_true, if_false, Option.some.injEq]
    omega

/-- An integer has a text just when it has at most `digitLimit` digits. -/
theorem render?_eq_some_iff (n : Int) (s : String) :
    render? n = some s ↔ (Nat.toDigits 10 n.natAbs).length ≤ digitLimit ∧ s = render n := by
  unfold render?
  by_cases hfew : (Nat.toDigits 10 n.natAbs).length ≤ digitLimit
  · rw [if_pos hfew, Option.some.injEq]
    exact ⟨fun h => ⟨hfew, h.symm⟩, fun h => h.2.symm⟩
  · rw [if_neg hfew]
    constructor
    · intro h
      cases h
    · intro h
      exact absurd h.1 hfew

end Numeral

namespace Binary64

/-- The characters of decimals. -/
def isDecimalChar (c : Char) : Bool :=
  c.isDigit || c == '.' || c == 'e' || c == '+' || c == '-'

/-- Whether characters are a decimal: a sign, if any, and then a digit first, with a point or an
exponent somewhere. -/
def isDecimal (word : List Char) : Bool :=
  let digits := (Numeral.takeSign word).2
  digits.head?.any Char.isDigit && digits.all isDecimalChar &&
    digits.any fun c => c == '.' || c == 'e'

/-- A decimal without a sign. -/
structure Unsigned (s : List Char) : Prop where
  starts : ∃ c rest, s = c :: rest ∧ c.isDigit = true
  chars : ∀ c ∈ s, isDecimalChar c = true
  marked : '.' ∈ s ∨ 'e' ∈ s

theorem isDecimalChar_of_isDigit {c : Char} (hdigit : c.isDigit = true) :
    isDecimalChar c = true := by
  simp [isDecimalChar, hdigit]

theorem isDecimalChar_of_mem_digits {n : Nat} {c : Char} (hmem : c ∈ Nat.toDigits 10 n) :
    isDecimalChar c = true :=
  isDecimalChar_of_isDigit (Numeral.isDigit_of_mem_digits hmem)

theorem positional_unsigned (coefficient : Nat) (point : Int) :
    Unsigned (positional (Nat.toDigits 10 coefficient) point) := by
  obtain ⟨c, s, hdigits, hc⟩ := Numeral.exists_toDigits_cons coefficient
  have hall : ∀ d ∈ Nat.toDigits 10 coefficient, isDecimalChar d = true :=
    fun d hd => isDecimalChar_of_mem_digits hd
  unfold positional
  split
  · refine ⟨⟨'0', _, rfl, rfl⟩, ?_, Or.inl (by simp)⟩
    intro d hd
    simp only [List.cons_append, List.mem_cons, List.mem_append, List.mem_replicate] at hd
    rcases hd with rfl | rfl | ⟨_, rfl⟩ | hd
    · rfl
    · rfl
    · rfl
    · exact hall d hd
  · next hpositive =>
    split
    · refine ⟨⟨c, _, by rw [hdigits]; rfl, hc⟩, ?_, Or.inl (by simp)⟩
      intro d hd
      simp only [List.mem_append, List.mem_replicate, List.mem_cons, List.not_mem_nil,
        or_false] at hd
      rcases hd with (hd | ⟨_, rfl⟩) | rfl | rfl
      · exact hall d hd
      · rfl
      · rfl
      · rfl
    · have hsucc : ∃ k, point.toNat = k + 1 := ⟨point.toNat - 1, by omega⟩
      obtain ⟨k, hk⟩ := hsucc
      refine ⟨⟨c, _, by rw [hdigits, hk]; rfl, hc⟩, ?_, Or.inl (by simp)⟩
      intro d hd
      simp only [List.mem_append, List.mem_cons] at hd
      rcases hd with hd | rfl | hd
      · exact hall d (List.mem_of_mem_take hd)
      · rfl
      · exact hall d (List.mem_of_mem_drop hd)

theorem exponential_unsigned (coefficient : Nat) (order : Int) :
    Unsigned (exponential (Nat.toDigits 10 coefficient) order) := by
  obtain ⟨c, s, hdigits, hc⟩ := Numeral.exists_toDigits_cons coefficient
  have hall : ∀ d ∈ c :: s, isDecimalChar d = true := by
    intro d hd
    rw [← hdigits] at hd
    exact isDecimalChar_of_mem_digits hd
  simp only [exponential, hdigits]
  refine ⟨⟨c, _, rfl, hc⟩, ?_, Or.inr (by simp)⟩
  intro d hd
  simp only [List.mem_append, List.mem_cons, List.mem_replicate] at hd
  rcases hd with ((hd | hd) | rfl | rfl | ⟨_, rfl⟩) | hd
  · exact hall d (List.mem_of_mem_take hd)
  · split at hd
    · exact absurd hd List.not_mem_nil
    · rcases List.mem_cons.mp hd with rfl | hd
      · rfl
      · exact hall d (List.mem_of_mem_drop hd)
  · rfl
  · split <;> rfl
  · rfl
  · exact isDecimalChar_of_mem_digits hd

theorem layOut_unsigned (coefficient : Nat) (exponent : Int) :
    Unsigned (layOut coefficient exponent) := by
  simp only [layOut]
  split
  · exact positional_unsigned _ _
  · exact exponential_unsigned _ _

/-- A decimal may have a minus sign in front. -/
theorem isDecimal_of_unsigned {s : List Char} (negative : Bool) (hs : Unsigned s) :
    isDecimal ((if negative then ['-'] else []) ++ s) = true := by
  obtain ⟨c, rest, rfl, hc⟩ := hs.starts
  have hsign : (Numeral.takeSign ((if negative then ['-'] else []) ++ c :: rest)).2 =
      c :: rest := by
    cases negative with
    | true => rfl
    | false => rw [if_neg (by decide), List.nil_append, Numeral.takeSign_of_isDigit rest hc]
  have hall : (c :: rest).all isDecimalChar = true := by
    rw [List.all_eq_true]
    exact hs.chars
  have hany : ((c :: rest).any fun d => d == '.' || d == 'e') = true := by
    rw [List.any_eq_true]
    rcases hs.marked with hpoint | hexponent
    · exact ⟨'.', hpoint, rfl⟩
    · exact ⟨'e', hexponent, rfl⟩
  simp [isDecimal, hsign, hc, hall, hany]

/-- The text of a finite number is a decimal. -/
theorem render_finite_isDecimal (negative : Bool) (significand : Nat) (exponent : Int)
    (canonical : Canonical significand exponent) :
    isDecimal (render (.finite negative significand exponent canonical)).toList = true := by
  simp only [render, String.toList_ofList]
  exact isDecimal_of_unsigned negative (layOut_unsigned _ _)

end Binary64

end JuliaBlocks
