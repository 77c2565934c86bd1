import JuliaBlocks.Proofs.Number.Layout
import Mathlib.Algebra.Order.Field.Power
import Mathlib.Tactic.Linarith
import Mathlib.Tactic.NormNum
import Mathlib.Tactic.Positivity

/-!
The shortest decimals of floating-point numbers. The search ends with a decimal that rounds to the
number, and no decimal rounds to two numbers in canonical form. Main statement: finite numbers that
are written alike are the same, `render_finite_inj`.
-/

namespace JuliaBlocks.Binary64

/-- A power whose denominator is cleared. -/
theorem zpow_mul_pow_toNat {b : ℚ} (hb : b ≠ 0) (exponent : Int) :
    b ^ exponent * b ^ (-exponent).toNat = b ^ exponent.toNat := by
  rw [← zpow_natCast, ← zpow_natCast, ← zpow_add₀ hb]
  congr 1
  omega

namespace Interval

/-- Whether a rational number lies in an interval. -/
def Contains (i : Interval) (q : ℚ) : Prop :=
  i.low ≤ q * i.denominator ∧ q * i.denominator ≤ i.high ∧
    (i.closed = false → i.low < q * i.denominator ∧ q * i.denominator < i.high)

theorem holds_iff (i : Interval) (exponent : Int) (k : Nat) :
    i.holds (Nat.pow 10 (-exponent).toNat) (k * (i.denominator * Nat.pow 10 exponent.toNat)) =
      true ↔ i.Contains (scaled (k, exponent)) := by
  have hfactor : (0 : ℚ) < (10 ^ (-exponent).toNat : Nat) := by positivity
  have hpoint : scaled (k, exponent) * i.denominator * (10 ^ (-exponent).toNat : Nat) =
      (k * (i.denominator * 10 ^ exponent.toNat) : Nat) := by
    calc scaled (k, exponent) * i.denominator * (10 ^ (-exponent).toNat : Nat)
        = k * (i.denominator * ((10 : ℚ) ^ exponent * 10 ^ (-exponent).toNat)) := by
          rw [scaled]
          push_cast
          ring
      _ = _ := by
          rw [zpow_mul_pow_toNat (by norm_num)]
          push_cast
          rfl
  have hleft (n : Nat) : (n : ℚ) ≤ scaled (k, exponent) * i.denominator ↔
      n * 10 ^ (-exponent).toNat ≤ k * (i.denominator * 10 ^ exponent.toNat) := by
    rw [← mul_le_mul_iff_left₀ hfactor, hpoint]
    exact_mod_cast Iff.rfl
  have hright (n : Nat) : scaled (k, exponent) * i.denominator ≤ (n : ℚ) ↔
      k * (i.denominator * 10 ^ exponent.toNat) ≤ n * 10 ^ (-exponent).toNat := by
    rw [← mul_le_mul_iff_left₀ hfactor, hpoint]
    exact_mod_cast Iff.rfl
  simp only [Contains, hleft, hright, ← not_le, holds, Nat.pow_eq]
  by_cases hclosed : i.closed = true
  · simp [hclosed]
  · rw [Bool.not_eq_true] at hclosed
    simp only [hclosed, Bool.false_eq_true, if_false, Bool.and_eq_true, decide_eq_true_eq,
      true_imp_iff]
    omega

/-- A multiple that is chosen is one of the two beside the value, and whichever it is was tried. -/
theorem multiple?_contains {i : Interval} {exponent : Int} {k : Nat}
    (hk : i.multiple? exponent = some k) : i.Contains (scaled (k, exponent)) := by
  rw [← holds_iff]
  simp only [multiple?] at hk
  split at hk
  · next hboth =>
    obtain ⟨hlower, hupper⟩ := Bool.and_eq_true_iff.mp hboth
    generalize i.value * Nat.pow 10 (-exponent).toNat /
      (i.denominator * Nat.pow 10 exponent.toNat) = beside at hk hlower hupper
    have hchosen : k = beside ∨ k = beside + 1 := by
      rw [Option.some.injEq] at hk
      split at hk
      · exact Or.inl hk.symm
      · split at hk <;> omega
    rcases hchosen with rfl | rfl
    · exact hlower
    · exact hupper
  · split at hk
    · next hlower =>
      cases hk
      exact hlower
    · split at hk
      · next hupper =>
        cases hk
        exact hupper
      · cases hk

theorem multiple?_ne_none {i : Interval} {exponent : Int}
    (hlower : i.holds (Nat.pow 10 (-exponent).toNat)
      (i.value * Nat.pow 10 (-exponent).toNat / (i.denominator * Nat.pow 10 exponent.toNat) *
        (i.denominator * Nat.pow 10 exponent.toNat)) = true) :
    i.multiple? exponent ≠ none := by
  simp only [multiple?, hlower, Bool.true_and, if_true]
  split <;> simp

/-- There is a multiple of any power of ten that is no more than a unit of the interval. -/
theorem multiple?_ne_none_of_fine {i : Interval} {places : Nat} (hlow : i.low < i.value)
    (hhigh : i.value < i.high) (hunit : 0 < i.denominator)
    (hfine : i.denominator ≤ 10 ^ places) : i.multiple? (-places) ≠ none := by
  -- The multiple next below the value is less than a unit away from it, and a unit times the factor
  -- is what the interval has at least below its value.
  apply multiple?_ne_none
  have hstep : Nat.pow 10 (-places : Int).toNat = 1 := by
    rw [show (-places : Int).toNat = 0 by omega]
  rw [Int.neg_neg, Int.toNat_natCast, Nat.pow_eq, hstep, Nat.mul_one]
  generalize 10 ^ places = factor at hfine
  have hbelow : i.low * factor + factor ≤ i.value * factor := by
    rw [← Nat.succ_mul]
    exact Nat.mul_le_mul_right factor hlow
  have habove : i.value * factor < i.high * factor :=
    Nat.mul_lt_mul_of_pos_right hhigh (Nat.lt_of_lt_of_le hunit hfine)
  have hover : i.value * factor < i.value * factor / i.denominator * i.denominator +
      i.denominator := Nat.lt_div_mul_add hunit
  have hunder := Nat.div_mul_le_self (i.value * factor) i.denominator
  have hinside : i.low * factor < i.value * factor / i.denominator * i.denominator ∧
      i.value * factor / i.denominator * i.denominator < i.high * factor := by
    omega
  rw [holds]
  split
  · simp [hinside.1.le, hinside.2.le]
  · simp [hinside]

/-- The search ends inside the interval if there is a multiple at any exponent that it reaches. -/
theorem coarsest_contains {i : Interval} {fuel : Nat} {exponent : Int}
    (hreached : ∃ j : Nat, j < fuel ∧ i.multiple? (exponent - j) ≠ none) :
    i.Contains (scaled (i.coarsest fuel exponent)) := by
  induction fuel generalizing exponent with
  | zero =>
      obtain ⟨j, hj, _⟩ := hreached
      omega
  | succ fuel ih =>
      rw [coarsest]
      split
      · next k hk => exact multiple?_contains hk
      · next hnone =>
        obtain ⟨j, hj, hsome⟩ := hreached
        cases j with
        | zero =>
            rw [Int.natCast_zero, Int.sub_zero] at hsome
            exact absurd hnone hsome
        | succ j =>
            refine ih ⟨j, by omega, ?_⟩
            rwa [show exponent - 1 - (j : Int) = exponent - (j + 1 : Nat) by omega]

end Interval

/-- Four times the least real that rounds to a number, in units of its last place. -/
def lowEnd (significand : Nat) (exponent : Int) : Nat :=
  4 * significand - if significand = 1 <<< 52 ∧ -1074 < exponent then 1 else 2

/-- Whether a rational number rounds to a significand with its power of two. A number halfway
between two of them rounds to the one with the even significand. -/
def RoundsTo (significand : Nat) (exponent : Int) (q : ℚ) : Prop :=
  lowEnd significand exponent * (2 : ℚ) ^ exponent ≤ 4 * q ∧
    4 * q ≤ (4 * significand + 2 : Nat) * (2 : ℚ) ^ exponent ∧
    (significand % 2 = 1 → lowEnd significand exponent * (2 : ℚ) ^ exponent < 4 * q ∧
      4 * q < (4 * significand + 2 : Nat) * (2 : ℚ) ^ exponent)

theorem roundsTo_iff (significand : Nat) (exponent : Int) (q : ℚ) :
    RoundsTo significand exponent q ↔ (Interval.of significand exponent).Contains q := by
  have hplace : (0 : ℚ) < (2 ^ (-exponent).toNat : Nat) := by positivity
  have hend (n : Nat) : n * (2 : ℚ) ^ exponent * (2 ^ (-exponent).toNat : Nat) =
      (n <<< exponent.toNat : Nat) := by
    rw [Nat.shiftLeft_eq]
    push_cast
    rw [mul_assoc, zpow_mul_pow_toNat (by norm_num)]
  have hpoint : (4 : ℚ) * q * (2 ^ (-exponent).toNat : Nat) =
      q * (4 <<< (-exponent).toNat : Nat) := by
    rw [Nat.shiftLeft_eq]
    push_cast
    ring
  have hleft (n : Nat) : n * (2 : ℚ) ^ exponent ≤ 4 * q ↔
      ((n <<< exponent.toNat : Nat) : ℚ) ≤ q * (4 <<< (-exponent).toNat : Nat) := by
    rw [← mul_le_mul_iff_left₀ hplace, hend, hpoint]
  have hright (n : Nat) : 4 * q ≤ n * (2 : ℚ) ^ exponent ↔
      q * (4 <<< (-exponent).toNat : Nat) ≤ ((n <<< exponent.toNat : Nat) : ℚ) := by
    rw [← mul_le_mul_iff_left₀ hplace, hend, hpoint]
  simp only [RoundsTo, Interval.Contains, Interval.of, ← not_le, hleft, hright, lowEnd]
  simp

theorem denominator_le {significand : Nat} {exponent : Int}
    (hcanonical : Canonical significand exponent) :
    (Interval.of significand exponent).denominator ≤ 10 ^ 390 := by
  have hplace : (-exponent).toNat ≤ 1074 := by
    have hleast := hcanonical.2.1
    omega
  calc (Interval.of significand exponent).denominator
      = 4 * 2 ^ (-exponent).toNat := Nat.shiftLeft_eq _ _
    _ ≤ 4 * 2 ^ 1074 := Nat.mul_le_mul_left 4 (Nat.pow_le_pow_right (by decide) hplace)
    _ ≤ 10 ^ 390 := by decide +kernel

theorem shortest_roundsTo {significand : Nat} {exponent : Int}
    (hcanonical : Canonical significand exponent) :
    RoundsTo significand exponent (scaled (shortest significand exponent)) := by
  rw [shortest]
  split
  · next hzero =>
    subst hzero
    simp [RoundsTo, lowEnd, scaled]
    positivity
  · next hsome =>
    rw [roundsTo_iff]
    apply Interval.coarsest_contains
    -- At its last exponent the search has come down to units that are finer than any interval.
    have hlast : (309 : Int) - (699 : Nat) = -(390 : Nat) := by decide
    refine ⟨699, by decide, ?_⟩
    rw [hlast]
    refine Interval.multiple?_ne_none_of_fine ?_ ?_ ?_ (denominator_le hcanonical)
    · simp only [Interval.of, Nat.shiftLeft_eq]
      refine Nat.mul_lt_mul_of_pos_right ?_ (by positivity)
      split <;> omega
    · simp only [Interval.of, Nat.shiftLeft_eq]
      exact Nat.mul_lt_mul_of_pos_right (by omega) (by positivity)
    · simp only [Interval.of, Nat.shiftLeft_eq]
      positivity

/-- Of two numbers in canonical form, all that rounds to the lesser lies below all that rounds to
the greater, but for a number halfway between them. -/
theorem ends_ordered {m n : Nat} {e f : Int} (hm : Canonical m e) (hn : Canonical n f)
    (hless : e < f ∨ e = f ∧ m < n) :
    ((4 * m + 2 : Nat) : ℚ) * 2 ^ e ≤ lowEnd n f * 2 ^ f ∧
      (m % 2 = 0 → n % 2 = 0 → ((4 * m + 2 : Nat) : ℚ) * 2 ^ e < lowEnd n f * 2 ^ f) := by
  have hplace : (0 : ℚ) < 2 ^ e := by positivity
  obtain ⟨hmost, hleast, -, -⟩ := hm
  obtain ⟨-, -, -, hfull⟩ := hn
  have hwidth : (1 <<< 53 : Nat) = 2 * 1 <<< 52 := rfl
  rcases hless with hless | ⟨rfl, hless⟩
  · -- The greater number has all its bits, and its places are at least twice as wide.
    have hends : 4 * m + 2 ≤ lowEnd n f * 2 ∧ (m % 2 = 0 → 4 * m + 2 < lowEnd n f * 2) := by
      unfold lowEnd
      split <;> omega
    have hdouble : (lowEnd n f * 2 : Nat) * (2 : ℚ) ^ e ≤ lowEnd n f * 2 ^ f := by
      have hwide : (2 : ℚ) * 2 ^ e ≤ 2 ^ f := by
        rw [← zpow_one_add₀ (by norm_num)]
        exact zpow_le_zpow_right₀ (by norm_num) (by omega)
      rw [Nat.cast_mul, mul_assoc]
      exact mul_le_mul_of_nonneg_left hwide (Nat.cast_nonneg _)
    refine ⟨?_, fun heven _ => ?_⟩
    · exact le_trans (mul_le_mul_of_nonneg_right (Nat.cast_le.mpr hends.1) hplace.le) hdouble
    · exact lt_of_lt_of_le (mul_lt_mul_of_pos_right (Nat.cast_lt.mpr (hends.2 heven)) hplace)
        hdouble
  · have hends : 4 * m + 2 ≤ lowEnd n e ∧
        (m % 2 = 0 → n % 2 = 0 → 4 * m + 2 < lowEnd n e) := by
      unfold lowEnd
      split <;> omega
    refine ⟨?_, fun hm hn => ?_⟩
    · exact mul_le_mul_of_nonneg_right (Nat.cast_le.mpr hends.1) hplace.le
    · exact mul_lt_mul_of_pos_right (Nat.cast_lt.mpr (hends.2 hm hn)) hplace

theorem not_roundsTo_of_less {m n : Nat} {e f : Int} {q : ℚ} (hm : Canonical m e)
    (hn : Canonical n f) (hless : e < f ∨ e = f ∧ m < n) (hlower : RoundsTo m e q) :
    ¬ RoundsTo n f q := by
  intro hupper
  obtain ⟨hordered, hstrict⟩ := ends_ordered hm hn hless
  obtain ⟨-, hbelow, hopen⟩ := hlower
  obtain ⟨habove, -, hopen'⟩ := hupper
  rcases Nat.mod_two_eq_zero_or_one m with heven | hodd
  · rcases Nat.mod_two_eq_zero_or_one n with heven' | hodd'
    · linarith [hstrict heven heven']
    · linarith [(hopen' hodd').1]
  · linarith [(hopen hodd).2]

/-- No rational number rounds to two numbers. -/
theorem eq_of_roundsTo {m n : Nat} {e f : Int} {q : ℚ} (hm : Canonical m e)
    (hn : Canonical n f) (hrounds : RoundsTo m e q) (hrounds' : RoundsTo n f q) :
    m = n ∧ e = f := by
  rcases lt_trichotomy e f with hless | heq | hgreater
  · exact absurd hrounds' (not_roundsTo_of_less hm hn (Or.inl hless) hrounds)
  · rcases lt_trichotomy m n with hless | hsame | hgreater
    · exact absurd hrounds' (not_roundsTo_of_less hm hn (Or.inr ⟨heq, hless⟩) hrounds)
    · exact ⟨hsame, heq⟩
    · exact absurd hrounds (not_roundsTo_of_less hn hm (Or.inr ⟨heq.symm, hgreater⟩) hrounds')
  · exact absurd hrounds (not_roundsTo_of_less hn hm (Or.inl hgreater) hrounds')

/-- The decimal that a number is laid out as rounds to it and to no other. -/
theorem shortest_layOut_inj {m n : Nat} {e f : Int} (hm : Canonical m e) (hn : Canonical n f)
    (hsame : layOut (shortest m e).1 (shortest m e).2 =
      layOut (shortest n f).1 (shortest n f).2) : m = n ∧ e = f := by
  obtain ⟨d, hparts, hvalue⟩ := layOut_value (shortest m e).1 (shortest m e).2
  obtain ⟨d', hparts', hvalue'⟩ := layOut_value (shortest n f).1 (shortest n f).2
  -- One text is read as one decimal, so one rational number rounds to both.
  have hread : d = d' := by
    rw [hsame, hparts'] at hparts
    exact (Option.some.inj hparts).symm
  have hpoint : scaled (shortest m e) = scaled (shortest n f) :=
    hvalue.symm.trans (hread ▸ hvalue')
  exact eq_of_roundsTo hm hn (shortest_roundsTo hm) (hpoint ▸ shortest_roundsTo hn)

/-- What is laid out does not start with a sign, so a text shows whether it was given one. -/
theorem signed_inj {s t : List Char} (hs : Unsigned s) (ht : Unsigned t) {p q : Bool} :
    (if p then ['-'] else []) ++ s = (if q then ['-'] else []) ++ t ↔ p = q ∧ s = t := by
  have hunsigned {s : List Char} (hs : Unsigned s) (rest : List Char) : s ≠ '-' :: rest := by
    obtain ⟨c, digits, rfl, hc⟩ := hs.starts
    rintro ⟨⟩
    exact absurd hc (by decide)
  cases p with
  | true =>
      cases q with
      | true => simp
      | false => simpa using (hunsigned ht s).symm
  | false =>
      cases q with
      | true => simpa using hunsigned hs t
      | false => simp

theorem render_finite_inj {p q : Bool} {m n : Nat} {e f : Int} (hm : Canonical m e)
    (hn : Canonical n f) :
    render (.finite p m e hm) = render (.finite q n f hn) ↔
      Binary64.finite p m e hm = .finite q n f hn := by
  constructor
  · intro hsame
    simp only [render, String.ofList_inj, signed_inj (layOut_unsigned _ _) (layOut_unsigned _ _)]
      at hsame
    obtain ⟨rfl, hlaid⟩ := hsame
    obtain ⟨rfl, rfl⟩ := shortest_layOut_inj hm hn hlaid
    rfl
  · intro hsame
    rw [hsame]

end JuliaBlocks.Binary64
