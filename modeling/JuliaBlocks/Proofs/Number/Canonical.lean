import JuliaBlocks.Proofs.Number.Overlong
import Mathlib.Algebra.Ring.Nat

/-!
Numerals and the integers that they denote. A numeral is a sign, if any, and digits, with zeros in
front of them or without. Of all the numerals of one integer just one is canonical, and this is the
text of the integer. Main statements: `readPlain?_integer_iff` and `canonical_iff`.
-/

namespace JuliaBlocks.Numeral

/-- The number that digits denote: each of them counts ten times as much as the one behind it. -/
def placeValue : List Char → Nat
  | [] => 0
  | c :: rest => (c.toNat - '0'.toNat) * 10 ^ rest.length + placeValue rest

/-- Whether characters are the digits of a numeral: at least one, and no more than are read. -/
structure AreDigits (s : List Char) : Prop where
  nonempty : s ≠ []
  digits : ∀ c ∈ s, c.isDigit = true
  few : s.length ≤ digitLimit

/-- Which integer a numeral denotes. The sign may be left out, and zeros may stand in front. -/
inductive Denotes : List Char → Int → Prop
  | unsigned {digits : List Char} (hdigits : AreDigits digits) : Denotes digits (placeValue digits)
  | plus {digits : List Char} (hdigits : AreDigits digits) :
      Denotes ('+' :: digits) (placeValue digits)
  | minus {digits : List Char} (hdigits : AreDigits digits) :
      Denotes ('-' :: digits) (-(placeValue digits : Int))

/-- The canonical form of a numeral: no plus sign, no zero in front of other digits, and no minus
sign in front of a zero. -/
structure IsCanonical (s : List Char) : Prop where
  noPlus : ∀ rest, s ≠ '+' :: rest
  noLeadingZero : ∀ rest, s = '0' :: rest → rest = []
  noNegativeZero : ∀ rest, s ≠ '-' :: '0' :: rest

/-- Places are counted from the end, but digits are read from the front. -/
theorem placeValue_eq (s : List Char) : placeValue s = Nat.ofDigitChars 10 s 0 := by
  induction s with
  | nil => rfl
  | cons c rest ih =>
      rw [placeValue, ih, Nat.ofDigitChars_cons, Nat.mul_zero, Nat.zero_add, Nat.mul_comm]
      exact Nat.ofDigitChars_eq_ofDigitChars_zero.symm

theorem ofDigits_eq_placeValue (s : List Char) :
    ofDigits (s.map fun c => c.toNat - 48) = placeValue s := by
  rw [ofDigits_map, placeValue_eq]

theorem placeValue_toDigits (n : Nat) : placeValue (Nat.toDigits 10 n) = n := by
  rw [placeValue_eq, Nat.ofDigitChars_ten_toDigits]

theorem placeValue_zeros (zeros : Nat) (s : List Char) :
    placeValue (List.replicate zeros '0' ++ s) = placeValue s := by
  rw [placeValue_eq, placeValue_eq, Nat.ofDigitChars_append, Nat.ofDigitChars_replicate_zero,
    Nat.mul_zero]

theorem digit_bounds {c : Char} (hc : c.isDigit = true) : 48 ≤ c.toNat ∧ c.toNat ≤ 57 :=
  Char.isDigit_iff_toNat.mp hc

theorem placeValue_lt {s : List Char} (hs : ∀ c ∈ s, c.isDigit = true) :
    placeValue s < 10 ^ s.length := by
  induction s with
  | nil => decide
  | cons c rest ih =>
      obtain ⟨hc, hrest⟩ := List.forall_mem_cons.mp hs
      have hbounds := digit_bounds hc
      have hvalue : c.toNat - '0'.toNat ≤ 9 := Nat.sub_le_of_le_add hbounds.2
      have hfirst := Nat.mul_le_mul_right (10 ^ rest.length) hvalue
      have htail := ih hrest
      rw [placeValue, List.length_cons, Nat.pow_succ]
      omega

theorem digitChar_toNat {c : Char} (hc : c.isDigit = true) : (c.toNat - 48).digitChar = c := by
  have hbounds := digit_bounds hc
  apply Char.toNat_inj.mp
  rw [Nat.toNat_digitChar_of_lt_ten (by omega)]
  omega

/-- Digits that are read on behind a number that is not zero come behind the digits of that
number. -/
theorem toDigits_ofDigitChars {n : Nat} (hn : 0 < n) {s : List Char}
    (hs : ∀ c ∈ s, c.isDigit = true) :
    Nat.toDigits 10 (Nat.ofDigitChars 10 s n) = Nat.toDigits 10 n ++ s := by
  induction s generalizing n with
  | nil => rw [Nat.ofDigitChars_nil, List.append_nil]
  | cons c rest ih =>
      obtain ⟨hc, hrest⟩ := List.forall_mem_cons.mp hs
      have hbounds := digit_bounds hc
      have hvalue : c.toNat - 48 < 10 := by omega
      have hpositive : 0 < 10 * n + (c.toNat - 48) := by omega
      calc Nat.toDigits 10 (Nat.ofDigitChars 10 (c :: rest) n)
          = Nat.toDigits 10 (Nat.ofDigitChars 10 rest (10 * n + (c.toNat - 48))) := by
            rw [Nat.ofDigitChars_cons]
            rfl
        _ = Nat.toDigits 10 (10 * n + (c.toNat - 48)) ++ rest := ih hpositive hrest
        _ = Nat.toDigits 10 n ++ Nat.toDigits 10 (c.toNat - 48) ++ rest := by
            rw [Nat.toDigits_append_toDigits (by decide) hn hvalue]
        _ = Nat.toDigits 10 n ++ c :: rest := by
            rw [Nat.toDigits_of_lt_base hvalue, digitChar_toNat hc, List.append_assoc]
            rfl

/-- Digits without a zero in front of others are those of the number that they denote. -/
theorem toDigits_placeValue {s : List Char} (hs : AreDigits s)
    (hzero : ∀ rest, s = '0' :: rest → rest = []) : Nat.toDigits 10 (placeValue s) = s := by
  cases s with
  | nil => exact absurd rfl hs.nonempty
  | cons c rest =>
      by_cases hc : c = '0'
      · subst hc
        rw [hzero rest rfl]
        rfl
      · obtain ⟨hdigit, hrest⟩ := List.forall_mem_cons.mp hs.digits
        have hbounds := digit_bounds hdigit
        have hne : c.toNat ≠ 48 := fun heq => hc (Char.toNat_inj.mp heq)
        have hpositive : 0 < c.toNat - 48 := by omega
        have hvalue : c.toNat - 48 < 10 := by omega
        rw [placeValue_eq, Nat.ofDigitChars_cons, Nat.mul_zero, Nat.zero_add]
        refine (toDigits_ofDigitChars hpositive hrest).trans ?_
        rw [Nat.toDigits_of_lt_base hvalue, digitChar_toNat hdigit]
        rfl

/-- No digits but those of zero start with a zero: behind it there are too few for the length. -/
theorem eq_nil_of_toDigits_eq {n : Nat} {rest : List Char}
    (hn : Nat.toDigits 10 n = '0' :: rest) : rest = [] := by
  by_contra hrest
  have hdigits : ∀ c ∈ rest, c.isDigit = true := by
    intro c hc
    exact isDigit_of_mem_digits (n := n) (hn ▸ List.mem_cons_of_mem _ hc)
  have hvalue : n < 10 ^ rest.length := by
    have hplaces := placeValue_toDigits n
    rw [hn, show placeValue ('0' :: rest) = placeValue rest from placeValue_zeros 1 rest] at hplaces
    exact hplaces ▸ placeValue_lt hdigits
  have hlength : (Nat.toDigits 10 n).length ≤ rest.length :=
    (Nat.length_toDigits_le_iff (by decide) (List.length_pos_iff.mpr hrest)).mpr hvalue
  rw [hn, List.length_cons] at hlength
  omega

theorem length_toDigits_le_digitLimit_iff (n : Nat) :
    (Nat.toDigits 10 n).length ≤ digitLimit ↔ n < 10 ^ digitLimit :=
  Nat.length_toDigits_le_iff (by decide) (by decide)

theorem AreDigits.placeValue_lt {s : List Char} (hs : AreDigits s) :
    placeValue s < 10 ^ digitLimit :=
  Nat.lt_of_lt_of_le (Numeral.placeValue_lt hs.digits) (Nat.pow_le_pow_right (by decide) hs.few)

theorem areDigits_toDigits {n : Nat} (hn : n < 10 ^ digitLimit) :
    AreDigits (Nat.toDigits 10 n) where
  nonempty := Nat.toDigits_ne_nil
  digits _ hc := isDigit_of_mem_digits hc
  few := (length_toDigits_le_digitLimit_iff n).mpr hn

theorem Denotes.natAbs_lt {s : List Char} {n : Int} (hs : Denotes s n) :
    n.natAbs < 10 ^ digitLimit := by
  cases hs with
  | unsigned hdigits => simpa using hdigits.placeValue_lt
  | plus hdigits => simpa using hdigits.placeValue_lt
  | minus hdigits => simpa using hdigits.placeValue_lt

/-- What a text denotes is told by the digits behind its sign. -/
theorem denotes_iff {s digits : List Char} {negative : Bool} {n : Int}
    (hs : takeSign s = (negative, digits)) :
    Denotes s n ↔ AreDigits digits ∧
      (if negative then -(placeValue digits : Int) else placeValue digits) = n := by
  constructor
  · intro hn
    cases hn with
    | unsigned hdigits =>
        obtain ⟨c, rest, rfl⟩ := List.exists_cons_of_ne_nil hdigits.nonempty
        rw [takeSign_of_isDigit rest (hdigits.digits c List.mem_cons_self)] at hs
        cases hs
        exact ⟨hdigits, rfl⟩
    | plus hdigits =>
        cases hs
        exact ⟨hdigits, rfl⟩
    | minus hdigits =>
        cases hs
        exact ⟨hdigits, rfl⟩
  · rintro ⟨hdigits, rfl⟩
    unfold takeSign at hs
    split at hs
    · cases hs
      exact .minus hdigits
    · cases hs
      exact .plus hdigits
    · cases hs
      exact .unsigned hdigits

theorem Denotes.ne_nil {s : List Char} {n : Int} (hs : Denotes s n) : s ≠ [] := by
  cases hs with
  | unsigned hdigits => exact hdigits.nonempty
  | plus hdigits => exact List.cons_ne_nil _ _
  | minus hdigits => exact List.cons_ne_nil _ _

theorem Denotes.plain {s : List Char} {n : Int} (hs : Denotes s n) :
    ∀ c ∈ s, c = '+' ∨ c = '-' ∨ c.isDigit = true :=
  plain_of_takeSign ((denotes_iff (Prod.eta _).symm).mp hs).1.digits

theorem Denotes.dropFinalNewline {s : List Char} {n : Int} (hs : Denotes s n) :
    Text.dropFinalNewline s = s := by
  rw [Text.dropFinalNewline, if_neg]
  intro hlast
  have hplain := hs.plain '\n' (List.mem_of_mem_getLast? hlast)
  revert hplain
  decide

theorem ofSignedDigits_eq_integer_iff (negative : Bool) (digits : List Char) (n : Int) :
    ofSignedDigits negative (digits.map fun c => c.toNat - 48) = .integer n ↔
      digits.length ≤ digitLimit ∧
        (if negative then -(placeValue digits : Int) else placeValue digits) = n := by
  unfold ofSignedDigits
  rw [List.length_map, ofDigits_eq_placeValue]
  split
  · next hfew => simp [hfew]
  · next hmany => simp [hmany]

/-- A text is read as the integer that it denotes, a final line feed put aside, and as no other. -/
theorem readPlain?_integer_iff {s : List Char} {n : Int} :
    readPlain? s = some (.integer n) ↔ Denotes (Text.dropFinalNewline s) n := by
  rcases hs : takeSign (Text.dropFinalNewline s) with ⟨negative, digits⟩
  rw [readPlain?_eq_some_iff hs, denotes_iff hs, ofSignedDigits_eq_integer_iff]
  constructor
  · rintro ⟨hnonempty, hdigits, hfew, hn⟩
    exact ⟨⟨hnonempty, hdigits, hfew⟩, hn⟩
  · rintro ⟨⟨hnonempty, hdigits, hfew⟩, hn⟩
    exact ⟨hnonempty, hdigits, hfew, hn⟩

theorem denotes_render {n : Int} (hn : n.natAbs < 10 ^ digitLimit) :
    Denotes (render n).toList n := by
  rw [denotes_iff (takeSign_render n), placeValue_toDigits]
  refine ⟨areDigits_toDigits hn, ?_⟩
  simp only [decide_eq_true_eq]
  split <;> omega

theorem isCanonical_render (n : Int) : IsCanonical (render n).toList := by
  rw [toList_render]
  by_cases hneg : n < 0
  · rw [if_pos hneg, List.singleton_append]
    refine ⟨by rintro rest ⟨⟩, by rintro rest ⟨⟩, ?_⟩
    intro rest heq
    have hdigits : Nat.toDigits 10 n.natAbs = '0' :: rest := List.cons_injective heq
    have hvalue := placeValue_toDigits n.natAbs
    rw [hdigits, eq_nil_of_toDigits_eq hdigits, show placeValue ['0'] = 0 from rfl] at hvalue
    omega
  · have hsign {c : Char} {rest : List Char} (hdigit : c.isDigit = false) :
        Nat.toDigits 10 n.natAbs ≠ c :: rest := by
      intro heq
      rw [isDigit_of_mem_digits (n := n.natAbs) (heq ▸ List.mem_cons_self)] at hdigit
      cases hdigit
    rw [if_neg hneg, List.nil_append]
    exact ⟨fun _ => hsign rfl, fun _ => eq_nil_of_toDigits_eq, fun _ => hsign rfl⟩

theorem IsCanonical.eq_render {s : List Char} {n : Int} (hs : IsCanonical s) (hn : Denotes s n) :
    s = (render n).toList := by
  rw [toList_render]
  cases hn with
  | unsigned hdigits =>
      have hshown : Nat.toDigits 10 (placeValue s) = s :=
        toDigits_placeValue hdigits hs.noLeadingZero
      rw [if_neg (by omega), Int.natAbs_natCast, hshown, List.nil_append]
  | @plus digits hdigits => exact absurd rfl (hs.noPlus digits)
  | @minus digits hdigits =>
      have hfirst (rest : List Char) : digits ≠ '0' :: rest := by
        rintro rfl
        exact hs.noNegativeZero rest rfl
      have hshown : Nat.toDigits 10 (placeValue digits) = digits :=
        toDigits_placeValue hdigits fun rest heq => absurd heq (hfirst rest)
      -- Behind a minus sign no digits denote zero, since the only ones left are those of zero itself.
      have hpositive : 0 < placeValue digits := by
        rw [Nat.pos_iff_ne_zero]
        intro hzero
        rw [hzero] at hshown
        exact hfirst [] hshown.symm
      rw [if_pos (by omega), Int.natAbs_neg, Int.natAbs_natCast, hshown, List.singleton_append]

/-- The text of an integer is the one canonical numeral that denotes it. -/
theorem canonical_iff {n : Int} (hn : n.natAbs < 10 ^ digitLimit) (s : List Char) :
    IsCanonical s ∧ Denotes s n ↔ s = (render n).toList := by
  constructor
  · rintro ⟨hcanonical, hdenotes⟩
    exact hcanonical.eq_render hdenotes
  · rintro rfl
    exact ⟨isCanonical_render n, denotes_render hn⟩

end JuliaBlocks.Numeral
