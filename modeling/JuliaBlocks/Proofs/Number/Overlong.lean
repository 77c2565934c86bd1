import JuliaBlocks.Proofs.Number.Word
import JuliaBlocks.Proofs.Text.Blank

/-!
How plain integers are read, and which of them have so many digits that they are refused. Main
statements: `readPlain?_eq_some_iff` and `readPlain?_tooLong_iff`.
-/

namespace JuliaBlocks.Numeral

/-- Whether a text is a plain integer with more digits than are read. -/
def Overlong (s : List Char) : Prop :=
  ∃ sign ∈ signs, ∃ digits : List Char, s = sign ++ digits ∧ (∀ c ∈ digits, c.isDigit = true) ∧
    digitLimit < digits.length

/-- A sign and digits are the only characters of a text that has nothing but digits behind its
sign. -/
theorem plain_of_takeSign {s : List Char} (hs : ∀ c ∈ (takeSign s).2, c.isDigit = true) :
    ∀ c ∈ s, c = '+' ∨ c = '-' ∨ c.isDigit = true := by
  obtain ⟨sign, hsign, happend⟩ := takeSign_eq_append s
  intro c hc
  rw [happend] at hc
  rcases List.mem_append.mp hc with hc | hc
  · exact (mem_sign hsign hc).imp_right Or.inl
  · exact Or.inr (Or.inr (hs c hc))

/-- The characters behind the sign are the digits of what is read, and all of them have to be
digits. -/
theorem readPlain?_eq_some_iff {s digits : List Char} {negative : Bool} {reading : Reading}
    (hs : takeSign (Text.dropFinalNewline s) = (negative, digits)) :
    readPlain? s = some reading ↔ digits ≠ [] ∧ (∀ c ∈ digits, c.isDigit = true) ∧
      ofSignedDigits negative (digits.map fun c => c.toNat - 48) = reading := by
  simp only [readPlain?, hs, Option.ite_none_left_eq_some, List.isEmpty_iff]
  refine and_congr_right fun _ => ?_
  constructor
  · intro hread
    obtain ⟨values, hvalues, hread⟩ := Option.map_eq_some_iff.mp hread
    have hdigits : ∀ c ∈ digits, c.isDigit = true := by
      intro c hc
      by_contra hdigit
      rw [mapM_asciiDigit?_eq_none hc (Bool.not_eq_true _ ▸ hdigit)] at hvalues
      cases hvalues
    rw [mapM_asciiDigit? _ hdigits, Option.some.injEq] at hvalues
    exact ⟨hdigits, hvalues ▸ hread⟩
  · rintro ⟨hdigits, hread⟩
    rw [mapM_asciiDigit? _ hdigits, Option.map_some, hread]

theorem ofSignedDigits_eq_tooLong_iff (negative : Bool) (digits : List Nat) (count : Nat) :
    ofSignedDigits negative digits = .tooLong count ↔
      digitLimit < digits.length ∧ digits.length = count := by
  unfold ofSignedDigits
  split
  · next hfew => simp [Nat.not_lt_of_le hfew]
  · next hmany => simp [Nat.lt_of_not_le hmany]

theorem overlong_iff (s : List Char) :
    Overlong s ↔ (∀ c ∈ (takeSign s).2, c.isDigit = true) ∧
      digitLimit < (takeSign s).2.length := by
  constructor
  · rintro ⟨sign, hsign, digits, rfl, hdigits, hlength⟩
    have hrest : (takeSign (sign ++ digits)).2 = digits := by
      apply takeSign_append hsign
      intro c hc
      have hdigit := hdigits c (List.mem_of_mem_head? hc)
      constructor <;> rintro rfl <;> exact absurd hdigit (by decide)
    rw [hrest]
    exact ⟨hdigits, hlength⟩
  · rintro ⟨hdigits, hlength⟩
    obtain ⟨sign, hsign, happend⟩ := takeSign_eq_append s
    exact ⟨sign, hsign, _, happend, hdigits, hlength⟩

theorem Overlong.plain {s : List Char} (hs : Overlong s) :
    ∀ c ∈ s, c = '+' ∨ c = '-' ∨ c.isDigit = true :=
  plain_of_takeSign ((overlong_iff s).mp hs).1

/-- The plain integers that are refused, blanks around them put aside, are those that are too
long. -/
theorem readPlain?_tooLong_iff {s : List Char} (hs : Text.Stripped Text.isBlank s) :
    (∃ digits, readPlain? s = some (.tooLong digits)) ↔ Overlong s := by
  have hwhole : Text.dropFinalNewline s = s := by
    rw [Text.dropFinalNewline, if_neg]
    intro hlast
    exact absurd (hs.last _ hlast) (by decide)
  have hsign : takeSign (Text.dropFinalNewline s) = takeSign s := congrArg takeSign hwhole
  simp only [readPlain?_eq_some_iff hsign, overlong_iff, ofSignedDigits_eq_tooLong_iff,
    List.length_map]
  constructor
  · rintro ⟨count, _, hdigits, hlength, _⟩
    exact ⟨hdigits, hlength⟩
  · rintro ⟨hdigits, hlength⟩
    exact ⟨_, List.ne_nil_of_length_pos (Nat.zero_lt_of_lt hlength), hdigits, hlength, rfl⟩

end JuliaBlocks.Numeral
