import JuliaBlocks.Number.Decimal
import JuliaBlocks.Proofs.Number.Word
import JuliaBlocks.Proofs.Text.Blank
import Mathlib.Tactic.SplitIfs

/-!
Which texts are read as what is no number: those that name it, and no numeral, however large or
small the number that it denotes. Main statement: `read?_eq_nan_iff`.
-/

namespace JuliaBlocks

namespace Binary64

theorem ofParts_ne_nan (negative : Bool) (significand : Nat) (exponent : Int) :
    ofParts negative significand exponent ≠ .nan := by
  unfold ofParts
  split
  · rintro ⟨⟩
  · rintro ⟨⟩

theorem ofFraction_ne_nan (negative : Bool) (numerator denominator : Nat) :
    ofFraction negative numerator denominator ≠ .nan := by
  unfold ofFraction
  dsimp only
  split_ifs
  · rintro ⟨⟩
  all_goals exact ofParts_ne_nan _ _ _

theorem ofDecimal_ne_nan (negative : Bool) (coefficient : Nat) (exponent : Int) :
    ofDecimal negative coefficient exponent ≠ .nan := by
  unfold ofDecimal
  dsimp only
  split_ifs
  · rintro ⟨⟩
  · rintro ⟨⟩
  · exact ofFraction_ne_nan _ _ _

/-- A number that is not at most zero is greater than zero, if it is a number. -/
theorem isPositive_iff_ne_nan {x : Binary64} (hx : x.isNonpositive = false) :
    x.isPositive = true ↔ x ≠ .nan := by
  cases x with
  | nan => simp [isPositive]
  | infinity negative => simpa [isPositive, isNonpositive] using hx
  | finite negative significand exponent canonical =>
      simpa [isPositive, isNonpositive] using hx

end Binary64

namespace Decimal

/-- Whether a text is the name of what is no number, with a sign or none and in either case. -/
def NamesNan (s : List Char) : Prop :=
  ∃ sign ∈ Numeral.signs, ∃ name, s = sign ++ name ∧ name.map Char.toLower = ['n', 'a', 'n']

theorem toLower_of_isSpace {c : Char} (hc : Text.isSpace c = true) : c.toLower = c := by
  unfold Char.toLower
  split
  · next hupper =>
    have hlow : 65 ≤ c.toNat := hupper.1
    have hhigh : c.toNat ≤ 90 := hupper.2
    simp only [Text.isSpace, Bool.or_eq_true, Bool.and_eq_true, decide_eq_true_eq, beq_iff_eq] at hc
    omega
  · rfl

/-- Neither white space nor an underscore stands in a name. -/
theorem NamesNan.plain {s : List Char} (hs : NamesNan s) :
    ∀ c ∈ s, Text.isSpace c = false ∧ c ≠ '_' := by
  obtain ⟨sign, hsign, name, rfl, hname⟩ := hs
  intro c hc
  rcases List.mem_append.mp hc with hc | hc
  · rcases Numeral.mem_sign hsign hc with rfl | rfl <;> decide
  · have hlower : c.toLower ∈ ['n', 'a', 'n'] := hname ▸ List.mem_map_of_mem hc
    constructor
    · rw [← Bool.not_eq_true]
      intro hspace
      rw [toLower_of_isSpace hspace] at hlower
      simp only [List.mem_cons, List.not_mem_nil, or_false] at hlower
      rcases hlower with rfl | rfl | rfl <;> cases hspace
    · rintro rfl
      exact absurd hlower (by decide)

theorem NamesNan.stripped {s : List Char} (hs : NamesNan s) : Text.Stripped Text.isSpace s :=
  .of_none fun c hc => (hs.plain c hc).1

/-- What is a name behind its sign is a name with one. -/
theorem namesNan_iff (s : List Char) :
    NamesNan s ↔ (Numeral.takeSign s).2.map Char.toLower = ['n', 'a', 'n'] := by
  constructor
  · rintro ⟨sign, hsign, name, rfl, hname⟩
    rw [Numeral.takeSign_append hsign, hname]
    intro c hc
    have hlower : c.toLower ∈ ['n', 'a', 'n'] :=
      hname ▸ List.mem_map_of_mem (List.mem_of_mem_head? hc)
    constructor <;> rintro rfl <;> exact absurd hlower (by decide)
  · intro hname
    obtain ⟨sign, hsign, happend⟩ := Numeral.takeSign_eq_append s
    exact ⟨sign, hsign, _, happend, hname⟩

theorem readUnsigned?_ne_nan (negative : Bool) (s : List Char) :
    readUnsigned? negative s ≠ some .nan := by
  intro hread
  simp only [readUnsigned?, Option.ite_none_left_eq_some] at hread
  obtain ⟨_, hread⟩ := hread
  split at hread
  · exact Binary64.ofDecimal_ne_nan _ _ _ (Option.some.inj hread)
  · cases hread

theorem read?_eq_nan_iff (s : List Char) :
    read? s = some .nan ↔ NamesNan (Text.stripWhile Text.isSpace s) := by
  rw [namesNan_iff]
  unfold read?
  generalize Numeral.takeSign (Text.stripWhile Text.isSpace s) = signed
  obtain ⟨negative, rest⟩ := signed
  dsimp only
  have hname : rest.map Char.toLower = ['n', 'a', 'n'] ↔
      String.ofList (rest.map Char.toLower) = "nan" := by
    rw [← String.toList_inj, String.toList_ofList]
    exact Iff.rfl
  rw [hname]
  split
  · next hinfinite => simp [hinfinite]
  · next hinfinite => simp [hinfinite]
  · next hnan => simp [hnan]
  · next hnan =>
    refine iff_of_false ?_ hnan
    intro hread
    obtain ⟨digits, _, hread⟩ := Option.bind_eq_some_iff.mp hread
    exact readUnsigned?_ne_nan negative digits hread

end Decimal

end JuliaBlocks
