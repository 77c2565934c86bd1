import JuliaBlocks.Julia.Identifier
import JuliaBlocks.Text.Blank
import Mathlib.Data.List.Basic

/-!
Which names variables may have. An identifier as a whole is one, and so is a word of that form with
one line feed behind it, even a reserved word, since those are compared with the whole name. Main
statement: `isIdentifier_iff`.
-/

namespace JuliaBlocks.Julia

/-- Whether a name is an identifier as a whole, and no reserved word. -/
def IsWholeIdentifier (name : String) : Prop :=
  hasIdentifierForm name.toList = true ∧ name ∉ reservedWords

/-- Whether a name is a word of the form of an identifier with one line feed behind it. -/
def IsIdentifierLine (name : String) : Prop :=
  ∃ word : String, hasIdentifierForm word.toList = true ∧ name = word ++ "\n"

/-- Whether a variable may have a name. -/
def Nameable (name : String) : Prop :=
  IsWholeIdentifier name ∨ IsIdentifierLine name

theorem newline_not_mem_of_reserved {word : String} (hreserved : word ∈ reservedWords) :
    '\n' ∉ word.toList := by
  have hall : reservedWords.all (fun word => !word.toList.contains '\n') = true := by decide
  simpa using List.all_eq_true.mp hall word hreserved

/-- What stands in an identifier is visible, and so it is never stripped off. -/
theorem not_isBlank_of_isIdentifierRest {c : Char} (hc : isIdentifierRest c = true) :
    Text.isBlank c = false := by
  have hvisible : 33 ≤ c.toNat ∧ c.toNat ≤ 122 := by
    simp only [isIdentifierRest, Char.isAlphanum, Char.isDigit, Bool.or_eq_true, Bool.and_eq_true,
      decide_eq_true_eq, beq_iff_eq] at hc
    rcases hc with ((hletter | ⟨hfrom, huntil⟩) | rfl) | rfl
    · rcases Bool.or_eq_true_iff.mp hletter with hupper | hlower
      · obtain ⟨hfrom, huntil⟩ := of_decide_eq_true hupper
        exact ⟨Nat.le_trans (by decide) (UInt32.le_iff_toNat_le.mp hfrom),
          Nat.le_trans (UInt32.le_iff_toNat_le.mp huntil) (by decide)⟩
      · obtain ⟨hfrom, huntil⟩ := Bool.and_eq_true_iff.mp hlower
        exact ⟨Nat.le_trans (by decide) (UInt32.le_iff_toNat_le.mp (of_decide_eq_true hfrom)),
          UInt32.le_iff_toNat_le.mp (of_decide_eq_true huntil)⟩
    · exact ⟨Nat.le_trans (by decide) (UInt32.le_iff_toNat_le.mp hfrom),
        Nat.le_trans (UInt32.le_iff_toNat_le.mp huntil) (by decide)⟩
    · decide
    · decide
  rw [← Bool.not_eq_true]
  simp only [Text.isBlank, Text.isSpace, Bool.or_eq_true, Bool.and_eq_true, decide_eq_true_eq,
    beq_iff_eq]
  omega

theorem isIdentifierRest_of_form {word : List Char} (hform : hasIdentifierForm word = true) :
    ∀ c ∈ word, isIdentifierRest c = true := by
  cases word with
  | nil =>
      intro c hc
      exact absurd hc List.not_mem_nil
  | cons first rest =>
      rw [hasIdentifierForm, Bool.and_eq_true, List.all_eq_true] at hform
      obtain ⟨hfirst, hrest⟩ := hform
      intro c hc
      rcases List.mem_cons.mp hc with rfl | hc
      · simp only [isIdentifierStart, Bool.or_eq_true, beq_iff_eq] at hfirst
        simp only [isIdentifierRest, Char.isAlphanum, Bool.or_eq_true, beq_iff_eq]
        rcases hfirst with halpha | hunderscore
        · exact Or.inl (Or.inl (Or.inl halpha))
        · exact Or.inl (Or.inr hunderscore)
      · exact hrest c hc

theorem newline_not_mem_of_form {word : List Char} (hform : hasIdentifierForm word = true) :
    '\n' ∉ word := by
  intro hmem
  exact absurd (isIdentifierRest_of_form hform '\n' hmem) (by decide)

theorem IsWholeIdentifier.all_rest {name : String} (hname : IsWholeIdentifier name) :
    ∀ c ∈ name.toList, isIdentifierRest c = true :=
  isIdentifierRest_of_form hname.1

theorem IsWholeIdentifier.newline_not_mem {name : String} (hname : IsWholeIdentifier name) :
    '\n' ∉ name.toList :=
  newline_not_mem_of_form hname.1

theorem IsIdentifierLine.newline_mem {name : String} (hname : IsIdentifierLine name) :
    '\n' ∈ name.toList := by
  obtain ⟨word, _, rfl⟩ := hname
  simp

theorem IsWholeIdentifier.isIdentifier {name : String} (hname : IsWholeIdentifier name) :
    isIdentifier name = true := by
  have hlast : name.toList.getLast? ≠ some '\n' :=
    fun hlast => hname.newline_not_mem (List.mem_of_getLast? hlast)
  have hwhole : Text.dropFinalNewline name.toList = name.toList := by
    rw [Text.dropFinalNewline, if_neg hlast]
  simp [Julia.isIdentifier, hwhole, hname.1, hname.2]

theorem IsIdentifierLine.isIdentifier {name : String} (hname : IsIdentifierLine name) :
    isIdentifier name = true := by
  have hfree : name ∉ reservedWords :=
    fun hreserved => newline_not_mem_of_reserved hreserved hname.newline_mem
  obtain ⟨word, hform, rfl⟩ := hname
  have hdrop : Text.dropFinalNewline (word ++ "\n").toList = word.toList := by
    simp [Text.dropFinalNewline]
  rw [Julia.isIdentifier, hdrop, hform]
  simpa using hfree

/-- The line feed that may end a name is overlooked for its form and not for the reserved words. -/
theorem isIdentifier_iff (name : String) : isIdentifier name = true ↔ Nameable name := by
  constructor
  · intro hname
    rw [isIdentifier, Bool.and_eq_true, Text.dropFinalNewline] at hname
    obtain ⟨hform, hfree⟩ := hname
    split at hform
    · next hlast =>
      obtain ⟨word, hword⟩ := List.getLast?_eq_some_iff.mp hlast
      rw [hword, List.dropLast_concat] at hform
      refine Or.inr ⟨String.ofList word, ?_, ?_⟩
      · rwa [String.toList_ofList]
      · simp [← String.toList_inj, hword]
    · exact Or.inl ⟨hform, by simpa using hfree⟩
  · rintro (hwhole | hline)
    · exact hwhole.isIdentifier
    · exact hline.isIdentifier

theorem Nameable.isWholeIdentifier_iff {name : String} (hname : Nameable name) :
    IsWholeIdentifier name ↔ '\n' ∉ name.toList := by
  constructor
  · exact IsWholeIdentifier.newline_not_mem
  · intro hfree
    rcases hname with hwhole | hline
    · exact hwhole
    · exact absurd hline.newline_mem hfree

end JuliaBlocks.Julia
