import JuliaBlocks.Julia.Quote
import Mathlib.Data.List.Basic

/-!
What a string literal denotes. Reading a literal stops at its own closing quote, whatever follows,
and gives back the text it was made from; and whatever has the form of a literal is made from the
text that it is read as. Main statement: `quote_exact`.
-/

namespace JuliaBlocks.Julia

theorem escape_cons (c : Char) (s : List Char) :
    escape (c :: s) = escapeChar c ++ escape s := rfl

theorem toList_quote (s : String) :
    (quote s).toList = '"' :: (escape s.toList ++ ['"']) := by
  simp [quote]

/-- One escaped character is read as that character, and reading goes on behind it. A special
character is taken from behind its backslash, any other one stands for itself. -/
theorem readInside_escapeChar (c : Char) (rest : List Char) :
    readInside (escapeChar c ++ rest) =
      (readInside rest).map fun (text, after) => (c :: text, after) := by
  unfold escapeChar
  by_cases hspecial : isSpecial c = true
  · rw [if_pos hspecial]
    rfl
  · rw [if_neg hspecial]
    simp only [isSpecial, Bool.or_eq_true, beq_iff_eq, not_or] at hspecial
    obtain ⟨⟨hbackslash, hquote⟩, hdollar⟩ := hspecial
    change readInside (c :: rest) = _
    rw [readInside]
    · exact hquote
    · exact hdollar
    · intro c' rest' hc
      exact absurd hc hbackslash
    · intro hc
      exact absurd hc hbackslash

/-- Reading the inside of a literal stops at the quote that closes it. -/
theorem readInside_escape (s rest : List Char) :
    readInside (escape s ++ '"' :: rest) = some (s, rest) := by
  induction s with
  | nil => rfl
  | cons c s ih =>
      rw [escape_cons, List.append_assoc, readInside_escapeChar, ih]
      rfl

/-- Reading the literal of a text gives the text and leaves just what followed the literal. -/
theorem readString_quote (s : String) (rest : List Char) :
    readString ((quote s).toList ++ rest) = some (s.toList, rest) := by
  rw [toList_quote, List.cons_append, List.append_assoc]
  exact readInside_escape s.toList rest

/-! Which texts are string literals. -/

/-- Whether a text is made of plain characters and of escapes of the three others. -/
inductive Inside : List Char → Prop
  | nil : Inside []
  | plain {c : Char} {s : List Char} (hplain : c ≠ '\\' ∧ c ≠ '"' ∧ c ≠ '$') (hs : Inside s) :
      Inside (c :: s)
  | escaped {c : Char} {s : List Char} (hspecial : c = '\\' ∨ c = '"' ∨ c = '$') (hs : Inside s) :
      Inside ('\\' :: c :: s)

/-- Whether a text has the form of a literal: quotes around what is `Inside`. -/
def IsStringLiteral (literal : String) : Prop :=
  ∃ inside, Inside inside ∧ literal.toList = '"' :: (inside ++ ['"'])

theorem escapeChar_of_special {c : Char} (hspecial : c = '\\' ∨ c = '"' ∨ c = '$') :
    escapeChar c = ['\\', c] := by
  rcases hspecial with rfl | rfl | rfl <;> rfl

theorem escapeChar_of_plain {c : Char} (hplain : c ≠ '\\' ∧ c ≠ '"' ∧ c ≠ '$') :
    escapeChar c = [c] := by
  obtain ⟨hbackslash, hquote, hdollar⟩ := hplain
  simp [escapeChar, isSpecial, hbackslash, hquote, hdollar]

/-- A character that needs no backslash is in a literal as often as in its text. -/
theorem count_quote_of_plain {c : Char} (hplain : c ≠ '\\' ∧ c ≠ '"' ∧ c ≠ '$') (s : String) :
    (quote s).toList.count c = s.toList.count c := by
  have hescape : ∀ l, (escape l).count c = l.count c := by
    intro l
    induction l with
    | nil => rfl
    | cons d l ih =>
        have hchar : (escapeChar d).count c = [d].count c := by
          by_cases hspecial : d = '\\' ∨ d = '"' ∨ d = '$'
          · rw [escapeChar_of_special hspecial, List.count_cons_of_ne hplain.1.symm]
          · rw [not_or, not_or] at hspecial
            rw [escapeChar_of_plain hspecial]
        rw [escape_cons, List.count_append, hchar, ih, ← List.count_append, List.singleton_append]
  rw [toList_quote, List.count_cons_of_ne hplain.2.1.symm, List.count_append, hescape,
    List.count_singleton, if_neg (by simpa using hplain.2.1.symm), Nat.add_zero]

theorem inside_iff (l : List Char) : Inside l ↔ ∃ s, l = escape s := by
  constructor
  · intro hinside
    induction hinside with
    | nil => exact ⟨[], rfl⟩
    | plain hplain _ ih =>
        obtain ⟨s, rfl⟩ := ih
        exact ⟨_ :: s, by rw [escape_cons, escapeChar_of_plain hplain]; rfl⟩
    | escaped hspecial _ ih =>
        obtain ⟨s, rfl⟩ := ih
        exact ⟨_ :: s, by rw [escape_cons, escapeChar_of_special hspecial]; rfl⟩
  · rintro ⟨s, rfl⟩
    induction s with
    | nil => exact .nil
    | cons c s ih =>
        rw [escape_cons]
        by_cases hspecial : c = '\\' ∨ c = '"' ∨ c = '$'
        · rw [escapeChar_of_special hspecial]
          exact .escaped hspecial ih
        · rw [not_or, not_or] at hspecial
          rw [escapeChar_of_plain hspecial]
          exact .plain hspecial ih

theorem isStringLiteral_iff (literal : String) :
    IsStringLiteral literal ↔ ∃ s, literal = quote s := by
  constructor
  · rintro ⟨inside, hinside, hliteral⟩
    obtain ⟨s, rfl⟩ := (inside_iff inside).mp hinside
    refine ⟨String.ofList s, ?_⟩
    rw [← String.toList_inj, hliteral, toList_quote, String.toList_ofList]
  · rintro ⟨s, rfl⟩
    exact ⟨escape s.toList, (inside_iff _).mpr ⟨s.toList, rfl⟩, toList_quote s⟩

theorem quote_append_inj {s t : String} {rest other : List Char} :
    (quote s).toList ++ rest = (quote t).toList ++ other ↔ s = t ∧ rest = other := by
  constructor
  · intro heq
    have hread := readString_quote s rest
    rw [heq, readString_quote t other] at hread
    simp only [Option.some.injEq, Prod.mk.injEq, String.toList_inj] at hread
    exact ⟨hread.1.symm, hread.2.symm⟩
  · rintro ⟨rfl, rfl⟩
    rfl

/-- Literals are a prefix-free and exact encoding of texts. Whatever follows a literal, reading it
stops at its end, gives the text and meets no interpolation; one literal with what follows it is
never another one with something else behind; and the texts of a literal's form are just the
literals of what they are read as. -/
theorem quote_exact :
    (∀ (s : String) (rest : List Char),
      readString ((quote s).toList ++ rest) = some (s.toList, rest)) ∧
    (∀ (s t : String) (rest other : List Char),
      (quote s).toList ++ rest = (quote t).toList ++ other ↔ s = t ∧ rest = other) ∧
    (∀ literal : String, IsStringLiteral literal ↔
      ∃ s : String, readString literal.toList = some (s.toList, []) ∧ literal = quote s) := by
  refine ⟨readString_quote, fun s t rest other => quote_append_inj, ?_⟩
  intro literal
  rw [isStringLiteral_iff]
  constructor
  · rintro ⟨s, rfl⟩
    have hread := readString_quote s []
    rw [List.append_nil] at hread
    exact ⟨s, hread, rfl⟩
  · rintro ⟨s, _, hliteral⟩
    exact ⟨s, hliteral⟩

end JuliaBlocks.Julia
