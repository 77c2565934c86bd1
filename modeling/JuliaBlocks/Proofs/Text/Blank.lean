import JuliaBlocks.Text.Blank
import Mathlib.Data.List.DropRight

/-!
Text that is cut at characters of a class: at its ends, where none of them is left, and into pieces.
-/

namespace JuliaBlocks.Text

/-- Whether a text has no character of a class at either end. -/
structure Stripped (p : Char → Bool) (s : List Char) : Prop where
  first : ∀ c, s.head? = some c → p c = false
  last : ∀ c, s.getLast? = some c → p c = false

instance (p : Char → Bool) (s : List Char) : Decidable (Stripped p s) :=
  decidable_of_iff (s.head?.all (!p ·) = true ∧ s.getLast?.all (!p ·) = true) <| by
    simp only [Option.all_eq_true, Bool.not_eq_true']
    exact ⟨fun ends => ⟨ends.1, ends.2⟩, fun stripped => ⟨stripped.first, stripped.last⟩⟩

theorem Stripped.of_none {p : Char → Bool} {s : List Char} (hnone : ∀ c ∈ s, p c = false) :
    Stripped p s where
  first c hc := hnone c (List.mem_of_mem_head? hc)
  last c hc := hnone c (List.mem_of_mem_getLast? hc)

theorem dropEndWhile_eq (p : Char → Bool) (s : List Char) : dropEndWhile p s = s.rdropWhile p := by
  induction s with
  | nil => rfl
  | cons c s ih =>
      have hcons : dropEndWhile p (c :: s) =
          if p c && (dropEndWhile p s).isEmpty then [] else c :: dropEndWhile p s := rfl
      rw [hcons, ih]
      simp only [List.rdropWhile, List.reverse_cons, List.dropWhile_append, List.isEmpty_reverse]
      by_cases hrest : (List.dropWhile p s.reverse).isEmpty = true
      · have hnil := List.isEmpty_iff.mp hrest
        by_cases hc : p c = true
        · simp [hrest, hc]
        · simp [hnil, hc]
      · simp [hrest]

theorem head?_stripWhile {p : Char → Bool} {s : List Char} {c : Char}
    (hc : (stripWhile p s).head? = some c) : p c = false := by
  rw [stripWhile, dropEndWhile_eq] at hc
  obtain ⟨rest, hrest⟩ := List.rdropWhile_prefix p (s.dropWhile p)
  have hfirst : (s.dropWhile p).head? = some c := by
    rw [← hrest, List.head?_append, hc, Option.some_or]
  have hdropped := List.head?_dropWhile_not p s
  rw [hfirst] at hdropped
  exact hdropped

theorem getLast?_stripWhile {p : Char → Bool} {s : List Char} {c : Char}
    (hc : (stripWhile p s).getLast? = some c) : p c = false := by
  rw [stripWhile, dropEndWhile_eq] at hc
  obtain ⟨front, hfront⟩ := List.getLast?_eq_some_iff.mp hc
  have hsome : (s.dropWhile p).rdropWhile p ≠ [] := by simp [hfront]
  have hlast := List.rdropWhile_last_not p (s.dropWhile p) hsome
  simpa [hfront] using hlast

theorem stripped_stripWhile (p : Char → Bool) (s : List Char) : Stripped p (stripWhile p s) where
  first _ hc := head?_stripWhile hc
  last _ hc := getLast?_stripWhile hc

theorem stripWhile_eq_self {p : Char → Bool} {s : List Char} (hs : Stripped p s) :
    stripWhile p s = s := by
  have hfront : s.dropWhile p = s := by
    rw [List.dropWhile_eq_self_iff]
    intro hlength
    have hfirst := hs.first s[0] (by rw [List.head?_eq_getElem?, List.getElem?_eq_getElem hlength])
    simp [hfirst]
  rw [stripWhile, hfront, dropEndWhile_eq, List.rdropWhile_eq_self_iff]
  intro hsome
  have hlast := hs.last _ (List.getLast?_eq_some_getLast hsome)
  simp [hlast]

/-- Characters of the class that stand before a text and behind it are stripped off with its own. -/
theorem stripWhile_append {p : Char → Bool} {before s after : List Char}
    (hbefore : ∀ c ∈ before, p c = true) (hafter : ∀ c ∈ after, p c = true) :
    stripWhile p (before ++ s ++ after) = stripWhile p s := by
  have hfront : (before ++ s ++ after).dropWhile p = (s ++ after).dropWhile p := by
    rw [List.append_assoc, List.dropWhile_append_of_pos hbefore]
  rw [stripWhile, stripWhile, hfront, dropEndWhile_eq, dropEndWhile_eq, List.dropWhile_append]
  split
  · next hnone =>
    have hafterNone : after.dropWhile p = [] := List.dropWhile_eq_nil_iff.mpr hafter
    rw [List.isEmpty_iff.mp hnone, hafterNone]
  · have hend : ∀ c ∈ after.reverse, p c = true := fun c hc => hafter c (List.mem_reverse.mp hc)
    rw [List.rdropWhile, List.rdropWhile, List.reverse_append, List.dropWhile_append_of_pos hend]

/-- A text is what it is between the ends that are taken off, and these are all of the class. -/
theorem exists_stripped_ends (p : Char → Bool) (s : List Char) :
    ∃ before after, s = before ++ stripWhile p s ++ after ∧ ∀ c ∈ before ++ after, p c = true := by
  refine ⟨s.takeWhile p, (s.dropWhile p).rtakeWhile p, ?_, ?_⟩
  · rw [stripWhile, dropEndWhile_eq, List.append_assoc, List.rdropWhile_append_rtakeWhile,
      List.takeWhile_append_dropWhile]
  · intro c hc
    rcases List.mem_append.mp hc with hc | hc
    · exact List.mem_takeWhile_imp hc
    · exact List.mem_rtakeWhile_imp hc

/-- A text without a separator is one piece. -/
theorem pieces_of_free {p : Char → Bool} {s : List Char} (hfree : ∀ c ∈ s, p c = false) :
    pieces p s = [s] := by
  induction s with
  | nil => rfl
  | cons c s ih =>
      obtain ⟨hc, hrest⟩ := List.forall_mem_cons.mp hfree
      rw [pieces, hc, ih hrest, if_neg Bool.false_ne_true]

/-- Nothing is left of a text just if all of it is of the class. -/
theorem stripWhile_eq_nil_iff {p : Char → Bool} {s : List Char} :
    stripWhile p s = [] ↔ ∀ c ∈ s, p c = true := by
  obtain ⟨before, after, hs, hends⟩ := exists_stripped_ends p s
  constructor
  · intro hnil
    rw [hnil, List.append_nil] at hs
    rwa [hs]
  · intro hall
    cases hkept : stripWhile p s with
    | nil => rfl
    | cons c rest =>
        have hfirst : p c = false := head?_stripWhile (by rw [hkept, List.head?_cons])
        have hclass : p c = true := hall c (by rw [hs, hkept]; simp)
        rw [hfirst] at hclass
        cases hclass

theorem stripped_trim (s : String) : Stripped isBlank (trim s).toList := by
  rw [trim, String.toList_ofList]
  exact stripped_stripWhile isBlank s.toList

theorem trim_eq_self {s : String} (hs : Stripped isBlank s.toList) : trim s = s := by
  rw [trim, stripWhile_eq_self hs, String.ofList_toList]

theorem trim_append {before s after : String} (hbefore : isBlankText before = true)
    (hafter : isBlankText after = true) : trim (before ++ s ++ after) = trim s := by
  rw [isBlankText, List.all_eq_true] at hbefore hafter
  rw [trim, trim, String.toList_append, String.toList_append, stripWhile_append hbefore hafter]

theorem trim_eq_empty_iff (s : String) : trim s = "" ↔ isBlankText s = true := by
  rw [trim, isBlankText, List.all_eq_true, ← stripWhile_eq_nil_iff, String.ofList_eq_empty_iff]

end JuliaBlocks.Text
