import JuliaBlocks.Text.Order

/-!
Sets of texts as lists: the distinct texts of a list are those of it, in strictly increasing order.
-/

namespace JuliaBlocks.Text

theorem mem_insertDistinct {s t : String} {texts : List String} :
    t ∈ insertDistinct s texts ↔ t = s ∨ t ∈ texts := by
  induction texts with
  | nil => simp [insertDistinct]
  | cons u rest ih =>
      rw [insertDistinct]
      split
      · next hequal =>
        subst hequal
        simp
      · split
        · exact List.mem_cons
        · simp only [List.mem_cons, ih]
          grind

theorem insertDistinct_increasing {s : String} {texts : List String}
    (hincreasing : texts.Pairwise (· < ·)) : (insertDistinct s texts).Pairwise (· < ·) := by
  induction texts with
  | nil => simp [insertDistinct]
  | cons u rest ih =>
      obtain ⟨hfirst, hrest⟩ := List.pairwise_cons.mp hincreasing
      rw [insertDistinct]
      split
      · exact hincreasing
      · next hdifferent =>
        split
        · next hless =>
          refine List.pairwise_cons.mpr ⟨?_, hincreasing⟩
          intro t ht
          rcases List.mem_cons.mp ht with rfl | ht
          · exact hless
          · exact String.lt_trans hless (hfirst t ht)
        · next hnot =>
          refine List.pairwise_cons.mpr ⟨?_, ih hrest⟩
          intro t ht
          rcases mem_insertDistinct.mp ht with rfl | ht
          · apply Decidable.byContradiction
            intro hgreater
            exact hdifferent (String.le_antisymm (String.not_lt.mp hgreater)
              (String.not_lt.mp hnot))
          · exact hfirst t ht

theorem mem_sortDistinct {t : String} {texts : List String} :
    t ∈ sortDistinct texts ↔ t ∈ texts := by
  induction texts with
  | nil => exact Iff.rfl
  | cons s rest ih => rw [sortDistinct, List.foldr_cons, mem_insertDistinct, ← sortDistinct, ih,
      List.mem_cons]

theorem sortDistinct_increasing (texts : List String) :
    (sortDistinct texts).Pairwise (· < ·) := by
  induction texts with
  | nil => exact .nil
  | cons s rest ih => exact insertDistinct_increasing ih

end JuliaBlocks.Text
