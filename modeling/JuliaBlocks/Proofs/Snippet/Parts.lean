import JuliaBlocks.Proofs.Except
import JuliaBlocks.Snippet

/-!
A snippet taken apart. When no prologue stands before them, the assignments of the variables are its
first lines, and what is left is the snippet without variables. Main statement: `expand_bindings`.
-/

namespace JuliaBlocks

/-- Whether values are texts does not depend on the place they are counted from. -/
theorem Value.texts_of_place {values : List Value} {place : Nat} {written : List String}
    (htexts : texts values place = .ok written) (other : Nat) :
    texts values other = .ok written := by
  induction values generalizing place other written with
  | nil => exact htexts
  | cons v values ih =>
      cases v with
      | text s =>
          obtain ⟨rest, hrest, hwritten⟩ := exists_of_bind_ok htexts
          obtain rfl := Except.ok.inj hwritten
          rw [texts, ih hrest (other + 1)]
          rfl
      | _ => cases htexts

/-- Texts before other values are texts in any case. -/
theorem Value.texts_text_append (lines : List String) {values : List Value} {place : Nat}
    {written : List String} (htexts : texts (lines.map .text ++ values) place = .ok written) :
    ∃ others, texts values = .ok others ∧ written = lines ++ others := by
  induction lines generalizing place written with
  | nil => exact ⟨written, texts_of_place htexts 0, rfl⟩
  | cons line lines ih =>
      obtain ⟨rest, hrest, hwritten⟩ := exists_of_bind_ok htexts
      obtain rfl := Except.ok.inj hwritten
      obtain ⟨others, hothers, rfl⟩ := ih hrest
      exact ⟨others, hothers, rfl⟩

namespace Snippet

theorem part_of_isVoid {v : Value} (hvoid : v.isVoid = true) : part v = [] :=
  if_pos hvoid

/-- The assignments of a request without prologue are lines of their own before the snippet of the
same request without variables. -/
theorem expand_bindings {request : Request} {snippet : String}
    (hprologue : request.prologue.isVoid = true) (hbound : request.bindings ≠ [])
    (hexpanded : expand request = .ok snippet) :
    ∃ lines rest, Julia.assignments request.bindings = .ok lines ∧ lines ≠ [] ∧
      expand { request with bindings := [] } = .ok rest ∧
      snippet = String.intercalate "\n" lines ++ "\n" ++ rest := by
  obtain ⟨lines, hlines, hexpanded⟩ := exists_of_bind_ok hexpanded
  obtain ⟨plot, hplot, hexpanded⟩ := exists_of_bind_ok hexpanded
  obtain ⟨written, hwritten, hsnippet⟩ := exists_of_bind_ok hexpanded
  obtain rfl := Except.ok.inj hsnippet
  have hassigned : Julia.assignments request.bindings = .ok lines := hlines
  have hsome : lines ≠ [] := by
    have hlength := (forall₂_of_mapM_ok hassigned).length_eq
    intro hnil
    rw [hnil, List.length_nil, List.length_eq_zero_iff] at hlength
    exact hbound hlength
  rw [part_of_isVoid hprologue, List.nil_append, List.append_assoc, List.map_append,
    List.append_assoc] at hwritten
  obtain ⟨others, hothers, rfl⟩ := Value.texts_text_append lines hwritten
  refine ⟨lines, String.intercalate "\n" others, hassigned, hsome, ?_, ?_⟩
  · have hrest : Value.texts (part request.prologue ++ ([] ++ [request.body] ++ plot).map .text ++
        part request.epilogue) = .ok others := by
      rwa [part_of_isVoid hprologue, List.nil_append, List.nil_append]
    have hunbound : plotPart { request with bindings := [] } none = .ok plot := hplot
    simp only [expand, expandBody, Julia.assignments, List.mapM_nil, hunbound, pure, Except.pure,
      bind, Except.bind]
    rw [hrest]
  · have hothersSome : others ≠ [] := by
      rintro rfl
      obtain ⟨_, _, hnone⟩ := exists_of_bind_ok hothers
      cases hnone
    exact String.intercalate_append_of_ne_nil hsome hothersSome

end Snippet

end JuliaBlocks
