import JuliaBlocks.Proofs.Julia.Refusal
import JuliaBlocks.Proofs.Text.Quoted

/-!
Which values are shown on one line. Numbers are, and so is whatever is shown in quotes or made of
such values; a foreign value has its own quoted text, which may have lines. Main statement:
`newline_mem_quoted_iff`.
-/

namespace JuliaBlocks

theorem Binary64.newline_not_mem_render (x : Binary64) : '\n' ∉ x.render.toList := by
  cases x with
  | nan => decide
  | infinity negative => cases negative <;> decide
  | finite negative significand exponent canonical =>
      have hdecimal := render_finite_isDecimal negative significand exponent canonical
      intro hmem
      exact absurd (Julia.isWordChar_of_mem_float (Or.inl hdecimal) hmem) (by decide)

theorem mem_intercalate_iff {α : Type} {a : α} {separator : List α} (hseparator : a ∉ separator)
    (parts : List (List α)) : a ∈ separator.intercalate parts ↔ ∃ part ∈ parts, a ∈ part := by
  induction parts with
  | nil => simp
  | cons part parts ih =>
      cases parts with
      | nil => simp
      | cons next parts =>
          rw [List.intercalate_cons_cons]
          simp [hseparator, ih]

/-- Parts set side by side between two texts have just the line feeds of the parts. -/
theorem newline_mem_enclosed_iff {before after : String} (hbefore : '\n' ∉ before.toList)
    (hafter : '\n' ∉ after.toList) (parts : List String) :
    '\n' ∈ (before ++ String.intercalate ", " parts ++ after).toList ↔
      ∃ part ∈ parts, '\n' ∈ part.toList := by
  have hseparator : '\n' ∉ ", ".toList := by decide
  have hparts := mem_intercalate_iff hseparator (parts.map String.toList)
  rw [String.toList_append, String.toList_append, String.toList_intercalate]
  simpa [hbefore, hafter] using hparts

namespace Value

/-- Whether the quoted text of some foreign value in a value, at any depth, has more than one line. -/
inductive Breaks : Value → Prop
  | foreign {object : Foreign} (hbreak : '\n' ∈ object.quoted.toList) : Breaks (foreign object)
  | part {part v : Value} (hpart : part ∈ v.parts) (hbreaks : Breaks part) : Breaks v

theorem breaks_foreign_iff (object : Foreign) :
    (foreign object).Breaks ↔ '\n' ∈ object.quoted.toList := by
  constructor
  · rintro (hbreak | ⟨hpart, _⟩)
    · exact hbreak
    · exact absurd hpart List.not_mem_nil
  · exact Breaks.foreign

/-- What is made of parts breaks just as one of them does. -/
theorem breaks_iff_of_parts {v : Value} (hown : ∀ object, v ≠ foreign object) :
    v.Breaks ↔ ∃ part ∈ v.parts, part.Breaks := by
  constructor
  · rintro (hbreak | ⟨hpart, hbreaks⟩)
    · exact absurd rfl (hown _)
    · exact ⟨_, hpart, hbreaks⟩
  · rintro ⟨part, hpart, hbreaks⟩
    exact .part hpart hbreaks

theorem not_breaks_of_no_parts {v : Value} (hown : ∀ object, v ≠ foreign object)
    (hparts : v.parts = []) : ¬ v.Breaks := by
  rw [breaks_iff_of_parts hown, hparts]
  simp

theorem breaks_map_iff (entries : List (Value × Value)) :
    (map entries).Breaks ↔ ∃ e ∈ entries, e.1.Breaks ∨ e.2.Breaks := by
  rw [breaks_iff_of_parts (by rintro _ ⟨⟩)]
  constructor
  · rintro ⟨part, hpart, hbreaks⟩
    obtain ⟨e, he, hpart⟩ := List.mem_flatMap.mp hpart
    simp only [List.mem_cons, List.not_mem_nil, or_false] at hpart
    rcases hpart with rfl | rfl
    · exact ⟨e, he, Or.inl hbreaks⟩
    · exact ⟨e, he, Or.inr hbreaks⟩
  · rintro ⟨e, he, hkey | hvalue⟩
    · exact ⟨e.1, key_mem_parts he, hkey⟩
    · exact ⟨e.2, value_mem_parts he, hvalue⟩

/-- The texts of several values break as the values do, if each of them does. -/
theorem newline_mem_quotedItems_iff {items : List Value} {shown : List String}
    (hitems : ∀ item ∈ items, ∀ s, item.quoted? = some s → ('\n' ∈ s.toList ↔ item.Breaks))
    (hshown : quotedItems? items = some shown) :
    (∃ s ∈ shown, '\n' ∈ s.toList) ↔ ∃ item ∈ items, item.Breaks := by
  induction items generalizing shown with
  | nil =>
      cases hshown
      simp
  | cons item items ih =>
      rw [quotedItems?] at hshown
      obtain ⟨s, hs, hshown⟩ := Option.bind_eq_some_iff.mp hshown
      obtain ⟨others, hothers, hshown⟩ := Option.bind_eq_some_iff.mp hshown
      cases hshown
      have hrest := ih (fun other hother => hitems other (by simp [hother])) hothers
      simp [hitems item (by simp) s hs, hrest]

/-- The texts of the entries of a map break as their keys and values do. -/
theorem newline_mem_quotedEntries_iff {entries : List (Value × Value)} {shown : List String}
    (hkeys : ∀ e ∈ entries, ∀ s, e.1.quoted? = some s → ('\n' ∈ s.toList ↔ e.1.Breaks))
    (hvalues : ∀ e ∈ entries, ∀ s, e.2.quoted? = some s → ('\n' ∈ s.toList ↔ e.2.Breaks))
    (hshown : quotedEntries? entries = some shown) :
    (∃ s ∈ shown, '\n' ∈ s.toList) ↔ ∃ e ∈ entries, e.1.Breaks ∨ e.2.Breaks := by
  induction entries generalizing shown with
  | nil =>
      cases hshown
      simp
  | cons e entries ih =>
      rw [quotedEntries?] at hshown
      obtain ⟨key, hkey, hshown⟩ := Option.bind_eq_some_iff.mp hshown
      obtain ⟨value, hvalue, hshown⟩ := Option.bind_eq_some_iff.mp hshown
      obtain ⟨others, hothers, hshown⟩ := Option.bind_eq_some_iff.mp hshown
      cases hshown
      have hrest := ih (fun other hother => hkeys other (by simp [hother]))
        (fun other hother => hvalues other (by simp [hother])) hothers
      simp [hkeys e (by simp) key hkey, hvalues e (by simp) value hvalue, hrest]

/-- The quoted form of a value has a line feed just if a foreign value in it has one. -/
theorem newline_mem_quoted_iff {v : Value} {s : String} (hv : v.quoted? = some s) :
    '\n' ∈ s.toList ↔ v.Breaks := by
  have ih (part : Value) (hpart : part ∈ v.parts) (t : String) (ht : part.quoted? = some t) :
      '\n' ∈ t.toList ↔ part.Breaks :=
    have hlt := sizeOf_lt_of_mem_parts hpart
    newline_mem_quoted_iff ht
  have hleaf (hown : ∀ object, v ≠ foreign object) (hparts : v.parts = [])
      (hfree : '\n' ∉ s.toList) : '\n' ∈ s.toList ↔ v.Breaks :=
    iff_of_false hfree (not_breaks_of_no_parts hown hparts)
  cases v with
  | null =>
      cases hv
      exact hleaf (by rintro _ ⟨⟩) rfl (by decide)
  | bool b =>
      cases hv
      exact hleaf (by rintro _ ⟨⟩) rfl (by cases b <;> decide)
  | int n =>
      rw [quoted?] at hv
      obtain ⟨_, rfl⟩ := (Numeral.render?_eq_some_iff n s).mp hv
      exact hleaf (by rintro _ ⟨⟩) rfl (Numeral.newline_not_mem_render n)
  | float x =>
      cases hv
      exact hleaf (by rintro _ ⟨⟩) rfl (Binary64.newline_not_mem_render x)
  | text t =>
      cases hv
      exact hleaf (by rintro _ ⟨⟩) rfl (Text.newline_not_mem_quoted t)
  | octets bytes =>
      cases hv
      exact hleaf (by rintro _ ⟨⟩) rfl (Text.newline_not_mem_quotedOctets bytes)
  | foreign object =>
      cases hv
      exact (breaks_foreign_iff _).symm
  | list items =>
      rw [quoted?] at hv
      obtain ⟨shown, hshown, hv⟩ := Option.bind_eq_some_iff.mp hv
      cases hv
      rw [newline_mem_enclosed_iff (by decide) (by decide), newline_mem_quotedItems_iff ih hshown,
        breaks_iff_of_parts (by rintro _ ⟨⟩)]
  | tuple items =>
      rw [quoted?] at hv
      obtain ⟨shown, hshown, hv⟩ := Option.bind_eq_some_iff.mp hv
      rw [breaks_iff_of_parts (by rintro _ ⟨⟩), ← newline_mem_quotedItems_iff ih hshown]
      split at hv
      · next item =>
        cases hv
        exact newline_mem_enclosed_iff (by decide) (by decide) [item]
      · cases hv
        exact newline_mem_enclosed_iff (by decide) (by decide) shown
  | set items =>
      rw [quoted?] at hv
      obtain ⟨shown, hshown, hv⟩ := Option.bind_eq_some_iff.mp hv
      rw [breaks_iff_of_parts (by rintro _ ⟨⟩), ← newline_mem_quotedItems_iff ih hshown]
      split at hv
      · cases hv
        simp
      · cases hv
        exact newline_mem_enclosed_iff (by decide) (by decide) shown
  | map entries =>
      rw [quoted?] at hv
      obtain ⟨shown, hshown, hv⟩ := Option.bind_eq_some_iff.mp hv
      cases hv
      have hentries := newline_mem_quotedEntries_iff (fun e he => ih e.1 (key_mem_parts he))
        (fun e he => ih e.2 (value_mem_parts he)) hshown
      rw [newline_mem_enclosed_iff (by decide) (by decide), hentries, breaks_map_iff]
termination_by sizeOf v
decreasing_by exact hlt

end Value

end JuliaBlocks
