import JuliaBlocks.Proofs.Except
import JuliaBlocks.Proofs.Julia.Literal

/-!
What cannot be written. A value that has a literal holds no integer with too many digits, however
deep. Main statements: `literal_eq_ok_iff` and `literal_eq_error_iff`.
-/

namespace JuliaBlocks

namespace Value

/-- What is no integer itself can be written if its parts can. -/
theorem Printable.of_parts {v : Value} (hinteger : ∀ n, v ≠ Value.int n)
    (hparts : ∀ part ∈ v.parts, part.Printable) : v.Printable := by
  intro n hn
  cases v with
  | int m => exact absurd rfl (hinteger m)
  | _ =>
      rw [integers] at hn
      · obtain ⟨⟨part, hpart⟩, _, hn⟩ := List.mem_flatMap.mp hn
        exact hparts part hpart n hn
      · rintro m ⟨⟩

theorem Printable.of_render {n : Int} {s : String} (hn : Numeral.render? n = some s) :
    (Value.int n).Printable := by
  intro m hm
  rw [integers, List.mem_singleton] at hm
  subst hm
  exact ((Numeral.render?_eq_some_iff m s).mp hn).1

theorem quotedItems?_eq_mapM (items : List Value) : quotedItems? items = items.mapM quoted? := by
  induction items with
  | nil => rfl
  | cons item items ih =>
      rw [quotedItems?, List.mapM_cons, ih]

theorem quotedEntries?_eq_mapM (entries : List (Value × Value)) :
    quotedEntries? entries = entries.mapM fun e => do
      let key ← e.1.quoted?
      let value ← e.2.quoted?
      return key ++ ": " ++ value := by
  induction entries with
  | nil => rfl
  | cons e entries ih =>
      rw [quotedEntries?, List.mapM_cons, ih]
      simp only [bind_assoc, pure_bind]

/-- The parts of what has a quoted form have one. -/
theorem exists_quoted_of_part {part v : Value} {s : String} (hv : v.quoted? = some s)
    (hpart : part ∈ v.parts) : ∃ t, part.quoted? = some t := by
  have hitems {items : List Value} {shown : List String}
      (hshown : quotedItems? items = some shown) (hmem : part ∈ items) :
      ∃ t, part.quoted? = some t := by
    rw [quotedItems?_eq_mapM] at hshown
    exact exists_of_mapM_some hshown part hmem
  cases v with
  | list items =>
      rw [quoted?] at hv
      obtain ⟨shown, hshown, _⟩ := Option.bind_eq_some_iff.mp hv
      exact hitems hshown hpart
  | tuple items =>
      rw [quoted?] at hv
      obtain ⟨shown, hshown, _⟩ := Option.bind_eq_some_iff.mp hv
      exact hitems hshown hpart
  | set items =>
      rw [quoted?] at hv
      obtain ⟨shown, hshown, _⟩ := Option.bind_eq_some_iff.mp hv
      exact hitems hshown hpart
  | map entries =>
      rw [quoted?] at hv
      obtain ⟨shown, hshown, _⟩ := Option.bind_eq_some_iff.mp hv
      obtain ⟨e, he, hpart⟩ := List.mem_flatMap.mp hpart
      rw [quotedEntries?_eq_mapM] at hshown
      obtain ⟨hkey, hvalue⟩ := exists_of_mapM_entries hshown e he
      simp only [List.mem_cons, List.not_mem_nil, or_false] at hpart
      rcases hpart with rfl | rfl
      · exact hkey
      · exact hvalue
  | _ => exact absurd hpart List.not_mem_nil

theorem Printable.of_quoted {v : Value} {s : String} (hv : v.quoted? = some s) : v.Printable := by
  have ih (part : Value) (hpart : part ∈ v.parts) : part.Printable :=
    have hlt := sizeOf_lt_of_mem_parts hpart
    of_quoted (exists_quoted_of_part hv hpart).choose_spec
  cases v with
  | int n =>
      rw [quoted?] at hv
      exact of_render hv
  | _ => exact of_parts (by rintro n ⟨⟩) ih
termination_by sizeOf v
decreasing_by exact hlt

end Value

namespace Julia

theorem literalItems?_eq_mapM (items : List Value) : literalItems? items = items.mapM literal? := by
  induction items with
  | nil => rfl
  | cons item items ih =>
      rw [literalItems?, List.mapM_cons, ih]

/-- What is written as the rows of a matrix is a list of rows whose cells have literals. -/
theorem exists_literal_of_rows {rows : List Value} {written : List String}
    (hrows : literalRows? rows = some written) :
    ∀ row ∈ rows, (∀ n, row ≠ .int n) ∧ ∀ cell ∈ row.parts, ∃ s, literal? cell = some s := by
  induction rows generalizing written with
  | nil =>
      intro row hrow
      exact absurd hrow List.not_mem_nil
  | cons first rows ih =>
      have hfirst : ∃ cells texts others, (first = .list cells ∨ first = .tuple cells) ∧
          cells.mapM literal? = some texts ∧ literalRows? rows = some others := by
        cases first with
        | list cells =>
            rw [literalRows?, literalItems?_eq_mapM] at hrows
            obtain ⟨texts, htexts, hrows⟩ := Option.bind_eq_some_iff.mp hrows
            obtain ⟨others, hothers, _⟩ := Option.bind_eq_some_iff.mp hrows
            exact ⟨cells, texts, others, Or.inl rfl, htexts, hothers⟩
        | tuple cells =>
            rw [literalRows?, literalItems?_eq_mapM] at hrows
            obtain ⟨texts, htexts, hrows⟩ := Option.bind_eq_some_iff.mp hrows
            obtain ⟨others, hothers, _⟩ := Option.bind_eq_some_iff.mp hrows
            exact ⟨cells, texts, others, Or.inr rfl, htexts, hothers⟩
        | _ =>
            rw [literalRows?] at hrows
            · cases hrows
            · rintro cells ⟨⟩
            · rintro cells ⟨⟩
      obtain ⟨cells, texts, others, hform, htexts, hothers⟩ := hfirst
      have hcells := exists_of_mapM_some htexts
      intro row hrow
      rcases List.mem_cons.mp hrow with rfl | hrow
      · rcases hform with rfl | rfl
        · exact ⟨by rintro n ⟨⟩, hcells⟩
        · exact ⟨by rintro n ⟨⟩, hcells⟩
      · exact ih hothers row hrow

theorem literalEntries?_eq_mapM (entries : List (Value × Value)) :
    literalEntries? entries = entries.mapM fun e => do
      let key ← literal? e.1
      let value ← literal? e.2
      return key ++ " => " ++ value := by
  induction entries with
  | nil => rfl
  | cons e entries ih =>
      rw [literalEntries?, List.mapM_cons, ih]
      simp only [bind_assoc, pure_bind]

/-- The items of a list that is written, as a vector or as a matrix, can be written. -/
theorem printable_of_sequence {items : List Value} {s : String}
    (hitem : ∀ item ∈ items, ∀ t, literal? item = some t → item.Printable)
    (hcell : ∀ row ∈ items, ∀ cell ∈ row.parts, ∀ t, literal? cell = some t → cell.Printable)
    (hwritten : sequenceLiteral? items = some s) : ∀ item ∈ items, item.Printable := by
  intro item hmem
  unfold sequenceLiteral? at hwritten
  split at hwritten
  · obtain ⟨written, hrows, _⟩ := Option.bind_eq_some_iff.mp hwritten
    obtain ⟨hinteger, hcells⟩ := exists_literal_of_rows hrows item hmem
    apply Value.Printable.of_parts hinteger
    intro cell hpart
    obtain ⟨t, ht⟩ := hcells cell hpart
    exact hcell item hmem cell hpart t ht
  · obtain ⟨written, hitems, _⟩ := Option.bind_eq_some_iff.mp hwritten
    rw [literalItems?_eq_mapM] at hitems
    obtain ⟨t, ht⟩ := exists_of_mapM_some hitems item hmem
    exact hitem item hmem t ht

/-- A value that has a literal holds only integers that can be written. -/
theorem printable_of_literal {v : Value} {s : String} (hv : literal? v = some s) :
    v.Printable := by
  have ih (w : Value) (hlt : sizeOf w < sizeOf v) (t : String) (hw : literal? w = some t) :
      w.Printable := printable_of_literal hw
  have hpart (w : Value) (hw : w ∈ v.parts) (t : String) (hwritten : literal? w = some t) :
      w.Printable := ih w (Value.sizeOf_lt_of_mem_parts hw) t hwritten
  have hcell (row : Value) (hrow : row ∈ v.parts) (cell : Value) (hcell : cell ∈ row.parts)
      (t : String) (hwritten : literal? cell = some t) : cell.Printable :=
    ih cell (Nat.lt_trans (Value.sizeOf_lt_of_mem_parts hcell) (Value.sizeOf_lt_of_mem_parts hrow))
      t hwritten
  cases v with
  | int n =>
      rw [literal?] at hv
      exact Value.Printable.of_render hv
  | list items =>
      rw [literal?, ← sequenceLiteral?] at hv
      exact Value.Printable.of_parts (by rintro n ⟨⟩) (printable_of_sequence hpart hcell hv)
  | tuple items =>
      rw [literal?, ← sequenceLiteral?] at hv
      exact Value.Printable.of_parts (by rintro n ⟨⟩) (printable_of_sequence hpart hcell hv)
  | set items =>
      rw [literal?] at hv
      obtain ⟨shown, hshown, _⟩ := Option.map_eq_some_iff.mp hv
      exact Value.Printable.of_quoted hshown
  | map entries =>
      rw [literal?] at hv
      obtain ⟨written, hwritten, _⟩ := Option.bind_eq_some_iff.mp hv
      apply Value.Printable.of_parts (by rintro n ⟨⟩)
      intro part hmem
      obtain ⟨e, he, hform⟩ := List.mem_flatMap.mp hmem
      rw [literalEntries?_eq_mapM] at hwritten
      obtain ⟨⟨key, hkey⟩, value, hvalue⟩ := exists_of_mapM_entries hwritten e he
      simp only [List.mem_cons, List.not_mem_nil, or_false] at hform
      rcases hform with rfl | rfl
      · exact hpart _ hmem key hkey
      · exact hpart _ hmem value hvalue
  | _ =>
      apply Value.Printable.of_parts (by rintro n ⟨⟩)
      intro part hmem
      exact absurd hmem List.not_mem_nil
termination_by sizeOf v
decreasing_by exact hlt

/-- A value has no literal just when an integer in it has too many digits. -/
theorem literal?_eq_none_iff (v : Value) : literal? v = none ↔ ¬ v.Printable := by
  constructor
  · intro hnone hprintable
    rw [literal?_eq_render hprintable] at hnone
    cases hnone
  · intro hv
    cases hwritten : literal? v with
    | none => rfl
    | some s => exact absurd (printable_of_literal hwritten) hv

theorem literal_eq_ok_iff {v : Value} {s : String} :
    literal v = .ok s ↔ v.Printable ∧ s = String.ofList (tree v).render := by
  constructor
  · intro hliteral
    have hv : v.Printable := by
      by_contra hv
      rw [literal, (literal?_eq_none_iff v).mpr hv] at hliteral
      cases hliteral
    rw [literal, literal?_eq_render hv] at hliteral
    exact ⟨hv, (Except.ok.inj hliteral).symm⟩
  · rintro ⟨hv, rfl⟩
    rw [literal, literal?_eq_render hv]

theorem literal_eq_error_iff {v : Value} {failure : Failure} :
    literal v = .error failure ↔ ¬ v.Printable ∧ failure = .unprintableInteger := by
  constructor
  · intro hliteral
    have hv : ¬ v.Printable := by
      intro hv
      rw [literal, literal?_eq_render hv] at hliteral
      cases hliteral
    rw [literal, (literal?_eq_none_iff v).mpr hv] at hliteral
    exact ⟨hv, (Except.error.inj hliteral).symm⟩
  · rintro ⟨hv, rfl⟩
    rw [literal, (literal?_eq_none_iff v).mpr hv]

end Julia

end JuliaBlocks
