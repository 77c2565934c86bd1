import JuliaBlocks.Julia.Literal
import Mathlib.Data.List.Basic

/-!
Tables: which values are written as matrices. Main statement: `isTable_iff`.
-/

namespace JuliaBlocks.Value

/-- The cells of a row of a table. -/
def cells (row : Value) : List Value := row.row?.getD []

theorem cells_list (items : List Value) : (list items).cells = items := by
  cases items with
  | nil => rfl
  | cons item items => rfl

theorem cells_tuple (items : List Value) : (tuple items).cells = items := by
  cases items with
  | nil => rfl
  | cons item items => rfl

theorem exists_of_cells {row : Value} (hrow : row.cells ≠ []) :
    ∃ cells, row = list cells ∨ row = tuple cells := by
  cases row with
  | list cells => exact ⟨cells, Or.inl rfl⟩
  | tuple cells => exact ⟨cells, Or.inr rfl⟩
  | _ => exact absurd rfl hrow

/-- What makes items the rows of a table: there is one, each is a list or a tuple with a cell in it,
all are of one length, and no cell has items or entries of its own. -/
structure AreRows (items : List Value) : Prop where
  some : items ≠ []
  cells : ∀ row ∈ items, row.cells ≠ []
  even : ∀ row ∈ items, ∀ other ∈ items, row.cells.length = other.cells.length
  plain : ∀ row ∈ items, ∀ cell ∈ row.cells, cell.isCell = true

theorem row?_eq_some_iff {row : Value} {cells : List Value} :
    row.row? = some cells ↔ row.cells = cells ∧ row.cells ≠ [] := by
  unfold Value.cells row?
  split
  · simp
  · simp
  · simp

theorem mapM_row?_eq_some_iff {items : List Value} {rows : List (List Value)} :
    items.mapM row? = some rows ↔ items.map cells = rows ∧ ∀ row ∈ items, row.cells ≠ [] := by
  induction items generalizing rows with
  | nil => simp
  | cons item items ih =>
      rw [List.mapM_cons, List.forall_mem_cons]
      constructor
      · intro hmap
        obtain ⟨first, hfirst, hmap⟩ := Option.bind_eq_some_iff.mp hmap
        obtain ⟨others, hothers, hmap⟩ := Option.bind_eq_some_iff.mp hmap
        cases hmap
        obtain ⟨rfl, hitem⟩ := row?_eq_some_iff.mp hfirst
        obtain ⟨rfl, hitems⟩ := ih.mp hothers
        exact ⟨rfl, hitem, hitems⟩
      · rintro ⟨rfl, hitem, hitems⟩
        rw [row?_eq_some_iff.mpr ⟨rfl, hitem⟩, ih.mpr ⟨rfl, hitems⟩]
        rfl

theorem isTable_iff (items : List Value) : isTable items = true ↔ AreRows items := by
  unfold isTable
  constructor
  · intro htable
    split at htable
    · next first others hmap =>
      obtain ⟨hrows, hcells⟩ := mapM_row?_eq_some_iff.mp hmap
      rw [← hrows, Bool.and_eq_true, List.all_eq_true, List.all_map, List.all_eq_true] at htable
      obtain ⟨hwidth, hplain⟩ := htable
      have hlength : ∀ row ∈ items, row.cells.length = first.length := by
        intro row hrow
        have hmem : row.cells ∈ first :: others := hrows ▸ List.mem_map_of_mem hrow
        rcases List.mem_cons.mp hmem with heq | hmem
        · rw [heq]
        · simpa using hwidth row.cells hmem
      refine ⟨?_, hcells, ?_, ?_⟩
      · rintro rfl
        cases hrows
      · intro row hrow other hother
        rw [hlength row hrow, hlength other hother]
      · intro row hrow
        exact List.all_eq_true.mp (hplain row hrow)
    · cases htable
  · intro hrows
    rw [mapM_row?_eq_some_iff.mpr ⟨rfl, hrows.cells⟩]
    obtain ⟨first, others, rfl⟩ := List.exists_cons_of_ne_nil hrows.some
    simp only [List.map_cons, Bool.and_eq_true, List.all_eq_true, beq_iff_eq]
    constructor
    · intro cells hcells
      obtain ⟨row, hrow, rfl⟩ := List.mem_map.mp hcells
      exact hrows.even row (by simp [hrow]) first (by simp)
    · intro cells hcells
      rw [← List.map_cons] at hcells
      obtain ⟨row, hrow, rfl⟩ := List.mem_map.mp hcells
      exact hrows.plain row hrow

theorem isTable_rows {items : List Value} (htable : isTable items = true) :
    items ≠ [] ∧
      ∀ row ∈ items, row.cells ≠ [] ∧ ∃ cells, row = list cells ∨ row = tuple cells := by
  have hrows := (isTable_iff items).mp htable
  exact ⟨hrows.some, fun row hrow =>
    ⟨hrows.cells row hrow, exists_of_cells (hrows.cells row hrow)⟩⟩

end JuliaBlocks.Value
