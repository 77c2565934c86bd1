import JuliaBlocks.Proofs.Julia.Unambiguous

/-!
The shape of tables. A table of one cell is written as the vector of that cell, and so like a list
that is no table; any other table is written as a matrix, and like no value that is not a table.
Main statement: `table_shape_iff`.
-/

namespace JuliaBlocks

namespace Value

/-- Whether a value is a table. -/
def isTabular : Value → Bool
  | list items => isTable items
  | tuple items => isTable items
  | _ => false

/-- The cells of a table, row by row. -/
def rows : Value → List (List Value)
  | list items => items.map cells
  | tuple items => items.map cells
  | _ => []

theorem isTabular_singleton {cell : Value} (hcell : cell.isCell = true) :
    (list [cell]).isTabular = false := by
  cases cell with
  | list items => cases hcell
  | tuple items => cases hcell
  | _ => rfl

/-- The items of a table are the rows it is made of. -/
theorem exists_rows_of_isTabular {t : Value} (ht : t.isTabular = true) :
    AreRows t.parts ∧ t.rows = t.parts.map cells := by
  cases t with
  | list items => exact ⟨(isTable_iff items).mp ht, rfl⟩
  | tuple items => exact ⟨(isTable_iff items).mp ht, rfl⟩
  | _ => cases ht

theorem exists_of_mem_rows {t : Value} {row : List Value} (ht : t.isTabular = true)
    (hrow : row ∈ t.rows) : ∀ cell ∈ row, cell.isCell = true ∧ (t.Printable → cell.Printable) := by
  obtain ⟨hrows, heq⟩ := exists_rows_of_isTabular ht
  rw [heq] at hrow
  obtain ⟨item, hitem, rfl⟩ := List.mem_map.mp hrow
  intro cell hcell
  exact ⟨hrows.plain item hitem cell hcell,
    fun hprintable => (hprintable.part hitem).part (mem_parts_of_mem_cells hcell)⟩

end Value

namespace Julia

/-- Whether a table is written like no value that is not one. -/
def KeepsShape (t : Value) : Prop :=
  ∀ w : Value, w.isTabular = false → ¬ SameLiteral t w

theorem Tree.ofRows_cases (rows : List (List Tree)) :
    (∃ t, rows = [[t]] ∧ ofRows rows = .vector [t]) ∨
      (∀ t, rows ≠ [[t]]) ∧ ofRows rows = .matrix rows := by
  unfold ofRows
  split
  · next t => exact Or.inl ⟨t, rfl, rfl⟩
  · next hsingle => exact Or.inr ⟨hsingle, rfl⟩

theorem tree_of_isTabular {t : Value} (ht : t.isTabular = true) :
    tree t = .ofRows (t.rows.map fun row => row.map tree) := by
  have hsequence {items : List Value} (htable : Value.isTable items = true) :
      sequenceTree items = .ofRows ((items.map Value.cells).map fun row => row.map tree) := by
    rw [sequenceTree, if_pos htable, List.map_map]
    rfl
  cases t with
  | list items => rw [tree_list, hsequence ht, Value.rows]
  | tuple items => rw [tree_tuple, hsequence ht, Value.rows]
  | _ => cases ht

theorem tree_ne_matrix {w : Value} (hw : w.isTabular = false) (rows : List (List Tree)) :
    tree w ≠ .matrix rows := by
  have hsequence {items : List Value} (htable : Value.isTable items = false) :
      sequenceTree items ≠ .matrix rows := by
    rw [sequenceTree, htable]
    rintro ⟨⟩
  cases w with
  | list items => exact tree_list items ▸ hsequence hw
  | tuple items => exact tree_tuple items ▸ hsequence hw
  | _ =>
      rw [tree]
      rintro ⟨⟩

/-- A table is written as a vector if it has a single cell, and as a matrix otherwise. -/
theorem tree_of_table {t : Value} (ht : t.isTabular = true) :
    (∃ cell, t.rows = [[cell]] ∧ tree t = .vector [tree cell]) ∨
      (∀ cell, t.rows ≠ [[cell]]) ∧ ∃ rows, tree t = .matrix rows := by
  have htree := tree_of_isTabular ht
  rcases Tree.ofRows_cases (t.rows.map fun row => row.map tree) with
    ⟨u, hsingle, hvector⟩ | ⟨hmore, hmatrix⟩
  · simp only [List.map_eq_singleton_iff] at hsingle
    obtain ⟨row, hrows, cell, rfl, rfl⟩ := hsingle
    exact Or.inl ⟨cell, hrows, htree.trans hvector⟩
  · refine Or.inr ⟨?_, _, htree.trans hmatrix⟩
    intro cell hcell
    exact hmore (tree cell) (by rw [hcell]; rfl)

/-- A table of one cell is written like the vectors of that cell; every other table is written as a
matrix, which no value that is not a table is. So a table keeps its shape unless it has a literal
and a single cell. -/
theorem table_shape_iff {t : Value} (ht : t.isTabular = true) :
    ((∃ rows, tree t = .matrix rows) ↔ ∀ cell, t.rows ≠ [[cell]]) ∧
    (∀ w : Value, w.isTabular = false →
      (SameLiteral t w ↔ t.Printable ∧ w.Printable ∧
        ∃ cell, t.rows = [[cell]] ∧ tree w = .vector [tree cell])) ∧
    (KeepsShape t ↔ ¬ (t.Printable ∧ ∃ cell, t.rows = [[cell]])) := by
  have hsame (w : Value) (hw : w.isTabular = false) :
      SameLiteral t w ↔ t.Printable ∧ w.Printable ∧
        ∃ cell, t.rows = [[cell]] ∧ tree w = .vector [tree cell] := by
    rw [sameLiteral_iff]
    rcases tree_of_table ht with ⟨cell, hcell, htree⟩ | ⟨hmore, rows, htree⟩
    · simp [hcell, htree, eq_comm]
    · have hne := tree_ne_matrix hw rows
      simp [hmore, htree, hne.symm]
  refine ⟨?_, hsame, ?_⟩
  · rcases tree_of_table ht with ⟨cell, hcell, htree⟩ | ⟨hmore, rows, htree⟩
    · simp [hcell, htree]
    · exact iff_of_true ⟨rows, htree⟩ hmore
  · constructor
    · -- The list of the cell is no table, since a cell has no items, and it is written alike.
      rintro hkeeps ⟨hprintable, cell, hcell⟩
      obtain ⟨hplain, hwritten⟩ :=
        Value.exists_of_mem_rows ht (hcell ▸ List.mem_singleton_self [cell]) cell (by simp)
      have hlist : (Value.list [cell]).Printable :=
        Value.Printable.of_parts (by rintro n ⟨⟩) (by simpa [Value.parts] using hwritten hprintable)
      have htabular := Value.isTabular_singleton hplain
      have hvector : tree (.list [cell]) = .vector [tree cell] := by
        rw [tree_list, sequenceTree, show Value.isTable [cell] = false from htabular]
        rfl
      exact hkeeps _ htabular ((hsame _ htabular).mpr ⟨hprintable, hlist, cell, hcell, hvector⟩)
    · intro hsingle w hw halike
      obtain ⟨hprintable, _, cell, hcell, _⟩ := (hsame w hw).mp halike
      exact hsingle ⟨hprintable, cell, hcell⟩

/-- A column of two rows, one a list and one a tuple, keeps its shape. -/
theorem table_shape_column :
    Value.isTabular (.list [.list [.int 1], .tuple [.int 2]]) = true ∧
      KeepsShape (.list [.list [.int 1], .tuple [.int 2]]) := by
  have htable : Value.isTabular (.list [.list [.int 1], .tuple [.int 2]]) = true := by decide
  refine ⟨htable, (table_shape_iff htable).2.2.mpr ?_⟩
  rintro ⟨_, cell, hcell⟩
  cases hcell

/-- The table of a single cell and the list of that cell have the same literal. -/
theorem singleCell_shape_lost :
    Value.isTabular (.list [.list [.int 1]]) = true ∧ Value.isTabular (.list [.int 1]) = false ∧
      literal (.list [.list [.int 1]]) = .ok "[1]" ∧ literal (.list [.int 1]) = .ok "[1]" ∧
      ¬ KeepsShape (.list [.list [.int 1]]) := by
  have hlist : Value.isTabular (.list [.int 1]) = false := by decide
  have htable : literal (.list [.list [.int 1]]) = .ok "[1]" := by rfl
  have hvector : literal (.list [.int 1]) = .ok "[1]" := by rfl
  refine ⟨by decide, hlist, htable, hvector, ?_⟩
  intro hkeeps
  exact hkeeps _ hlist ⟨_, htable, hvector⟩

end Julia

end JuliaBlocks
