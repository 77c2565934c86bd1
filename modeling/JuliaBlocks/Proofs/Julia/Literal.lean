import JuliaBlocks.Proofs.Julia.Table
import JuliaBlocks.Proofs.Julia.Tree

/-!
The tree that each value is written as. Main statements: a value in which no integer has too many
digits has a literal, and that literal is its tree's.
-/

namespace JuliaBlocks

namespace Value

/-- The values that a value is directly made of. -/
def parts : Value → List Value
  | list items => items
  | tuple items => items
  | set items => items
  | map entries => entries.flatMap fun e => [e.1, e.2]
  | _ => []

theorem key_mem_parts {entries : List (Value × Value)} {e : Value × Value} (he : e ∈ entries) :
    e.1 ∈ (map entries).parts :=
  List.mem_flatMap.mpr ⟨e, he, by simp⟩

theorem value_mem_parts {entries : List (Value × Value)} {e : Value × Value} (he : e ∈ entries) :
    e.2 ∈ (map entries).parts :=
  List.mem_flatMap.mpr ⟨e, he, by simp⟩

theorem sizeOf_lt_of_mem_parts {part v : Value} (hpart : part ∈ v.parts) :
    sizeOf part < sizeOf v := by
  cases v with
  | list items =>
      have hsize := List.sizeOf_lt_of_mem (show part ∈ items from hpart)
      simp only [list.sizeOf_spec]
      omega
  | tuple items =>
      have hsize := List.sizeOf_lt_of_mem (show part ∈ items from hpart)
      simp only [tuple.sizeOf_spec]
      omega
  | set items =>
      have hsize := List.sizeOf_lt_of_mem (show part ∈ items from hpart)
      simp only [set.sizeOf_spec]
      omega
  | map entries =>
      obtain ⟨⟨key, value⟩, hentry, hpart⟩ := List.mem_flatMap.mp hpart
      have hsize := List.sizeOf_lt_of_mem hentry
      simp only [map.sizeOf_spec, Prod.mk.sizeOf_spec] at hsize ⊢
      simp only [List.mem_cons, List.not_mem_nil, or_false] at hpart
      rcases hpart with rfl | rfl <;> omega
  | _ => exact absurd hpart List.not_mem_nil

/-- The integers that occur in a value, at any depth. -/
def integers : Value → List Int
  | int n => [n]
  | v => v.parts.attach.flatMap fun part => integers part.val
termination_by v => sizeOf v
decreasing_by exact sizeOf_lt_of_mem_parts part.property

/-- Whether every integer in a value has few enough digits to be written. -/
def Printable (v : Value) : Prop :=
  ∀ n ∈ v.integers, (Nat.toDigits 10 n.natAbs).length ≤ Numeral.digitLimit

theorem Printable.int {n : Int} (hn : Printable (int n)) :
    (Nat.toDigits 10 n.natAbs).length ≤ Numeral.digitLimit :=
  hn n (by simp [integers])

theorem Printable.part {part v : Value} (hv : v.Printable) (hpart : part ∈ v.parts) :
    part.Printable := by
  intro n hn
  apply hv n
  cases v with
  | int m => exact absurd hpart List.not_mem_nil
  | _ =>
      rw [integers]
      · exact List.mem_flatMap.mpr ⟨⟨part, hpart⟩, List.mem_attach _ _, hn⟩
      · rintro m ⟨⟩

theorem exists_quotedItems {items : List Value}
    (hitems : ∀ item ∈ items, ∃ s, item.quoted? = some s) :
    ∃ shown, quotedItems? items = some shown := by
  induction items with
  | nil => exact ⟨[], rfl⟩
  | cons item items ih =>
      obtain ⟨s, hs⟩ := hitems item (by simp)
      obtain ⟨shown, hshown⟩ := ih fun other hother => hitems other (by simp [hother])
      exact ⟨s :: shown, by rw [quotedItems?, hs, hshown]; rfl⟩

theorem exists_quotedEntries {entries : List (Value × Value)}
    (hkeys : ∀ e ∈ entries, ∃ s, e.1.quoted? = some s)
    (hvalues : ∀ e ∈ entries, ∃ s, e.2.quoted? = some s) :
    ∃ shown, quotedEntries? entries = some shown := by
  induction entries with
  | nil => exact ⟨[], rfl⟩
  | cons e entries ih =>
      obtain ⟨key, hkey⟩ := hkeys e (by simp)
      obtain ⟨value, hvalue⟩ := hvalues e (by simp)
      obtain ⟨shown, hshown⟩ := ih (fun other hother => hkeys other (by simp [hother]))
        (fun other hother => hvalues other (by simp [hother]))
      exact ⟨(key ++ ": " ++ value) :: shown, by rw [quotedEntries?, hkey, hvalue, hshown]; rfl⟩

/-- A value whose integers can all be written has a quoted form. -/
theorem Printable.exists_quoted {v : Value} (hv : v.Printable) : ∃ s, v.quoted? = some s := by
  have ih (part : Value) (hpart : part ∈ v.parts) : ∃ s, part.quoted? = some s :=
    have hlt := sizeOf_lt_of_mem_parts hpart
    (hv.part hpart).exists_quoted
  cases v with
  | int n => exact ⟨Numeral.render n, (Numeral.render?_eq_some_iff n _).mpr ⟨hv.int, rfl⟩⟩
  | list items =>
      obtain ⟨shown, hshown⟩ : ∃ shown, quotedItems? items = some shown :=
        exists_quotedItems ih
      exact ⟨_, by rw [quoted?, hshown]; rfl⟩
  | tuple items =>
      obtain ⟨shown, hshown⟩ : ∃ shown, quotedItems? items = some shown :=
        exists_quotedItems ih
      rw [quoted?, hshown]
      rcases shown with _ | ⟨s, _ | ⟨t, shown⟩⟩
      all_goals exact ⟨_, rfl⟩
  | set items =>
      obtain ⟨shown, hshown⟩ : ∃ shown, quotedItems? items = some shown :=
        exists_quotedItems ih
      rw [quoted?, hshown]
      rcases shown with _ | ⟨s, shown⟩
      all_goals exact ⟨_, rfl⟩
  | map entries =>
      obtain ⟨shown, hshown⟩ := exists_quotedEntries
        (fun e he => ih e.1 (key_mem_parts he)) (fun e he => ih e.2 (value_mem_parts he))
      exact ⟨_, by rw [quoted?, hshown]; rfl⟩
  | _ => exact ⟨_, by rw [quoted?]⟩
termination_by sizeOf v
decreasing_by exact hlt

theorem mem_parts_of_mem_cells {row cell : Value} (hcell : cell ∈ row.cells) :
    cell ∈ row.parts := by
  unfold cells row? at hcell
  split at hcell
  · exact hcell
  · exact hcell
  · exact absurd hcell List.not_mem_nil

end Value

namespace Julia

/-- The tree of a table's rows. A single cell is written like a vector of one item. -/
def Tree.ofRows : List (List Tree) → Tree
  | [[t]] => .vector [t]
  | rows => .matrix rows

/-- The tree of a value: lists, tuples and octets are vectors, tables are matrices, sets and foreign
values are the texts they display as. -/
def tree : Value → Tree
  | .null => .nothing
  | .bool b => .bool b
  | .int n => .int n
  | .float x => .float (floatLiteral x)
  | .text s => .text s
  | .list items =>
    if Value.isTable items then
      .ofRows (items.map fun row => row.cells.attach.map fun cell => tree cell.val)
    else .vector (items.map tree)
  | .tuple items =>
    if Value.isTable items then
      .ofRows (items.map fun row => row.cells.attach.map fun cell => tree cell.val)
    else .vector (items.map tree)
  | .set items => .text ((Value.set items).display?.getD "")
  | .octets bytes => .vector (bytes.map fun b => .int b.toNat)
  | .map entries => .dict (entries.map fun e => (tree e.1, tree e.2))
  | .foreign object => .text object.shown
termination_by v => sizeOf v
decreasing_by
  · exact Nat.lt_trans (Value.sizeOf_lt_of_mem_parts (Value.mem_parts_of_mem_cells cell.property))
      (Value.sizeOf_lt_of_mem_parts (show row ∈ (Value.list items).parts from ‹row ∈ items›))
  · exact Value.sizeOf_lt_of_mem_parts (show _ ∈ (Value.list items).parts from ‹_ ∈ items›)
  · exact Nat.lt_trans (Value.sizeOf_lt_of_mem_parts (Value.mem_parts_of_mem_cells cell.property))
      (Value.sizeOf_lt_of_mem_parts (show row ∈ (Value.tuple items).parts from ‹row ∈ items›))
  · exact Value.sizeOf_lt_of_mem_parts (show _ ∈ (Value.tuple items).parts from ‹_ ∈ items›)
  · exact Value.sizeOf_lt_of_mem_parts (Value.key_mem_parts ‹e ∈ entries›)
  · exact Value.sizeOf_lt_of_mem_parts (Value.value_mem_parts ‹e ∈ entries›)

/-- The tree of items in order, a list's or a tuple's. -/
def sequenceTree (items : List Value) : Tree :=
  if Value.isTable items then .ofRows (items.map fun row => row.cells.map tree)
  else .vector (items.map tree)

theorem tree_list (items : List Value) : tree (.list items) = sequenceTree items := by
  simp [tree, sequenceTree]

theorem tree_tuple (items : List Value) : tree (.tuple items) = sequenceTree items := by
  simp [tree, sequenceTree]

theorem tree_map (entries : List (Value × Value)) :
    tree (.map entries) = .dict (entries.map fun e => (tree e.1, tree e.2)) := by
  rw [tree]

/-! Every tree of a value is canonical. -/

theorem floatLiteral_isFloat (x : Binary64) : Tree.IsFloat (floatLiteral x) := by
  cases x with
  | nan => exact Or.inr (by simp [floatLiteral, Tree.specialFloats])
  | infinity negative =>
      cases negative with
      | true => exact Or.inr (by simp [floatLiteral, Tree.specialFloats])
      | false => exact Or.inr (by simp [floatLiteral, Tree.specialFloats])
  | finite negative significand exponent canonical =>
      exact Or.inl (Binary64.render_finite_isDecimal negative significand exponent canonical)

theorem Tree.ofRows_canonical {rows : List (List Tree)} (hrows : rows ≠ [])
    (hcells : ∀ row ∈ rows, row ≠ []) (hitems : ∀ row ∈ rows, ∀ t ∈ row, Canonical t) :
    (ofRows rows).Canonical := by
  unfold ofRows
  split
  · next t =>
    apply Canonical.vector
    intro u hu
    exact hitems [t] (by simp) u hu
  · next hsingle => exact Canonical.matrix rows hrows hcells hsingle hitems

theorem sequenceTree_canonical {items : List Value}
    (hitems : ∀ item ∈ items, (tree item).Canonical)
    (hcells : ∀ row ∈ items, ∀ cell ∈ row.cells, (tree cell).Canonical) :
    (sequenceTree items).Canonical := by
  unfold sequenceTree
  split
  · next htable =>
    obtain ⟨hsome, hrows⟩ := Value.isTable_rows htable
    apply Tree.ofRows_canonical
    · simpa using hsome
    · intro row hrow
      obtain ⟨item, hitem, rfl⟩ := List.mem_map.mp hrow
      simpa using (hrows item hitem).1
    · intro row hrow t ht
      obtain ⟨item, hitem, rfl⟩ := List.mem_map.mp hrow
      obtain ⟨cell, hcell, rfl⟩ := List.mem_map.mp ht
      exact hcells item hitem cell hcell
  · apply Tree.Canonical.vector
    intro t ht
    obtain ⟨item, hitem, rfl⟩ := List.mem_map.mp ht
    exact hitems item hitem

theorem tree_canonical (v : Value) : (tree v).Canonical := by
  have ih (w : Value) (hlt : sizeOf w < sizeOf v) : (tree w).Canonical := tree_canonical w
  have hpart (w : Value) (hw : w ∈ v.parts) : (tree w).Canonical :=
    ih w (Value.sizeOf_lt_of_mem_parts hw)
  have hcell (row : Value) (hrow : row ∈ v.parts) (cell : Value) (hcell : cell ∈ row.cells) :
      (tree cell).Canonical := by
    have hsmall := Value.sizeOf_lt_of_mem_parts (Value.mem_parts_of_mem_cells hcell)
    exact ih cell (Nat.lt_trans hsmall (Value.sizeOf_lt_of_mem_parts hrow))
  cases v with
  | null => simpa [tree] using Tree.Canonical.nothing
  | bool b => simpa [tree] using Tree.Canonical.bool b
  | int n => simpa [tree] using Tree.Canonical.int n
  | float x => simpa [tree] using Tree.Canonical.float _ (floatLiteral_isFloat x)
  | text s => simpa [tree] using Tree.Canonical.text s
  | list items =>
      rw [tree_list]
      exact sequenceTree_canonical hpart hcell
  | tuple items =>
      rw [tree_tuple]
      exact sequenceTree_canonical hpart hcell
  | set items => simpa [tree] using Tree.Canonical.text _
  | octets bytes =>
      rw [tree]
      apply Tree.Canonical.vector
      intro t ht
      obtain ⟨b, _, rfl⟩ := List.mem_map.mp ht
      exact Tree.Canonical.int _
  | map entries =>
      rw [tree_map]
      have hentry (e : Value × Value) (he : e ∈ entries) :
          (tree e.1).Canonical ∧ (tree e.2).Canonical :=
        ⟨hpart e.1 (Value.key_mem_parts he), hpart e.2 (Value.value_mem_parts he)⟩
      apply Tree.Canonical.dict
      · intro pair hpair
        obtain ⟨e, he, rfl⟩ := List.mem_map.mp hpair
        exact (hentry e he).1
      · intro pair hpair
        obtain ⟨e, he, rfl⟩ := List.mem_map.mp hpair
        exact (hentry e he).2
  | foreign object => simpa [tree] using Tree.Canonical.text object.shown
termination_by sizeOf v
decreasing_by exact hlt

/-! The literal of a value is that of its tree. -/

/-- Whether a value's literal is its tree's. -/
def Written (v : Value) : Prop :=
  literal? v = some (String.ofList (tree v).render)

theorem literalItems?_eq {items : List Value} (hitems : ∀ item ∈ items, Written item) :
    literalItems? items = some (items.map fun item => String.ofList (tree item).render) := by
  induction items with
  | nil => rfl
  | cons item items ih =>
      have hitem : literal? item = _ := hitems item (by simp)
      have hrest := ih fun other hother => hitems other (by simp [hother])
      rw [literalItems?, hitem, hrest]
      rfl

theorem literalRows?_eq {rows : List Value}
    (hrows : ∀ row ∈ rows, ∃ cells, row = .list cells ∨ row = .tuple cells)
    (hcells : ∀ row ∈ rows, ∀ cell ∈ row.cells, Written cell) :
    literalRows? rows = some (rows.map fun row =>
      String.ofList (List.intercalate [' '] (row.cells.map fun cell => (tree cell).render))) := by
  induction rows with
  | nil => rfl
  | cons row rows ih =>
      have hitems := literalItems?_eq (hcells row (by simp))
      have hrest := ih (fun other hother => hrows other (by simp [hother]))
        (fun other hother => hcells other (by simp [hother]))
      obtain ⟨cells, rfl | rfl⟩ := hrows row (by simp)
      · rw [Value.cells_list] at hitems
        rw [literalRows?, hitems, hrest, List.map_cons, Value.cells_list]
        simp [← String.toList_inj, Function.comp_def]
      · rw [Value.cells_tuple] at hitems
        rw [literalRows?, hitems, hrest, List.map_cons, Value.cells_tuple]
        simp [← String.toList_inj, Function.comp_def]

theorem literalEntries?_eq {entries : List (Value × Value)}
    (hkeys : ∀ e ∈ entries, Written e.1) (hvalues : ∀ e ∈ entries, Written e.2) :
    literalEntries? entries = some (entries.map fun e =>
      String.ofList ((tree e.1).render ++ [' ', '=', '>', ' '] ++ (tree e.2).render)) := by
  induction entries with
  | nil => rfl
  | cons e entries ih =>
      have hkey : literal? e.1 = _ := hkeys e (by simp)
      have hvalue : literal? e.2 = _ := hvalues e (by simp)
      have hrest := ih (fun other hother => hkeys other (by simp [hother]))
        (fun other hother => hvalues other (by simp [hother]))
      rw [literalEntries?, hkey, hvalue, hrest]
      simp [← String.toList_inj]

theorem Tree.render_ofRows (rows : List (List Tree)) :
    (ofRows rows).render = '[' :: (List.intercalate [';', ' ']
      (rows.map fun row => List.intercalate [' '] (row.map render)) ++ [']']) := by
  unfold ofRows
  split
  · simp [render]
  · rw [render]

/-- A list and a tuple are written alike. -/
def sequenceLiteral? (items : List Value) : Option String := do
  if Value.isTable items then
    return "[" ++ String.intercalate "; " (← literalRows? items) ++ "]"
  else return "[" ++ String.intercalate ", " (← literalItems? items) ++ "]"

theorem sequenceLiteral?_eq {items : List Value} (hitems : ∀ item ∈ items, Written item)
    (hcells : ∀ row ∈ items, ∀ cell ∈ row.cells, Written cell) :
    sequenceLiteral? items = some (String.ofList (sequenceTree items).render) := by
  unfold sequenceLiteral? sequenceTree
  split
  · next htable =>
    obtain ⟨_, hrows⟩ := Value.isTable_rows htable
    have hwritten := literalRows?_eq (fun row hrow => (hrows row hrow).2) hcells
    rw [hwritten, Tree.render_ofRows]
    simp [← String.toList_inj, Function.comp_def]
  · have hwritten := literalItems?_eq hitems
    rw [hwritten, Tree.render]
    simp [← String.toList_inj, Function.comp_def]

/-- A value whose integers can all be written has a literal, and it is that of the value's tree. -/
theorem literal?_eq_render {v : Value} (hv : v.Printable) :
    literal? v = some (String.ofList (tree v).render) := by
  have ih (w : Value) (hlt : sizeOf w < sizeOf v) (hw : w.Printable) : Written w :=
    literal?_eq_render hw
  have hpart (w : Value) (hw : w ∈ v.parts) : Written w :=
    ih w (Value.sizeOf_lt_of_mem_parts hw) (hv.part hw)
  have hcell (row : Value) (hrow : row ∈ v.parts) (cell : Value) (hcell : cell ∈ row.cells) :
      Written cell := by
    have hmem := Value.mem_parts_of_mem_cells hcell
    have hsmall := Value.sizeOf_lt_of_mem_parts hmem
    exact ih cell (Nat.lt_trans hsmall (Value.sizeOf_lt_of_mem_parts hrow))
      ((hv.part hrow).part hmem)
  cases v with
  | null => simp [literal?, tree, Tree.render]
  | bool b => simp [literal?, tree, Tree.render, String.ofList_toList]
  | int n =>
      rw [literal?, tree, Tree.render, String.ofList_toList]
      exact (Numeral.render?_eq_some_iff n _).mpr ⟨hv.int, rfl⟩
  | float x => simp [literal?, tree, Tree.render]
  | text s => simp [literal?, tree, Tree.render]
  | list items =>
      have hwritten : sequenceLiteral? items = _ := sequenceLiteral?_eq hpart hcell
      rw [tree_list, ← hwritten, literal?, sequenceLiteral?]
  | tuple items =>
      have hwritten : sequenceLiteral? items = _ := sequenceLiteral?_eq hpart hcell
      rw [tree_tuple, ← hwritten, literal?, sequenceLiteral?]
  | set items =>
      obtain ⟨s, hs⟩ := hv.exists_quoted
      have hdisplay : (Value.set items).display? = some s := hs
      simp [literal?, tree, Tree.render, hdisplay]
  | octets bytes =>
      simp [literal?, tree, Tree.render, ← String.toList_inj, Function.comp_def]
  | map entries =>
      have hwritten := literalEntries?_eq
        (fun e he => hpart e.1 (Value.key_mem_parts he))
        (fun e he => hpart e.2 (Value.value_mem_parts he))
      rw [literal?, hwritten, tree_map, Tree.render]
      simp [← String.toList_inj, Function.comp_def]
  | foreign object => simp [literal?, tree, Tree.render]
termination_by sizeOf v
decreasing_by exact hlt

end Julia

end JuliaBlocks
