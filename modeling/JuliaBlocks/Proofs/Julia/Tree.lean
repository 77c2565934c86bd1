import JuliaBlocks.Julia.Identifier
import JuliaBlocks.Proofs.Julia.Quote
import JuliaBlocks.Proofs.Number.Word
import Mathlib.Data.List.Basic

/-!
Literals as trees, with a writer and a reader of them. The reader takes one literal from the front
of a text and leaves what follows it. Main statement: whatever is written is read back, at any
depth of nesting and before anything that does not go on with a word.
-/

namespace JuliaBlocks.Julia

/-- What a literal denotes. A floating-point number is known by its written form. -/
inductive Tree
  | nothing
  | bool (b : Bool)
  | int (n : Int)
  | float (written : String)
  | text (s : String)
  | vector (items : List Tree)
  | matrix (rows : List (List Tree))
  | dict (entries : List (Tree × Tree))
deriving Inhabited

namespace Tree

/-- The literals of the floating-point numbers that have no digits. -/
def specialFloats : List String := ["NaN", "Inf", "-Inf"]

/-- Whether a text is the literal of a floating-point number. -/
def IsFloat (s : String) : Prop :=
  Binary64.isDecimal s.toList = true ∨ s ∈ specialFloats

/-- The literal of a tree. -/
def render : Tree → List Char
  | nothing => "nothing".toList
  | bool b => (if b then "true" else "false").toList
  | int n => (Numeral.render n).toList
  | float written => written.toList
  | text s => (quote s).toList
  | vector items => '[' :: (List.intercalate [',', ' '] (items.map render) ++ [']'])
  | matrix rows =>
    '[' :: (List.intercalate [';', ' ']
      (rows.map fun row => List.intercalate [' '] (row.map render)) ++ [']'])
  | dict entries =>
    'D' :: 'i' :: 'c' :: 't' :: '(' :: (List.intercalate [',', ' ']
      (entries.map fun e => e.1.render ++ [' ', '=', '>', ' '] ++ e.2.render) ++ [')'])
decreasing_by
  · have hitem := List.sizeOf_lt_of_mem ‹_ ∈ items›
    simp only [vector.sizeOf_spec]
    omega
  · have hrow := List.sizeOf_lt_of_mem ‹row ∈ rows›
    have hcell := List.sizeOf_lt_of_mem ‹_ ∈ row›
    simp only [matrix.sizeOf_spec]
    omega
  · have hentry := List.sizeOf_lt_of_mem ‹e ∈ entries›
    obtain ⟨key, value⟩ := e
    simp only [dict.sizeOf_spec, Prod.mk.sizeOf_spec] at *
    omega
  · have hentry := List.sizeOf_lt_of_mem ‹e ∈ entries›
    obtain ⟨key, value⟩ := e
    simp only [dict.sizeOf_spec, Prod.mk.sizeOf_spec] at *
    omega

/-- The trees that literals are read as. A table of one cell is a vector, since both are written
alike; any other table has a row, and no row is empty. -/
inductive Canonical : Tree → Prop
  | nothing : Canonical .nothing
  | bool (b : Bool) : Canonical (.bool b)
  | int (n : Int) : Canonical (.int n)
  | float (s : String) (hfloat : IsFloat s) : Canonical (.float s)
  | text (s : String) : Canonical (.text s)
  | vector (items : List Tree) (hitems : ∀ t ∈ items, Canonical t) : Canonical (.vector items)
  | matrix (rows : List (List Tree)) (hrows : rows ≠ []) (hcells : ∀ row ∈ rows, row ≠ [])
      (hsingle : ∀ t, rows ≠ [[t]]) (hitems : ∀ row ∈ rows, ∀ t ∈ row, Canonical t) :
      Canonical (.matrix rows)
  | dict (entries : List (Tree × Tree))
      (hkeys : ∀ e ∈ entries, Canonical e.1) (hvalues : ∀ e ∈ entries, Canonical e.2) :
      Canonical (.dict entries)

end Tree

/-- Reads a thing from the front of a text, and gives what follows it. -/
abbrev Reader (α : Type) := List Char → Option (α × List Char)

/-- The characters that words and numbers are made of. -/
def isWordChar (c : Char) : Bool :=
  isIdentifierRest c || c == '.' || c == '+' || c == '-'

/-- Whether a text does not go on with a word. -/
def Delimited (s : List Char) : Prop :=
  ∀ c rest, s = c :: rest → isWordChar c = false

/-- What a word on its own denotes. -/
def readWord? (word : List Char) : Option Tree :=
  match Numeral.readInteger? word with
  | some n => some (.int n)
  | none =>
    if Binary64.isDecimal word || Tree.specialFloats.contains (String.ofList word) then
      some (.float (String.ofList word))
    else if word = "nothing".toList then some .nothing
    else if word = "true".toList then some (.bool true)
    else if word = "false".toList then some (.bool false)
    else none

/-- Reads things with a separator between each two of them, at most `most`. -/
def readSeparated {α : Type} (item : Reader α) (separator : List Char) : Nat → Reader (List α)
  | 0, _ => none
  | most + 1, s => do
    let (x, rest) ← item s
    match rest.dropPrefix? separator with
    | none => return ([x], rest)
    | some rest =>
      let (xs, rest) ← readSeparated item separator most rest
      return (x :: xs, rest)

/-- Reads the inside of a vector that is not empty, with the bracket that closes it. -/
def readVector (item : Reader Tree) : Reader Tree := fun s => do
  let (items, rest) ← readSeparated item [',', ' '] s.length s
  return (.vector items, ← rest.dropPrefix? [']'])

/-- Reads the inside of a matrix, with the bracket that closes it. -/
def readMatrix (item : Reader Tree) : Reader Tree := fun s => do
  let (rows, rest) ← readSeparated (readSeparated item [' '] s.length) [';', ' '] s.length s
  return (.matrix rows, ← rest.dropPrefix? [']'])

/-- Reads an entry of a dictionary. -/
def readEntry (item : Reader Tree) : Reader (Tree × Tree) := fun s => do
  let (key, rest) ← item s
  let (value, rest) ← item (← rest.dropPrefix? [' ', '=', '>', ' '])
  return ((key, value), rest)

/-- Reads the inside of a dictionary that is not empty, with the parenthesis that closes it. -/
def readDict (item : Reader Tree) : Reader Tree := fun s => do
  let (entries, rest) ← readSeparated (readEntry item) [',', ' '] s.length s
  return (.dict entries, ← rest.dropPrefix? [')'])

/-- Reads what follows an opening bracket. -/
def readBracketed (item : Reader Tree) : Reader Tree
  | ']' :: rest => some (.vector [], rest)
  | s => readVector item s <|> readMatrix item s

/-- Reads a dictionary, or a word on its own. -/
def readNamed (item : Reader Tree) : Reader Tree := fun s =>
  match s.takeWhile isWordChar, s.dropWhile isWordChar with
  | ['D', 'i', 'c', 't'], '(' :: ')' :: rest => some (.dict [], rest)
  | ['D', 'i', 'c', 't'], '(' :: rest => readDict item rest
  | word, rest => (readWord? word).map (·, rest)

/-- Reads a literal that is nested less than `depth` times. -/
def readTree : (depth : Nat) → Reader Tree
  | 0, _ => none
  | _ + 1, '"' :: rest => (readInside rest).map fun (s, after) => (.text (String.ofList s), after)
  | depth + 1, '[' :: rest => readBracketed (readTree depth) rest
  | depth + 1, s => readNamed (readTree depth) s

/-- Reads a literal. No literal is nested more often than it has characters. -/
def readLiteral : Reader Tree := fun s => readTree s.length s

/-! Words. -/

theorem delimited_nil : Delimited [] := by
  intro c rest heq
  cases heq

theorem delimited_cons {c : Char} (s : List Char) (hc : isWordChar c = false) :
    Delimited (c :: s) := by
  intro d rest heq
  cases heq
  exact hc

theorem takeWhile_word {word rest : List Char} (hword : ∀ c ∈ word, isWordChar c = true)
    (hrest : Delimited rest) : (word ++ rest).takeWhile isWordChar = word := by
  rw [List.takeWhile_append_of_pos hword]
  cases rest with
  | nil => simp
  | cons c rest => simp [hrest c rest rfl]

theorem dropWhile_word {word rest : List Char} (hword : ∀ c ∈ word, isWordChar c = true)
    (hrest : Delimited rest) : (word ++ rest).dropWhile isWordChar = rest := by
  rw [List.dropWhile_append_of_pos hword]
  cases rest with
  | nil => rfl
  | cons c rest => simp [hrest c rest rfl]

/-- A word that is no dictionary's is read as what it denotes. -/
theorem readTree_word {word rest : List Char} {t : Tree} (depth : Nat) (hsome : word ≠ [])
    (hword : ∀ c ∈ word, isWordChar c = true) (hread : readWord? word = some t)
    (hrest : Delimited rest) : readTree (depth + 1) (word ++ rest) = some (t, rest) := by
  have htake := takeWhile_word hword hrest
  have hdrop := dropWhile_word hword hrest
  obtain ⟨c, tail, rfl⟩ := List.exists_cons_of_ne_nil hsome
  have hc : isWordChar c = true := hword c (by simp)
  have hquote : c ≠ '"' := by
    rintro rfl
    exact absurd hc (by decide)
  have hbracket : c ≠ '[' := by
    rintro rfl
    exact absurd hc (by decide)
  have hdict : c :: tail ≠ ['D', 'i', 'c', 't'] := by
    intro heq
    rw [heq] at hread
    cases hread
  rw [List.cons_append, readTree, readNamed, ← List.cons_append, htake, hdrop]
  · split
    · next heq => exact absurd heq hdict
    · next heq => exact absurd heq hdict
    · rw [hread]
      rfl
  · intro rest' heq
    cases heq
    exact hquote rfl
  · intro rest' heq
    cases heq
    exact hbracket rfl

theorem isWordChar_of_isDecimalChar {c : Char} (hc : Binary64.isDecimalChar c = true) :
    isWordChar c = true := by
  simp only [Binary64.isDecimalChar, Bool.or_eq_true, beq_iff_eq] at hc
  simp only [isWordChar, isIdentifierRest, Char.isAlphanum, Bool.or_eq_true, beq_iff_eq]
  rcases hc with (((hdigit | rfl) | rfl) | rfl) | rfl
  · exact Or.inl (Or.inl (Or.inl (Or.inl (Or.inl (Or.inr hdigit)))))
  all_goals decide

theorem isWordChar_of_mem_sign {word : List Char} {c : Char} (hc : c ∈ word)
    (hdigits : ∀ d ∈ (Numeral.takeSign word).2, isWordChar d = true) : isWordChar c = true := by
  unfold Numeral.takeSign at hdigits
  split at hdigits
  · rcases List.mem_cons.mp hc with rfl | hc
    · decide
    · exact hdigits c hc
  · rcases List.mem_cons.mp hc with rfl | hc
    · decide
    · exact hdigits c hc
  · exact hdigits c hc

theorem isWordChar_of_mem_integer {n : Int} {c : Char} (hc : c ∈ (Numeral.render n).toList) :
    isWordChar c = true := by
  apply isWordChar_of_mem_sign hc
  intro d hd
  rw [Numeral.takeSign_render] at hd
  exact isWordChar_of_isDecimalChar (Binary64.isDecimalChar_of_mem_digits hd)

theorem isWordChar_of_mem_float {s : String} {c : Char} (hfloat : Tree.IsFloat s)
    (hc : c ∈ s.toList) : isWordChar c = true := by
  rcases hfloat with hdecimal | hspecial
  · apply isWordChar_of_mem_sign hc
    intro d hd
    simp only [Binary64.isDecimal, Bool.and_eq_true, List.all_eq_true] at hdecimal
    exact isWordChar_of_isDecimalChar (hdecimal.1.2 d hd)
  · have hwords : Tree.specialFloats.all (fun s => s.toList.all isWordChar) = true := by decide
    have hword := List.all_eq_true.mp hwords s hspecial
    exact List.all_eq_true.mp hword c hc

/-- Whoever has a point or an exponent is no integer. -/
theorem readInteger?_eq_none {word : List Char} (hdecimal : Binary64.isDecimal word = true) :
    Numeral.readInteger? word = none := by
  simp only [Binary64.isDecimal, Bool.and_eq_true, List.any_eq_true] at hdecimal
  obtain ⟨_, c, hc, hmark⟩ := hdecimal
  have hnone : ((Numeral.takeSign word).2.mapM Numeral.asciiDigit?) = none := by
    apply Numeral.mapM_asciiDigit?_eq_none hc
    simp only [Bool.or_eq_true, beq_iff_eq] at hmark
    rcases hmark with rfl | rfl
    · decide
    · decide
  simp [Numeral.readInteger?, hnone]

theorem readWord?_integer (n : Int) : readWord? (Numeral.render n).toList = some (.int n) := by
  simp [readWord?, Numeral.readInteger?_render]

theorem readWord?_float {s : String} (hfloat : Tree.IsFloat s) :
    readWord? s.toList = some (.float s) := by
  rcases hfloat with hdecimal | hspecial
  · simp [readWord?, readInteger?_eq_none hdecimal, hdecimal]
  · have hnone : Numeral.readInteger? s.toList = none := by
      simp only [Tree.specialFloats, List.mem_cons, List.not_mem_nil, or_false] at hspecial
      rcases hspecial with rfl | rfl | rfl <;> rfl
    simp [readWord?, hnone, hspecial]

/-! Things with separators between them. -/

theorem length_le_intercalate {α : Type} (separator : List α) (parts : List (List α))
    (hparts : ∀ part ∈ parts, part ≠ []) :
    parts.length ≤ (separator.intercalate parts).length := by
  induction parts with
  | nil => simp
  | cons part parts ih =>
      have hpart : 0 < part.length := List.length_pos_iff.mpr (hparts part (by simp))
      have htail := ih fun p hp => hparts p (by simp [hp])
      cases parts with
      | nil =>
          simp only [List.length_singleton, List.intercalate_singleton]
          omega
      | cons next parts =>
          rw [List.intercalate_cons_cons]
          simp only [List.length_append, List.length_cons] at htail ⊢
          omega

/-- If each of some written things is read back in front of whatever may come next, then all of
them are read back with the separators between them. What follows the last one must not look like
one more separator. -/
theorem readSeparated_intercalate {α : Type} {item : Reader α} {written : α → List Char}
    {separator : List Char} {E : List Char → Prop} (xs : List α) (rest : List Char)
    (most : Nat) (hsome : xs ≠ []) (hmost : xs.length ≤ most)
    (hitem : ∀ x ∈ xs, ∀ after, E after → item (written x ++ after) = some (x, after))
    (hseparator : ∀ after, E (separator ++ after)) (hrest : E rest)
    (hlast : rest.dropPrefix? separator = none) :
    readSeparated item separator most (separator.intercalate (xs.map written) ++ rest) =
      some (xs, rest) := by
  induction xs generalizing most with
  | nil => exact absurd rfl hsome
  | cons x xs ih =>
      obtain ⟨most, rfl⟩ : ∃ k, most = k + 1 := ⟨most - 1, by simp at hmost; omega⟩
      have hx := hitem x (by simp)
      cases xs with
      | nil =>
          simp [readSeparated, hx rest hrest, hlast]
      | cons y xs =>
          have htail := ih most (by simp) (by simpa using hmost)
            (fun z hz => hitem z (by simp [hz]))
          have hdrop (after : List Char) : (separator ++ after).dropPrefix? separator =
              some after := List.dropPrefix?_append_of_beq after (by simp)
          simp only [List.map_cons] at htail
          rw [List.map_cons, List.map_cons, List.intercalate_cons_cons, List.append_assoc,
            List.append_assoc, readSeparated, hx _ (hseparator _)]
          simp [hdrop, htail]

theorem dropPrefix?_cons_of_ne {c d : Char} (s separator : List Char) (hne : c ≠ d) :
    (c :: s).dropPrefix? (d :: separator) = none := by
  simp [List.dropPrefix?, hne]

/-- What a reader of items promises about some trees. -/
def Reads (item : Reader Tree) (t : Tree) : Prop :=
  t.render ≠ [] ∧ ∀ after, Delimited after → item (t.render ++ after) = some (t, after)

theorem readVector_render {item : Reader Tree} (items : List Tree) (rest : List Char)
    (hsome : items ≠ []) (hitems : ∀ t ∈ items, Reads item t) :
    readVector item (List.intercalate [',', ' '] (items.map Tree.render) ++ ']' :: rest) =
      some (.vector items, rest) := by
  have hlength := length_le_intercalate [',', ' '] (items.map Tree.render) (by
    intro part hpart
    obtain ⟨t, ht, rfl⟩ := List.mem_map.mp hpart
    exact (hitems t ht).1)
  have hread : readSeparated item [',', ' ']
      (List.intercalate [',', ' '] (items.map Tree.render) ++ ']' :: rest).length
      (List.intercalate [',', ' '] (items.map Tree.render) ++ ']' :: rest) =
      some (items, ']' :: rest) := by
    apply readSeparated_intercalate (E := Delimited)
    · exact hsome
    · simp only [List.length_append, List.length_map] at hlength ⊢
      omega
    · exact fun t ht => (hitems t ht).2
    · exact fun after => delimited_cons _ (by decide)
    · exact delimited_cons _ (by decide)
    · exact dropPrefix?_cons_of_ne _ _ (by decide)
  simp only [readVector, hread]
  simp [List.dropPrefix?]

/-- The cells of a row are read up to the end of the row. -/
theorem readRow_render {item : Reader Tree} (row : List Tree) (most : Nat) (after : List Char)
    (hsome : row ≠ []) (hrow : ∀ t ∈ row, Reads item t)
    (hmost : (List.intercalate [' '] (row.map Tree.render)).length ≤ most)
    (hafter : Delimited after) (hend : after.dropPrefix? [' '] = none) :
    readSeparated item [' '] most (List.intercalate [' '] (row.map Tree.render) ++ after) =
      some (row, after) := by
  have hlength := length_le_intercalate [' '] (row.map Tree.render) (by
    intro part hpart
    obtain ⟨t, ht, rfl⟩ := List.mem_map.mp hpart
    exact (hrow t ht).1)
  rw [List.length_map] at hlength
  exact readSeparated_intercalate (E := Delimited) row after most hsome (by omega)
    (fun t ht => (hrow t ht).2) (fun _ => delimited_cons _ (by decide)) hafter hend

theorem intercalate_length_le_of_mem {α : Type} (separator : List α) (parts : List (List α))
    {part : List α} (hmem : part ∈ parts) :
    part.length ≤ (separator.intercalate parts).length := by
  induction parts with
  | nil => exact absurd hmem List.not_mem_nil
  | cons first parts ih =>
      cases parts with
      | nil =>
          simp [List.mem_singleton.mp hmem]
      | cons next parts =>
          rw [List.intercalate_cons_cons]
          simp only [List.length_append]
          rcases List.mem_cons.mp hmem with rfl | hmem
          · omega
          · have htail := ih hmem
            omega

theorem readMatrix_render {item : Reader Tree} (rows : List (List Tree)) (rest : List Char)
    (hsome : rows ≠ []) (hcells : ∀ row ∈ rows, row ≠ [])
    (hitems : ∀ row ∈ rows, ∀ t ∈ row, Reads item t) :
    readMatrix item (List.intercalate [';', ' '] (rows.map fun row =>
        List.intercalate [' '] (row.map Tree.render)) ++ ']' :: rest) =
      some (.matrix rows, rest) := by
  let written (row : List Tree) : List Char := List.intercalate [' '] (row.map Tree.render)
  let text := List.intercalate [';', ' '] (rows.map written) ++ ']' :: rest
  have hwritten : ∀ row ∈ rows, (written row).length ≤ text.length := by
    intro row hrow
    have hpart := intercalate_length_le_of_mem [';', ' '] (rows.map written)
      (List.mem_map_of_mem hrow)
    simp only [text, List.length_append]
    omega
  have hlength := length_le_intercalate [';', ' '] (rows.map written) (by
    intro part hpart
    obtain ⟨row, hrow, rfl⟩ := List.mem_map.mp hpart
    have hcount := length_le_intercalate [' '] (row.map Tree.render) (by
      intro cell hcell
      obtain ⟨t, ht, rfl⟩ := List.mem_map.mp hcell
      exact (hitems row hrow t ht).1)
    have hpos := List.length_pos_iff.mpr (hcells row hrow)
    rw [List.length_map] at hcount
    exact List.length_pos_iff.mp (by simp only [written]; omega))
  have hread : readSeparated (readSeparated item [' '] text.length) [';', ' '] text.length text =
      some (rows, ']' :: rest) := by
    apply readSeparated_intercalate
      (E := fun s => Delimited s ∧ s.dropPrefix? [' '] = none)
    · exact hsome
    · simp only [text, List.length_append, List.length_map] at hlength ⊢
      omega
    · intro row hrow after hafter
      exact readRow_render row text.length after (hcells row hrow) (hitems row hrow)
        (hwritten row hrow) hafter.1 hafter.2
    · intro after
      exact ⟨delimited_cons _ (by decide), dropPrefix?_cons_of_ne _ _ (by decide)⟩
    · exact ⟨delimited_cons _ (by decide), dropPrefix?_cons_of_ne _ _ (by decide)⟩
    · exact dropPrefix?_cons_of_ne _ _ (by decide)
  change readMatrix item text = _
  simp only [readMatrix, hread]
  simp [List.dropPrefix?]

theorem readEntry_render {item : Reader Tree} (e : Tree × Tree) (after : List Char)
    (hkey : Reads item e.1) (hvalue : Reads item e.2) (hafter : Delimited after) :
    readEntry item (e.1.render ++ [' ', '=', '>', ' '] ++ e.2.render ++ after) =
      some (e, after) := by
  have hdrop : ([' ', '=', '>', ' '] ++ (e.2.render ++ after)).dropPrefix? [' ', '=', '>', ' '] =
      some (e.2.render ++ after) := List.dropPrefix?_append_of_beq _ (by simp)
  have hkeyread := hkey.2 ([' ', '=', '>', ' '] ++ (e.2.render ++ after))
    (delimited_cons _ (by decide))
  rw [List.append_assoc, List.append_assoc]
  simp only [readEntry, hkeyread, hdrop, hvalue.2 after hafter, Option.bind_eq_bind,
    Option.bind_some, Option.pure_def]

theorem readDict_render {item : Reader Tree} (entries : List (Tree × Tree)) (rest : List Char)
    (hsome : entries ≠ []) (hkeys : ∀ e ∈ entries, Reads item e.1)
    (hvalues : ∀ e ∈ entries, Reads item e.2) :
    readDict item (List.intercalate [',', ' '] (entries.map fun e =>
        e.1.render ++ [' ', '=', '>', ' '] ++ e.2.render) ++ ')' :: rest) =
      some (.dict entries, rest) := by
  let written (e : Tree × Tree) : List Char := e.1.render ++ [' ', '=', '>', ' '] ++ e.2.render
  let text := List.intercalate [',', ' '] (entries.map written) ++ ')' :: rest
  have hlength := length_le_intercalate [',', ' '] (entries.map written) (by
    intro part hpart
    obtain ⟨e, he, rfl⟩ := List.mem_map.mp hpart
    simp [written])
  have hread : readSeparated (readEntry item) [',', ' '] text.length text =
      some (entries, ')' :: rest) := by
    apply readSeparated_intercalate (E := Delimited)
    · exact hsome
    · simp only [text, List.length_append, List.length_map] at hlength ⊢
      omega
    · intro e he after hafter
      exact readEntry_render e after (hkeys e he) (hvalues e he) hafter
    · exact fun after => delimited_cons _ (by decide)
    · exact delimited_cons _ (by decide)
    · exact dropPrefix?_cons_of_ne _ _ (by decide)
  change readDict item text = _
  simp only [readDict, hread]
  simp [List.dropPrefix?]

/-- A vector cannot go on after its first item with anything but a comma. -/
theorem readVector_eq_none {item : Reader Tree} {t : Tree} {c : Char} (rest : List Char)
    (ht : Reads item t) (hword : isWordChar c = false) (hcomma : c ≠ ',') (hbracket : c ≠ ']') :
    readVector item (t.render ++ c :: rest) = none := by
  have hlength : (t.render ++ c :: rest).length = t.render.length + rest.length + 1 := by
    simp only [List.length_append, List.length_cons]
    omega
  have hitem := ht.2 (c :: rest) (delimited_cons rest hword)
  simp only [readVector, hlength, readSeparated, hitem]
  simp [dropPrefix?_cons_of_ne, hcomma, hbracket]

/-- The text of a matrix that is no single cell starts with a cell, and then the cell's row or the
matrix goes on. -/
theorem matrix_starts (rows : List (List Tree)) (hrows : rows ≠ [])
    (hcells : ∀ row ∈ rows, row ≠ []) (hsingle : ∀ t, rows ≠ [[t]]) :
    ∃ row ∈ rows, ∃ t ∈ row, ∃ c after, (c = ' ' ∨ c = ';') ∧
      List.intercalate [';', ' '] (rows.map fun row =>
        List.intercalate [' '] (row.map Tree.render)) = t.render ++ c :: after := by
  let written (row : List Tree) : List Char := List.intercalate [' '] (row.map Tree.render)
  obtain ⟨row, rows, rfl⟩ := List.exists_cons_of_ne_nil hrows
  obtain ⟨t, row, rfl⟩ := List.exists_cons_of_ne_nil (hcells row (by simp))
  refine ⟨t :: row, by simp, t, by simp, ?_⟩
  cases row with
  | cons u row =>
      have hrow : written (t :: u :: row) = t.render ++ ' ' :: written (u :: row) := by
        simp [written, List.intercalate_cons_cons]
      cases rows with
      | nil =>
          refine ⟨' ', written (u :: row), Or.inl rfl, ?_⟩
          rw [List.map_singleton, List.intercalate_singleton]
          exact hrow
      | cons next rows =>
          refine ⟨' ', written (u :: row) ++
            ([';', ' '] ++ List.intercalate [';', ' '] ((next :: rows).map written)),
            Or.inl rfl, ?_⟩
          change List.intercalate [';', ' '] (written (t :: u :: row) :: written next ::
            rows.map written) = _
          rw [List.intercalate_cons_cons, hrow]
          simp
  | nil =>
      cases rows with
      | nil => exact absurd rfl (hsingle t)
      | cons next rows =>
          refine ⟨';', ' ' :: List.intercalate [';', ' '] ((next :: rows).map written),
            Or.inr rfl, ?_⟩
          have hrow : written [t] = t.render := by simp [written]
          change List.intercalate [';', ' '] (written [t] :: written next :: rows.map written) = _
          rw [List.intercalate_cons_cons, hrow]
          simp

/-! Whole trees. -/

theorem Tree.IsFloat.ne_nil {s : String} (hfloat : Tree.IsFloat s) : s.toList ≠ [] := by
  intro hnil
  rcases hfloat with hdecimal | hspecial
  · rw [hnil] at hdecimal
    exact absurd hdecimal (by decide)
  · simp only [Tree.specialFloats, List.mem_cons, List.not_mem_nil, or_false] at hspecial
    rcases hspecial with rfl | rfl | rfl <;> cases hnil

/-- No literal starts like the end of a vector or of a dictionary. -/
theorem Tree.Canonical.render_cons {t : Tree} (ht : t.Canonical) :
    ∃ c s, t.render = c :: s ∧ c ≠ ']' ∧ c ≠ ')' := by
  have hword {s : List Char} (hsome : s ≠ []) (hs : ∀ c ∈ s, isWordChar c = true) :
      ∃ c rest, s = c :: rest ∧ c ≠ ']' ∧ c ≠ ')' := by
    obtain ⟨c, rest, rfl⟩ := List.exists_cons_of_ne_nil hsome
    have hc := hs c (by simp)
    refine ⟨c, rest, rfl, ?_, ?_⟩
    all_goals
      rintro rfl
      exact absurd hc (by decide)
  cases ht with
  | nothing => exact ⟨'n', _, by rw [render]; rfl, by decide, by decide⟩
  | bool b =>
      cases b with
      | true => exact ⟨'t', _, by rw [render]; rfl, by decide, by decide⟩
      | false => exact ⟨'f', _, by rw [render]; rfl, by decide, by decide⟩
  | int n =>
      rw [render]
      refine hword ?_ fun c hc => isWordChar_of_mem_integer hc
      simp [Numeral.toList_render, Nat.toDigits_ne_nil]
  | float s hfloat =>
      rw [render]
      exact hword hfloat.ne_nil fun c hc => isWordChar_of_mem_float hfloat hc
  | text s => exact ⟨'"', _, by rw [render, toList_quote], by decide, by decide⟩
  | vector items _ => exact ⟨'[', _, by rw [render], by decide, by decide⟩
  | matrix rows _ _ _ _ => exact ⟨'[', _, by rw [render], by decide, by decide⟩
  | dict entries _ _ => exact ⟨'D', _, by rw [render], by decide, by decide⟩

theorem Tree.Canonical.render_ne_nil {t : Tree} (ht : t.Canonical) : t.render ≠ [] := by
  obtain ⟨c, s, hrender, _, _⟩ := ht.render_cons
  simp [hrender]

/-- Inside brackets stands a vector or a matrix, told apart by what follows the first item. -/
theorem readBracketed_eq {item : Reader Tree} {c : Char} (s : List Char) (hc : c ≠ ']') :
    readBracketed item (c :: s) =
      (readVector item (c :: s) <|> readMatrix item (c :: s)) := by
  rw [readBracketed]
  intro rest heq
  cases heq
  exact hc rfl

theorem intercalate_cons {α : Type} (separator part : List α) (parts : List (List α)) :
    ∃ tail, separator.intercalate (part :: parts) = part ++ tail := by
  cases parts with
  | nil => exact ⟨[], by simp⟩
  | cons next parts =>
      refine ⟨separator ++ separator.intercalate (next :: parts), ?_⟩
      rw [List.intercalate_cons_cons, List.append_assoc]

theorem readBracketed_vector {item : Reader Tree} (items : List Tree) (rest : List Char)
    (hcanonical : ∀ t ∈ items, t.Canonical) (hitems : ∀ t ∈ items, Reads item t) :
    readBracketed item (List.intercalate [',', ' '] (items.map Tree.render) ++ ']' :: rest) =
      some (.vector items, rest) := by
  by_cases hsome : items = []
  · subst hsome
    rfl
  · have hread := readVector_render items rest hsome hitems
    obtain ⟨t, items, rfl⟩ := List.exists_cons_of_ne_nil hsome
    obtain ⟨c, s, hrender, hc, _⟩ := (hcanonical t (by simp)).render_cons
    obtain ⟨tail, htail⟩ := intercalate_cons [',', ' '] t.render (items.map Tree.render)
    rw [List.map_cons, htail, hrender, List.cons_append, List.cons_append] at hread ⊢
    rw [readBracketed_eq _ hc, hread]
    rfl

theorem readBracketed_matrix {item : Reader Tree} (rows : List (List Tree)) (rest : List Char)
    (hrows : rows ≠ []) (hcells : ∀ row ∈ rows, row ≠ []) (hsingle : ∀ t, rows ≠ [[t]])
    (hcanonical : ∀ row ∈ rows, ∀ t ∈ row, t.Canonical)
    (hitems : ∀ row ∈ rows, ∀ t ∈ row, Reads item t) :
    readBracketed item (List.intercalate [';', ' '] (rows.map fun row =>
        List.intercalate [' '] (row.map Tree.render)) ++ ']' :: rest) =
      some (.matrix rows, rest) := by
  have hread := readMatrix_render rows rest hrows hcells hitems
  obtain ⟨row, hrow, t, ht, c, after, hc, hstart⟩ := matrix_starts rows hrows hcells hsingle
  have hvector : readVector item (t.render ++ c :: (after ++ ']' :: rest)) = none := by
    apply readVector_eq_none _ (hitems row hrow t ht)
    all_goals rcases hc with rfl | rfl <;> decide
  obtain ⟨d, s, hrender, hd, _⟩ := (hcanonical row hrow t ht).render_cons
  rw [hstart, List.append_assoc, List.cons_append] at hread ⊢
  rw [hrender, List.cons_append] at hread hvector ⊢
  rw [readBracketed_eq _ hd, hvector, hread]
  rfl

/-- The name of a dictionary is read up to its parenthesis. -/
theorem readNamed_eq_readDict {item : Reader Tree} {c : Char} (s : List Char) (hc : c ≠ ')') :
    readNamed item ('D' :: 'i' :: 'c' :: 't' :: '(' :: c :: s) = readDict item (c :: s) := by
  have hword : ∀ d ∈ ['D', 'i', 'c', 't'], isWordChar d = true :=
    List.all_eq_true.mp (by decide)
  have hrest : Delimited ('(' :: c :: s) := delimited_cons _ (by decide)
  have htake := takeWhile_word hword hrest
  have hdrop := dropWhile_word hword hrest
  simp only [List.cons_append, List.nil_append] at htake hdrop
  rw [readNamed, htake, hdrop]
  split
  · next heq =>
    cases heq
    exact absurd rfl hc
  · next heq =>
    cases heq
    rfl
  · next hother => exact absurd rfl (hother _ rfl)

theorem readNamed_dict {item : Reader Tree} (entries : List (Tree × Tree)) (rest : List Char)
    (hcanonical : ∀ e ∈ entries, e.1.Canonical) (hkeys : ∀ e ∈ entries, Reads item e.1)
    (hvalues : ∀ e ∈ entries, Reads item e.2) :
    readNamed item ('D' :: 'i' :: 'c' :: 't' :: '(' :: (List.intercalate [',', ' ']
        (entries.map fun e => e.1.render ++ [' ', '=', '>', ' '] ++ e.2.render) ++ ')' :: rest)) =
      some (.dict entries, rest) := by
  by_cases hsome : entries = []
  · subst hsome
    rfl
  · have hread := readDict_render entries rest hsome hkeys hvalues
    obtain ⟨e, entries, rfl⟩ := List.exists_cons_of_ne_nil hsome
    obtain ⟨c, s, hrender, _, hc⟩ := (hcanonical e (by simp)).render_cons
    obtain ⟨tail, htail⟩ := intercalate_cons [',', ' ']
      (e.1.render ++ [' ', '=', '>', ' '] ++ e.2.render)
      (entries.map fun e => e.1.render ++ [' ', '=', '>', ' '] ++ e.2.render)
    rw [List.map_cons, htail, hrender] at hread ⊢
    simp only [List.cons_append] at hread ⊢
    rw [readNamed_eq_readDict _ hc, hread]

theorem length_vector_lt {items : List Tree} {t : Tree} (ht : t ∈ items) :
    t.render.length < (Tree.vector items).render.length := by
  have hpart := intercalate_length_le_of_mem [',', ' '] _
    (List.mem_map_of_mem (f := Tree.render) ht)
  simp only [Tree.render, List.length_cons, List.length_append]
  omega

theorem length_matrix_lt {rows : List (List Tree)} {row : List Tree} {t : Tree}
    (hrow : row ∈ rows) (ht : t ∈ row) : t.render.length < (Tree.matrix rows).render.length := by
  have hcell := intercalate_length_le_of_mem [' '] _ (List.mem_map_of_mem (f := Tree.render) ht)
  have hpart := intercalate_length_le_of_mem [';', ' '] _
    (List.mem_map_of_mem (f := fun row => List.intercalate [' '] (row.map Tree.render)) hrow)
  simp only [Tree.render, List.length_cons, List.length_append]
  omega

theorem length_dict_lt {entries : List (Tree × Tree)} {e : Tree × Tree} (he : e ∈ entries) :
    e.1.render.length < (Tree.dict entries).render.length ∧
      e.2.render.length < (Tree.dict entries).render.length := by
  have hpart := intercalate_length_le_of_mem [',', ' '] _ (List.mem_map_of_mem
    (f := fun e : Tree × Tree => e.1.render ++ [' ', '=', '>', ' '] ++ e.2.render) he)
  simp only [List.length_append] at hpart
  simp only [Tree.render, List.length_cons, List.length_append]
  omega

/-- The reader undoes the writer: at any depth that the text leaves room for, and whatever follows,
as long as it does not go on with a word. -/
theorem readTree_render (depth : Nat) (t : Tree) (rest : List Char) (ht : t.Canonical)
    (hdepth : t.render.length ≤ depth) (hrest : Delimited rest) :
    readTree depth (t.render ++ rest) = some (t, rest) := by
  induction depth generalizing t rest with
  | zero => exact absurd (List.length_eq_zero_iff.mp (by omega)) ht.render_ne_nil
  | succ depth ih =>
      have hreads {u : Tree} (hu : u.Canonical) (hlength : u.render.length < t.render.length) :
          Reads (readTree depth) u :=
        ⟨hu.render_ne_nil, fun after hafter => ih u after hu (by omega) hafter⟩
      cases ht with
      | nothing =>
          rw [Tree.render]
          exact readTree_word depth (by decide) (List.all_eq_true.mp (by decide)) rfl hrest
      | bool b =>
          rw [Tree.render]
          cases b with
          | true =>
              exact readTree_word depth (by decide) (List.all_eq_true.mp (by decide)) rfl hrest
          | false =>
              exact readTree_word depth (by decide) (List.all_eq_true.mp (by decide)) rfl hrest
      | int n =>
          rw [Tree.render]
          refine readTree_word depth ?_ (fun c hc => isWordChar_of_mem_integer hc)
            (readWord?_integer n) hrest
          simp [Numeral.toList_render, Nat.toDigits_ne_nil]
      | float s hfloat =>
          rw [Tree.render]
          exact readTree_word depth hfloat.ne_nil
            (fun c hc => isWordChar_of_mem_float hfloat hc) (readWord?_float hfloat) hrest
      | text s =>
          rw [Tree.render, toList_quote, List.cons_append, List.append_assoc, readTree]
          change (readInside (escape s.toList ++ '"' :: rest)).map _ = _
          rw [readInside_escape]
          simp
      | vector items hitems =>
          have hinside := readBracketed_vector items rest hitems fun t ht =>
            hreads (hitems t ht) (length_vector_lt ht)
          rw [Tree.render, List.cons_append, List.append_assoc, readTree]
          exact hinside
      | matrix rows hrows hcells hsingle hitems =>
          have hinside := readBracketed_matrix rows rest hrows hcells hsingle hitems
            fun row hrow t ht => hreads (hitems row hrow t ht) (length_matrix_lt hrow ht)
          rw [Tree.render, List.cons_append, List.append_assoc, readTree]
          exact hinside
      | dict entries hkeys hvalues =>
          have hinside := readNamed_dict entries rest hkeys
            (fun e he => hreads (hkeys e he) (length_dict_lt he).1)
            (fun e he => hreads (hvalues e he) (length_dict_lt he).2)
          simp only [Tree.render, List.cons_append, List.append_assoc] at hinside ⊢
          exact hinside

/-- A literal is read back in front of whatever does not go on with a word. -/
theorem readLiteral_render (t : Tree) (rest : List Char) (ht : t.Canonical)
    (hrest : Delimited rest) : readLiteral (t.render ++ rest) = some (t, rest) := by
  exact readTree_render _ t rest ht (by simp) hrest

end JuliaBlocks.Julia
