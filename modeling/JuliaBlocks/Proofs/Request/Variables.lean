import JuliaBlocks.Proofs.Julia.Refusal
import JuliaBlocks.Proofs.Number.Overlong
import JuliaBlocks.Request.Variables

/-!
Which variables are read. Items that bind nothing are passed over; all that is refused is what is no
collection, what cannot be shown where it is to be a name, and an integer that is written with too
many digits. Main statements: `readVariables_returns_iff` and `variablesOf_of_readVariables`.
-/

namespace JuliaBlocks

namespace Value

theorem display_eq_ok_iff {v : Value} {s : String} : v.display = .ok s ↔ v.display? = some s := by
  unfold display
  split
  · next t ht => simp [ht]
  · next hnone => simp [hnone]

theorem display_returns_iff (v : Value) : (∃ s, v.display = .ok s) ↔ v.Printable := by
  simp only [display_eq_ok_iff]
  have hquoted : (∃ s, v.quoted? = some s) ↔ v.Printable :=
    ⟨fun ⟨_, hs⟩ => .of_quoted hs, Printable.exists_quoted⟩
  cases v with
  | text s => exact iff_of_true ⟨s, rfl⟩ (hquoted.mp ⟨Text.quoted s, rfl⟩)
  | foreign object => exact iff_of_true ⟨object.shown, rfl⟩ (hquoted.mp ⟨object.quoted, rfl⟩)
  | _ => exact hquoted

/-- A text that starts like a number is not between quotes, so it does not matter that quotes are
looked for first. -/
theorem unquote?_of_plain {s : List Char}
    (hs : ∀ c ∈ s.head?, c = '+' ∨ c = '-' ∨ c.isDigit = true) : unquote? s = none := by
  unfold unquote?
  split
  · next first second rest =>
    rw [if_neg]
    rintro ⟨hquote, _⟩
    have hplain := hs first rfl
    rcases hquote with rfl | rfl <;> revert hplain <;> decide
  · rfl

theorem unquote?_of_overlong {s : List Char} (hs : Numeral.Overlong s) : unquote? s = none :=
  unquote?_of_plain fun c hc => hs.plain c (List.mem_of_mem_head? hc)

theorem ofWritten_returns_iff {s : String} (hs : Text.Stripped Text.isBlank s.toList) :
    (∃ v, ofWritten s = .ok v) ↔ ¬ Numeral.Overlong s.toList := by
  have hlong := Numeral.readPlain?_tooLong_iff hs
  unfold ofWritten
  split
  · next inside hquoted =>
    refine iff_of_true ⟨_, rfl⟩ ?_
    intro hs
    rw [unquote?_of_overlong hs] at hquoted
    cases hquoted
  · rw [← hlong]
    split
    · next n hread => simp [hread]
    · next digits hread => simp [hread]
    · next hother =>
      refine iff_of_true ?_ (fun ⟨digits, hread⟩ => hother digits hread)
      split
      · exact ⟨_, rfl⟩
      · exact ⟨_, rfl⟩

/-- What an item among variables binds, if it binds anything: a text with an equals sign the value
written behind the first one, two values the second one. -/
inductive Binds : Value → String × Value → Prop
  | written {s name written : String} {value : Value}
      (hs : s.toList = name.toList ++ '=' :: written.toList) (hname : '=' ∉ name.toList)
      (hvalue : ofWritten (Text.trim written) = .ok value) : Binds (.text s) (Text.trim name, value)
  | pair {item name value : Value} {shown : String} (hitem : item.items? = some [name, value])
      (hkind : ∀ s, item ≠ .text s) (hname : name.display? = some shown) : Binds item (shown, value)

/-- Whether an item among variables is read or passed over: the value of a written variable is no
integer with too many digits, and what names the other one of two values can be shown. -/
inductive ReadableItem : Value → Prop
  | text {s : String} (hs : ∀ name written : String,
      s.toList = name.toList ++ '=' :: written.toList → '=' ∉ name.toList →
        ¬ Numeral.Overlong (Text.trim written).toList) : ReadableItem (.text s)
  | other {item : Value} (hkind : ∀ s, item ≠ .text s)
      (hname : ∀ name value, item.items? = some [name, value] → name.Printable) : ReadableItem item

end Value

theorem readBinding_of_append {s name written : String}
    (hs : s.toList = name.toList ++ '=' :: written.toList) (hname : '=' ∉ name.toList) :
    readBinding s = do
      let value ← Value.ofWritten (Text.trim written)
      return some (Text.trim name, value) := by
  have hfront : ∀ c ∈ name.toList, (c != '=') = true := by
    intro c hc
    simpa using ne_of_mem_of_not_mem hc hname
  have htake : s.toList.takeWhile (· != '=') = name.toList := by
    rw [hs, List.takeWhile_append_of_pos hfront, List.takeWhile_cons_of_neg (by decide),
      List.append_nil]
  have hdrop : s.toList.dropWhile (· != '=') = '=' :: written.toList := by
    rw [hs, List.dropWhile_append_of_pos hfront, List.dropWhile_cons_of_neg (by decide)]
  simp only [readBinding, htake, hdrop, String.ofList_toList]

theorem readBinding_of_free {s : String} (hs : '=' ∉ s.toList) : readBinding s = .ok none := by
  have hdrop : s.toList.dropWhile (· != '=') = [] := by
    rw [List.dropWhile_eq_nil_iff]
    intro c hc
    simpa using ne_of_mem_of_not_mem hc hs
  simp only [readBinding, hdrop]

/-- A text either has no equals sign, or it is what stands before the first one and behind it. -/
theorem exists_first_equals (s : String) :
    '=' ∉ s.toList ∨ ∃ name written : String,
      s.toList = name.toList ++ '=' :: written.toList ∧ '=' ∉ name.toList := by
  by_cases hmem : '=' ∈ s.toList
  · obtain ⟨name, written, hs, hname⟩ := List.eq_append_cons_of_mem hmem
    refine Or.inr ⟨String.ofList name, String.ofList written, ?_⟩
    simpa only [String.toList_ofList] using ⟨hs, hname⟩
  · exact Or.inl hmem

theorem readBinding_returns_iff (s : String) :
    (∃ binding, readBinding s = .ok binding) ↔ (Value.text s).ReadableItem := by
  constructor
  · rintro ⟨binding, hread⟩
    constructor
    intro name written hs hname
    rw [readBinding_of_append hs hname] at hread
    obtain ⟨value, hvalue, _⟩ := exists_of_bind_ok hread
    exact (Value.ofWritten_returns_iff (Text.stripped_trim written)).mp ⟨value, hvalue⟩
  · intro hreadable
    rcases exists_first_equals s with hfree | ⟨name, written, hs, hname⟩
    · exact ⟨none, readBinding_of_free hfree⟩
    · have hlong : ¬ Numeral.Overlong (Text.trim written).toList := by
        cases hreadable with
        | text hreadable => exact hreadable name written hs hname
        | other hkind _ => exact absurd rfl (hkind s)
      obtain ⟨value, hvalue⟩ := (Value.ofWritten_returns_iff (Text.stripped_trim written)).mpr hlong
      exact ⟨some (Text.trim name, value), by rw [readBinding_of_append hs hname, hvalue]; rfl⟩

theorem readVariable_of_kind {item : Value} (hkind : ∀ s, item ≠ .text s) :
    readVariable item = match item.items? with
      | some [name, value] => do return some (← name.display, value)
      | _ => .ok none := by
  cases item with
  | text s => exact absurd rfl (hkind s)
  | _ => rfl

theorem readVariable_returns_iff (item : Value) :
    (∃ binding, readVariable item = .ok binding) ↔ item.ReadableItem := by
  by_cases htext : ∃ s, item = .text s
  · obtain ⟨s, rfl⟩ := htext
    exact readBinding_returns_iff s
  · have hkind : ∀ s, item ≠ .text s := fun s hs => htext ⟨s, hs⟩
    have hreadable : item.ReadableItem ↔
        ∀ name value, item.items? = some [name, value] → name.Printable := by
      constructor
      · rintro (_ | ⟨_, hname⟩)
        · exact absurd rfl (hkind _)
        · exact hname
      · exact .other hkind
    rw [readVariable_of_kind hkind, hreadable]
    split
    · next name value hitems =>
      rw [bind_returns_iff, hitems]
      constructor
      · rintro ⟨shown, hshown, _⟩ _ _ hsame
        cases hsame
        exact (name.display_returns_iff).mp ⟨shown, hshown⟩
      · intro hname
        obtain ⟨shown, hshown⟩ := name.display_returns_iff.mpr (hname name value rfl)
        exact ⟨shown, hshown, _, rfl⟩
    · next hother =>
      exact iff_of_true ⟨none, rfl⟩ fun name value hitems => absurd hitems (hother name value)

/-- What is read from an item is what it binds. -/
theorem binds_iff_of_readVariable {item : Value} {read : Option (String × Value)}
    (hread : readVariable item = .ok read) (binding : String × Value) :
    item.Binds binding ↔ read = some binding := by
  constructor
  · rintro (⟨hs, hname, hvalue⟩ | ⟨hitem, hkind, hname⟩)
    · have hread : readBinding _ = .ok read := hread
      rw [readBinding_of_append hs hname, hvalue] at hread
      exact (Except.ok.inj hread).symm
    · rw [readVariable_of_kind hkind, hitem] at hread
      obtain ⟨shown, hshown, hread⟩ := exists_of_bind_ok hread
      rw [Value.display_eq_ok_iff, hname] at hshown
      cases hshown
      exact (Except.ok.inj hread).symm
  · rintro rfl
    by_cases htext : ∃ s, item = .text s
    · obtain ⟨s, rfl⟩ := htext
      have hread : readBinding s = .ok (some binding) := hread
      rcases exists_first_equals s with hfree | ⟨name, written, hs, hname⟩
      · rw [readBinding_of_free hfree] at hread
        cases hread
      · rw [readBinding_of_append hs hname] at hread
        obtain ⟨value, hvalue, hread⟩ := exists_of_bind_ok hread
        cases hread
        exact .written hs hname hvalue
    · have hkind : ∀ s, item ≠ .text s := fun s hs => htext ⟨s, hs⟩
      rw [readVariable_of_kind hkind] at hread
      split at hread
      · next name value hitems =>
        obtain ⟨shown, hshown, hread⟩ := exists_of_bind_ok hread
        cases hread
        exact .pair hitems hkind (Value.display_eq_ok_iff.mp hshown)
      · cases hread

/-- The variables that items bind, in order; items that bind nothing are passed over. -/
inductive Value.ReadInto : List Value → List (String × Value) → Prop
  | nil : ReadInto [] []
  | binds {item : Value} {items : List Value} {binding : String × Value}
      {bindings : List (String × Value)} (hitem : item.Binds binding)
      (hitems : ReadInto items bindings) : ReadInto (item :: items) (binding :: bindings)
  | passes {item : Value} {items : List Value} {bindings : List (String × Value)}
      (hitem : ∀ binding, ¬ item.Binds binding) (hitems : ReadInto items bindings) :
      ReadInto (item :: items) bindings

theorem readItems_returns_iff (items : List Value) :
    (∃ bindings, readItems items = .ok bindings) ↔ ∀ item ∈ items, item.ReadableItem := by
  induction items with
  | nil => exact iff_of_true ⟨[], rfl⟩ (by simp)
  | cons item items ih =>
      rw [readItems, bind_returns_iff, List.forall_mem_cons, ← ih, ← readVariable_returns_iff]
      constructor
      · rintro ⟨read, hread, bindings, hrest⟩
        refine ⟨⟨read, hread⟩, ?_⟩
        cases read with
        | none => exact ⟨bindings, hrest⟩
        | some binding =>
            obtain ⟨others, hothers, _⟩ := exists_of_bind_ok hrest
            exact ⟨others, hothers⟩
      · rintro ⟨⟨read, hread⟩, others, hothers⟩
        refine ⟨read, hread, ?_⟩
        cases read with
        | none => exact ⟨others, hothers⟩
        | some binding => exact ⟨binding :: others, by rw [hothers]; rfl⟩

theorem readInto_of_readItems {items : List Value} {bindings : List (String × Value)}
    (hread : readItems items = .ok bindings) : Value.ReadInto items bindings := by
  induction items generalizing bindings with
  | nil =>
      cases hread
      exact .nil
  | cons item items ih =>
      obtain ⟨read, hitem, hread⟩ := exists_of_bind_ok hread
      have hbinds := binds_iff_of_readVariable hitem
      cases read with
      | none => exact .passes (fun binding hb => nomatch (hbinds binding).mp hb) (ih hread)
      | some binding =>
          obtain ⟨others, hothers, hread⟩ := exists_of_bind_ok hread
          cases hread
          exact .binds ((hbinds binding).mpr rfl) (ih hothers)

theorem readEntries_returns_iff (entries : List (Value × Value)) :
    (∃ bindings, readEntries entries = .ok bindings) ↔ ∀ e ∈ entries, e.1.Printable := by
  induction entries with
  | nil => exact iff_of_true ⟨[], rfl⟩ (by simp)
  | cons e entries ih =>
      rw [readEntries, bind_returns_iff, List.forall_mem_cons, ← ih, ← e.1.display_returns_iff]
      constructor
      · rintro ⟨name, hname, bindings, hrest⟩
        obtain ⟨others, hothers, _⟩ := exists_of_bind_ok hrest
        exact ⟨⟨name, hname⟩, others, hothers⟩
      · rintro ⟨⟨name, hname⟩, others, hothers⟩
        exact ⟨name, hname, (name, e.2) :: others, by rw [hothers]; rfl⟩

theorem forall₂_of_readEntries {entries : List (Value × Value)} {bindings : List (String × Value)}
    (hread : readEntries entries = .ok bindings) :
    List.Forall₂ (fun e b => e.1.display? = some b.1 ∧ e.2 = b.2) entries bindings := by
  induction entries generalizing bindings with
  | nil =>
      cases hread
      exact .nil
  | cons e entries ih =>
      obtain ⟨name, hname, hread⟩ := exists_of_bind_ok hread
      obtain ⟨others, hothers, hread⟩ := exists_of_bind_ok hread
      cases hread
      exact .cons ⟨Value.display_eq_ok_iff.mp hname, rfl⟩ (ih hothers)

namespace Value

/-- Whether a value is a collection that is gone through item by item for variables. -/
structure IsSeries (v : Value) (items : List Value) : Prop where
  items : v.items? = some items
  notText : ∀ s, v ≠ .text s
  notMap : ∀ entries, v ≠ .map entries

/-- Whether what is given as variables is read: the names in it can be shown, and no item of it is
refused. -/
inductive ReadableVariables : Value → Prop
  | null : ReadableVariables .null
  | map {entries : List (Value × Value)} (hkeys : ∀ e ∈ entries, e.1.Printable) :
      ReadableVariables (.map entries)
  | text {s : String} (hs : (Value.text s).ReadableItem) : ReadableVariables (.text s)
  | series {v : Value} {items : List Value} (hv : v.IsSeries items)
      (hitems : ∀ item ∈ items, item.ReadableItem) : ReadableVariables v

/-- The variables that a value gives: those that a map names, or what items bind. -/
inductive VariablesOf : Value → List (String × Value) → Prop
  | null : VariablesOf .null []
  | map {entries : List (Value × Value)} {bindings : List (String × Value)}
      (hentries : List.Forall₂ (fun e b => e.1.display? = some b.1 ∧ e.2 = b.2) entries bindings) :
      VariablesOf (.map entries) bindings
  | text {s : String} {bindings : List (String × Value)} (hs : ReadInto [.text s] bindings) :
      VariablesOf (.text s) bindings
  | series {v : Value} {items : List Value} {bindings : List (String × Value)}
      (hv : v.IsSeries items) (hitems : ReadInto items bindings) : VariablesOf v bindings

end Value

theorem readVariables_of_kind {v : Value} (hnull : v ≠ .null) (htext : ∀ s, v ≠ .text s)
    (hmap : ∀ entries, v ≠ .map entries) :
    readVariables v = match v.items? with
      | some items => readItems items
      | none => .error (.notCollection v.kindName) := by
  cases v with
  | null => exact absurd rfl hnull
  | text s => exact absurd rfl (htext s)
  | map entries => exact absurd rfl (hmap entries)
  | _ => rfl

theorem readVariables_returns_iff (v : Value) :
    (∃ bindings, readVariables v = .ok bindings) ↔ v.ReadableVariables := by
  have hother {w : Value} (hnull : w ≠ .null) (htext : ∀ s, w ≠ .text s)
      (hmap : ∀ entries, w ≠ .map entries) :
      (∃ bindings, readVariables w = .ok bindings) ↔ w.ReadableVariables := by
    have hreadable : w.ReadableVariables ↔
        ∃ items, w.items? = some items ∧ ∀ item ∈ items, item.ReadableItem := by
      constructor
      · rintro (_ | _ | _ | ⟨hw, hitems⟩)
        · exact absurd rfl hnull
        · exact absurd rfl (hmap _)
        · exact absurd rfl (htext _)
        · exact ⟨_, hw.items, hitems⟩
      · rintro ⟨items, hw, hitems⟩
        exact .series ⟨hw, htext, hmap⟩ hitems
    rw [readVariables_of_kind hnull htext hmap, hreadable]
    cases w.items? with
    | none => simp
    | some items => simp [readItems_returns_iff]
  cases v with
  | null => exact iff_of_true ⟨[], rfl⟩ .null
  | map entries =>
      rw [readVariables, readEntries_returns_iff]
      constructor
      · exact .map
      · rintro (_ | hkeys | _ | ⟨hv, _⟩)
        · exact hkeys
        · exact absurd rfl (hv.notMap entries)
  | text s =>
      rw [readVariables, readItems_returns_iff, List.forall_mem_singleton]
      constructor
      · exact .text
      · rintro (_ | _ | hs | ⟨hv, _⟩)
        · exact hs
        · exact absurd rfl (hv.notText s)
  | _ => exact hother (by rintro ⟨⟩) (by rintro s ⟨⟩) (by rintro entries ⟨⟩)

theorem variablesOf_of_readVariables {v : Value} {bindings : List (String × Value)}
    (hread : readVariables v = .ok bindings) : v.VariablesOf bindings := by
  have hother {w : Value} (hnull : w ≠ .null) (htext : ∀ s, w ≠ .text s)
      (hmap : ∀ entries, w ≠ .map entries) (hread : readVariables w = .ok bindings) :
      w.VariablesOf bindings := by
    rw [readVariables_of_kind hnull htext hmap] at hread
    split at hread
    · next items hitems => exact .series ⟨hitems, htext, hmap⟩ (readInto_of_readItems hread)
    · cases hread
  cases v with
  | null =>
      cases hread
      exact .null
  | map entries => exact .map (forall₂_of_readEntries hread)
  | text s => exact .text (readInto_of_readItems hread)
  | _ => exact hother (by rintro ⟨⟩) (by rintro s ⟨⟩) (by rintro entries ⟨⟩) hread

end JuliaBlocks
