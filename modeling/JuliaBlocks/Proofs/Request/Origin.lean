import JuliaBlocks.Proofs.Request.Variables

/-!
Where listed variables come from. Texts with an equals sign and lists or tuples of two declare a
variable each. Two octets, two keys of a map and two members of a set mimic such a pair and give a
variable that nobody declared; no other item gives one. Main statement:
`readVariables_declared_iff`.
-/

namespace JuliaBlocks

namespace Value

/-- Whether an item declares a variable of a name and a value: a text the value written behind its
first equals sign, a list or a tuple of two its second part. -/
inductive Declares : Value → String × Value → Prop
  | written {s name written : String} {value : Value}
      (hs : s.toList = name.toList ++ '=' :: written.toList) (hname : '=' ∉ name.toList)
      (hvalue : ofWritten (Text.trim written) = .ok value) :
      Declares (.text s) (Text.trim name, value)
  | list {name value : Value} {shown : String} (hname : name.display? = some shown) :
      Declares (.list [name, value]) (shown, value)
  | tuple {name value : Value} {shown : String} (hname : name.display? = some shown) :
      Declares (.tuple [name, value]) (shown, value)

/-- Whether an item is no pair and is taken for one, since it yields two values one by one: two
octets, the two members of a set, or the two keys of a map, whose own values are lost. -/
inductive Mimics : Value → String × Value → Prop
  | octets {first second : UInt8} {shown : String}
      (hname : (Value.int first.toNat).display? = some shown) :
      Mimics (.octets [first, second]) (shown, .int second.toNat)
  | set {first second : Value} {shown : String} (hname : first.display? = some shown) :
      Mimics (.set [first, second]) (shown, second)
  | map {first second lost alsoLost : Value} {shown : String}
      (hname : first.display? = some shown) :
      Mimics (.map [(first, lost), (second, alsoLost)]) (shown, second)

theorem Declares.binds {item : Value} {binding : String × Value}
    (hdeclares : item.Declares binding) : item.Binds binding := by
  cases hdeclares with
  | written hs hname hvalue => exact .written hs hname hvalue
  | list hname => exact .pair rfl (by rintro s ⟨⟩) hname
  | tuple hname => exact .pair rfl (by rintro s ⟨⟩) hname

theorem Mimics.binds {item : Value} {binding : String × Value}
    (hmimics : item.Mimics binding) : item.Binds binding := by
  cases hmimics with
  | octets hname => exact .pair rfl (by rintro s ⟨⟩) hname
  | set hname => exact .pair rfl (by rintro s ⟨⟩) hname
  | map hname => exact .pair rfl (by rintro s ⟨⟩) hname

theorem Mimics.not_declares {item : Value} {binding other : String × Value}
    (hmimics : item.Mimics binding) : ¬ item.Declares other := by
  rintro (_ | _ | _) <;> cases hmimics

/-- What an item binds it declares, unless it mimics a pair. -/
theorem binds_iff_declares_or_mimics (item : Value) (binding : String × Value) :
    item.Binds binding ↔ item.Declares binding ∨ item.Mimics binding := by
  constructor
  · rintro (⟨hs, hname, hvalue⟩ | ⟨hitems, hkind, hname⟩)
    · exact .inl (.written hs hname hvalue)
    · cases item with
      | text s => exact absurd rfl (hkind s)
      | list items =>
          cases hitems
          exact .inl (.list hname)
      | tuple items =>
          cases hitems
          exact .inl (.tuple hname)
      | set items =>
          cases hitems
          exact .inr (.set hname)
      | octets bytes =>
          rw [items?, Option.some.injEq] at hitems
          match bytes, hitems with
          | [first, second], hitems =>
              cases hitems
              exact .inr (.octets hname)
      | map entries =>
          rw [items?, Option.some.injEq] at hitems
          match entries, hitems with
          | [(first, lost), (second, alsoLost)], hitems =>
              cases hitems
              exact .inr (.map hname)
      | _ => cases hitems
  · rintro (hdeclares | hmimics)
    · exact hdeclares.binds
    · exact hmimics.binds

end Value

/-- Whether variables are those that items give, in order, where items that give none are passed
over. -/
inductive Drawn (gives : Value → String × Value → Prop) :
    List Value → List (String × Value) → Prop
  | nil : Drawn gives [] []
  | takes {item : Value} {items : List Value} {binding : String × Value}
      {bindings : List (String × Value)} (hitem : gives item binding)
      (hitems : Drawn gives items bindings) : Drawn gives (item :: items) (binding :: bindings)
  | passes {item : Value} {items : List Value} {bindings : List (String × Value)}
      (hitem : ∀ binding, ¬ gives item binding) (hitems : Drawn gives items bindings) :
      Drawn gives (item :: items) bindings

section Drawn

variable {gives more : Value → String × Value → Prop} {items : List Value}
  {bindings others : List (String × Value)}

theorem Value.ReadInto.drawn (hread : Value.ReadInto items bindings) :
    Drawn Value.Binds items bindings := by
  induction hread with
  | nil => exact .nil
  | binds hitem _ ih => exact .takes hitem ih
  | passes hitem _ ih => exact .passes hitem ih

theorem Drawn.congr (hdrawn : Drawn gives items bindings)
    (hsame : ∀ item ∈ items, ∀ binding, gives item binding ↔ more item binding) :
    Drawn more items bindings := by
  induction hdrawn with
  | nil => exact .nil
  | takes hitem _ ih =>
      obtain ⟨hfirst, hrest⟩ := List.forall_mem_cons.mp hsame
      exact .takes ((hfirst _).mp hitem) (ih hrest)
  | passes hitem _ ih =>
      obtain ⟨hfirst, hrest⟩ := List.forall_mem_cons.mp hsame
      exact .passes (fun binding hgives => hitem binding ((hfirst binding).mpr hgives)) (ih hrest)

theorem Drawn.length_le (hdrawn : Drawn gives items bindings) (hmore : Drawn more items others)
    (himp : ∀ item binding, gives item binding → more item binding) :
    bindings.length ≤ others.length := by
  induction hdrawn generalizing others with
  | nil => exact Nat.zero_le _
  | takes hitem _ ih =>
      cases hmore with
      | takes _ hitems => exact Nat.succ_le_succ (ih hitems)
      | passes hnone _ => exact absurd (himp _ _ hitem) (hnone _)
  | passes _ _ ih =>
      cases hmore with
      | takes _ hitems => exact Nat.le_succ_of_le (ih hitems)
      | passes _ hitems => exact ih hitems

/-- Where no more variables come of it, no item gives one that gave none before. -/
theorem Drawn.gives_of_length_eq (hdrawn : Drawn gives items bindings)
    (hmore : Drawn more items others)
    (himp : ∀ item binding, gives item binding → more item binding)
    (hlength : bindings.length = others.length) :
    ∀ item ∈ items, (∃ binding, more item binding) → ∃ binding, gives item binding := by
  induction hdrawn generalizing others with
  | nil => simp
  | takes hitem _ ih =>
      cases hmore with
      | takes _ hitems =>
          exact List.forall_mem_cons.mpr ⟨fun _ => ⟨_, hitem⟩, ih hitems (Nat.succ.inj hlength)⟩
      | passes hnone _ => exact absurd (himp _ _ hitem) (hnone _)
  | passes _ hrest ih =>
      cases hmore with
      | takes _ hitems =>
          have hle := hrest.length_le hitems himp
          rw [hlength, List.length_cons] at hle
          exact absurd hle (Nat.not_succ_le_self _)
      | passes hnone hitems =>
          refine List.forall_mem_cons.mpr ⟨?_, ih hitems hlength⟩
          rintro ⟨binding, hgives⟩
          exact absurd hgives (hnone binding)

end Drawn

/-- The variables that a list gives come from its items in order, one from each item that declares
one or mimics a pair, and none from any other. So nothing but what is declared is read just if no
item mimics a pair. -/
theorem readVariables_declared_iff {items : List Value} {bindings : List (String × Value)}
    (hread : readVariables (.list items) = .ok bindings) :
    Drawn (fun item binding => item.Declares binding ∨ item.Mimics binding) items bindings ∧
    (Drawn Value.Declares items bindings ↔ ∀ item ∈ items, ∀ binding, ¬ item.Mimics binding) := by
  have hitems : readItems items = .ok bindings := hread
  have hall : Drawn (fun item binding => item.Declares binding ∨ item.Mimics binding) items
      bindings :=
    (readInto_of_readItems hitems).drawn.congr
      fun item _ binding => item.binds_iff_declares_or_mimics binding
  refine ⟨hall, ?_, ?_⟩
  · intro hdeclared item hitem binding hmimics
    have hsame := hdeclared.gives_of_length_eq hall (fun _ _ => Or.inl) rfl
    obtain ⟨other, hdeclares⟩ := hsame item hitem ⟨binding, .inr hmimics⟩
    exact hmimics.not_declares hdeclares
  · intro hnone
    exact hall.congr fun item hitem binding => or_iff_left (hnone item hitem binding)

/-- Items of which two declare a variable, and none mimics a pair. -/
def honestItems : List Value :=
  [.text "x = 012", .text "none", .octets [1, 2, 3], .map [(.text "k", .null)],
    .tuple [.int 7, .list [.null]], .set [.text "s"], .list [.text "y"], .bool true]

theorem readVariables_declared_honest :
    (readVariables (.list honestItems) = .ok [("x", .int 12), ("7", .list [.null])] ∧
      Drawn Value.Declares honestItems [("x", .int 12), ("7", .list [.null])]) ∧
    readVariables (.list (.octets [120, 9] :: honestItems)) =
      .ok [("120", .int 9), ("x", .int 12), ("7", .list [.null])] ∧
    ¬ Drawn Value.Declares (.octets [120, 9] :: honestItems)
      [("120", .int 9), ("x", .int 12), ("7", .list [.null])] := by
  have hhonest : ∀ item ∈ honestItems, ∀ binding, ¬ item.Mimics binding := by
    intro item hitem binding hmimics
    simp only [honestItems, List.mem_cons, List.not_mem_nil, or_false] at hitem
    rcases hitem with rfl | rfl | rfl | rfl | rfl | rfl | rfl | rfl <;> cases hmimics
  have hread : readVariables (.list honestItems) =
      .ok [("x", .int 12), ("7", .list [.null])] := rfl
  have hmixed : readVariables (.list (.octets [120, 9] :: honestItems)) =
      .ok [("120", .int 9), ("x", .int 12), ("7", .list [.null])] := rfl
  obtain ⟨_, hdeclared⟩ := readVariables_declared_iff hread
  obtain ⟨_, hbroken⟩ := readVariables_declared_iff hmixed
  refine ⟨⟨hread, hdeclared.mpr hhonest⟩, hmixed, fun hdrawn => ?_⟩
  exact hbroken.mp hdrawn _ List.mem_cons_self _ (.octets rfl)

/-- A map among the items is no variable of a name and a value. With two keys it binds the text of
the first to the second, and what they stand for is lost. -/
theorem twoKeys_not_declared :
    readVariables (.list [.map [(.text "a", .int 1), (.text "b", .int 2)]]) =
      .ok [("a", .text "b")] ∧
    ¬ Drawn Value.Declares [.map [(.text "a", .int 1), (.text "b", .int 2)]]
      [("a", .text "b")] := by
  refine ⟨rfl, fun hdrawn => ?_⟩
  cases hdrawn with
  | takes hdeclares _ => cases hdeclares
  | passes _ hrest => cases hrest

end JuliaBlocks
