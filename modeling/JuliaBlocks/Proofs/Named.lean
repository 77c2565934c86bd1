import JuliaBlocks.Value
import Mathlib.Data.List.Forall2

/-!
Named values: what is found under a name after one was set, and what becomes of the names.
-/

namespace JuliaBlocks.Named

variable {α β : Type}

theorem lookup_cons_self (name : String) (value : α) (named : Named α) :
    ((name, value) :: named).lookup name = some value := by
  rw [List.lookup_cons, beq_self_eq_true]

theorem lookup_cons_of_ne {name other : String} (hne : other ≠ name) (value : α)
    (named : Named α) : ((name, value) :: named).lookup other = named.lookup other := by
  have hbeq : (other == name) = false := by simp [hne]
  rw [List.lookup_cons, hbeq]

@[simp] theorem lookup_put_self (name : String) (value : α) (named : Named α) :
    (put name value named).lookup name = some value := by
  induction named with
  | nil => exact lookup_cons_self name value []
  | cons entry rest ih =>
      obtain ⟨n, v⟩ := entry
      rw [put]
      split
      · next hname =>
        subst hname
        exact lookup_cons_self n value rest
      · next hname =>
        rw [lookup_cons_of_ne (Ne.symm hname)]
        exact ih

theorem lookup_put_of_ne {name other : String} (hne : other ≠ name) (value : α)
    (named : Named α) : (put name value named).lookup other = named.lookup other := by
  induction named with
  | nil => exact lookup_cons_of_ne hne value []
  | cons entry rest ih =>
      obtain ⟨n, v⟩ := entry
      rw [put]
      split
      · next hname =>
        subst hname
        rw [lookup_cons_of_ne hne, lookup_cons_of_ne hne]
      · by_cases hfound : other = n
        · subst hfound
          rw [lookup_cons_self, lookup_cons_self]
        · rw [lookup_cons_of_ne hfound, lookup_cons_of_ne hfound, ih]

theorem lookup_eq_none_iff {name : String} {named : Named α} :
    named.lookup name = none ↔ name ∉ named.map (·.1) := by
  rw [List.lookup_eq_none_iff]
  simp only [List.mem_map, not_exists, not_and]
  constructor
  · intro hnone entry hentry hname
    have hbeq := hnone entry hentry
    simp [hname] at hbeq
  · intro hnone entry hentry
    have hne : name ≠ entry.1 := fun hname => hnone entry hentry hname.symm
    simp [hne]

theorem names_put_of_mem {name : String} {named : Named α} (hmem : name ∈ named.map (·.1))
    (value : α) : (put name value named).map (·.1) = named.map (·.1) := by
  induction named with
  | nil => cases hmem
  | cons entry rest ih =>
      obtain ⟨n, v⟩ := entry
      rw [put]
      split
      · rfl
      · next hname =>
        rcases List.mem_cons.mp hmem with heq | hmem
        · exact absurd heq.symm hname
        · rw [List.map_cons, ih hmem, List.map_cons]

/-- A new name comes last. -/
theorem names_put_of_not_mem {name : String} {named : Named α} (hnew : name ∉ named.map (·.1))
    (value : α) : (put name value named).map (·.1) = named.map (·.1) ++ [name] := by
  induction named with
  | nil => rfl
  | cons entry rest ih =>
      obtain ⟨n, v⟩ := entry
      rw [List.map_cons, List.mem_cons, not_or] at hnew
      rw [put, if_neg (Ne.symm hnew.1), List.map_cons, ih hnew.2, List.map_cons, List.cons_append]

theorem lookup_map (f : α → β) (name : String) (named : Named α) :
    (named.map (Prod.map id f)).lookup name = (named.lookup name).map f := by
  induction named with
  | nil => rfl
  | cons entry rest ih =>
      obtain ⟨n, v⟩ := entry
      rw [List.map_cons, Prod.map_apply, id_eq]
      by_cases hname : name = n
      · subst hname
        rw [lookup_cons_self, lookup_cons_self, Option.map_some]
      · rw [lookup_cons_of_ne hname, lookup_cons_of_ne hname, ih]

theorem put_map (f : α → β) (name : String) (value : α) (named : Named α) :
    put name (f value) (named.map (Prod.map id f)) =
      (put name value named).map (Prod.map id f) := by
  induction named with
  | nil => rfl
  | cons entry rest ih =>
      obtain ⟨n, v⟩ := entry
      rw [List.map_cons, Prod.map_apply, id_eq, put, put]
      split
      · rfl
      · rw [ih]
        rfl

section Forall

/-! Values that were changed each in its place: the same names have values, and they are related as
the values were changed. -/

variable {R : α → β → Prop} {named : Named α} {changed : Named β}

theorem names_of_forall₂ (hchanged : List.Forall₂ (fun a b => b.1 = a.1 ∧ R a.2 b.2) named changed) :
    changed.map (·.1) = named.map (·.1) := by
  induction hchanged with
  | nil => rfl
  | cons hentry _ ih => rw [List.map_cons, List.map_cons, hentry.1, ih]

theorem lookup_of_forall₂ (hchanged : List.Forall₂ (fun a b => b.1 = a.1 ∧ R a.2 b.2) named changed)
    (name : String) : Option.Rel R (named.lookup name) (changed.lookup name) := by
  induction hchanged with
  | nil => exact .none
  | @cons a b named changed hentry _ ih =>
      obtain ⟨n, v⟩ := a
      obtain ⟨m, w⟩ := b
      obtain ⟨rfl, hvalue⟩ := hentry
      by_cases hname : name = m
      · subst hname
        rw [lookup_cons_self, lookup_cons_self]
        exact .some hvalue
      · rw [lookup_cons_of_ne hname, lookup_cons_of_ne hname]
        exact ih

end Forall

end JuliaBlocks.Named
