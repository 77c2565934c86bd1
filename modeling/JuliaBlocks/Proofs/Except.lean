import Mathlib.Data.List.Forall2

/-!
How an operation that may fail comes to succeed: each of its parts has.
-/

namespace JuliaBlocks

variable {ε ε' α β : Type}

theorem exists_of_bind_ok {x : Except ε α} {f : α → Except ε β} {b : β}
    (hbind : x >>= f = .ok b) : ∃ a, x = .ok a ∧ f a = .ok b := by
  cases x with
  | error failure => cases hbind
  | ok a => exact ⟨a, rfl, hbind⟩

theorem bind_returns_iff {x : Except ε α} {f : α → Except ε β} :
    (∃ b, x >>= f = .ok b) ↔ ∃ a, x = .ok a ∧ ∃ b, f a = .ok b := by
  constructor
  · rintro ⟨b, hbind⟩
    obtain ⟨a, ha, hb⟩ := exists_of_bind_ok hbind
    exact ⟨a, ha, b, hb⟩
  · rintro ⟨a, rfl, b, hb⟩
    exact ⟨b, hb⟩

theorem bind_error_iff {x : Except ε α} {f : α → Except ε β} {failure : ε} :
    x >>= f = .error failure ↔ x = .error failure ∨ ∃ a, x = .ok a ∧ f a = .error failure := by
  cases x with
  | error other =>
      constructor
      · intro hbind
        cases hbind
        exact Or.inl rfl
      · rintro (hx | ⟨a, ha, _⟩)
        · cases hx
          rfl
        · cases ha
  | ok a =>
      constructor
      · intro hbind
        exact Or.inr ⟨a, rfl, hbind⟩
      · rintro (hx | ⟨b, hb, hbind⟩)
        · cases hx
        · cases hb
          exact hbind

theorem ok_of_mapError_ok {x : Except ε α} {f : ε → ε'} {a : α}
    (hmap : x.mapError f = .ok a) : x = .ok a := by
  cases x with
  | error failure => cases hmap
  | ok b =>
      cases hmap
      rfl

theorem exists_of_mapError_error {x : Except ε α} {f : ε → ε'} {failure : ε'}
    (hmap : x.mapError f = .error failure) : ∃ found, x = .error found ∧ f found = failure := by
  cases x with
  | ok a => cases hmap
  | error found =>
      cases hmap
      exact ⟨found, rfl, rfl⟩

theorem exists_of_map_ok {f : α → β} {x : Except ε α} {b : β} (hmap : f <$> x = .ok b) :
    ∃ a, x = .ok a ∧ f a = b := by
  cases x with
  | error failure => cases hmap
  | ok a =>
      cases hmap
      exact ⟨a, rfl, rfl⟩

/-- What is done for each item in order has succeeded for each, with its own result. -/
theorem forall₂_of_mapM_ok {xs : List α} {f : α → Except ε β} {ys : List β}
    (hmap : xs.mapM f = .ok ys) : List.Forall₂ (fun x y => f x = .ok y) xs ys := by
  induction xs generalizing ys with
  | nil =>
      cases hmap
      exact .nil
  | cons first xs ih =>
      rw [List.mapM_cons] at hmap
      obtain ⟨y, hfirst, hmap⟩ := exists_of_bind_ok hmap
      obtain ⟨others, hothers, hmap⟩ := exists_of_bind_ok hmap
      cases hmap
      exact .cons hfirst (ih hothers)

theorem mapM_ok_iff {xs : List α} {f : α → Except ε β} {ys : List β} :
    xs.mapM f = .ok ys ↔ List.Forall₂ (fun x y => f x = .ok y) xs ys := by
  constructor
  · exact forall₂_of_mapM_ok
  · intro hall
    induction hall with
    | nil => rfl
    | cons hfirst _ ih =>
        rw [List.mapM_cons, hfirst, ih]
        rfl

/-- What is done for each item in order fails as it does for the first item that it fails for. -/
theorem mapM_error_iff {xs : List α} {f : α → Except ε β} {failure : ε} :
    xs.mapM f = .error failure ↔
      ∃ before x after, xs = before ++ x :: after ∧
        (∀ y ∈ before, ∃ z, f y = .ok z) ∧ f x = .error failure := by
  induction xs with
  | nil =>
      constructor
      · intro hmap
        cases hmap
      · rintro ⟨before, x, after, hxs, _⟩
        simp at hxs
  | cons first xs ih =>
      rw [List.mapM_cons, bind_error_iff]
      constructor
      · rintro (hfirst | ⟨y, hy, hmap⟩)
        · exact ⟨[], first, xs, rfl, by simp, hfirst⟩
        · rcases bind_error_iff.mp hmap with hothers | ⟨_, _, hdone⟩
          · obtain ⟨before, x, after, rfl, hbefore, hx⟩ := ih.mp hothers
            exact ⟨first :: before, x, after, rfl,
              List.forall_mem_cons.mpr ⟨⟨y, hy⟩, hbefore⟩, hx⟩
          · cases hdone
      · rintro ⟨before, x, after, hxs, hbefore, hx⟩
        cases before with
        | nil =>
            cases hxs
            exact Or.inl hx
        | cons y before =>
            cases hxs
            obtain ⟨⟨z, hz⟩, hbefore⟩ := List.forall_mem_cons.mp hbefore
            have hothers := ih.mpr ⟨before, x, after, rfl, hbefore, hx⟩
            exact Or.inr ⟨z, hz, bind_error_iff.mpr (Or.inl hothers)⟩

theorem exists_of_mapM_ok {xs : List α} {f : α → Except ε β} {ys : List β}
    (hmap : xs.mapM f = .ok ys) : ∀ x ∈ xs, ∃ y, f x = .ok y := by
  have hall := forall₂_of_mapM_ok hmap
  intro x hx
  obtain ⟨i, hi, rfl⟩ := List.getElem_of_mem hx
  exact ⟨_, hall.get hi (hall.length_eq ▸ hi)⟩

theorem mapM_returns_iff {xs : List α} {f : α → Except ε β} :
    (∃ ys, xs.mapM f = .ok ys) ↔ ∀ x ∈ xs, ∃ y, f x = .ok y := by
  constructor
  · rintro ⟨ys, hmap⟩
    exact exists_of_mapM_ok hmap
  · intro hall
    induction xs with
    | nil => exact ⟨[], rfl⟩
    | cons first xs ih =>
        obtain ⟨hfirst, hothers⟩ := List.forall_mem_cons.mp hall
        obtain ⟨y, hy⟩ := hfirst
        obtain ⟨others, hothers⟩ := ih hothers
        exact ⟨y :: others, by rw [List.mapM_cons, hy, hothers]; rfl⟩

theorem exists_of_mapM_some {xs : List α} {f : α → Option β} {ys : List β}
    (hmap : xs.mapM f = some ys) : ∀ x ∈ xs, ∃ y, f x = some y := by
  induction xs generalizing ys with
  | nil =>
      intro x hx
      exact absurd hx List.not_mem_nil
  | cons first xs ih =>
      rw [List.mapM_cons] at hmap
      obtain ⟨y, hfirst, hmap⟩ := Option.bind_eq_some_iff.mp hmap
      obtain ⟨others, hothers, _⟩ := Option.bind_eq_some_iff.mp hmap
      intro x hx
      rcases List.mem_cons.mp hx with rfl | hx
      · exact ⟨y, hfirst⟩
      · exact ih hothers x hx

/-- Entries of which key and value are treated alike have both succeeded for each. -/
theorem exists_of_mapM_entries {f : α → Option β} {join : β → β → β} {entries : List (α × α)}
    {written : List β} (hmap : (entries.mapM fun e => do
      let key ← f e.1
      let value ← f e.2
      return join key value) = some written) :
    ∀ e ∈ entries, (∃ key, f e.1 = some key) ∧ ∃ value, f e.2 = some value := by
  intro e he
  obtain ⟨entry, hentry⟩ := exists_of_mapM_some hmap e he
  obtain ⟨key, hkey, hentry⟩ := Option.bind_eq_some_iff.mp hentry
  obtain ⟨value, hvalue, _⟩ := Option.bind_eq_some_iff.mp hentry
  exact ⟨⟨key, hkey⟩, ⟨value, hvalue⟩⟩

end JuliaBlocks
