import JuliaBlocks.Files

/-!
What changes do to one file. The content of a file after some changes is what the last of them that
is about this file left, and no change to another file matters. Main statement: `read?_applyAll`.
-/

namespace JuliaBlocks

/-- What a change leaves of a file, if it is about that file: its new content, or nothing. -/
def Change.leaves? (path : String) : Change → Option (Option (List UInt8))
  | .write p content => if p = path then some (some content) else none
  | .remove p => if p = path then some none else none
  | .makeDirectory _ => none
  | .removeDirectory _ => none

/-- The history of a file under changes: what each change that is about it leaves of it. -/
def Change.history (path : String) (changes : List Change) : List (Option (List UInt8)) :=
  changes.filterMap (·.leaves? path)

theorem Change.history_append (path : String) (changes others : List Change) :
    history path (changes ++ others) = history path changes ++ history path others :=
  List.filterMap_append

/-- The content of a file after its history, given what it held before. -/
def replay (content : Option (List UInt8)) (history : List (Option (List UInt8))) :
    Option (List UInt8) :=
  history.getLast?.getD content

theorem replay_nil (content : Option (List UInt8)) : replay content [] = content := rfl

theorem replay_append (content : Option (List UInt8)) (history later : List (Option (List UInt8))) :
    replay content (history ++ later) = replay (replay content history) later := by
  rw [replay, replay, replay, List.getLast?_append]
  cases later.getLast? with
  | none => rfl
  | some left => rfl

namespace Files

variable (files : Files)

theorem lookup_filter_self (contents : List (String × List UInt8)) (path : String) :
    (contents.filter (·.1 != path)).lookup path = none := by
  rw [List.lookup_eq_none_iff]
  intro entry hentry
  have hne := (List.mem_filter.mp hentry).2
  rw [bne_comm] at hne
  simpa only [bne, Bool.not_eq_true'] using hne

theorem lookup_filter_of_ne (contents : List (String × List UInt8)) {path other : String}
    (hne : other ≠ path) :
    (contents.filter (·.1 != path)).lookup other = contents.lookup other := by
  induction contents with
  | nil => rfl
  | cons entry contents ih =>
      obtain ⟨name, content⟩ := entry
      by_cases hpath : name = path
      · subst hpath
        have hbeq : (other == name) = false := by simp [hne]
        simp [List.lookup_cons, ih, hbeq]
      · simp [hpath, List.lookup_cons, ih]

@[simp] theorem read?_write_self (path : String) (content : List UInt8) :
    (files.write path content).read? path = some content := by
  simp [read?, write]

theorem read?_write_of_ne {path other : String} (hne : other ≠ path) (content : List UInt8) :
    (files.write path content).read? other = files.read? other := by
  have hbeq : (other == path) = false := by simp [hne]
  rw [read?, write, List.lookup_cons, hbeq]
  exact lookup_filter_of_ne files.contents hne

@[simp] theorem read?_remove_self (path : String) : (files.remove path).read? path = none :=
  lookup_filter_self files.contents path

theorem read?_remove_of_ne {path other : String} (hne : other ≠ path) :
    (files.remove path).read? other = files.read? other :=
  lookup_filter_of_ne files.contents hne

/-- One change leaves of a file what it says, and leaves other files alone. -/
theorem read?_apply (change : Change) (path : String) :
    (files.apply change).read? path = (change.leaves? path).getD (files.read? path) := by
  cases change with
  | write p content =>
      by_cases hpath : p = path
      · subst hpath
        simp [apply, Change.leaves?]
      · simp [apply, Change.leaves?, hpath, read?_write_of_ne files (Ne.symm hpath)]
  | remove p =>
      by_cases hpath : p = path
      · subst hpath
        simp [apply, Change.leaves?]
      · simp [apply, Change.leaves?, hpath, read?_remove_of_ne files (Ne.symm hpath)]
  | makeDirectory p => rfl
  | removeDirectory p => rfl

/-- After changes a file holds what its own history says, whatever happened to other files. -/
theorem read?_applyAll (changes : List Change) (path : String) :
    (files.applyAll changes).read? path =
      replay (files.read? path) (Change.history path changes) := by
  induction changes generalizing files with
  | nil => rfl
  | cons change changes ih =>
      have hrest := ih (files.apply change)
      rw [read?_apply] at hrest
      rw [applyAll, List.foldl_cons, ← applyAll, hrest, Change.history, Change.history,
        List.filterMap_cons]
      cases change.leaves? path with
      | none => rfl
      | some left => exact (replay_append _ [left] _).symm

/-- No change moves the working directory or the one for temporary files. -/
theorem applyAll_places (changes : List Change) :
    (files.applyAll changes).working = files.working ∧
      (files.applyAll changes).temporary = files.temporary := by
  induction changes generalizing files with
  | nil => exact ⟨rfl, rfl⟩
  | cons change changes ih =>
      obtain ⟨hworking, htemporary⟩ := ih (files.apply change)
      rw [applyAll, List.foldl_cons, ← applyAll, hworking, htemporary]
      cases change with
      | _ => exact ⟨rfl, rfl⟩

end Files

end JuliaBlocks
