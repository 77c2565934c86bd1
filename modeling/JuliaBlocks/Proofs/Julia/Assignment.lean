import JuliaBlocks.Proofs.Julia.Identifier
import JuliaBlocks.Proofs.Julia.Refusal

/-!
What binding variables comes to. Each binding gives one line in order, or the first that cannot be
bound makes them all fail; a name that is no identifier is refused wherever it stands, unless a line
feed is all that keeps it from being one. Main statement: `assignments_outcome`.
-/

namespace JuliaBlocks.Julia

/-- Whether a line binds a variable: its name, an equals sign and the literal of its value. -/
def Binds (b : String × Value) (line : String) : Prop :=
  ∃ written, literal b.2 = .ok written ∧ line = b.1 ++ " = " ++ written

/-- Whether variables are bound to whole identifiers only: each has its line, or binding them is
refused. -/
def BindsIdentifiers (bindings : List (String × Value)) : Prop :=
  (∃ name, assignments bindings = .error (.invalidVariable name)) ∨
    assignments bindings = .error .unprintableInteger ∨
    ∃ lines, assignments bindings = .ok lines ∧
      (∀ b ∈ bindings, IsWholeIdentifier b.1) ∧ List.Forall₂ Binds bindings lines

theorem exists_binds_iff {b : String × Value} : (∃ line, Binds b line) ↔ b.2.Printable := by
  constructor
  · rintro ⟨line, written, hwritten, _⟩
    exact (literal_eq_ok_iff.mp hwritten).1
  · intro hvalue
    exact ⟨_, _, literal_eq_ok_iff.mpr ⟨hvalue, rfl⟩, rfl⟩

theorem assignment_ok_iff {b : String × Value} {line : String} :
    assignment b.1 b.2 = .ok line ↔ isIdentifier b.1 = true ∧ Binds b line := by
  unfold assignment
  split
  · next hname =>
    constructor
    · intro hline
      obtain ⟨written, hwritten, hline⟩ := exists_of_bind_ok hline
      exact ⟨hname, written, hwritten, (Except.ok.inj hline).symm⟩
    · rintro ⟨_, written, hwritten, rfl⟩
      rw [hwritten]
      rfl
  · next hname =>
    constructor
    · intro hline
      cases hline
    · rintro ⟨hidentifier, _⟩
      exact absurd hidentifier hname

/-- The name is looked at first. -/
theorem assignment_error_iff {b : String × Value} {failure : Failure} :
    assignment b.1 b.2 = .error failure ↔
      (isIdentifier b.1 = false ∧ failure = .invalidVariable b.1) ∨
        (isIdentifier b.1 = true ∧ ¬ b.2.Printable ∧ failure = .unprintableInteger) := by
  unfold assignment
  split
  · next hname =>
    rw [bind_error_iff, literal_eq_error_iff]
    constructor
    · rintro (hvalue | ⟨_, _, hdone⟩)
      · exact Or.inr ⟨hname, hvalue⟩
      · cases hdone
    · rintro (⟨hrefused, _⟩ | ⟨_, hvalue⟩)
      · rw [hname] at hrefused
        cases hrefused
      · exact Or.inl hvalue
  · next hname =>
    rw [Bool.not_eq_true] at hname
    constructor
    · intro hfailure
      exact Or.inl ⟨hname, (Except.error.inj hfailure).symm⟩
    · rintro (⟨_, rfl⟩ | ⟨hidentifier, _⟩)
      · rfl
      · rw [hname] at hidentifier
        cases hidentifier

theorem exists_assignment_iff {b : String × Value} :
    (∃ line, assignment b.1 b.2 = .ok line) ↔ isIdentifier b.1 = true ∧ b.2.Printable := by
  simp only [assignment_ok_iff, exists_and_left, exists_binds_iff]

/-- Whether a variable cannot be bound: its name is no identifier, or its value cannot be
written. -/
def Refused (b : String × Value) : Prop :=
  isIdentifier b.1 = false ∨ ¬ b.2.Printable

/-- One variable that cannot be bound, wherever it stands, makes all assignments fail. -/
theorem exists_error_of_refused {bindings : List (String × Value)} {b : String × Value}
    (hmem : b ∈ bindings) (hrefused : Refused b) :
    ∃ failure, assignments bindings = .error failure := by
  cases hlines : assignments bindings with
  | error failure => exact ⟨failure, rfl⟩
  | ok lines =>
      obtain ⟨hname, hvalue⟩ := exists_assignment_iff.mp (exists_of_mapM_ok hlines b hmem)
      rcases hrefused with hother | hother
      · rw [hname] at hother
        cases hother
      · exact absurd hvalue hother

theorem assignments_ok_iff {bindings : List (String × Value)} {lines : List String} :
    assignments bindings = .ok lines ↔
      (∀ b ∈ bindings, isIdentifier b.1 = true) ∧ List.Forall₂ Binds bindings lines := by
  rw [← List.forall₂_and_left]
  simp only [← assignment_ok_iff]
  exact mapM_ok_iff

/-- The first binding that is refused says how all of them fail. -/
theorem assignments_error_iff {bindings : List (String × Value)} {failure : Failure} :
    assignments bindings = .error failure ↔
      ∃ before b after, bindings = before ++ b :: after ∧
        (∀ e ∈ before, isIdentifier e.1 = true ∧ e.2.Printable) ∧
        ((isIdentifier b.1 = false ∧ failure = .invalidVariable b.1) ∨
          (isIdentifier b.1 = true ∧ ¬ b.2.Printable ∧ failure = .unprintableInteger)) := by
  simp only [← assignment_error_iff, ← exists_assignment_iff]
  exact mapM_error_iff

/-- Binding variables gives just these lines and fails just in these ways. It keeps to identifiers
whenever it fails or no name has a line feed, and otherwise it does not. -/
theorem assignments_outcome (bindings : List (String × Value)) :
    (∀ lines, assignments bindings = .ok lines ↔
      (∀ b ∈ bindings, Nameable b.1) ∧ List.Forall₂ Binds bindings lines) ∧
    (∀ failure, assignments bindings = .error failure ↔
      ∃ before b after, bindings = before ++ b :: after ∧
        (∀ e ∈ before, Nameable e.1 ∧ e.2.Printable) ∧
        ((¬ Nameable b.1 ∧ failure = .invalidVariable b.1) ∨
          (Nameable b.1 ∧ ¬ b.2.Printable ∧ failure = .unprintableInteger))) ∧
    (BindsIdentifiers bindings ↔
      (∃ failure, assignments bindings = .error failure) ∨ ∀ b ∈ bindings, '\n' ∉ b.1.toList) := by
  have hlines (lines : List String) : assignments bindings = .ok lines ↔
      (∀ b ∈ bindings, Nameable b.1) ∧ List.Forall₂ Binds bindings lines := by
    simp only [assignments_ok_iff, isIdentifier_iff]
  have hfailures (failure : Failure) (hfailure : assignments bindings = .error failure) :
      BindsIdentifiers bindings := by
    obtain ⟨_, b, _, _, _, ⟨_, rfl⟩ | ⟨_, _, rfl⟩⟩ := assignments_error_iff.mp hfailure
    · exact Or.inl ⟨b.1, hfailure⟩
    · exact Or.inr (Or.inl hfailure)
  refine ⟨hlines, ?_, ?_⟩
  · intro failure
    simp only [assignments_error_iff, ← isIdentifier_iff, Bool.not_eq_true]
  · constructor
    · rintro (⟨name, hfailure⟩ | hfailure | ⟨_, _, hwhole, _⟩)
      · exact Or.inl ⟨_, hfailure⟩
      · exact Or.inl ⟨_, hfailure⟩
      · exact Or.inr fun b hb => (hwhole b hb).newline_not_mem
    · rintro (⟨failure, hfailure⟩ | hfree)
      · exact hfailures failure hfailure
      · cases hassigned : assignments bindings with
        | error failure => exact hfailures failure hassigned
        | ok lines =>
            obtain ⟨hnames, hbinds⟩ := (hlines lines).mp hassigned
            refine Or.inr (Or.inr ⟨lines, hassigned, ?_, hbinds⟩)
            intro b hb
            exact (hnames b hb).isWholeIdentifier_iff.mpr (hfree b hb)

/-- A text that looks like another assignment is a value like any other, and a reserved word is
refused behind a variable that could be bound. -/
theorem assignments_outcome_reserved :
    BindsIdentifiers [("x", .text "1\ny = 2"), ("push!", .bool true)] ∧
    assignments [("x", .text "1\ny = 2"), ("end", .null)] = .error (.invalidVariable "end") := by
  obtain ⟨_, _, hbound⟩ := assignments_outcome [("x", .text "1\ny = 2"), ("push!", .bool true)]
  obtain ⟨_, hrefused, _⟩ := assignments_outcome [("x", .text "1\ny = 2"), ("end", .null)]
  have hvalue : (Value.text "1\ny = 2").Printable := by
    simp [Value.Printable, Value.integers, Value.parts]
  have hx : Nameable "x" := Or.inl ⟨by decide, by decide⟩
  have hend : ¬ Nameable "end" := by
    rw [← isIdentifier_iff]
    decide
  refine ⟨hbound.mpr (Or.inr (by decide)), (hrefused _).mpr ?_⟩
  exact ⟨[("x", .text "1\ny = 2")], ("end", .null), [], rfl,
    List.forall_mem_singleton.mpr ⟨hx, hvalue⟩, Or.inl ⟨hend, rfl⟩⟩

/-- A line feed behind a name is sent with it, and shields a reserved word too. -/
theorem lineEnd_not_identifier :
    assignments [("x\n", .int 1), ("end\n", .null)] = .ok ["x\n = 1", "end\n = nothing"] ∧
    ¬ IsWholeIdentifier "x\n" ∧ ¬ BindsIdentifiers [("x\n", .int 1)] := by
  have hwhole : ¬ IsWholeIdentifier "x\n" := fun hname => hname.newline_not_mem (by decide)
  refine ⟨rfl, hwhole, ?_⟩
  rintro (⟨name, hfailure⟩ | hfailure | ⟨_, _, hnames, _⟩)
  · cases hfailure
  · cases hfailure
  · exact hwhole (hnames _ List.mem_cons_self)

end JuliaBlocks.Julia
