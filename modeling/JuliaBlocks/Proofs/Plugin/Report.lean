import JuliaBlocks.Proofs.Plugin.Call

/-!
How failures are told to plugins. Each failure is told by one run of every implementation of the
error hook, whichever of them fail, and calls of other hooks tell the failures of their own
implementations. Main statements: `notifyError_errorRuns`, `callFirst_errorRuns` and
`callMany_errorRuns`.
-/

namespace JuliaBlocks

variable {σ : Type}

/-- A failure that is told, and the stage at which it came up. -/
structure Notice where
  stage : String
  failure : Failure

/-- What implementations of the error hook are called with. -/
def Notice.arguments (notice : Notice) : Arguments :=
  Registry.errorArguments notice.stage notice.failure

namespace Implementation

/-- The notice of an implementation's failure. -/
def notice (impl : Implementation σ) (failure : Failure) : Notice :=
  ⟨impl.hook.name ++ ":" ++ impl.plugin, failure⟩

/-- What an implementation of the error hook declares is there whenever it is told of a failure. -/
theorem missing_error {impl : Implementation σ} (hfits : impl.fits = true)
    (himpl : impl.hook = .onError) (notice : Notice) : impl.missing notice.arguments = [] := by
  apply missing_eq_nil hfits
  rw [himpl]
  simp [Hook.parameters, Notice.arguments, Registry.errorArguments]

end Implementation

/-- Whether a notice is of the failure of one of these implementations. -/
def Notice.IsOf (impls : List (Implementation σ)) (notice : Notice) : Prop :=
  ∃ impl ∈ impls, notice = impl.notice notice.failure

namespace Registry

variable {registry : Registry σ}

/-- The implementations of the error hook, in the order of precedence. -/
def observers (registry : Registry σ) : List (Implementation σ) :=
  (registry.implementations.filter (·.hook = .onError)).reverse

/-- The runs of the error hook that tell of a failure: one of each implementation, in the order of
precedence. -/
def telling (registry : Registry σ) (notice : Notice) : List HookEvent :=
  registry.observers.map (·.run notice.arguments)

/-- An implementation of the error hook runs whenever it is told of a failure, as it can take every
notice. -/
theorem notifyEach_errorRuns {impls : List (Implementation σ)}
    (himpls : ∀ impl ∈ impls, impl.hook = .onError ∧ impl.fits = true) (notice : Notice)
    (state : σ) :
    (notifyEach notice.stage notice.failure impls state).events.filter (·.runs .onError) =
      impls.map (·.run notice.arguments) := by
  induction impls generalizing state with
  | nil => rfl
  | cons impl rest ih =>
      obtain ⟨hhook, hfits⟩ := himpls impl List.mem_cons_self
      have hmissing : impl.missing (errorArguments notice.stage notice.failure) = [] :=
        impl.missing_error hfits hhook notice
      have hrest := ih (fun other hother => himpls other (List.mem_cons_of_mem impl hother))
        (notifyOne notice.stage notice.failure impl state).state
      rw [notifyEach, Aftermath.upTo_events, List.filter_append, notifyOne_runs, impl.call_runs,
        if_pos ⟨hhook, hmissing⟩, hrest]
      rfl

/-- A failure runs the error hook once for each implementation, even if some of them fail. -/
theorem notifyError_errorRuns (hsound : registry.Sound) (notice : Notice) (state : σ) :
    (registry.notifyError notice.stage notice.failure state).events.filter (·.runs .onError) =
      registry.telling notice := by
  apply notifyEach_errorRuns
  intro impl hmem
  obtain ⟨hmem, hhook⟩ := mem_running.mp hmem
  exact ⟨hhook, hsound impl hmem⟩

theorem invoke_errorRuns (hsound : registry.Sound) (arguments : Arguments)
    {impl : Implementation σ} (himpl : impl.hook ≠ .onError) (state : σ) :
    (registry.invoke arguments impl state).2.events.filter (·.runs .onError) = [] ∨
      ∃ failure, (registry.invoke arguments impl state).2.events.filter (·.runs .onError) =
        registry.telling (impl.notice failure) := by
  have hcalled := impl.call_runs arguments state .onError
  rw [if_neg (himpl ·.1)] at hcalled
  unfold invoke
  generalize impl.call arguments state = called at hcalled ⊢
  rcases called with ⟨failure | product, after⟩
  · refine Or.inr ⟨failure, ?_⟩
    have htold := notifyError_errorRuns hsound (impl.notice failure) after.state
    rw [← htold, Aftermath.upTo_events, List.filter_append, hcalled, List.nil_append]
    rfl
  · exact Or.inl hcalled

/-- Calls of implementations tell failures of theirs and no others. -/
theorem allOf_errorRuns (hsound : registry.Sound) (arguments : Arguments)
    {impls : List (Implementation σ)} (himpls : ∀ impl ∈ impls, impl.hook ≠ .onError) (state : σ) :
    ∃ notices : List Notice, (∀ notice ∈ notices, notice.IsOf impls) ∧
      (registry.allOf arguments impls state).2.events.filter (·.runs .onError) =
        notices.flatMap registry.telling := by
  induction impls generalizing state with
  | nil => exact ⟨[], by simp, rfl⟩
  | cons impl rest ih =>
      obtain ⟨notices, hnotices, hrest⟩ :=
        ih (fun other hother => himpls other (List.mem_cons_of_mem impl hother))
          (registry.invoke arguments impl state).2.state
      have hlater : ∀ notice ∈ notices, notice.IsOf (impl :: rest) := fun notice hmem =>
        have ⟨other, hother, hof⟩ := hnotices notice hmem
        ⟨other, List.mem_cons_of_mem impl hother, hof⟩
      rw [allOf, Aftermath.upTo_events, List.filter_append, hrest]
      rcases invoke_errorRuns hsound arguments (himpls impl List.mem_cons_self) state with
        hfirst | ⟨failure, hfirst⟩
      · exact ⟨notices, hlater, by rw [hfirst, List.nil_append]⟩
      · refine ⟨impl.notice failure :: notices, ?_, by rw [hfirst, List.flatMap_cons]⟩
        intro notice hmem
        rcases List.mem_cons.mp hmem with rfl | hmem
        · exact ⟨impl, List.mem_cons_self, rfl⟩
        · exact hlater notice hmem

/-- A call for the first answer tells failures of implementations of its hook. -/
theorem callFirst_errorRuns (hsound : registry.Sound) {hook : Hook} (hhook : hook ≠ .onError)
    (arguments : Arguments) (state : σ) :
    ∃ notices : List Notice, (∀ notice ∈ notices, notice.IsOf (registry.running hook)) ∧
      (registry.callFirst hook arguments state).2.events.filter (·.runs .onError) =
        notices.flatMap registry.telling := by
  have hothers : ∀ impl ∈ registry.turnedTo arguments (registry.running hook) state,
      impl.hook ≠ .onError := fun impl hmem => by rwa [hook_of_mem_turnedTo impl hmem]
  obtain ⟨notices, hnotices, htold⟩ := allOf_errorRuns hsound arguments hothers state
  refine ⟨notices, ?_, by rw [callFirst, firstOf_aftermath, htold]⟩
  intro notice hmem
  obtain ⟨impl, himpl, hof⟩ := hnotices notice hmem
  exact ⟨impl, (registry.turnedTo_prefix arguments _ state).subset himpl, hof⟩

/-- A call of all implementations tells failures of implementations of its hook. -/
theorem callMany_errorRuns (hsound : registry.Sound) {hook : Hook} (hhook : hook ≠ .onError)
    (arguments : Arguments) (state : σ) :
    ∃ notices : List Notice, (∀ notice ∈ notices, notice.IsOf (registry.running hook)) ∧
      (registry.callMany hook arguments state).2.events.filter (·.runs .onError) =
        notices.flatMap registry.telling :=
  allOf_errorRuns hsound arguments
    (fun impl hmem => by rwa [hook_of_mem_running impl hmem]) state

end Registry

/-- The stage of a plugin's failure has a colon in it. -/
theorem Notice.IsOf.colon_mem {impls : List (Implementation σ)} {notice : Notice}
    (hplugin : notice.IsOf impls) : ':' ∈ notice.stage.toList := by
  obtain ⟨impl, _, hstage⟩ := hplugin
  rw [hstage]
  simp [Implementation.notice]

end JuliaBlocks
