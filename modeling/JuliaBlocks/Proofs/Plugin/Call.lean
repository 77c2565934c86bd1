import JuliaBlocks.Plugin.Call
import JuliaBlocks.Proofs.Plugin.Registry

/-!
What calls of hooks come to. Main statements: a call of all implementations runs each of them once
that has what it declares, whatever becomes of the others, and a call for the first answer is a call
of all those that it turns to, and answers with the first product of them that is something.
-/

namespace JuliaBlocks

variable {σ : Type}

/-- Whether an event is a run of an implementation of a hook. -/
def HookEvent.runs (hook : Hook) : HookEvent → Bool
  | .called _ other _ => other = hook
  | .logged _ _ => false

def Product.isNothing : Product → Bool
  | .nothing => true
  | _ => false

@[simp] theorem Aftermath.upTo_state (before after : Aftermath σ) :
    (before.upTo after).state = after.state := rfl

@[simp] theorem Aftermath.upTo_events (before after : Aftermath σ) :
    (before.upTo after).events = before.events ++ after.events := rfl

theorem Aftermath.upTo_self (after : Aftermath σ) :
    after.upTo { state := after.state } = after := by
  rw [upTo, List.append_nil]

namespace Implementation

/-- The run of an implementation in a call. -/
def run (impl : Implementation σ) (arguments : Arguments) : HookEvent :=
  .called impl.plugin impl.hook (impl.select arguments)

variable (impl : Implementation σ) (arguments : Arguments) (state : σ)

variable {impl arguments} in
/-- An implementation that fits its hook lacks nothing in a call with all that its hook has. -/
theorem missing_eq_nil (hfits : impl.fits = true)
    (hgiven : ∀ name ∈ impl.hook.parameters, (arguments.lookup name).isSome) :
    impl.missing arguments = [] := by
  rw [Declaration.missing, List.filter_eq_nil_iff]
  intro name hname
  have hparameter := List.contains_iff_mem.mp (List.all_eq_true.mp hfits name hname)
  rw [← Option.not_isSome, hgiven name hparameter]
  exact Bool.false_ne_true

variable {impl arguments state} in
/-- An implementation that has what it declares runs and responds. -/
theorem call_of_response (hmissing : impl.missing arguments = [])
    {response : Except Failure Product} {next : σ}
    (hresponse : impl.respond (impl.select arguments) state = (response, next)) :
    impl.call arguments state = (response, { state := next, events := [impl.run arguments] }) := by
  simp only [call, if_pos hmissing, hresponse, run]

theorem call_events : (impl.call arguments state).2.events =
    if impl.missing arguments = [] then [impl.run arguments] else [] := by
  unfold call
  split <;> rfl

theorem call_runs (hook : Hook) : (impl.call arguments state).2.events.filter (·.runs hook) =
    if impl.hook = hook ∧ impl.missing arguments = [] then [impl.run arguments] else [] := by
  have hrun : (impl.run arguments).runs hook = decide (impl.hook = hook) := rfl
  rw [call_events]
  by_cases hmissing : impl.missing arguments = []
  · by_cases hhook : impl.hook = hook <;> simp [hmissing, hhook, hrun]
  · simp [hmissing]

end Implementation

namespace Registry

/-- The runs of those implementations that have in a call what they declare. -/
def runsOf (arguments : Arguments) (impls : List (Implementation σ)) : List HookEvent :=
  (impls.filter (·.missing arguments = [])).map (·.run arguments)

section Notifying

variable (stage : String) (failure : Failure)

/-- Telling an implementation of a failure calls it; besides, a record may be logged. -/
theorem notifyOne_runs (hook : Hook) (impl : Implementation σ) (state : σ) :
    (notifyOne stage failure impl state).events.filter (·.runs hook) =
      (impl.call (errorArguments stage failure) state).2.events.filter (·.runs hook) := by
  unfold notifyOne
  rcases impl.call (errorArguments stage failure) state with ⟨failure | product, after⟩
  · simp [HookEvent.runs]
  · rfl

theorem notifyEach_runs_of_ne {hook : Hook} {impls : List (Implementation σ)}
    (himpls : ∀ impl ∈ impls, impl.hook ≠ hook) (state : σ) :
    (notifyEach stage failure impls state).events.filter (·.runs hook) = [] := by
  induction impls generalizing state with
  | nil => rfl
  | cons impl rest ih =>
      rw [notifyEach, Aftermath.upTo_events, List.filter_append, notifyOne_runs,
        impl.call_runs, if_neg (himpls impl List.mem_cons_self ·.1), List.nil_append]
      exact ih (fun other hother => himpls other (List.mem_cons_of_mem impl hother)) _

end Notifying

section Calling

variable (registry : Registry σ)

/-- Failures are told to implementations of the error hook and to no others. -/
theorem notifyError_runs {hook : Hook} (hhook : hook ≠ .onError) (stage : String)
    (failure : Failure) (state : σ) :
    (registry.notifyError stage failure state).events.filter (·.runs hook) = [] := by
  apply notifyEach_runs_of_ne
  intro impl hmem
  rw [(mem_running.mp hmem).2]
  exact hhook.symm

/-- What telling of a failure adds to a call are no runs of another hook. -/
theorem invoke_runs {hook : Hook} (hhook : hook ≠ .onError) (arguments : Arguments)
    (impl : Implementation σ) (state : σ) :
    (registry.invoke arguments impl state).2.events.filter (·.runs hook) =
      if impl.hook = hook ∧ impl.missing arguments = [] then [impl.run arguments] else [] := by
  rw [← impl.call_runs arguments state, invoke]
  rcases impl.call arguments state with ⟨failure | product, after⟩
  · rw [Aftermath.upTo_events, List.filter_append, registry.notifyError_runs hhook,
      List.append_nil]
  · rfl

/-- Each implementation of a hook runs once that has what it declares, whatever becomes of the
others. -/
theorem allOf_runs {hook : Hook} (hhook : hook ≠ .onError) (arguments : Arguments)
    {impls : List (Implementation σ)} (himpls : ∀ impl ∈ impls, impl.hook = hook) (state : σ) :
    (registry.allOf arguments impls state).2.events.filter (·.runs hook) =
      runsOf arguments impls := by
  induction impls generalizing state with
  | nil => rfl
  | cons impl rest ih =>
      have hrest := ih (fun other hother => himpls other (List.mem_cons_of_mem impl hother))
        (registry.invoke arguments impl state).2.state
      have himpl := himpls impl List.mem_cons_self
      rw [allOf, Aftermath.upTo_events, List.filter_append, registry.invoke_runs hhook, hrest]
      by_cases hmissing : impl.missing arguments = [] <;> simp [runsOf, himpl, hmissing]

theorem allOf_runs_of_ne {hook : Hook} (hhook : hook ≠ .onError) (arguments : Arguments)
    {impls : List (Implementation σ)} (himpls : ∀ impl ∈ impls, impl.hook ≠ hook) (state : σ) :
    (registry.allOf arguments impls state).2.events.filter (·.runs hook) = [] := by
  induction impls generalizing state with
  | nil => rfl
  | cons impl rest ih =>
      rw [allOf, Aftermath.upTo_events, List.filter_append, registry.invoke_runs hhook,
        if_neg (himpls impl List.mem_cons_self ·.1), List.nil_append]
      exact ih (fun other hother => himpls other (List.mem_cons_of_mem impl hother)) _

/-- The implementations that a call for the first answer turns to: all up to the first that has an
answer. -/
def turnedTo (arguments : Arguments) :
    List (Implementation σ) → σ → List (Implementation σ)
  | [], _ => []
  | impl :: rest, state =>
    match registry.invoke arguments impl state with
    | (none, after) | (some .nothing, after) => impl :: turnedTo arguments rest after.state
    | (some _, _) => [impl]

theorem turnedTo_prefix (arguments : Arguments) (impls : List (Implementation σ)) (state : σ) :
    registry.turnedTo arguments impls state <+: impls := by
  induction impls generalizing state with
  | nil => exact List.prefix_refl []
  | cons impl rest ih =>
      rw [turnedTo]
      split
      · exact List.cons_prefix_cons.mpr ⟨rfl, ih _⟩
      · exact List.cons_prefix_cons.mpr ⟨rfl, ih _⟩
      · exact List.cons_prefix_cons.mpr ⟨rfl, List.nil_prefix⟩

/-- A call for the first answer leaves behind what a call of all that it turns to does. -/
theorem firstOf_aftermath (arguments : Arguments) (impls : List (Implementation σ)) (state : σ) :
    (registry.firstOf arguments impls state).2 =
      (registry.allOf arguments (registry.turnedTo arguments impls state) state).2 := by
  induction impls generalizing state with
  | nil => rfl
  | cons impl rest ih =>
      rw [firstOf, turnedTo]
      rcases hinvoked : registry.invoke arguments impl state with ⟨_ | product, after⟩
      · simp only [allOf, hinvoked, ih]
      · cases product with
        | nothing => simp only [allOf, hinvoked, ih]
        | _ => simp only [allOf, hinvoked, Aftermath.upTo_self]

/-- The answer to a call for the first is the first of all products that is something. -/
theorem firstOf_answer (arguments : Arguments) (impls : List (Implementation σ)) (state : σ) :
    (registry.firstOf arguments impls state).1 =
      ((registry.allOf arguments impls state).1.find? (!·.isNothing)).getD .nothing := by
  induction impls generalizing state with
  | nil => rfl
  | cons impl rest ih =>
      rw [firstOf, allOf]
      rcases registry.invoke arguments impl state with ⟨_ | product, after⟩
      · exact ih after.state
      · cases product with
        | nothing => exact ih after.state
        | _ => rfl

variable {registry}

theorem hook_of_mem_running {hook : Hook} :
    ∀ impl ∈ registry.running hook, impl.hook = hook :=
  fun _ hmem => (mem_running.mp hmem).2

theorem hook_of_mem_turnedTo {hook : Hook} {arguments : Arguments} {state : σ} :
    ∀ impl ∈ registry.turnedTo arguments (registry.running hook) state, impl.hook = hook :=
  fun impl hmem => hook_of_mem_running impl
    ((registry.turnedTo_prefix arguments (registry.running hook) state).subset hmem)

variable (registry)

theorem callMany_runs_of_ne {hook other : Hook} (hother : other ≠ .onError) (hne : hook ≠ other)
    (arguments : Arguments) (state : σ) :
    (registry.callMany hook arguments state).2.events.filter (·.runs other) = [] :=
  registry.allOf_runs_of_ne hother arguments
    (fun impl hmem => by rwa [hook_of_mem_running impl hmem]) state

theorem callFirst_runs {hook : Hook} (hhook : hook ≠ .onError) (arguments : Arguments)
    (state : σ) :
    (registry.callFirst hook arguments state).2.events.filter (·.runs hook) =
      runsOf arguments (registry.turnedTo arguments (registry.running hook) state) := by
  rw [callFirst, firstOf_aftermath]
  exact registry.allOf_runs hhook arguments hook_of_mem_turnedTo state

end Calling

end Registry

end JuliaBlocks
