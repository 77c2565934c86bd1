import JuliaBlocks.Proofs.Plugin.Simulation

/-!
Plugins with their failures taken away. They are registered and listed as the plugins that fail are,
and they are asked for sinks to the same end, provided that what is told of failures does not come
back: that there is a part of the state which observers of failures leave alone, and which is all
that the other implementations go by.
-/

namespace JuliaBlocks

variable {σ τ : Type}

section Definitions

variable (returns : Implementation σ → Arguments → Product)

/-- The implementation that does not fail, and does to the state what this one does: where this one
fails, a provider of sinks returns nothing, and an observer what is given for it. -/
def Implementation.mended (impl : Implementation σ) : Implementation σ :=
  { impl with respond := fun given state =>
      match impl.respond given state with
      | (.ok product, after) => (.ok product, after)
      | (.error _, after) =>
        (.ok (if impl.hook = .provideSessionSink then .nothing else returns impl given), after) }

def Registry.mended (registry : Registry σ) : Registry σ :=
  registry.map (·.mended returns)

end Definitions

/-- An implementation that keeps to a view of the state: an observer of failures does not change what
is seen, another one changes it only by what is seen, and a provider of sinks goes by nothing else
in what it returns, too. -/
structure Implementation.Insulated (view : σ → τ) (impl : Implementation σ) : Prop where
  deaf : impl.hook = .onError →
    ∀ given state, view (impl.respond given state).2 = view state
  state : impl.hook ≠ .onError → ∀ given state other, view state = view other →
    view (impl.respond given state).2 = view (impl.respond given other).2
  product : impl.hook = .provideSessionSink → ∀ given state other, view state = view other →
    (impl.respond given state).1 = (impl.respond given other).1

def Registry.Insulated (view : σ → τ) (registry : Registry σ) : Prop :=
  ∀ impl ∈ registry.implementations, impl.Insulated view

variable {view : σ → τ} {returns : Implementation σ → Arguments → Product}

namespace Implementation

variable {impl : Implementation σ}

theorem mended_state (impl : Implementation σ) (given : Arguments) (state : σ) :
    ((impl.mended returns).respond given state).2 = (impl.respond given state).2 := by
  simp only [mended]
  rcases impl.respond given state with ⟨failure | product, after⟩ <;> rfl

/-- To a provider of sinks it makes no difference whether it fails or returns nothing. -/
theorem mended_product (himpl : impl.hook = .provideSessionSink) (given : Arguments) (state : σ) :
    ((impl.mended returns).respond given state).1.toOption.getD .nothing =
      (impl.respond given state).1.toOption.getD .nothing := by
  simp only [mended, himpl, if_true]
  rcases impl.respond given state with ⟨failure | product, after⟩ <;> rfl

theorem call_product (impl : Implementation σ) (arguments : Arguments) (state : σ) :
    (impl.call arguments state).1.toOption.getD .nothing = if impl.missing arguments = []
      then (impl.respond (impl.select arguments) state).1.toOption.getD .nothing
      else .nothing := by
  unfold call
  split <;> rfl

end Implementation

namespace Registry

variable {registry : Registry σ}

theorem running_mended (registry : Registry σ) (hook : Hook) :
    (registry.mended returns).running hook = (registry.running hook).map (·.mended returns) :=
  running_map (g := Implementation.mended returns) (fun _ => rfl) registry hook

/-- Telling of a failure changes nothing that is seen. -/
theorem Insulated.notifyError_view (hregistry : registry.Insulated view) (stage : String)
    (failure : Failure) (state : σ) :
    view (registry.notifyError stage failure state).state = view state := by
  apply notifyEach_view
  intro impl hmem
  obtain ⟨hmem, hhook⟩ := mem_running.mp hmem
  exact (hregistry impl hmem).deaf hhook

/-- Nor does it if observers do not fail. -/
theorem Insulated.notifyError_mended_view (hregistry : registry.Insulated view) (stage : String)
    (failure : Failure) (state : σ) :
    view ((registry.mended returns).notifyError stage failure state).state = view state := by
  rw [Registry.notifyError, running_mended]
  apply notifyEach_view
  intro impl hmem given state
  obtain ⟨origin, horigin, rfl⟩ := List.mem_map.mp hmem
  obtain ⟨horigin, hhook⟩ := mem_running.mp horigin
  rw [origin.mended_state]
  exact (hregistry origin horigin).deaf hhook given state

/-- What a call leaves to be seen does not depend on whether its failure is told. -/
theorem invoke_view (hdeaf : ∀ stage failure state,
      view (registry.notifyError stage failure state).state = view state)
    (arguments : Arguments) (impl : Implementation σ) (state : σ) :
    view (registry.invoke arguments impl state).2.state =
      view (impl.call arguments state).2.state := by
  unfold invoke
  rcases impl.call arguments state with ⟨failure | product, after⟩
  · exact hdeaf _ _ _
  · rfl

theorem invoke_product (registry : Registry σ) (arguments : Arguments) (impl : Implementation σ)
    (state : σ) : (registry.invoke arguments impl state).1 =
      (impl.call arguments state).1.toOption := by
  unfold invoke
  rcases impl.call arguments state with ⟨failure | product, after⟩ <;> rfl

theorem Insulated.invoke (hregistry : registry.Insulated view) (arguments : Arguments)
    {impl : Implementation σ} (himpl : impl.Insulated view) (hhook : impl.hook ≠ .onError)
    {state other : σ} (hstate : view state = view other) :
    view ((registry.mended returns).invoke arguments (impl.mended returns) other).2.state =
      view (registry.invoke arguments impl state).2.state := by
  rw [invoke_view hregistry.notifyError_mended_view, invoke_view hregistry.notifyError_view,
    Implementation.call_state, Implementation.call_state, Implementation.mended_state]
  have hmissing : (impl.mended returns).missing arguments = impl.missing arguments := rfl
  rw [hmissing]
  split
  · exact (himpl.state hhook _ _ _ hstate).symm
  · exact hstate.symm

theorem invoke_mended_product (registry : Registry σ) (arguments : Arguments)
    {impl : Implementation σ} (himpl : impl.Insulated view)
    (hhook : impl.hook = .provideSessionSink) {state other : σ} (hstate : view state = view other) :
    ((registry.mended returns).invoke arguments (impl.mended returns) other).1.getD .nothing =
      (registry.invoke arguments impl state).1.getD .nothing := by
  have hmissing : (impl.mended returns).missing arguments = impl.missing arguments := rfl
  rw [invoke_product, invoke_product, Implementation.call_product,
    Implementation.call_product, Implementation.mended_product hhook, hmissing,
    himpl.product hhook _ _ _ hstate]
  rfl

theorem Insulated.firstOf (hregistry : registry.Insulated view) (arguments : Arguments)
    {impls : List (Implementation σ)}
    (himpls : ∀ impl ∈ impls, impl.Insulated view ∧ impl.hook = .provideSessionSink)
    {state other : σ} (hstate : view state = view other) :
    let mended := (registry.mended returns).firstOf arguments (impls.map (·.mended returns)) other
    let asked := registry.firstOf arguments impls state
    mended.1 = asked.1 ∧ view mended.2.state = view asked.2.state := by
  induction impls generalizing state other with
  | nil => exact ⟨rfl, hstate.symm⟩
  | cons impl rest ih =>
      obtain ⟨himpl, hhook⟩ := himpls impl List.mem_cons_self
      have hother : impl.hook ≠ .onError := by rw [hhook]; decide
      have hinvoked : view ((registry.mended returns).invoke arguments (impl.mended returns)
            other).2.state = view (registry.invoke arguments impl state).2.state :=
        hregistry.invoke arguments himpl hother hstate
      have hrest := ih (fun next hnext => himpls next (List.mem_cons_of_mem impl hnext))
        hinvoked.symm
      rw [List.map_cons, firstOf_cons, firstOf_cons,
        invoke_mended_product registry arguments himpl hhook hstate]
      split
      · exact hrest
      · exact ⟨rfl, hinvoked⟩

theorem Insulated.callFirst (hregistry : registry.Insulated view) (arguments : Arguments)
    {state other : σ} (hstate : view state = view other) :
    let mended := (registry.mended returns).callFirst .provideSessionSink arguments other
    let asked := registry.callFirst .provideSessionSink arguments state
    mended.1 = asked.1 ∧ view mended.2.state = view asked.2.state := by
  simp only [Registry.callFirst, running_mended]
  apply hregistry.firstOf arguments _ hstate
  intro impl hmem
  obtain ⟨hmem, hhook⟩ := mem_running.mp hmem
  exact ⟨hregistry impl hmem, hhook⟩

theorem Insulated.allOf (hregistry : registry.Insulated view) (arguments : Arguments)
    {impls : List (Implementation σ)}
    (himpls : ∀ impl ∈ impls, impl.Insulated view ∧ impl.hook ≠ .onError)
    {state other : σ} (hstate : view state = view other) :
    view ((registry.mended returns).allOf arguments (impls.map (·.mended returns)) other).2.state =
      view (registry.allOf arguments impls state).2.state := by
  induction impls generalizing state other with
  | nil => exact hstate.symm
  | cons impl rest ih =>
      obtain ⟨himpl, hhook⟩ := himpls impl List.mem_cons_self
      exact ih (fun next hnext => himpls next (List.mem_cons_of_mem impl hnext))
        (hregistry.invoke arguments himpl hhook hstate).symm

theorem Insulated.callMany (hregistry : registry.Insulated view) {hook : Hook}
    (hhook : hook ≠ .onError) (arguments : Arguments) {state other : σ}
    (hstate : view state = view other) :
    view ((registry.mended returns).callMany hook arguments other).2.state =
      view (registry.callMany hook arguments state).2.state := by
  rw [Registry.callMany, Registry.callMany, running_mended]
  apply hregistry.allOf arguments _ hstate
  intro impl hmem
  obtain ⟨hmem, himpl⟩ := mem_running.mp hmem
  exact ⟨hregistry impl hmem, by rwa [himpl]⟩

end Registry

end JuliaBlocks
