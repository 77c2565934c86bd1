import JuliaBlocks.Proofs.Plugin.Call

/-!
Calls of hooks and the plugins' state. What all implementations leave alone, calls leave alone. And
calls depend on the state by what the plugins make of it, not by how it is kept: if implementations
are lifted to states of which theirs are images, calls come to the same and leave behind states of
which theirs are images.
-/

namespace JuliaBlocks

variable {σ τ : Type}

theorem Implementation.call_state (impl : Implementation σ) (arguments : Arguments) (state : σ) :
    (impl.call arguments state).2.state = if impl.missing arguments = []
      then (impl.respond (impl.select arguments) state).2 else state := by
  unfold call
  split <;> rfl

/-- An implementation that leaves alone what is seen of the state. -/
def Implementation.Keeps (view : σ → τ) (impl : Implementation σ) : Prop :=
  ∀ given state, view (impl.respond given state).2 = view state

section Keeping

variable {view : σ → τ}

theorem Implementation.Keeps.call {impl : Implementation σ} (hkeeps : impl.Keeps view)
    (arguments : Arguments) (state : σ) :
    view (impl.call arguments state).2.state = view state := by
  rw [impl.call_state]
  split
  · exact hkeeps _ _
  · rfl

namespace Registry

theorem notifyOne_state (stage : String) (failure : Failure) (impl : Implementation σ)
    (state : σ) : (notifyOne stage failure impl state).state =
      (impl.call (errorArguments stage failure) state).2.state := by
  unfold notifyOne
  rcases impl.call (errorArguments stage failure) state with ⟨failure | product, after⟩ <;> rfl

theorem notifyEach_view {impls : List (Implementation σ)} (hkeeps : ∀ impl ∈ impls, impl.Keeps view)
    (stage : String) (failure : Failure) (state : σ) :
    view (notifyEach stage failure impls state).state = view state := by
  induction impls generalizing state with
  | nil => rfl
  | cons impl rest ih =>
      have hrest := ih (fun other hother => hkeeps other (List.mem_cons_of_mem impl hother))
        (notifyOne stage failure impl state).state
      rw [notifyEach, Aftermath.upTo_state, hrest, notifyOne_state]
      exact (hkeeps impl List.mem_cons_self).call _ state

/-- A call for the first answer goes on just if the first implementation answers nothing. -/
theorem firstOf_cons (registry : Registry σ) (arguments : Arguments) (impl : Implementation σ)
    (rest : List (Implementation σ)) (state : σ) :
    let invoked := registry.invoke arguments impl state
    let product := invoked.1.getD .nothing
    let later := registry.firstOf arguments rest invoked.2.state
    registry.firstOf arguments (impl :: rest) state =
      if product.isNothing then (later.1, invoked.2.upTo later.2) else (product, invoked.2) := by
  rw [firstOf]
  rcases registry.invoke arguments impl state with ⟨_ | product, after⟩
  · rfl
  · cases product <;> rfl

/-- Plugins that leave alone what is seen of the state. -/
def Keeps (view : σ → τ) (registry : Registry σ) : Prop :=
  ∀ impl ∈ registry.implementations, impl.Keeps view

variable {registry : Registry σ} (hkeeps : registry.Keeps view)

include hkeeps

theorem Keeps.notifyError (stage : String) (failure : Failure) (state : σ) :
    view (registry.notifyError stage failure state).state = view state :=
  notifyEach_view (fun impl hmem => hkeeps impl (mem_running.mp hmem).1) stage failure state

theorem Keeps.invoke (arguments : Arguments) {impl : Implementation σ} (himpl : impl.Keeps view)
    (state : σ) : view (registry.invoke arguments impl state).2.state = view state := by
  rw [← himpl.call arguments state, Registry.invoke]
  rcases impl.call arguments state with ⟨failure | product, after⟩
  · exact hkeeps.notifyError _ _ _
  · rfl

theorem Keeps.firstOf (arguments : Arguments) {impls : List (Implementation σ)}
    (himpls : ∀ impl ∈ impls, impl.Keeps view) (state : σ) :
    view (registry.firstOf arguments impls state).2.state = view state := by
  induction impls generalizing state with
  | nil => rfl
  | cons impl rest ih =>
      have hinvoked := hkeeps.invoke arguments (himpls impl List.mem_cons_self) state
      have hrest := ih (fun other hother => himpls other (List.mem_cons_of_mem impl hother))
        (registry.invoke arguments impl state).2.state
      rw [firstOf_cons]
      split
      · exact hrest.trans hinvoked
      · exact hinvoked

theorem Keeps.allOf (arguments : Arguments) {impls : List (Implementation σ)}
    (himpls : ∀ impl ∈ impls, impl.Keeps view) (state : σ) :
    view (registry.allOf arguments impls state).2.state = view state := by
  induction impls generalizing state with
  | nil => rfl
  | cons impl rest ih =>
      have hinvoked := hkeeps.invoke arguments (himpls impl List.mem_cons_self) state
      have hrest := ih (fun other hother => himpls other (List.mem_cons_of_mem impl hother))
        (registry.invoke arguments impl state).2.state
      exact hrest.trans hinvoked

theorem Keeps.callFirst (hook : Hook) (arguments : Arguments) (state : σ) :
    view (registry.callFirst hook arguments state).2.state = view state :=
  hkeeps.firstOf arguments (fun impl hmem => hkeeps impl (mem_running.mp hmem).1) state

theorem Keeps.callMany (hook : Hook) (arguments : Arguments) (state : σ) :
    view (registry.callMany hook arguments state).2.state = view state :=
  hkeeps.allOf arguments (fun impl hmem => hkeeps impl (mem_running.mp hmem).1) state

end Registry

end Keeping

/-- What calls leave behind, with the state replaced by its image. -/
def Aftermath.mapState (f : σ → τ) (after : Aftermath σ) : Aftermath τ where
  state := f after.state
  events := after.events

/-- Implementations are lifted to states with images in theirs: what is declared of them stays, and
they respond to a state as they did to its image. -/
structure Implementation.Lifts (f : σ → τ) (lift : Implementation τ → Implementation σ) :
    Prop where
  declaration : ∀ impl, (lift impl).toDeclaration = impl.toDeclaration
  respond : ∀ impl given state,
    impl.respond given (f state) = ((lift impl).respond given state).map id f

/-- The implementation that goes by the first part of a state and leaves the second alone. -/
def Implementation.beside {ρ : Type} (impl : Implementation σ) : Implementation (σ × ρ) :=
  { impl with respond := fun given state =>
      let (response, after) := impl.respond given state.1
      (response, (after, state.2)) }

theorem Implementation.lifts_beside (ρ : Type) :
    Lifts Prod.fst (beside : Implementation σ → Implementation (σ × ρ)) :=
  ⟨fun _ => rfl, fun _ _ _ => rfl⟩

section Calls

variable {f : σ → τ} {lift : Implementation τ → Implementation σ}
  (hlift : Implementation.Lifts f lift)

include hlift

theorem Implementation.call_mapState (impl : Implementation τ) (arguments : Arguments) (state : σ) :
    impl.call arguments (f state) =
      ((lift impl).call arguments state).map id (Aftermath.mapState f) := by
  have hdeclaration := hlift.declaration impl
  have hmissing : (lift impl).missing arguments = impl.missing arguments :=
    congrArg (·.missing arguments) hdeclaration
  have hselect : (lift impl).select arguments = impl.select arguments :=
    congrArg (·.select arguments) hdeclaration
  have hplugin : (lift impl).plugin = impl.plugin := congrArg Declaration.plugin hdeclaration
  have hhook : (lift impl).hook = impl.hook := congrArg Declaration.hook hdeclaration
  simp only [call, hmissing, hselect, hplugin, hhook, hlift.respond]
  split <;> rfl

namespace Registry

theorem notifyEach_mapState (stage : String) (failure : Failure) (impls : List (Implementation τ))
    (state : σ) :
    notifyEach stage failure impls (f state) =
      (notifyEach stage failure (impls.map lift) state).mapState f := by
  induction impls generalizing state with
  | nil => rfl
  | cons impl rest ih =>
      have hplugin : (lift impl).plugin = impl.plugin :=
        congrArg Declaration.plugin (hlift.declaration impl)
      rw [List.map_cons, notifyEach, notifyEach, notifyOne, notifyOne,
        impl.call_mapState hlift, hplugin]
      rcases (lift impl).call (errorArguments stage failure) state with ⟨failure | product, after⟩
      · exact congrArg (Aftermath.upTo _) (ih after.state)
      · exact congrArg (Aftermath.upTo _) (ih after.state)

variable (registry : Registry τ)

theorem notifyError_mapState (stage : String) (failure : Failure) (state : σ) :
    registry.notifyError stage failure (f state) =
      ((registry.map lift).notifyError stage failure state).mapState f := by
  rw [notifyError, notifyError, running_map hlift.declaration]
  exact notifyEach_mapState hlift stage failure _ state

theorem invoke_mapState (arguments : Arguments) (impl : Implementation τ) (state : σ) :
    registry.invoke arguments impl (f state) =
      ((registry.map lift).invoke arguments (lift impl) state).map id (Aftermath.mapState f) := by
  have hdeclaration := hlift.declaration impl
  have hplugin : (lift impl).plugin = impl.plugin := congrArg Declaration.plugin hdeclaration
  have hhook : (lift impl).hook = impl.hook := congrArg Declaration.hook hdeclaration
  rw [invoke, invoke, impl.call_mapState hlift, hplugin, hhook]
  rcases (lift impl).call arguments state with ⟨failure | product, after⟩
  · have htold := registry.notifyError_mapState hlift (impl.hook.name ++ ":" ++ impl.plugin)
      failure after.state
    exact congrArg (fun told => (none, (after.mapState f).upTo told)) htold
  · rfl

theorem firstOf_mapState (arguments : Arguments) (impls : List (Implementation τ)) (state : σ) :
    registry.firstOf arguments impls (f state) =
      ((registry.map lift).firstOf arguments (impls.map lift) state).map id
        (Aftermath.mapState f) := by
  induction impls generalizing state with
  | nil => rfl
  | cons impl rest ih =>
      rw [List.map_cons, firstOf, firstOf, registry.invoke_mapState hlift]
      rcases (registry.map lift).invoke arguments (lift impl) state with ⟨_ | product, after⟩
      · exact congrArg (Prod.map id (Aftermath.upTo (after.mapState f))) (ih after.state)
      · cases product with
        | nothing => exact congrArg (Prod.map id (Aftermath.upTo (after.mapState f))) (ih after.state)
        | _ => rfl

theorem allOf_mapState (arguments : Arguments) (impls : List (Implementation τ)) (state : σ) :
    registry.allOf arguments impls (f state) =
      ((registry.map lift).allOf arguments (impls.map lift) state).map id
        (Aftermath.mapState f) := by
  induction impls generalizing state with
  | nil => rfl
  | cons impl rest ih =>
      rw [List.map_cons, allOf, allOf, registry.invoke_mapState hlift]
      rcases (registry.map lift).invoke arguments (lift impl) state with ⟨product, after⟩
      exact congrArg (Prod.map (product.toList ++ ·) (Aftermath.upTo (after.mapState f)))
        (ih after.state)

theorem callFirst_mapState (hook : Hook) (arguments : Arguments) (state : σ) :
    registry.callFirst hook arguments (f state) =
      ((registry.map lift).callFirst hook arguments state).map id (Aftermath.mapState f) := by
  rw [callFirst, callFirst, running_map hlift.declaration]
  exact registry.firstOf_mapState hlift arguments _ state

theorem callMany_mapState (hook : Hook) (arguments : Arguments) (state : σ) :
    registry.callMany hook arguments (f state) =
      ((registry.map lift).callMany hook arguments state).map id (Aftermath.mapState f) := by
  rw [callMany, callMany, running_map hlift.declaration]
  exact registry.allOf_mapState hlift arguments _ state

end Registry

end Calls

end JuliaBlocks
