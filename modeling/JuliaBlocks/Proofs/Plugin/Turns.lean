import JuliaBlocks.Proofs.Plugin.Report

/-!
The whole course of hook calls. The implementations of a hook have their turns one after another, in
the reverse of the order in which they are reported, and what a failure sets off is over before the
next turn. Main statement: `calls_in_turns`.
-/

namespace JuliaBlocks

variable {σ : Type}

/-- The course of telling implementations of the error hook of a failure: each runs once, with what
it declares of the notice. A failure of one of them is logged and told to no one. -/
inductive Tells (notice : Notice) : List (Implementation σ) → σ → Aftermath σ → Prop
  | over {state : σ} : Tells notice [] state { state }
  | heard {impl : Implementation σ} {rest : List (Implementation σ)} {state next : σ}
      {product : Product} {later : Aftermath σ}
      (hresponse : impl.respond (impl.select notice.arguments) state = (.ok product, next))
      (hrest : Tells notice rest next later) :
      Tells notice (impl :: rest) state
        { later with events := impl.run notice.arguments :: later.events }
  | failed {impl : Implementation σ} {rest : List (Implementation σ)} {state next : σ}
      {failure : Failure} {later : Aftermath σ}
      (hresponse : impl.respond (impl.select notice.arguments) state = (.error failure, next))
      (hrest : Tells notice rest next later) :
      Tells notice (impl :: rest) state { later with
        events := impl.run notice.arguments :: .logged .warning
          ("hook.on_error_failed stage=" ++ notice.stage ++ " plugin=" ++ impl.plugin) ::
            later.events }

/-- The turn of an implementation in a call: what it returns, unless it fails, and what its turn
leaves behind. If it fails, or lacks something that it declares, all implementations of the error
hook are told before the turn is over. -/
inductive Turn (observers : List (Implementation σ)) (arguments : Arguments)
    (impl : Implementation σ) (state : σ) : Option Product → Aftermath σ → Prop
  | returned {product : Product} {next : σ} (hmissing : impl.missing arguments = [])
      (hresponse : impl.respond (impl.select arguments) state = (.ok product, next)) :
      Turn observers arguments impl state (some product)
        { state := next, events := [impl.run arguments] }
  | failed {failure : Failure} {next : σ} {later : Aftermath σ}
      (hmissing : impl.missing arguments = [])
      (hresponse : impl.respond (impl.select arguments) state = (.error failure, next))
      (htold : Tells (impl.notice failure) observers next later) :
      Turn observers arguments impl state none
        { later with events := impl.run arguments :: later.events }
  | lacking {after : Aftermath σ} (hmissing : impl.missing arguments ≠ [])
      (htold : Tells (impl.notice (.missingArguments (impl.missing arguments))) observers
        state after) :
      Turn observers arguments impl state none after

/-- Turns one after another, each in the state that the one before it leaves behind. -/
inductive Turns (observers : List (Implementation σ)) (arguments : Arguments) :
    List (Implementation σ) → σ → List (Option Product) → Aftermath σ → Prop
  | over {state : σ} : Turns observers arguments [] state [] { state }
  | turn {impl : Implementation σ} {rest : List (Implementation σ)} {state : σ}
      {outcome : Option Product} {outcomes : List (Option Product)} {after later : Aftermath σ}
      (hturn : Turn observers arguments impl state outcome after)
      (hrest : Turns observers arguments rest after.state outcomes later) :
      Turns observers arguments (impl :: rest) state (outcome :: outcomes) (after.upTo later)

/-- Where a call for the first answer ends, and with what: at the first implementation that returns
something, or after all with nothing. -/
inductive EndsWith : (outcomes : List (Option Product)) → (rest : List (Implementation σ)) →
    Product → Prop
  | unanswered {outcomes : List (Option Product)}
      (hnone : ∀ outcome ∈ outcomes, outcome = none ∨ outcome = some .nothing) :
      EndsWith outcomes [] .nothing
  | answered (front : List (Option Product)) {rest : List (Implementation σ)} {product : Product}
      (hfront : ∀ outcome ∈ front, outcome = none ∨ outcome = some .nothing)
      (hproduct : product ≠ .nothing) :
      EndsWith (front ++ [some product]) rest product

/-- An implementation without an answer only puts off the end of a call. -/
theorem EndsWith.cons {outcome : Option Product} {outcomes : List (Option Product)}
    {rest : List (Implementation σ)} {product : Product}
    (houtcome : outcome = none ∨ outcome = some .nothing)
    (hends : EndsWith outcomes rest product) : EndsWith (outcome :: outcomes) rest product := by
  cases hends with
  | unanswered hnone => exact .unanswered (List.forall_mem_cons.mpr ⟨houtcome, hnone⟩)
  | answered front hfront hproduct =>
      exact .answered (outcome :: front) (List.forall_mem_cons.mpr ⟨houtcome, hfront⟩) hproduct

namespace Registry

variable {registry : Registry σ}

/-- What a hook is reported with is what it lists. -/
theorem lookup_report (registry : Registry σ) (hook : Hook) :
    (registry.report.lookup hook.name).getD [] = (registry.listed hook).map (·.plugin) := by
  cases hook
  all_goals
    unfold report Hook.all
    simp only [List.map_cons, List.map_nil]
    generalize (registry.listed .onError).map (·.plugin) = errors
    generalize (registry.listed .onResult).map (·.plugin) = results
    generalize (registry.listed .provideSessionSink).map (·.plugin) = sinks
    cases errors <;> cases results <;> cases sinks <;> rfl

theorem notifyEach_tells {impls : List (Implementation σ)}
    (himpls : ∀ impl ∈ impls, impl.hook = .onError ∧ impl.fits = true) (notice : Notice)
    (state : σ) :
    Tells notice impls state (notifyEach notice.stage notice.failure impls state) := by
  induction impls generalizing state with
  | nil => exact .over
  | cons impl rest ih =>
      obtain ⟨hhook, hfits⟩ := himpls impl List.mem_cons_self
      have hmissing : impl.missing (errorArguments notice.stage notice.failure) = [] :=
        impl.missing_error hfits hhook notice
      have hrest := ih fun other hother => himpls other (List.mem_cons_of_mem impl hother)
      unfold notifyEach notifyOne
      rcases hresponse : impl.respond (impl.select (errorArguments notice.stage notice.failure))
        state with ⟨failure | product, next⟩
      · rw [Implementation.call_of_response hmissing hresponse]
        exact .failed hresponse (hrest next)
      · rw [Implementation.call_of_response hmissing hresponse]
        exact .heard hresponse (hrest next)

theorem notifyError_tells (hsound : registry.Sound) (notice : Notice) (state : σ) :
    Tells notice registry.observers state
      (registry.notifyError notice.stage notice.failure state) := by
  apply notifyEach_tells
  intro impl hmem
  obtain ⟨hmem, hhook⟩ := mem_running.mp hmem
  exact ⟨hhook, hsound impl hmem⟩

theorem invoke_turn (hsound : registry.Sound) (arguments : Arguments) (impl : Implementation σ)
    (state : σ) : Turn registry.observers arguments impl state
      (registry.invoke arguments impl state).1 (registry.invoke arguments impl state).2 := by
  have htells (failure : Failure) := notifyError_tells hsound (impl.notice failure)
  unfold invoke
  by_cases hmissing : impl.missing arguments = []
  · rcases hresponse : impl.respond (impl.select arguments) state with ⟨failure | product, next⟩
    · rw [Implementation.call_of_response hmissing hresponse]
      exact .failed hmissing hresponse (htells failure next)
    · rw [Implementation.call_of_response hmissing hresponse]
      exact .returned hmissing hresponse
  · rw [Implementation.call, if_neg hmissing]
    exact .lacking hmissing (htells _ state)

/-- A call of all implementations gives each its turn and collects what they return. -/
theorem allOf_turns (hsound : registry.Sound) (arguments : Arguments)
    (impls : List (Implementation σ)) (state : σ) :
    ∃ outcomes, Turns registry.observers arguments impls state outcomes
        (registry.allOf arguments impls state).2 ∧
      (registry.allOf arguments impls state).1 = outcomes.reduceOption := by
  induction impls generalizing state with
  | nil => exact ⟨[], .over, rfl⟩
  | cons impl rest ih =>
      have hturn := invoke_turn hsound arguments impl state
      obtain ⟨outcomes, hrest, hproducts⟩ := ih (registry.invoke arguments impl state).2.state
      refine ⟨_, .turn hturn hrest, ?_⟩
      have hall : (registry.allOf arguments (impl :: rest) state).1 =
          (registry.invoke arguments impl state).1.toList ++ outcomes.reduceOption := by
        rw [← hproducts, allOf]
      rw [hall]
      cases (registry.invoke arguments impl state).1 <;> rfl

/-- A call for the first answer gives implementations their turns until one has an answer. -/
theorem firstOf_turns (hsound : registry.Sound) (arguments : Arguments)
    (impls : List (Implementation σ)) (state : σ) :
    ∃ reached rest outcomes, impls = reached ++ rest ∧
      Turns registry.observers arguments reached state outcomes
        (registry.firstOf arguments impls state).2 ∧
      EndsWith outcomes rest (registry.firstOf arguments impls state).1 := by
  induction impls generalizing state with
  | nil => exact ⟨[], [], [], rfl, .over, .unanswered (by simp)⟩
  | cons impl others ih =>
      have hturn := invoke_turn hsound arguments impl state
      rw [firstOf]
      generalize registry.invoke arguments impl state = invoked at hturn ⊢
      obtain ⟨outcome, after⟩ := invoked
      have hlater (houtcome : outcome = none ∨ outcome = some .nothing) :
          ∃ reached rest outcomes, impl :: others = reached ++ rest ∧
            Turns registry.observers arguments reached state outcomes
              (after.upTo (registry.firstOf arguments others after.state).2) ∧
            EndsWith outcomes rest (registry.firstOf arguments others after.state).1 := by
        obtain ⟨reached, rest, outcomes, rfl, hturns, hends⟩ := ih after.state
        exact ⟨impl :: reached, rest, outcome :: outcomes, rfl, .turn hturn hturns,
          hends.cons houtcome⟩
      have hanswered {product : Product} (houtcome : outcome = some product)
          (hproduct : product ≠ .nothing) :
          ∃ reached rest outcomes, impl :: others = reached ++ rest ∧
            Turns registry.observers arguments reached state outcomes after ∧
            EndsWith outcomes rest product := by
        subst houtcome
        refine ⟨[impl], others, [some product], rfl, ?_, .answered [] (by simp) hproduct⟩
        rw [← Aftermath.upTo_self after]
        exact .turn hturn .over
      cases houtcome : outcome with
      | none => exact hlater (Or.inl houtcome)
      | some product =>
          cases product with
          | nothing => exact hlater (Or.inr houtcome)
          | _ => exact hanswered houtcome (by simp)

/-- The implementations of a hook have their turns in the reverse of the order in which they are
reported. A call of all of them gives each of them one turn and returns what those that do not fail
return. A call for the first answer does so only up to the first that returns something, and returns
that. In a turn the implementation runs, and if it fails, each implementation of the error hook is
told of it once before the next turn; failures of those are told to no one. -/
theorem calls_in_turns (hsound : registry.Sound) (hook : Hook) (arguments : Arguments)
    (state : σ) :
    let impls := (registry.implementations.filter (·.hook = hook)).reverse
    impls.map (·.plugin) = ((registry.report.lookup hook.name).getD []).reverse ∧
    (∃ outcomes, Turns registry.observers arguments impls state outcomes
        (registry.callMany hook arguments state).2 ∧
      (registry.callMany hook arguments state).1 = outcomes.reduceOption) ∧
    ∃ reached rest outcomes, impls = reached ++ rest ∧
      Turns registry.observers arguments reached state outcomes
        (registry.callFirst hook arguments state).2 ∧
      EndsWith outcomes rest (registry.callFirst hook arguments state).1 := by
  intro impls
  refine ⟨?_, allOf_turns hsound arguments impls state, firstOf_turns hsound arguments impls state⟩
  rw [lookup_report, ← List.map_reverse]
  rfl

/-- Of four observers of a result one has nothing to say, one fails, one lacks an argument, and one
returns how many failures were told. Of the two that are told of each failure one counts, and the
other fails itself. -/
theorem calls_in_turns_mixed :
    let implementation (plugin hook declared respond) : Implementation Nat :=
      { plugin, hook, declared, respond := fun _ => respond }
    let registry : Registry Nat := { implementations :=
      [implementation "deaf" .onError [] fun told => (.error .spentToken, told),
        implementation "log" .onError [] fun told => (.ok .nothing, told + 1),
        implementation "count" .onResult ["request"] fun told =>
          (.ok (.value (.int told) (by simp)), told),
        implementation "lacking" .onResult ["result"] fun told => (.ok .object, told),
        implementation "failing" .onResult [] fun told => (.error .spentToken, told),
        implementation "silent" .onResult ["request"] fun told => (.ok .nothing, told)] }
    let arguments : Arguments := [("request", .value (.int 1))]
    let events : List HookEvent :=
      [.called "silent" .onResult arguments,
        .called "failing" .onResult [],
        .called "log" .onError [],
        .called "deaf" .onError [],
        .logged .warning "hook.on_error_failed stage=on_result:failing plugin=deaf",
        .called "log" .onError [],
        .called "deaf" .onError [],
        .logged .warning "hook.on_error_failed stage=on_result:lacking plugin=deaf",
        .called "count" .onResult arguments]
    registry.Sound ∧
    registry.callMany .onResult arguments 0 =
      ([.nothing, .value (.int 2) (by simp)], { state := 2, events }) ∧
    ∃ outcomes, Turns registry.observers arguments
      (registry.implementations.filter (·.hook = .onResult)).reverse 0 outcomes
      { state := 2, events } ∧ outcomes.reduceOption = [.nothing, .value (.int 2) (by simp)] := by
  intro implementation registry arguments events
  have hsound : registry.Sound := by
    unfold Registry.Sound
    decide
  have hmany : registry.callMany .onResult arguments 0 =
      ([.nothing, .value (.int 2) (by simp)], { state := 2, events }) := rfl
  obtain ⟨_, ⟨outcomes, hturns, hproducts⟩, _⟩ := calls_in_turns hsound .onResult arguments 0
  rw [hmany] at hturns hproducts
  exact ⟨hsound, hmany, outcomes, hturns, hproducts.symm⟩

end Registry

end JuliaBlocks
