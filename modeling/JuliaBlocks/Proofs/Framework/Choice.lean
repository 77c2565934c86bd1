import JuliaBlocks.Proofs.Framework.Channel

/-!
Which channel a framework chooses. It goes by the first answer alone: the channel is the sink of a
plugin if that is what is answered first, and the pool otherwise, even if another plugin would have
provided a sink. Main statement: `choose_first_answer`.
-/

namespace JuliaBlocks

/-- Whether a product can take text for sessions. -/
def Product.isSink : Product → Bool
  | .sink _ _ => true
  | _ => false

namespace Framework

variable {σ : Type}

/-- What the providers of sinks answer, in the order in which they are asked, if all are. Those that
fail or return nothing do not answer. -/
def answers (framework : Framework σ) : List Product :=
  (framework.registry.callMany .provideSessionSink framework.wish framework.run.state).1.filter
    (!·.isNothing)

/-- A distribution that advertises a plugin which only provides a sink. -/
def provided (name : String) (response : Except Failure Product) : EntryPoint Unit where
  name
  implementations := .ok (provider name response).implementations

/-- Whether the channel is the first sink that is answered, and the pool only for want of one. -/
def ChoosesFirstSink (framework : Framework σ) : Prop :=
  framework.choose.1 = channelOf ((framework.answers.find? (·.isSink)).getD .nothing)

theorem channelOf_eq_plugin_iff {product : Product} {name : String} {closable : Bool} :
    channelOf product = .ok (.plugin name closable) ↔ product = .sink name closable := by
  cases product <;> simp [channelOf]

theorem channelOf_eq_error_iff {product : Product} {failure : Failure} :
    channelOf product = .error failure ↔ product = .brittle failure := by
  cases product <;> simp [channelOf]

theorem channelOf_eq_pool_iff {product : Product} :
    channelOf product = .ok .pool ↔
      product.isSink = false ∧ ∀ failure, product ≠ .brittle failure := by
  cases product <;> simp [channelOf, Product.isSink]

theorem choose_of_unset {framework : Framework σ} (hunset : framework.channel = none) :
    framework.choose.1 = channelOf (framework.answers.head?.getD .nothing) := by
  rw [answers, List.head?_filter, choose_eq_of_unset hunset, asked, Registry.callFirst,
    Registry.firstOf_answer]
  rfl

/-- What is found among products is a sink, or nothing. -/
theorem channelOf_find? (products : List Product) :
    let found := (products.find? (·.isSink)).getD .nothing
    (∀ failure, channelOf found ≠ .error failure) ∧
      (channelOf found = .ok .pool ↔ ∀ sink ∈ products, sink.isSink = false) := by
  intro found
  cases hfind : products.find? (·.isSink) with
  | none =>
      have hnone : ∀ sink ∈ products, sink.isSink = false := by
        simpa using List.find?_eq_none.mp hfind
      simp only [found, hfind]
      exact ⟨fun failure => by simp [channelOf], iff_of_true rfl hnone⟩
  | some product =>
      have hmem := List.mem_of_find?_eq_some hfind
      have hsink : product.isSink = true := List.find?_some hfind
      simp only [found, hfind, Option.getD_some]
      cases product with
      | sink name closable =>
          refine ⟨fun failure => by simp [channelOf], iff_of_false (by simp [channelOf]) ?_⟩
          intro hnone
          cases hnone _ hmem
      | _ => cases hsink

/-- The first of all products and the first sink among them mean the same channel unless another
product stands before a sink, or it cannot be told of the first whether it is one. -/
theorem channelOf_head?_eq_iff (products : List Product) :
    channelOf (products.head?.getD .nothing) =
        channelOf ((products.find? (·.isSink)).getD .nothing) ↔
      ∀ product ∈ products.head?, (∀ failure, product ≠ .brittle failure) ∧
        ∀ sink ∈ products, sink.isSink → product.isSink := by
  cases products with
  | nil => simp
  | cons first rest =>
      obtain ⟨hfails, hpool⟩ := channelOf_find? (first :: rest)
      rw [List.head?_cons, Option.getD_some]
      cases first with
      | sink name closable => simp [Product.isSink]
      | brittle failure =>
          have hdiffer := hfails failure
          rw [eq_comm, channelOf]
          simp [hdiffer]
      | nothing | value v given | object =>
          -- The channel of a first product that is no sink is the pool.
          change Except.ok Channel.pool = _ ↔ _
          rw [eq_comm, hpool]
          simp [Product.isSink]

/-- The channel is the first thing that a provider answers if that is a sink, and else the pool,
unless it cannot be told whether it is one. So it is the first sink just when no other answer comes
before a sink. Once chosen it is kept. -/
theorem choose_first_answer {framework : Framework σ} (hunset : framework.channel = none) :
    (∀ name closable, framework.choose.1 = .ok (.plugin name closable) ↔
      framework.answers.head? = some (.sink name closable)) ∧
    (framework.choose.1 = .ok .pool ↔ ∀ product ∈ framework.answers.head?,
      product.isSink = false ∧ ∀ failure, product ≠ .brittle failure) ∧
    (∀ failure, framework.choose.1 = .error failure ↔
      framework.answers.head? = some (.brittle failure)) ∧
    (framework.ChoosesFirstSink ↔ ∀ product ∈ framework.answers.head?,
      (∀ failure, product ≠ .brittle failure) ∧
        ∀ sink ∈ framework.answers, sink.isSink → product.isSink) ∧
    ∀ channel, framework.choose.1 = .ok channel → framework.choose.2.choose.1 = .ok channel := by
  have hchosen := choose_of_unset hunset
  refine ⟨fun name closable => ?_, ?_, fun failure => ?_, ?_, fun channel hchannel => ?_⟩
  · rw [hchosen, channelOf_eq_plugin_iff]
    cases framework.answers.head? <;> simp
  · rw [hchosen, channelOf_eq_pool_iff]
    cases framework.answers.head? <;> simp [Product.isSink]
  · rw [hchosen, channelOf_eq_error_iff]
    cases framework.answers.head? <;> simp
  · rw [ChoosesFirstSink, hchosen]
    exact channelOf_head?_eq_iff framework.answers
  · have hkept : framework.choose.2.channel = some channel := by
      rw [choose_channel, hchannel, Except.toOption]
    rw [choose_eq_of_set hkept]

/-- The last plugin is asked first. It fails, the one before it returns nothing, and the next has
the first answer. -/
theorem choose_first_answer_failing :
    let advertised : List (EntryPoint Unit) := [
      provided "late" (.ok (.sink "late" false)), provided "first" (.ok (.sink "first" true)),
      provided "silent" (.ok .nothing),
      provided "failing" (.error (.raised "RuntimeError" "provider exploded" false))]
    let framework : Framework Unit :=
      (loadPlugins { settings := .usual, run := { state := (), files := {} } } advertised).2
    framework.channel = none ∧ framework.choose.1 = .ok (.plugin "first" true) ∧
      framework.ChoosesFirstSink := by
  intro advertised framework
  have hunset : framework.channel = none := by rfl
  obtain ⟨hplugin, _, _, hsinks, _⟩ := choose_first_answer hunset
  have hanswers : framework.answers = [.sink "first" true, .sink "late" false] := by rfl
  refine ⟨hunset, (hplugin "first" true).mpr (by rw [hanswers]; rfl), hsinks.mpr ?_⟩
  rw [hanswers]
  simp [Product.isSink]

/-- An object that is no sink hides the sink of the plugin that is asked next. -/
theorem not_choosesFirstSink_object :
    let framework : Framework Unit := (loadPlugins
      { settings := .usual, run := { state := (), files := {} } }
      [provided "sink" (.ok (.sink "sink" false)), provided "object" (.ok .object)]).2
    framework.answers = [.object, .sink "sink" false] ∧ framework.choose.1 = .ok .pool ∧
      ¬ framework.ChoosesFirstSink := by
  intro framework
  have hanswers : framework.answers = [.object, .sink "sink" false] := by rfl
  have hpool : framework.choose.1 = .ok .pool := by rfl
  refine ⟨hanswers, hpool, ?_⟩
  rw [ChoosesFirstSink, hanswers, hpool]
  simp [channelOf, Product.isSink]

end Framework

end JuliaBlocks
