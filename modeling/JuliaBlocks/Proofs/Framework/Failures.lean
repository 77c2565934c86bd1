import JuliaBlocks.Proofs.Framework.Channel
import JuliaBlocks.Proofs.Transport.Preparation

/-!
Failures of a framework's operations. What an operation raises is what the transport raises under
it, or why there is no channel for it, and it is told to the error hook once, with the name of the
operation for its stage. Failures of plugins meanwhile are told with other stages. Main statement:
`failures_told_once`.
-/

namespace JuliaBlocks

namespace Transport

/-- What a step is called where its failures are told. -/
def Step.name : Step → String
  | evaluate _ => "evaluate"
  | loadSession _ => "load_session"
  | prepSession _ _ => "prep_session"

theorem Step.colon_not_mem_name (step : Step) : ':' ∉ step.name.toList := by
  cases step with
  | evaluate => exact (by decide : ':' ∉ "evaluate".toList)
  | loadSession => exact (by decide : ':' ∉ "load_session".toList)
  | prepSession => exact (by decide : ':' ∉ "prep_session".toList)

/-- What a step returns as a text: a result, or the name of a session. -/
def Returned.text : Returned → String
  | result text => text
  | session ref => ref.name

end Transport

namespace Framework

variable {σ : Type}

/-- Does with plugins what a step of the transport does. -/
def work (sinks : Channel → Sink σ) (step : Transport.Step) (framework : Framework σ) :
    Except Failure String × Framework σ :=
  match step with
  | .evaluate request => framework.evaluate sinks request
  | .loadSession request => framework.loadSession sinks request
  | .prepSession key bindings => framework.prepSession sinks key bindings

/-- What is told of an outcome with the name of its operation. -/
def ownNotices {α : Type} (stage : String) : Except Failure α → List Notice
  | .error failure => [⟨stage, failure⟩]
  | .ok _ => []

theorem ownNotices_map {α β : Type} (stage : String) (f : α → β) (outcome : Except Failure α) :
    ownNotices stage (outcome.map f) = ownNotices stage outcome := by
  cases outcome <;> rfl

/-- Between frameworks nothing is told but these notices and failures of plugins before them. -/
def Told (framework after : Framework σ) (own : List Notice) : Prop :=
  ∃ others : List Notice, (∀ notice ∈ others, notice.IsOf framework.registry.implementations) ∧
    after.hookRuns .onError = framework.hookRuns .onError ++
      (others ++ own).flatMap framework.registry.telling

section Notices

variable {framework : Framework σ}

theorem Told.refl (framework : Framework σ) : framework.Told framework [] :=
  ⟨[], by simp, (List.append_nil _).symm⟩

theorem Told.trans {between after : Framework σ} {own : List Notice}
    (hregistry : between.registry = framework.registry) (hfirst : framework.Told between [])
    (hrest : between.Told after own) : framework.Told after own := by
  obtain ⟨others, hothers, htold⟩ := hfirst
  obtain ⟨more, hmore, hadded⟩ := hrest
  rw [hregistry] at hmore hadded
  refine ⟨others ++ more, ?_, ?_⟩
  · intro notice hmem
    exact (List.mem_append.mp hmem).elim (hothers notice) (hmore notice)
  · rw [hadded, htold]
    simp

/-- A call of another hook tells failures of implementations of this hook. -/
theorem told_heed {hook : Hook} {after : Aftermath σ}
    (htold : ∃ notices : List Notice,
      (∀ notice ∈ notices, notice.IsOf (framework.registry.running hook)) ∧
      after.events.filter (·.runs .onError) = notices.flatMap framework.registry.telling) :
    framework.Told (framework.heed after) [] := by
  obtain ⟨notices, hnotices, htold⟩ := htold
  refine ⟨notices, ?_, by rw [hookRuns_heed, htold, List.append_nil]⟩
  intro notice hmem
  obtain ⟨impl, himpl, hof⟩ := hnotices notice hmem
  exact ⟨impl, (Registry.mem_running.mp himpl).1, hof⟩

theorem told_choose (hsound : framework.registry.Sound) :
    framework.Told framework.choose.2 [] := by
  cases hchannel : framework.channel with
  | some channel =>
      rw [choose_eq_of_set hchannel]
      exact Told.refl framework
  | none =>
      rw [choose_eq_of_unset hchannel]
      exact told_heed (Registry.callFirst_errorRuns hsound (by decide) _ _)

theorem told_connect (hsound : framework.registry.Sound) :
    framework.Told framework.connect.2 [] := by
  rw [connect_eq]
  cases framework.transport with
  | some channel => exact Told.refl framework
  | none => exact told_choose hsound

theorem told_tell {α : Type} (hsound : framework.registry.Sound) (stage : String)
    (outcome : Except Failure α) :
    framework.Told (framework.tell stage outcome) (ownNotices stage outcome) := by
  refine ⟨[], by simp, ?_⟩
  cases outcome with
  | error failure =>
      rw [tell, complain, hookRuns_heed, ownNotices, List.nil_append, List.flatMap_singleton]
      exact congrArg _ (Registry.notifyError_errorRuns hsound ⟨stage, failure⟩ _)
  | ok a => exact (List.append_nil _).symm

theorem told_operate {α : Type} (hsound : framework.registry.Sound) (sinks : Channel → Sink σ)
    (stage : String) (operation : Sink σ → Run σ → Except Failure α × Run σ) :
    framework.Told (framework.operate sinks stage operation).2
      (ownNotices stage (framework.operate sinks stage operation).1) := by
  have hregistry := framework.connect_registry
  have hconnected := told_connect hsound
  rcases hconnect : framework.connect with ⟨failure | channel, between⟩
  · rw [hconnect] at hregistry hconnected
    rw [operate_eq_of_error sinks stage operation hconnect]
    exact hconnected.trans hregistry (told_tell (by rwa [hregistry]) stage _)
  · rw [hconnect] at hregistry hconnected
    dsimp only at hregistry hconnected
    rw [operate_eq_of_ok sinks stage operation hconnect]
    generalize operation (sinks channel) { between.run with events := #[] } = worked
    have hfollowed : between.Told (between.follow channel worked.2) [] :=
      ⟨[], by simp, by rw [hookRuns_follow]; exact (List.append_nil _).symm⟩
    have hsoundBetween : (between.follow channel worked.2).registry.Sound := by
      rw [← hregistry] at hsound
      exact hsound
    have hsame : (between.follow channel worked.2).registry = between.registry := rfl
    exact hconnected.trans hregistry
      (hfollowed.trans hsame (told_tell hsoundBetween stage worked.1))

theorem told_evaluate (hsound : framework.registry.Sound) (sinks : Channel → Sink σ)
    (request : Request) :
    framework.Told (framework.evaluate sinks request).2
      (ownNotices "evaluate" (framework.evaluate sinks request).1) := by
  have hregistry : (framework.operate sinks "evaluate" fun sink run =>
      Transport.perform sink framework.settings request run).2.registry = framework.registry :=
    operate_registry framework sinks "evaluate" _
  have hoperated := told_operate hsound sinks "evaluate" fun sink run =>
    Transport.perform sink framework.settings request run
  rw [evaluate_eq]
  generalize framework.operate sinks "evaluate" (fun sink run =>
    Transport.perform sink framework.settings request run) = operated at hregistry hoperated ⊢
  obtain ⟨failure | result, between⟩ := operated
  · exact hoperated
  · refine hoperated.trans hregistry (told_heed (Registry.callMany_errorRuns ?_ (by decide) _ _))
    rwa [hregistry]

end Notices

section Work

variable (sinks : Channel → Sink σ) {framework : Framework σ}

theorem operate_outcome {α : Type} (hlinked : framework.Linked) (stage : String)
    (operation : Sink σ → Run σ → Except Failure α × Run σ) :
    (framework.operate sinks stage operation).1 = framework.choose.1.bind fun channel =>
      (operation (sinks channel) { framework.choose.2.run with events := #[] }).1 := by
  have hconnect := connect_of_linked hlinked
  rcases hchosen : framework.choose.1 with failure | channel
  · rw [hchosen] at hconnect
    rw [operate_eq_of_error sinks stage operation hconnect]
    rfl
  · rw [hchosen] at hconnect
    rw [operate_eq_of_ok sinks stage operation hconnect]
    rfl

/-- An observer that cannot fail does not show in what comes of an evaluation. -/
theorem outcome_of_quiet (sink : Sink σ) (settings : Settings) (request : Request) (run : Run σ) :
    (Transport.evaluate sink settings (some fun _ _ => none) request run).1 =
      (Transport.perform sink settings request run).1 := by
  unfold Transport.evaluate
  rcases Transport.perform sink settings request run with ⟨failure | result, after⟩
  · rfl
  · rfl

/-- What a step of the transport comes to on a channel, with an observer that cannot fail. -/
def outcomeOn (sinks : Channel → Sink σ) (step : Transport.Step) (framework : Framework σ)
    (channel : Channel) : Except Failure String :=
  (step.outcome (sinks channel) framework.settings (some fun _ _ => none)
    { framework.choose.2.run with events := #[] }).map (·.text)

theorem work_outcome (hlinked : framework.Linked) (step : Transport.Step) :
    (framework.work sinks step).1 =
      framework.choose.1.bind (framework.outcomeOn sinks step) := by
  cases step with
  | evaluate request =>
      rw [work, evaluate_eq, operate_outcome sinks hlinked]
      congr 1
      funext channel
      rw [outcomeOn, Transport.Step.outcome, outcome_of_quiet]
      rcases (Transport.perform (sinks channel) framework.settings request
        { framework.choose.2.run with events := #[] }).1 with failure | result
      · rfl
      · rfl
  | loadSession request =>
      rw [work, loadSession]
      dsimp only
      rw [operate_outcome sinks hlinked]
      cases framework.choose.1 with
      | error failure => rfl
      | ok channel =>
          simp only [Except.bind, outcomeOn, Transport.Step.outcome]
          rcases (Transport.loadSession (sinks channel) framework.settings request
            { framework.choose.2.run with events := #[] }).1 with failure | ref
          · rfl
          · rfl
  | prepSession key bindings =>
      rw [work, prepSession]
      dsimp only
      rw [operate_outcome sinks hlinked]
      cases framework.choose.1 with
      | error failure => rfl
      | ok channel =>
          simp only [Except.bind, outcomeOn, Transport.Step.outcome]
          rcases (Transport.prepSession (sinks channel) framework.settings key bindings
            { framework.choose.2.run with events := #[] }).1 with failure | ref
          · rfl
          · rfl

/-- The error hook is run for failures of plugins, and for the failure of the operation if there is
one. -/
theorem told_work (hsound : framework.registry.Sound) (step : Transport.Step) :
    framework.Told (framework.work sinks step).2
      (ownNotices step.name (framework.work sinks step).1) := by
  cases step with
  | evaluate request => exact told_evaluate hsound sinks request
  | loadSession request =>
      rw [work, loadSession, ownNotices_map]
      exact told_operate hsound sinks "load_session" fun sink run =>
        Transport.loadSession sink framework.settings request run
  | prepSession key bindings =>
      rw [work, prepSession, ownNotices_map]
      exact told_operate hsound sinks "prep_session" fun sink run =>
        Transport.prepSession sink framework.settings key bindings run

theorem runSteps_linked (shut : Channel → Run σ → Run σ) (steps : List (Step σ))
    (hlinked : framework.Linked) : (runSteps sinks shut steps framework).Linked := by
  induction steps generalizing framework with
  | nil => exact hlinked
  | cons step steps ih => exact ih ((Act.step step).take_linked sinks shut hlinked)

end Work

/-- Whatever steps have led to a framework's state, an operation raises what the transport raises
under it with an observer that cannot fail, and returns what that returns; without a channel it
raises why there is none. If it raises a failure, every implementation of the error hook is run with
the name of the operation and this failure, each once and in the order of precedence; and no other
notice has the operation's name for its stage. -/
theorem failures_told_once (sinks : Channel → Sink σ) (shut : Channel → Run σ → Run σ)
    (settings : Settings) (leaving : Leaving) (run : Run σ) (steps : List (Step σ))
    (step : Transport.Step) :
    let framework := runSteps sinks shut steps { settings, registry := { leaving }, run }
    let worked := framework.work sinks step
    worked.1 = framework.choose.1.bind (framework.outcomeOn sinks step) ∧
    ∃ others : List Notice,
      (∀ notice ∈ others,
        notice.IsOf framework.registry.implementations ∧ notice.stage ≠ step.name) ∧
      worked.2.hookRuns .onError = framework.hookRuns .onError ++
        (others ++ ownNotices step.name worked.1).flatMap framework.registry.telling := by
  intro framework worked
  have hsound : framework.registry.Sound :=
    runSteps_sound sinks shut steps (start_sound settings leaving run)
  have hlinked : framework.Linked :=
    runSteps_linked sinks shut steps fun _ hset => by cases hset
  obtain ⟨others, hothers, htold⟩ := told_work sinks hsound step
  refine ⟨work_outcome sinks hlinked step, others, ?_, htold⟩
  intro notice hmem
  refine ⟨hothers notice hmem, ?_⟩
  intro hstage
  have hcolon := (hothers notice hmem).colon_mem
  rw [hstage] at hcolon
  exact step.colon_not_mem_name hcolon

/-- A plugin that only observes failures, in its own way. -/
def observer (name : String) (response : Except Failure Product) : Plugin Unit where
  name
  implementations := [
    { plugin := name, hook := .onError, declared := ["stage"]
      respond := fun _ state => (response, state) }]

/-- Session sides that take nothing. -/
def refusing : Channel → Sink Unit := fun _ => accepting (some .spentToken)

def troubles : List (Step Unit) := [
  .register (observer "log" (.ok .nothing)), .register (observer "deaf" (.error .nullCharacter)),
  .register (provider "broken" (.error .duplicatePlugin))]

def troubled : Framework Unit :=
  runSteps refusing (fun _ run => run) troubles
    { settings := .usual, run := { state := (), files := {} } }

/-- The failures of a provider of sinks and of a step that the pool refuses are told one after the
other, although one of the two observers fails each time. -/
theorem failures_told_once_refused :
    let worked := troubled.work refusing (.loadSession { body := "x" })
    let told (plugin stage : String) : HookEvent :=
      .called plugin .onError [("stage", .value (.text stage))]
    worked.1 = .error .spentToken ∧
    worked.2.hookRuns .onError = [told "deaf" "provide_session_sink:broken",
      told "log" "provide_session_sink:broken", told "deaf" "load_session",
      told "log" "load_session"] ∧
    ∃ others : List Notice, (∀ notice ∈ others, notice.stage ≠ "load_session") ∧
      worked.2.hookRuns .onError =
        (others ++ [(⟨"load_session", .spentToken⟩ : Notice)]).flatMap
          troubled.registry.telling := by
  intro worked told
  have hraised : worked.1 = .error .spentToken := by rfl
  have hnone : troubled.hookRuns .onError = [] := by rfl
  obtain ⟨_, others, hothers, htold⟩ := failures_told_once refusing (fun _ run => run) .usual
    .nothing { state := (), files := {} } troubles (.loadSession { body := "x" })
  refine ⟨hraised, by rfl, others, fun notice hmem => (hothers notice hmem).2, ?_⟩
  refine htold.trans ?_
  change troubled.hookRuns .onError ++ (others ++ ownNotices "load_session" worked.1).flatMap
    troubled.registry.telling = _
  rw [hnone, hraised]
  rfl

end Framework

end JuliaBlocks
