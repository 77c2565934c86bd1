import JuliaBlocks.Proofs.Julia.Assignment
import JuliaBlocks.Proofs.Transport.Steps
import JuliaBlocks.Recording

/-!
Steps that fail before their first send. Such a step answers with its failure and leaves the run as
it was, so that the other steps of a run answer as if it had not been there. What a step gives a
session to run is sent as a whole or not at all. Main statement: `unprepared_step_leaves_no_trace`.
-/

namespace JuliaBlocks

namespace Snippet

theorem not_refused_of_expand {request : Request} {expanded : String}
    (hexpanded : expand request = .ok expanded) {b : String × Value}
    (hmem : b ∈ request.bindings) : ¬ Julia.Refused b := by
  obtain ⟨lines, hlines, _⟩ := exists_of_bind_ok hexpanded
  intro hrefused
  obtain ⟨failure, hfailure⟩ := Julia.exists_error_of_refused hmem hrefused
  have hassigned : Julia.assignments request.bindings = .ok lines := hlines
  rw [hassigned] at hfailure
  cases hfailure

end Snippet

namespace Transport

open Run

variable {σ : Type}

/-! What a step answers. -/

/-- What a step returns: the result of an evaluation, or the session that was prepared. -/
inductive Returned
  | result (text : String)
  | session (ref : SessionRef)

/-- What comes of a step, be it returned or raised. -/
def Step.outcome (sink : Sink σ) (settings : Settings) (observer : Option Observer) :
    Step → Run σ → Except Failure Returned
  | .evaluate request, run => (Transport.evaluate sink settings observer request run).1.map .result
  | .loadSession request, run =>
    (Transport.loadSession sink settings request run).1.map .session
  | .prepSession key bindings, run =>
    (Transport.prepSession sink settings key bindings run).1.map .session

/-- The answer of a step: what comes of it, what is seen of it meanwhile, and the session that is
bound after it. -/
structure Answer where
  outcome : Except Failure Returned
  events : List Event
  session : String

def Step.answer (sink : Sink σ) (settings : Settings) (observer : Option Observer) (step : Step)
    (run : Run σ) : Answer where
  outcome := step.outcome sink settings observer run
  events := (step.run sink settings observer run).events.toList.drop run.events.size
  session := (step.run sink settings observer run).session

/-- The answers of steps in order. -/
def answers (sink : Sink σ) (settings : Settings) (observer : Option Observer) :
    List Step → Run σ → List Answer
  | [], _ => []
  | step :: steps, run => step.answer sink settings observer run ::
      answers sink settings observer steps (step.run sink settings observer run)

section Answers

variable (sink : Sink σ) (settings : Settings) (observer : Option Observer)

theorem runSteps_append (before after : List Step) (run : Run σ) :
    runSteps sink settings observer (before ++ after) run =
      runSteps sink settings observer after (runSteps sink settings observer before run) :=
  List.foldl_append

theorem length_answers (steps : List Step) (run : Run σ) :
    (answers sink settings observer steps run).length = steps.length := by
  induction steps generalizing run with
  | nil => rfl
  | cons step steps ih => rw [answers, List.length_cons, ih, List.length_cons]

theorem answers_append (before after : List Step) (run : Run σ) :
    answers sink settings observer (before ++ after) run =
      answers sink settings observer before run ++
        answers sink settings observer after (runSteps sink settings observer before run) := by
  induction before generalizing run with
  | nil => rfl
  | cons step before ih =>
      rw [List.cons_append, answers, answers, ih, List.cons_append]
      rfl

/-- A step that leaves the run as it was can be left out of it. -/
theorem answers_eraseIdx (before after : List Step) {step : Step} {run : Run σ}
    (hkept : step.run sink settings observer (runSteps sink settings observer before run) =
      runSteps sink settings observer before run) :
    (answers sink settings observer (before ++ step :: after) run).eraseIdx before.length =
        answers sink settings observer (before ++ after) run ∧
      runSteps sink settings observer (before ++ step :: after) run =
        runSteps sink settings observer (before ++ after) run := by
  constructor
  · have hplace := length_answers sink settings observer before run
    rw [answers_append, answers_append, answers, hkept, ← hplace,
      List.eraseIdx_append_of_length_le (Nat.le_refl _), Nat.sub_self, List.eraseIdx_cons_zero]
  · rw [runSteps_append, runSteps_append]
    exact congrArg (runSteps sink settings observer after) hkept

end Answers

/-! Steps that cannot be prepared. -/

/-- Whether the snippet of a request cannot be expanded, as when one of its variables is refused. -/
def Unexpandable (request : Request) : Prop :=
  (∃ b ∈ request.bindings, Julia.Refused b) ∨
    ∃ failure, Snippet.expand request = .error failure

/-- Whether a key stands for evaluations that keep no state. -/
def IsEphemeral (key : String) : Prop :=
  Text.trim key = SessionRef.ephemeralKey

/-- Whether a step cannot be prepared. -/
def Step.Unprepared (settings : Settings) (files : Files) : Step → Prop
  | .evaluate request => Unexpandable request ∨
      ∃ fault, files.creationFault? (directory settings files) SideFiles.uncreated = some fault
  | .loadSession request => Unexpandable request ∨
      ∃ key, request.sessionKey = .text key ∧ IsEphemeral key
  | .prepSession key bindings => (∃ b ∈ bindings, Julia.Refused b) ∨
      ∃ ephemeral, key = some ephemeral ∧ IsEphemeral ephemeral

theorem not_unexpandable {request : Request} {expanded : String}
    (hexpanded : Snippet.expand request = .ok expanded) : ¬ Unexpandable request := by
  rintro (⟨b, hmem, hrefused⟩ | ⟨failure, hfailure⟩)
  · exact Snippet.not_refused_of_expand hexpanded hmem hrefused
  · rw [hexpanded] at hfailure
    cases hfailure

theorem persistent_resolve_of_isEphemeral (settings : Settings) {key : String}
    (hkey : IsEphemeral key) : (resolve settings (some key)).persistent = false := by
  unfold IsEphemeral at hkey
  simp [resolve, SessionRef.resolve, hkey, SessionRef.ephemeralKey]

theorem exists_plan_error {settings : Settings} {request : Request} {run : Run σ}
    (hfails : (Step.evaluate request).Unprepared settings run.files) :
    ∃ failure, plan settings request run = .error failure := by
  cases hplan : plan settings request run with
  | error failure => exact ⟨failure, rfl⟩
  | ok p =>
      obtain ⟨_, ⟨expanded, hexpanded, _⟩, hcreated, _⟩ := plan_spec hplan
      rcases hfails with hsnippet | ⟨fault, hfault⟩
      · exact absurd hsnippet (not_unexpandable hexpanded)
      · rw [hfault] at hcreated
        cases hcreated

section Steps

variable (sink : Sink σ) (settings : Settings) (observer : Option Observer)

theorem evaluate_unprepared {request : Request} {run : Run σ}
    (hfails : (Step.evaluate request).Unprepared settings run.files) :
    ∃ failure, evaluate sink settings observer request run = (.error failure, run) := by
  obtain ⟨failure, hplan⟩ := exists_plan_error hfails
  exact ⟨failure, by simp only [evaluate, perform, hplan]⟩

theorem loadSession_unprepared {request : Request} {run : Run σ}
    (hfails : (Step.loadSession request).Unprepared settings run.files) :
    ∃ failure, loadSession sink settings request run = (.error failure, run) := by
  unfold loadSession
  split
  · next failure _ => exact ⟨failure, rfl⟩
  · next ref snippet hprepared =>
    obtain ⟨asked, hasked, hprepared⟩ := exists_of_bind_ok hprepared
    obtain ⟨kept, hkept, hprepared⟩ := exists_of_bind_ok hprepared
    obtain ⟨expanded, hexpanded, _⟩ := exists_of_bind_ok hprepared
    rcases hfails with hsnippet | ⟨key, hkey, hephemeral⟩
    · exact absurd hsnippet (not_unexpandable hexpanded)
    · have hlost := persistent_resolve_of_isEphemeral settings hephemeral
      rw [requested, hkey] at hasked
      cases hasked
      rw [(eq_of_persistent_ok hkept).2] at hlost
      cases hlost

theorem prepSession_unprepared {key : Option String} {bindings : List (String × Value)}
    {run : Run σ} (hfails : (Step.prepSession key bindings).Unprepared settings run.files) :
    ∃ failure, prepSession sink settings key bindings run = (.error failure, run) := by
  have hprepared : ∃ failure, (do
      return (← persistent (resolve settings key), ← Julia.assignments bindings) :
        Except Failure (SessionRef × List String)) = .error failure := by
    rcases hfails with ⟨b, hmem, hrefused⟩ | ⟨ephemeral, rfl, hephemeral⟩
    · obtain ⟨failure, hlines⟩ := Julia.exists_error_of_refused hmem hrefused
      rw [hlines]
      cases persistent (resolve settings key) with
      | error other => exact ⟨other, rfl⟩
      | ok ref => exact ⟨failure, rfl⟩
    · have hlost := persistent_resolve_of_isEphemeral settings hephemeral
      rw [persistent, if_neg (by simp [hlost])]
      exact ⟨_, rfl⟩
  obtain ⟨failure, hprepared⟩ := hprepared
  exact ⟨failure, by simp only [prepSession, hprepared]⟩

/-- A step that cannot be prepared fails and does nothing. -/
theorem Step.Unprepared.fails {step : Step} {run : Run σ}
    (hfails : step.Unprepared settings run.files) :
    ∃ failure, step.outcome sink settings observer run = .error failure ∧
      step.run sink settings observer run = run := by
  cases step with
  | evaluate request =>
      obtain ⟨failure, hfailed⟩ := evaluate_unprepared sink settings observer hfails
      exact ⟨failure, by rw [Step.outcome, hfailed]; rfl, by rw [Step.run, hfailed]⟩
  | loadSession request =>
      obtain ⟨failure, hfailed⟩ := loadSession_unprepared sink settings hfails
      exact ⟨failure, by rw [Step.outcome, hfailed]; rfl, by rw [Step.run, hfailed]⟩
  | prepSession key bindings =>
      obtain ⟨failure, hfailed⟩ := prepSession_unprepared sink settings hfails
      exact ⟨failure, by rw [Step.outcome, hfailed]; rfl, by rw [Step.run, hfailed]⟩

theorem Step.Unprepared.answer_eq {step : Step} {run : Run σ}
    (hfails : step.Unprepared settings run.files) :
    ∃ failure, step.answer sink settings observer run =
      { outcome := .error failure, events := [], session := run.session } := by
  obtain ⟨failure, houtcome, hkept⟩ := hfails.fails sink settings observer
  refine ⟨failure, ?_⟩
  rw [Step.answer, houtcome, hkept, ← Array.length_toList, List.drop_length]

end Steps

/-- A step that cannot be prepared leaves no trace in any run: it answers with its failure, nothing
is seen of it, and the run with its files, its bound session and the session side stays as it is, so
that without the step all other steps answer the same. And whatever a session is given to run goes
out in one send as a whole, all assignments of it, or nothing does. -/
theorem unprepared_step_leaves_no_trace (sink : Sink σ) {settings : Settings}
    (observer : Option Observer) (start : Run σ) (before after : List Step) {step : Step}
    (hfails : step.Unprepared settings (runSteps sink settings observer before start).files) :
    let run := runSteps sink settings observer before start
    (∃ failure, step.answer sink settings observer run =
      { outcome := .error failure, events := [], session := run.session }) ∧
    step.run sink settings observer run = run ∧
    (answers sink settings observer (before ++ step :: after) start).eraseIdx before.length =
      answers sink settings observer (before ++ after) start ∧
    runSteps sink settings observer (before ++ step :: after) start =
      runSteps sink settings observer (before ++ after) start ∧
    (∀ (request : Request) (any : Run σ),
      let loaded := (Step.loadSession request).run sink settings observer any
      loaded = any ∨ ∃ ref snippet, requested settings request = .ok ref ∧
        Snippet.expand request = .ok snippet ∧
        loaded.events = any.events.push (.sent ref.name (.source snippet))) ∧
    ∀ (key : Option String) (bindings : List (String × Value)) (any : Run σ),
      let prepared := (Step.prepSession key bindings).run sink settings observer any
      prepared = any ∨ ∃ lines,
        List.Forall₂ (fun b line => Julia.assignment b.1 b.2 = .ok line) bindings lines ∧
        prepared.events = any.events.push
          (.sent (resolve settings key).name (.source (String.intercalate "\n" lines))) := by
  intro run
  obtain ⟨_, _, hkept⟩ := hfails.fails sink settings observer
  obtain ⟨hanswers, hruns⟩ := answers_eraseIdx sink settings observer before after hkept
  refine ⟨hfails.answer_eq sink settings observer, hkept, hanswers, hruns, ?_, ?_⟩
  · intro request any loaded
    rcases loadSession_cases request any with hnone | ⟨ref, snippet, href, hsnippet, hsent⟩
    · exact Or.inl hnone
    · refine Or.inr ⟨ref, snippet, href, hsnippet, ?_⟩
      have hloaded : loaded = _ := hsent
      rw [hloaded, send_events]
  · intro key bindings any prepared
    rcases prepSession_cases key bindings any with hnone | ⟨lines, hlines, hsent⟩
    · exact Or.inl hnone
    · refine Or.inr ⟨lines, forall₂_of_mapM_ok hlines, ?_⟩
      have hprepared : prepared = _ := hsent
      rw [hprepared, send_events]

/-- Of two variables the second has a reserved word for a name, between two steps that succeed. -/
theorem unprepared_step_leaves_no_trace_reserved :
    let start : Run Recording := { state := {}, files := {} }
    let first : Step := .loadSession { body := "f(x) = x" }
    let refused : Step := .prepSession (some "work") [("x", .int 1), ("end", .int 2)]
    let last : Step := .prepSession (some "work") [("y", .text "1")]
    let run := runSteps Recording.sink .usual none [first] start
    refused.Unprepared .usual run.files ∧
    (∃ failure, refused.answer Recording.sink .usual none run =
      { outcome := .error failure, events := [], session := run.session }) ∧
    (answers Recording.sink .usual none [first, refused, last] start).eraseIdx 1 =
      answers Recording.sink .usual none [first, last] start := by
  intro start first refused last run
  have hfails : refused.Unprepared .usual run.files :=
    Or.inl ⟨("end", .int 2), by simp, Or.inl (by decide)⟩
  obtain ⟨hanswer, _, hanswers, _⟩ :=
    unprepared_step_leaves_no_trace Recording.sink none start [first] [last] hfails
  exact ⟨hfails, hanswer, hanswers⟩

end Transport

end JuliaBlocks
