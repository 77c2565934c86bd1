import JuliaBlocks.Proofs.Transport.Outcome
import JuliaBlocks.Proofs.Transport.Preparation

/-!
Runs with a callback that behaves differently from step to step, and how an evaluation ends before
its callback is told of it. Main statement: `performed_perform`.
-/

namespace JuliaBlocks.Transport

open Run

variable {σ : Type}

/-- A step, and the callback as it behaves at this step, if there is one. A callback that fails at
one call and not at another is a different function at each. -/
structure Call where
  step : Step
  observer : Option Observer

/-- Takes a step with its callback. -/
def Call.run (sink : Sink σ) (settings : Settings) (call : Call) (run : Run σ) : Run σ :=
  call.step.run sink settings call.observer run

/-- What a step with its callback answers. -/
def Call.answer (sink : Sink σ) (settings : Settings) (call : Call) (run : Run σ) : Answer :=
  call.step.answer sink settings call.observer run

/-- Takes steps in order, each with its callback. -/
def runCalls (sink : Sink σ) (settings : Settings) (calls : List Call) (run : Run σ) : Run σ :=
  calls.foldl (fun run call => call.run sink settings run) run

/-- The answers of steps in order, each with its callback. -/
def callAnswers (sink : Sink σ) (settings : Settings) : List Call → Run σ → List Answer
  | [], _ => []
  | call :: calls, run => call.answer sink settings run ::
      callAnswers sink settings calls (call.run sink settings run)

section Runs

variable (sink : Sink σ) (settings : Settings)

theorem runCalls_append (before after : List Call) (run : Run σ) :
    runCalls sink settings (before ++ after) run =
      runCalls sink settings after (runCalls sink settings before run) :=
  List.foldl_append

/-- The answer of a step in a run is its answer from where the steps before it have led. -/
theorem callAnswers_getElem? (before : List Call) (call : Call) (after : List Call) (run : Run σ) :
    (callAnswers sink settings (before ++ call :: after) run)[before.length]? =
      some (call.answer sink settings (runCalls sink settings before run)) := by
  induction before generalizing run with
  | nil => rfl
  | cons first before ih => exact ih (first.run sink settings run)

end Runs

/-- How an evaluation ends before its callback is told, and what has become of the run then: it
cannot be planned, as when its snippet cannot be expanded or its side files cannot be created; its
trace cannot be made or a send of it fails; a sleep fails while its output is waited for; or this is
read. -/
inductive Performed (sink : Sink σ) (settings : Settings) (request : Request) (run : Run σ) :
    Except Failure String → Run σ → Prop where
  | unplanned {failure : Failure}
      (hplan : plan settings request run = .error failure) :
      Performed sink settings request run (.error failure) run
  | unsent {p : Plan} {failure : Failure} {sent : Run σ}
      (hplan : plan settings request run = .ok p)
      (hsent : transmit sink settings request p { place run p with session := p.ref.name } =
        (.error failure, sent)) :
      Performed sink settings request run (.error failure) { sent with session := run.session }
  | unawaited {p : Plan} {sent : Run σ} {n : Nat} {failure : Failure}
      (hsends : Sends sink settings request run p sent)
      (hbreaks : Breaks (sent.look sink (.float settings.pollInterval) p.files.output)
        (sent.sleepFault sink (.float settings.pollInterval)) settings.pollAttempts.toNat n failure) :
      Performed sink settings request run (.error failure)
        { (sent.log .debug (sentMessage request p)).waited sink (.float settings.pollInterval)
            (n + 1) with session := run.session }
  | read {p : Plan} {sent : Run σ} {n : Nat} {content : Option (List UInt8)}
      (hsends : Sends sink settings request run p sent)
      (hstops : Stops (sent.look sink (.float settings.pollInterval) p.files.output)
        settings.pollAttempts.toNat n)
      (hcontent : content = sent.look sink (.float settings.pollInterval) p.files.output n) :
      Performed sink settings request run (.ok (Output.read content settings.maxLineLength))
        { conclude settings p content ((sent.log .debug (sentMessage request p)).waited sink
            (.float settings.pollInterval) n) with session := run.session }

variable (sink : Sink σ) (settings : Settings) (request : Request) (run : Run σ)

theorem performed_perform : Performed sink settings request run
    (perform sink settings request run).1 (perform sink settings request run).2 := by
  unfold perform
  cases hplan : plan settings request run with
  | error failure => exact .unplanned hplan
  | ok p =>
      rcases hsent : transmit sink settings request p
        { place run p with session := p.ref.name } with ⟨failure | _, sent⟩
      · simp only [hsent]
        exact .unsent hplan hsent
      · have hcollected := collected_collect sink settings request p sent
        simp only [hsent]
        generalize collect sink settings request p sent = collected at hcollected
        cases hcollected with
        | read hstops _ hcontent => exact .read ⟨hplan, hsent⟩ hstops hcontent.symm
        | broken hbreaks => exact .unawaited ⟨hplan, hsent⟩ hbreaks

/-- An evaluation hands its callback what was performed. -/
theorem evaluate_eq_observe {observer : Option Observer} {result : String} {told : Run σ}
    (htold : perform sink settings request run = (.ok result, told)) :
    evaluate sink settings observer request run = observe observer request result told := by
  rw [evaluate, htold]

theorem evaluate_eq_error {observer : Option Observer} {failure : Failure} {after : Run σ}
    (hfailed : perform sink settings request run = (.error failure, after)) :
    evaluate sink settings observer request run = (.error failure, after) := by
  rw [evaluate, hfailed]

end JuliaBlocks.Transport
