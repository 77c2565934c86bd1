import JuliaBlocks.Proofs.Transport.Calls

/-!
What a callback is told. It hears of just the evaluations whose output was read, each once and in
order, with the result; and whether it fails changes what its evaluation raises, and nothing else in
the run. Main statement: `observes_finished`.
-/

namespace JuliaBlocks

/-- The evaluation with its result that an event tells a callback of. -/
def Event.observation? : Event → Option (Request × String)
  | observed request result => some (request, result)
  | _ => none

namespace Run

variable {σ : Type} {sink : Sink σ} {interval : Value}

/-- What callbacks were told in a run, from the first to the latest. -/
def observations (run : Run σ) : List (Request × String) :=
  run.events.toList.filterMap Event.observation?

theorem observations_push {run after : Run σ} {event : Event}
    (hevents : after.events = run.events.push event) :
    after.observations = run.observations ++ event.observation?.toList :=
  filterMap_events_push Event.observation? hevents

@[simp] theorem observations_observed (run : Run σ) (request : Request) (result : String) :
    (run.note (.observed request result)).observations =
      run.observations ++ [(request, result)] :=
  observations_push (note_events run (.observed request result))

@[simp] theorem observations_log (run : Run σ) (level : Level) (message : String) :
    (run.log level message).observations = run.observations := by
  simpa [Event.observation?] using observations_push (log_events run level message)

@[simp] theorem observations_send (run : Run σ) (session : String) (message : Message) :
    (run.send sink session message).2.observations = run.observations := by
  simpa [Event.observation?] using observations_push (send_events run sink session message)

@[simp] theorem observations_waited (run : Run σ) (n : Nat) :
    (run.waited sink interval n).observations = run.observations :=
  filterMap_events_waited Event.observation? rfl run n

end Run

namespace Transport

open Run

variable {σ : Type} {sink : Sink σ} {settings : Settings}

theorem transmit_observations (request : Request) (p : Plan) (run : Run σ) :
    (transmit sink settings request p run).2.observations = run.observations := by
  rw [transmit_eq]
  cases script settings request p with
  | error failure => rfl
  | ok messages =>
      refine deliver_induction (P := fun after => after.observations = run.observations)
        p.ref.name ?_ messages rfl
      intro mid message hmid
      rwa [observations_send]

theorem place_observations (run : Run σ) (p : Plan) :
    (place run p).observations = run.observations := by
  simpa [Event.observation?] using observations_push (place_events run p)

theorem conclude_observations (p : Plan) (content : Option (List UInt8)) (run : Run σ) :
    (conclude settings p content run).observations = run.observations := by
  unfold conclude report
  split
  · exact observations_log run _ _
  · split
    · exact observations_log run _ _
    · rfl

/-- No callback is told before an evaluation has ended. -/
theorem Performed.observations {request : Request} {run after : Run σ}
    {ended : Except Failure String} (hended : Performed sink settings request run ended after) :
    after.observations = run.observations := by
  have hstart (p : Plan) : (transmit sink settings request p
      { place run p with session := p.ref.name }).2.observations = run.observations :=
    (transmit_observations request p _).trans (place_observations run p)
  cases hended with
  | unplanned hplan => rfl
  | @unsent p failure sent hplan hsent =>
      have hsame := hstart p
      rw [hsent] at hsame
      exact hsame
  | @unawaited p sent n failure hsends hbreaks =>
      have hsame := hstart p
      rw [hsends.transmit] at hsame
      refine (observations_waited (sent.log .debug (sentMessage request p)) (n + 1)).trans ?_
      rw [observations_log]
      exact hsame
  | @read p sent n content hsends hstops hcontent =>
      have hsame := hstart p
      rw [hsends.transmit] at hsame
      refine (conclude_observations _ _ _).trans ?_
      rw [observations_waited, observations_log]
      exact hsame

/-- A callback that never fails. -/
def Observer.quiet : Observer := fun _ _ => none

/-- What an evaluation comes to when its callback is told of its result. -/
def Observer.verdict (observer : Observer) (request : Request) (result : String) :
    Except Failure String :=
  match observer request result with
  | none => .ok result
  | some failure => .error failure

theorem observe_eq (observer : Observer) (request : Request) (result : String) (run : Run σ) :
    observe (some observer) request result run =
      (observer.verdict request result, run.note (.observed request result)) := by
  simp only [observe, Observer.verdict]
  cases observer request result with
  | none => rfl
  | some failure => rfl

/-- A callback is told of what was performed if there is a result, and only of that. -/
theorem exists_performed (sink : Sink σ) (settings : Settings) (request : Request) (run : Run σ) :
    ∃ ended told, Performed sink settings request run ended told ∧ ∀ observer : Observer,
      evaluate sink settings (some observer) request run =
        match ended with
        | .error failure => (.error failure, told)
        | .ok result => (observer.verdict request result, told.note (.observed request result)) := by
  refine ⟨_, _, performed_perform sink settings request run, ?_⟩
  intro observer
  rcases hperformed : perform sink settings request run with ⟨failure | result, told⟩
  · exact evaluate_eq_error sink settings request run hperformed
  · rw [evaluate_eq_observe sink settings request run hperformed, observe_eq]

/-- Steps with a callback that is told of each, as it behaves there. -/
def attended (steps : List (Step × Observer)) : List Call :=
  steps.map fun s => ⟨s.1, some s.2⟩

/-- The same steps with a callback that never fails. -/
def hushed (steps : List (Step × Observer)) : List (Step × Observer) :=
  steps.map fun s => (s.1, .quiet)

/-- The evaluation that a step has finished, with its result. -/
def finished (step : Step) (answer : Answer) : Option (Request × String) :=
  match step, answer.outcome with
  | .evaluate request, .ok (.result result) => some (request, result)
  | _, _ => none

section Steps

variable (sink : Sink σ) (settings : Settings)

/-- Whether a callback fails does not matter to the run. -/
theorem Step.run_observer (step : Step) (observer other : Observer) (run : Run σ) :
    step.run sink settings (some observer) run = step.run sink settings (some other) run := by
  cases step with
  | loadSession request => rfl
  | prepSession key bindings => rfl
  | evaluate request =>
      obtain ⟨ended, told, _, hevaluate⟩ := exists_performed sink settings request run
      simp only [Step.run, hevaluate]
      cases ended with
      | error failure => rfl
      | ok result => rfl

theorem runCalls_hushed (steps : List (Step × Observer)) (run : Run σ) :
    runCalls sink settings (attended steps) run =
      runCalls sink settings (attended (hushed steps)) run := by
  induction steps generalizing run with
  | nil => rfl
  | cons s steps ih =>
      have hfirst := s.1.run_observer sink settings s.2 .quiet run
      have hrest := ih (s.1.run sink settings (some s.2) run)
      rw [hfirst] at hrest
      exact (congrArg (runCalls sink settings (attended steps)) hfirst).trans hrest

/-- What a step tells its callback is what it has finished. -/
theorem Step.observations_run (step : Step) (observer : Observer) (run : Run σ) :
    (step.run sink settings (some observer) run).observations = run.observations ++
      (finished step (step.answer sink settings (some .quiet) run)).toList := by
  cases step with
  | evaluate request =>
      obtain ⟨ended, told, hended, hevaluate⟩ := exists_performed sink settings request run
      cases ended with
      | error failure =>
          simp [Step.run, Step.answer, Step.outcome, finished, hevaluate, hended.observations,
            Except.map]
      | ok result =>
          simp [Step.run, Step.answer, Step.outcome, finished, hevaluate, hended.observations,
            Observer.verdict, Observer.quiet, Except.map]
  | loadSession request =>
      have hkept : (Transport.loadSession sink settings request run).2.observations =
          run.observations := by
        rcases loadSession_sends request run with hkept | ⟨session, text, hsent⟩
        · rw [hkept]
        · rw [hsent, observations_send]
      exact hkept.trans (List.append_nil _).symm
  | prepSession key bindings =>
      have hkept : (Transport.prepSession sink settings key bindings run).2.observations =
          run.observations := by
        rcases prepSession_sends key bindings run with hkept | ⟨session, text, hsent⟩
        · rw [hkept]
        · rw [hsent, observations_send]
      exact hkept.trans (List.append_nil _).symm

theorem observations_runCalls (steps : List (Step × Observer)) (run : Run σ) :
    (runCalls sink settings (attended steps) run).observations = run.observations ++
      (steps.zip (callAnswers sink settings (attended (hushed steps)) run)).filterMap
        fun s => finished s.1.1 s.2 := by
  induction steps generalizing run with
  | nil => simp [attended, runCalls]
  | cons s steps ih =>
      -- The first step tells what it has finished; the others set out from the run that they would
      -- set out from if its callback did not fail.
      have hfirst := s.1.observations_run sink settings s.2 run
      have hrest := ih (s.1.run sink settings (some s.2) run)
      rw [hfirst, s.1.run_observer sink settings s.2 .quiet, List.append_assoc] at hrest
      have hanswers : callAnswers sink settings (attended (hushed (s :: steps))) run =
          s.1.answer sink settings (some .quiet) run ::
            callAnswers sink settings (attended (hushed steps))
              (s.1.run sink settings (some .quiet) run) := rfl
      have hrun : runCalls sink settings (attended (s :: steps)) run =
          runCalls sink settings (attended steps) (s.1.run sink settings (some .quiet) run) :=
        congrArg (runCalls sink settings (attended steps))
          (s.1.run_observer sink settings s.2 .quiet run)
      rw [hrun, hanswers, List.zip_cons_cons, List.filterMap_cons, hrest]
      cases finished s.1 (s.1.answer sink settings (some .quiet) run) with
      | none => rfl
      | some told => rfl

/-- What a step tells its callback, and what it answers if the callback fails or if it does not. -/
theorem Step.observes (step : Step) (observer : Observer) (run : Run σ) :
    let next := step.run sink settings (some observer) run
    let answer := step.answer sink settings (some observer) run
    let silent := step.answer sink settings (some .quiet) run
    answer.events = silent.events ∧ answer.session = silent.session ∧
    match step with
    | .evaluate request => ∃ ended told, Performed sink settings request run ended told ∧
        silent.outcome = ended.map .result ∧
        match ended with
        | .error failure =>
          answer.outcome = .error failure ∧ next.observations = run.observations
        | .ok result =>
          answer.outcome = (observer.verdict request result).map .result ∧
            next.observations = run.observations ++ [(request, result)]
    | _ => answer.outcome = silent.outcome ∧ next.observations = run.observations := by
  intro next answer silent
  have hrun := step.run_observer sink settings observer .quiet run
  have htold := step.observations_run sink settings observer run
  refine ⟨?_, ?_, ?_⟩
  · simp only [answer, silent, Step.answer, hrun]
  · simp only [answer, silent, Step.answer, hrun]
  · cases step with
    | loadSession request => exact ⟨rfl, htold.trans (List.append_nil _)⟩
    | prepSession key bindings => exact ⟨rfl, htold.trans (List.append_nil _)⟩
    | evaluate request =>
        obtain ⟨ended, told, hended, hevaluate⟩ := exists_performed sink settings request run
        refine ⟨ended, told, hended, ?_⟩
        cases ended with
        | error failure =>
            have houtcome (other : Observer) :
                ((Step.evaluate request).answer sink settings (some other) run).outcome =
                  .error failure := by
              simp only [Step.answer, Step.outcome, hevaluate other, Except.map]
            refine ⟨houtcome .quiet, houtcome observer, ?_⟩
            simpa [finished, houtcome .quiet] using htold
        | ok result =>
            have houtcome (other : Observer) :
                ((Step.evaluate request).answer sink settings (some other) run).outcome =
                  (other.verdict request result).map .result := by
              simp only [Step.answer, Step.outcome, hevaluate other]
            have hquiet : ((Step.evaluate request).answer sink settings (some .quiet) run).outcome =
                .ok (.result result) := houtcome .quiet
            refine ⟨hquiet, houtcome observer, ?_⟩
            simpa [finished, hquiet] using htold

end Steps

/-- Callbacks are told of just the evaluations that are finished. In a run with a callback that may
fail at any step, which evaluations it is told of, and with which results, is what the steps return
when it never fails, in their order and once each, and these are the evaluations whose output is
read. If the callback fails, its evaluation raises this failure; all else that the step and the
later ones do, with the files, the history and the bound session, is as without the failure. -/
theorem observes_finished (sink : Sink σ) (settings : Settings) (steps : List (Step × Observer))
    (start : Run σ) :
    let final := runCalls sink settings (attended steps) start
    final = runCalls sink settings (attended (hushed steps)) start ∧
    final.observations = start.observations ++
      (steps.zip (callAnswers sink settings (attended (hushed steps)) start)).filterMap
        (fun s => finished s.1.1 s.2) ∧
    ∀ before step observer after, steps = before ++ (step, observer) :: after →
      let run := runCalls sink settings (attended before) start
      let next := step.run sink settings (some observer) run
      let answer := step.answer sink settings (some observer) run
      let silent := step.answer sink settings (some .quiet) run
      (callAnswers sink settings (attended steps) start)[before.length]? = some answer ∧
      (callAnswers sink settings (attended (hushed steps)) start)[before.length]? = some silent ∧
      final = runCalls sink settings (attended after) next ∧
      answer.events = silent.events ∧ answer.session = silent.session ∧
      match step with
      | .evaluate request => ∃ ended told, Performed sink settings request run ended told ∧
          silent.outcome = ended.map .result ∧
          match ended with
          | .error failure =>
            answer.outcome = .error failure ∧ next.observations = run.observations
          | .ok result =>
            answer.outcome = (observer.verdict request result).map .result ∧
              next.observations = run.observations ++ [(request, result)]
      | _ => answer.outcome = silent.outcome ∧ next.observations = run.observations := by
  intro final
  refine ⟨runCalls_hushed sink settings steps start, observations_runCalls sink settings steps start,
    ?_⟩
  intro before step observer after hsteps run next answer silent
  have hcalls : attended steps = attended before ++ ⟨step, some observer⟩ :: attended after := by
    rw [hsteps, attended, List.map_append]
    rfl
  have hquiet : attended (hushed steps) =
      attended (hushed before) ++ ⟨step, some .quiet⟩ :: attended (hushed after) := by
    rw [hsteps, hushed, attended, List.map_append, List.map_append]
    rfl
  have hplace : (attended before).length = before.length := List.length_map _
  have hquietPlace : (attended (hushed before)).length = before.length := by
    rw [attended, hushed, List.length_map, List.length_map]
  refine ⟨?_, ?_, ?_, step.observes sink settings observer run⟩
  · rw [hcalls, ← hplace, callAnswers_getElem?]
    rfl
  · rw [hquiet, ← hquietPlace, callAnswers_getElem?, ← runCalls_hushed]
    rfl
  · simp only [final, hcalls, runCalls_append]
    rfl

end Transport

end JuliaBlocks
