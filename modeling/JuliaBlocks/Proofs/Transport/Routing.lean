import JuliaBlocks.Proofs.Session
import JuliaBlocks.Proofs.Transport.Observation

/-!
Where the text of a run goes. A step sends to the one session that it means, and what a step means
is a session that text may be sent to. Main statement: `destinations_proper`.
-/

namespace JuliaBlocks

/-- The session that an event tells a send to. -/
def Event.destination? : Event → Option String
  | sent session _ => some session
  | _ => none

namespace Run

variable {σ : Type} {sink : Sink σ} {interval : Value}

/-- The sessions that text was sent to in a run, one for each send. -/
def destinations (run : Run σ) : List String :=
  run.events.toList.filterMap Event.destination?

theorem destinations_push {run after : Run σ} {event : Event}
    (hevents : after.events = run.events.push event) :
    after.destinations = run.destinations ++ event.destination?.toList :=
  filterMap_events_push Event.destination? hevents

@[simp] theorem destinations_send (run : Run σ) (session : String) (message : Message) :
    (run.send sink session message).2.destinations = run.destinations ++ [session] :=
  destinations_push (send_events run sink session message)

@[simp] theorem destinations_log (run : Run σ) (level : Level) (message : String) :
    (run.log level message).destinations = run.destinations := by
  simpa [Event.destination?] using destinations_push (log_events run level message)

@[simp] theorem destinations_waited (run : Run σ) (n : Nat) :
    (run.waited sink interval n).destinations = run.destinations :=
  filterMap_events_waited Event.destination? rfl run n

/-- A run that goes on by sending to one session, any number of times. -/
def SendsTo (session : String) (run after : Run σ) : Prop :=
  ∃ n, after.destinations = run.destinations ++ List.replicate n session

theorem SendsTo.of_eq {session : String} {run after : Run σ}
    (hsame : after.destinations = run.destinations) : SendsTo session run after :=
  ⟨0, hsame.trans (List.append_nil _).symm⟩

theorem SendsTo.trans {session : String} {run between after : Run σ}
    (hfirst : SendsTo session run between) (hlater : SendsTo session between after) :
    SendsTo session run after := by
  obtain ⟨n, hfirst⟩ := hfirst
  obtain ⟨m, hlater⟩ := hlater
  exact ⟨n + m, by rw [hlater, hfirst, List.append_assoc, List.replicate_append_replicate]⟩

theorem sendsTo_send (run : Run σ) (session : String) (message : Message) :
    SendsTo session run (run.send sink session message).2 :=
  ⟨1, destinations_send run session message⟩

theorem sendsTo_deliver (run : Run σ) (session : String) (messages : List Message) :
    SendsTo session run (run.deliver sink session messages).2 := by
  refine deliver_induction (P := SendsTo session run) session ?_ messages (.of_eq rfl)
  intro mid message hmid
  exact hmid.trans (sendsTo_send mid session message)

end Run

namespace Transport

open Run SessionRef

variable {σ : Type} {sink : Sink σ} {settings : Settings}

/-- The session that a step means. -/
def Step.session (settings : Settings) : Step → Except Failure SessionRef
  | .evaluate request => requested settings request
  | .loadSession request => requested settings request
  | .prepSession key _ => .ok (resolve settings key)

/-- Whatever a request gives for a key, it means a session that text may be sent to. -/
theorem requested_proper (hdefault : Proper settings.defaultSession) {request : Request}
    {ref : SessionRef} (href : requested settings request = .ok ref) : Proper ref.name := by
  unfold requested at href
  split at href
  · cases href
    exact resolve_proper hdefault none
  · next key _ =>
    cases href
    exact resolve_proper hdefault (some key)
  · next bytes _ =>
    dsimp only at href
    split at href
    · cases href
      exact resolve_proper hdefault none
    · cases href
      exact quotedOctets_proper _
  · cases href

theorem Step.session_proper (hdefault : Proper settings.defaultSession) {step : Step}
    {ref : SessionRef} (href : step.session settings = .ok ref) : Proper ref.name := by
  cases step with
  | evaluate request => exact requested_proper hdefault href
  | loadSession request => exact requested_proper hdefault href
  | prepSession key bindings =>
      cases href
      exact resolve_proper hdefault key

theorem sendsTo_transmit (request : Request) (p : Plan) (run : Run σ) :
    SendsTo p.ref.name run (transmit sink settings request p run).2 := by
  rw [transmit_eq]
  cases script settings request p with
  | error failure => exact .of_eq rfl
  | ok messages => exact sendsTo_deliver run p.ref.name messages

theorem place_destinations (run : Run σ) (p : Plan) :
    (place run p).destinations = run.destinations := by
  simpa [Event.destination?] using destinations_push (place_events run p)

theorem conclude_destinations (p : Plan) (content : Option (List UInt8)) (run : Run σ) :
    (conclude settings p content run).destinations = run.destinations := by
  unfold conclude report
  split
  · exact destinations_log run _ _
  · split
    · exact destinations_log run _ _
    · rfl

/-- What an evaluation sends before its callback is told goes to the session that it means. -/
theorem Performed.sendsTo {request : Request} {run after : Run σ}
    {ended : Except Failure String} (hended : Performed sink settings request run ended after) :
    after.destinations = run.destinations ∨
      ∃ ref, requested settings request = .ok ref ∧ SendsTo ref.name run after := by
  have hstart (p : Plan) : SendsTo p.ref.name run (transmit sink settings request p
      { place run p with session := p.ref.name }).2 :=
    .trans (.of_eq (place_destinations run p)) (sendsTo_transmit request p _)
  cases hended with
  | unplanned hplan => exact Or.inl rfl
  | @unsent p failure sent hplan hsent =>
      have hsends := hstart p
      rw [hsent] at hsends
      exact Or.inr ⟨p.ref, (plan_spec hplan).1, hsends⟩
  | @unawaited p sent n failure hsent hbreaks =>
      have hsends := hstart p
      rw [hsent.transmit] at hsends
      refine Or.inr ⟨p.ref, (plan_spec hsent.plan).1, hsends.trans (.of_eq ?_)⟩
      refine (destinations_waited (sent.log .debug (sentMessage request p)) (n + 1)).trans ?_
      rw [destinations_log]
  | @read p sent n content hsent hstops hcontent =>
      have hsends := hstart p
      rw [hsent.transmit] at hsends
      refine Or.inr ⟨p.ref, (plan_spec hsent.plan).1, hsends.trans (.of_eq ?_)⟩
      refine (conclude_destinations _ _ _).trans ?_
      rw [destinations_waited, destinations_log]

theorem observe_destinations (observer : Option Observer) (request : Request) (result : String)
    (run : Run σ) :
    (observe observer request result run).2.destinations = run.destinations := by
  cases observer with
  | none => rfl
  | some observer =>
      rw [observe_eq]
      simpa [Event.destination?] using
        destinations_push (note_events run (.observed request result))

section Steps

variable (sink : Sink σ) (settings : Settings) (observer : Option Observer)

/-- A step sends nothing, or it sends to the session that it means. -/
theorem Step.sendsTo_run (step : Step) (run : Run σ) :
    (step.run sink settings observer run).destinations = run.destinations ∨
      ∃ ref, step.session settings = .ok ref ∧
        SendsTo ref.name run (step.run sink settings observer run) := by
  cases step with
  | evaluate request =>
      have hended := (performed_perform sink settings request run).sendsTo
      have htold : (Transport.evaluate sink settings observer request run).2.destinations =
          (perform sink settings request run).2.destinations := by
        unfold Transport.evaluate
        rcases perform sink settings request run with ⟨failure | result, after⟩
        · rfl
        · exact observe_destinations observer request result after
      rcases hended with hsame | ⟨ref, href, hsends⟩
      · exact Or.inl (htold.trans hsame)
      · exact Or.inr ⟨ref, href, hsends.trans (.of_eq htold)⟩
  | loadSession request =>
      rcases loadSession_cases request run with hkept | ⟨ref, snippet, href, _, hsent⟩
      · exact Or.inl (congrArg Run.destinations hkept)
      · refine Or.inr ⟨ref, href, ?_⟩
        rw [Step.run, hsent]
        exact sendsTo_send run ref.name (.source snippet)
  | prepSession key bindings =>
      rcases prepSession_cases key bindings run with hkept | ⟨lines, _, hsent⟩
      · exact Or.inl (congrArg Run.destinations hkept)
      · refine Or.inr ⟨resolve settings key, rfl, ?_⟩
        rw [Step.run, hsent]
        exact sendsTo_send run _ _

/-- All that a step adds to the destinations of a run is the session that it means. -/
theorem Step.destinations_run (step : Step) (run : Run σ) :
    ∃ added, (step.run sink settings observer run).destinations = run.destinations ++ added ∧
      ∀ session ∈ added, ∃ ref, step.session settings = .ok ref ∧ ref.name = session := by
  rcases step.sendsTo_run sink settings observer run with hsame | ⟨ref, href, n, hsends⟩
  · exact ⟨[], hsame.trans (List.append_nil _).symm, by simp⟩
  · refine ⟨_, hsends, ?_⟩
    intro session hsession
    exact ⟨ref, href, (List.eq_of_mem_replicate hsession).symm⟩

/-- All that steps add to the destinations of a run are the sessions that they mean. -/
theorem destinations_runSteps (steps : List Step) (run : Run σ) :
    ∃ added,
      (runSteps sink settings observer steps run).destinations = run.destinations ++ added ∧
      ∀ session ∈ added, ∃ step ∈ steps, ∃ ref,
        step.session settings = .ok ref ∧ ref.name = session := by
  induction steps generalizing run with
  | nil => exact ⟨[], (List.append_nil _).symm, by simp⟩
  | cons step steps ih =>
      obtain ⟨first, hfirst, hmeant⟩ := step.destinations_run sink settings observer run
      obtain ⟨rest, hrest, hmean⟩ := ih (step.run sink settings observer run)
      refine ⟨first ++ rest, ?_, ?_⟩
      · rw [← List.append_assoc, ← hfirst, ← hrest]
        rfl
      · intro session hsession
        rcases List.mem_append.mp hsession with hsession | hsession
        · exact ⟨step, List.mem_cons_self, hmeant session hsession⟩
        · obtain ⟨later, hlater, href⟩ := hmean session hsession
          exact ⟨later, List.mem_cons_of_mem _ hlater, href⟩

/-- All that steps send goes to sessions that text may be sent to, if the default is one. -/
theorem destinations_proper (hdefault : Proper settings.defaultSession) (steps : List Step)
    (start : Run σ) :
    ∃ added, (runSteps sink settings observer steps start).destinations =
      start.destinations ++ added ∧ ∀ session ∈ added, Proper session := by
  obtain ⟨added, hadded, hmeant⟩ := destinations_runSteps sink settings observer steps start
  refine ⟨added, hadded, ?_⟩
  intro session hsession
  obtain ⟨step, _, ref, href, rfl⟩ := hmeant session hsession
  exact step.session_proper hdefault href

end Steps

end Transport

end JuliaBlocks
