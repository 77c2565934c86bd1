import JuliaBlocks.Proofs.Framework.Channel
import JuliaBlocks.Proofs.Framework.Failures
import JuliaBlocks.Proofs.Transport.Routing

/-!
Where the text of a framework goes. Whatever the channel, an act sends to the one session that its
step of the transport means. Main statement: `destinations_proper`.
-/

namespace JuliaBlocks.Framework

variable {σ : Type}

/-- The sessions that text was sent to through a channel, one for each send. -/
def destinations (framework : Framework σ) : List String :=
  framework.sends.map (·.2.1)

theorem destinations_note (framework : Framework σ) (occurrences : List Occurrence) :
    (framework.note occurrences).destinations =
      framework.destinations ++ (occurrences.filterMap (·.sent?)).map (·.2.1) := by
  simp only [destinations, sends, note, List.filterMap_append, List.map_append]

@[simp] theorem destinations_heed (framework : Framework σ) (after : Aftermath σ) :
    (framework.heed after).destinations = framework.destinations := by
  simp only [destinations, sends, heed_history, List.filterMap_append]
  rw [filterMap_hook fun _ => rfl, List.append_nil]

/-- What a framework follows of a run of the transport are the destinations of this run. -/
theorem destinations_follow (framework : Framework σ) (channel : Channel) (run : Run σ) :
    (framework.follow channel run).destinations =
      framework.destinations ++ run.destinations := by
  rw [follow, destinations_note, Run.destinations, List.filterMap_map, List.map_filterMap]
  congr 1
  apply List.filterMap_congr
  intro event _
  cases event with
  | _ => rfl

@[simp] theorem destinations_choose (framework : Framework σ) :
    framework.choose.2.destinations = framework.destinations := by
  cases hchannel : framework.channel with
  | some channel => rw [choose_eq_of_set hchannel]
  | none =>
      rw [choose_eq_of_unset hchannel]
      exact destinations_heed _ _

@[simp] theorem destinations_connect (framework : Framework σ) :
    framework.connect.2.destinations = framework.destinations := by
  rw [connect_eq]
  cases framework.transport with
  | some channel => rfl
  | none => exact framework.destinations_choose

@[simp] theorem destinations_tell {α : Type} (framework : Framework σ) (stage : String)
    (outcome : Except Failure α) :
    (framework.tell stage outcome).destinations = framework.destinations := by
  cases outcome with
  | error failure => exact destinations_heed _ _
  | ok a => rfl

@[simp] theorem destinations_announce (framework : Framework σ) (request : Request)
    (outcome : Except Failure String) :
    (framework.announce request outcome).destinations = framework.destinations := by
  cases outcome with
  | error failure => rfl
  | ok result => exact destinations_heed _ _

@[simp] theorem destinations_close (shut : Channel → Run σ → Run σ) (framework : Framework σ) :
    (framework.close shut).destinations = framework.destinations := by
  unfold close
  split
  · rfl
  · rfl
  · exact (destinations_note _ _).trans (List.append_nil _)

section Work

variable (sinks : Channel → Sink σ) (framework : Framework σ)

/-- What an operation sends it sends on some channel, in a run that starts without events. -/
theorem operate_destinations {α : Type} (stage : String)
    (operation : Sink σ → Run σ → Except Failure α × Run σ) :
    (framework.operate sinks stage operation).2.destinations = framework.destinations ∨
      ∃ channel run, run.destinations = [] ∧
        (framework.operate sinks stage operation).2.destinations =
          framework.destinations ++ (operation (sinks channel) run).2.destinations := by
  rw [← framework.destinations_connect]
  rcases hconnect : framework.connect with ⟨failure | channel, between⟩
  · rw [operate_eq_of_error sinks stage operation hconnect]
    exact Or.inl (destinations_tell _ stage _)
  · rw [operate_eq_of_ok sinks stage operation hconnect]
    refine Or.inr ⟨channel, { between.run with events := #[] }, rfl, ?_⟩
    exact (destinations_tell _ stage _).trans (destinations_follow _ channel _)

theorem operate_settings {α : Type} (stage : String)
    (operation : Sink σ → Run σ → Except Failure α × Run σ) :
    (framework.operate sinks stage operation).2.settings = framework.settings := by
  have htold (after : Framework σ) (outcome : Except Failure α) :
      (after.tell stage outcome).settings = after.settings := by cases outcome <;> rfl
  rw [← framework.connect_settings]
  rcases hconnect : framework.connect with ⟨failure | channel, between⟩
  · rw [operate_eq_of_error sinks stage operation hconnect]
    rfl
  · rw [operate_eq_of_ok sinks stage operation hconnect]
    exact htold _ _

/-- What a framework sends for a step of the transport is what the step sends on some channel. -/
theorem work_destinations (step : Transport.Step) :
    (framework.work sinks step).2.destinations = framework.destinations ∨
      ∃ channel run, run.destinations = [] ∧
        (framework.work sinks step).2.destinations = framework.destinations ++
          (step.run (sinks channel) framework.settings none run).destinations := by
  cases step with
  | evaluate request =>
      rw [work, evaluate_eq, destinations_announce]
      obtain hnone | ⟨channel, run, hstart, hsent⟩ :=
        framework.operate_destinations sinks "evaluate" fun sink run =>
          Transport.perform sink framework.settings request run
      · exact Or.inl hnone
      · refine Or.inr ⟨channel, run, hstart, hsent.trans ?_⟩
        rw [Transport.Step.run, Transport.evaluate]
        rcases Transport.perform (sinks channel) framework.settings request run with
          ⟨failure | result, after⟩
        · rfl
        · rfl
  | loadSession request =>
      exact framework.operate_destinations sinks "load_session" fun sink run =>
        Transport.loadSession sink framework.settings request run
  | prepSession key bindings =>
      exact framework.operate_destinations sinks "prep_session" fun sink run =>
        Transport.prepSession sink framework.settings key bindings run

theorem work_settings (step : Transport.Step) :
    (framework.work sinks step).2.settings = framework.settings := by
  cases step with
  | evaluate request =>
      have hannounced (after : Framework σ) (outcome : Except Failure String) :
          (after.announce request outcome).settings = after.settings := by cases outcome <;> rfl
      rw [work, evaluate_eq, hannounced]
      exact framework.operate_settings sinks "evaluate" _
  | loadSession request =>
      exact framework.operate_settings sinks "load_session" fun sink run =>
        Transport.loadSession sink framework.settings request run
  | prepSession key bindings =>
      exact framework.operate_settings sinks "prep_session" fun sink run =>
        Transport.prepSession sink framework.settings key bindings run

end Work

/-- The step of the transport that an act asks for. -/
def Act.work? : Act σ → Option Transport.Step
  | step (.evaluate request) => some (.evaluate request)
  | step (.loadSession request) => some (.loadSession request)
  | step (.prepSession key bindings) => some (.prepSession key bindings)
  | _ => none

section Acts

variable (sinks : Channel → Sink σ) (shut : Channel → Run σ → Run σ)

/-- An act does what its step of the transport does; without one it sends nothing. In neither case
does it change the settings. -/
theorem Act.take_work (act : Act σ) (framework : Framework σ) :
    let after := act.take sinks shut framework
    match act.work? with
    | some work => after = (framework.work sinks work).2
    | none => after.destinations = framework.destinations ∧ after.settings = framework.settings := by
  cases act with
  | callFirst hook arguments => exact ⟨destinations_heed _ _, rfl⟩
  | callMany hook arguments => exact ⟨destinations_heed _ _, rfl⟩
  | step s =>
      cases s with
      | evaluate request => rfl
      | loadSession request => rfl
      | prepSession key bindings => rfl
      | sink => exact ⟨framework.destinations_choose, framework.choose_settings⟩
      | report => exact ⟨rfl, rfl⟩
      | register plugin => exact ⟨rfl, rfl⟩
      | load advertised =>
          obtain ⟨level, message, hloaded⟩ := framework.loadPlugins_spec advertised
          simp only [work?, take, Step.take, Prod.map_snd, hloaded]
          exact ⟨(destinations_note _ _).trans (List.append_nil _), rfl⟩
      | close =>
          refine ⟨framework.destinations_close shut, ?_⟩
          simp only [take, Step.take, close]
          split <;> rfl

theorem Act.take_settings (act : Act σ) (framework : Framework σ) :
    (act.take sinks shut framework).settings = framework.settings := by
  have hwork := act.take_work sinks shut framework
  cases hasked : act.work? with
  | none =>
      rw [hasked] at hwork
      exact hwork.2
  | some work =>
      rw [hasked] at hwork
      rw [hwork]
      exact framework.work_settings sinks work

/-- All that an act adds to the destinations is the session that its step of the transport means. -/
theorem Act.destinations_take (act : Act σ) (framework : Framework σ) :
    ∃ added, (act.take sinks shut framework).destinations = framework.destinations ++ added ∧
      ∀ session ∈ added, ∃ work, act.work? = some work ∧
        ∃ ref, work.session framework.settings = .ok ref ∧ ref.name = session := by
  have hwork := act.take_work sinks shut framework
  cases hasked : act.work? with
  | none =>
      rw [hasked] at hwork
      exact ⟨[], hwork.1.trans (List.append_nil _).symm, by simp⟩
  | some work =>
      rw [hasked] at hwork
      rcases framework.work_destinations sinks work with hnone | ⟨channel, run, hstart, hsent⟩
      · exact ⟨[], by rw [hwork, hnone, List.append_nil], by simp⟩
      · obtain ⟨added, hadded, hmeant⟩ :=
          work.destinations_run (sinks channel) framework.settings none run
        refine ⟨added, by rw [hwork, hsent, hadded, hstart, List.nil_append], ?_⟩
        exact fun session hsession => ⟨work, rfl, hmeant session hsession⟩

/-- All that acts add to the destinations are the sessions that their steps of the transport mean. -/
theorem destinations_runActs (acts : List (Act σ)) (framework : Framework σ) :
    ∃ added,
      (runActs sinks shut acts framework).destinations = framework.destinations ++ added ∧
      ∀ session ∈ added, ∃ act ∈ acts, ∃ work, act.work? = some work ∧
        ∃ ref, work.session framework.settings = .ok ref ∧ ref.name = session := by
  induction acts generalizing framework with
  | nil => exact ⟨[], (List.append_nil _).symm, by simp⟩
  | cons act acts ih =>
      obtain ⟨first, hfirst, hmeant⟩ := act.destinations_take sinks shut framework
      obtain ⟨rest, hrest, hmean⟩ := ih (act.take sinks shut framework)
      refine ⟨first ++ rest, ?_, ?_⟩
      · rw [← List.append_assoc, ← hfirst, ← hrest]
        rfl
      · intro session hsession
        rcases List.mem_append.mp hsession with hsession | hsession
        · exact ⟨act, List.mem_cons_self, hmeant session hsession⟩
        · obtain ⟨later, hlater, href⟩ := hmean session hsession
          -- The settings are the same after the first act, and so is what later acts mean.
          rw [act.take_settings] at href
          exact ⟨later, List.mem_cons_of_mem _ hlater, href⟩

theorem destinations_proper {start : Framework σ}
    (hdefault : SessionRef.Proper start.settings.defaultSession) (acts : List (Act σ)) :
    ∃ added, (runActs sinks shut acts start).destinations = start.destinations ++ added ∧
      ∀ session ∈ added, SessionRef.Proper session := by
  obtain ⟨added, hadded, hmeant⟩ := destinations_runActs sinks shut acts start
  refine ⟨added, hadded, ?_⟩
  intro session hsession
  obtain ⟨act, _, step, _, ref, href, rfl⟩ := hmeant session hsession
  exact step.session_proper hdefault href

end Acts

end JuliaBlocks.Framework
