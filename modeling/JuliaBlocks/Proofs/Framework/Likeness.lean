import JuliaBlocks.Proofs.Framework.Steps
import JuliaBlocks.Proofs.Transport.Simulation

/-!
Frameworks that cannot be told apart by what they do. Of the states that two frameworks share with
plugins and session sides only a view counts: if session sides and plugins go by nothing else, the
frameworks come to the same and stay alike, whatever hooks run in them.
-/

namespace JuliaBlocks

variable {σ τ ω : Type}

def Occurrence.isHook : Occurrence → Bool
  | .hook _ => true
  | _ => false

/-- The plugins of two registries come to the same where a framework goes by them, and leave states
that look the same. -/
structure Registry.Alike (view : σ → ω) (seen : τ → ω) (registry : Registry σ)
    (other : Registry τ) : Prop where
  told : ∀ stage failure state before, view state = seen before →
    seen (other.notifyError stage failure before).state =
      view (registry.notifyError stage failure state).state
  asked : ∀ arguments state before, view state = seen before →
    let asked := registry.callFirst .provideSessionSink arguments state
    let again := other.callFirst .provideSessionSink arguments before
    again.1 = asked.1 ∧ seen again.2.state = view asked.2.state
  heard : ∀ arguments state before, view state = seen before →
    seen (other.callMany .onResult arguments before).2.state =
      view (registry.callMany .onResult arguments state).2.state

namespace Framework

/-- What happened apart from hooks. -/
def worked (framework : Framework σ) : List Occurrence :=
  framework.history.filter (!·.isHook)

theorem worked_note (framework : Framework σ) (occurrences : List Occurrence) :
    (framework.note occurrences).worked =
      framework.worked ++ occurrences.filter (!·.isHook) := by
  simp only [worked, note, List.filter_append]

theorem worked_heed (framework : Framework σ) (after : Aftermath σ) :
    (framework.heed after).worked = framework.worked := by
  have hnone : (after.events.map Occurrence.hook).filter (!·.isHook) = [] := by
    simp [Occurrence.isHook]
  rw [worked, heed_history, List.filter_append, hnone, List.append_nil, worked]

/-- Two frameworks look the same, apart from hooks that run in them. -/
structure Alike (view : σ → ω) (seen : τ → ω) (framework : Framework σ) (other : Framework τ) :
    Prop where
  settings : other.settings = framework.settings
  registry : framework.registry.Alike view seen other.registry
  channel : other.channel = framework.channel
  transport : other.transport = framework.transport
  run : other.run.mapState seen = framework.run.mapState view
  worked : other.worked = framework.worked

namespace Alike

variable {view : σ → ω} {seen : τ → ω} {framework : Framework σ} {other : Framework τ}

theorem state (halike : Alike view seen framework other) :
    view framework.run.state = seen other.run.state :=
  (congrArg Run.state halike.run).symm

theorem note (halike : Alike view seen framework other) (occurrences : List Occurrence) :
    Alike view seen (framework.note occurrences) (other.note occurrences) where
  __ := halike
  worked := by rw [worked_note, worked_note, halike.worked]

/-- Frameworks stay alike if their runs go on to runs that look the same. -/
theorem resume (halike : Alike view seen framework other) {run : Run σ} {after : Run τ}
    (hrun : after.mapState seen = run.mapState view) :
    Alike view seen { framework with run } { other with run := after } where
  settings := halike.settings
  registry := halike.registry
  channel := halike.channel
  transport := halike.transport
  run := hrun
  worked := halike.worked

/-- Calls of hooks may leave different events behind, and states that look the same. -/
theorem heed (halike : Alike view seen framework other) {after : Aftermath σ}
    {differing : Aftermath τ} (hstate : seen differing.state = view after.state) :
    Alike view seen (framework.heed after) (other.heed differing) :=
  have hrun : Run.mapState seen { other.run with state := differing.state } =
      Run.mapState view { framework.run with state := after.state } :=
    congrArg₂ (fun (run : Run ω) (state : ω) => { run with state }) halike.run hstate
  { halike.resume hrun with worked := by rw [worked_heed, worked_heed, halike.worked] }

theorem tell {α : Type} (halike : Alike view seen framework other) (stage : String)
    (outcome : Except Failure α) :
    Alike view seen (framework.tell stage outcome) (other.tell stage outcome) := by
  cases outcome with
  | error failure => exact halike.heed (halike.registry.told stage failure _ _ halike.state)
  | ok a => exact halike

theorem announce (halike : Alike view seen framework other) (request : Request)
    (outcome : Except Failure String) :
    Alike view seen (framework.announce request outcome) (other.announce request outcome) := by
  cases outcome with
  | error failure => exact halike
  | ok result => exact halike.heed (halike.registry.heard _ _ _ halike.state)

theorem choose (halike : Alike view seen framework other) :
    other.choose.1 = framework.choose.1 ∧ Alike view seen framework.choose.2 other.choose.2 := by
  cases hchannel : framework.channel with
  | some channel =>
      rw [choose_eq_of_set hchannel, choose_eq_of_set (halike.channel.trans hchannel)]
      exact ⟨rfl, halike⟩
  | none =>
      have hwish : other.wish = framework.wish := by rw [wish, wish, halike.settings]
      obtain ⟨hanswer, hstate⟩ := halike.registry.asked framework.wish _ _ halike.state
      have hasked : other.asked.1 = framework.asked.1 := by rw [asked, hwish]; exact hanswer
      have hheeded : Alike view seen (framework.heed framework.asked.2)
          (other.heed other.asked.2) := halike.heed (by rw [asked, hwish]; exact hstate)
      rw [choose_eq_of_unset hchannel, choose_eq_of_unset (halike.channel.trans hchannel), hasked]
      exact ⟨rfl, { hheeded with channel := rfl }⟩

theorem connect (halike : Alike view seen framework other) :
    other.connect.1 = framework.connect.1 ∧
      Alike view seen framework.connect.2 other.connect.2 := by
  obtain ⟨hchannel, hchosen⟩ := halike.choose
  rw [connect_eq, connect_eq, halike.transport]
  cases framework.transport with
  | some channel => exact ⟨rfl, halike⟩
  | none => exact ⟨hchannel, { hchosen with transport := congrArg Except.toOption hchannel }⟩

theorem follow (halike : Alike view seen framework other) (channel : Channel) {run : Run σ}
    {after : Run τ} (hrun : after.mapState seen = run.mapState view) :
    Alike view seen (framework.follow channel run) (other.follow channel after) := by
  have hevents : after.events = run.events := congrArg (fun run : Run ω => run.events) hrun
  rw [Framework.follow, Framework.follow, hevents]
  exact (halike.resume hrun).note _

theorem close (halike : Alike view seen framework other) {shut : Channel → Run σ → Run σ}
    {shuts : Channel → Run τ → Run τ} {image : Channel → Run ω → Run ω}
    (hshut : ∀ channel run, image channel (run.mapState view) = (shut channel run).mapState view)
    (hshuts : ∀ channel run,
      image channel (run.mapState seen) = (shuts channel run).mapState seen) :
    Alike view seen (framework.close shut) (other.close shuts) := by
  unfold Framework.close
  rw [halike.channel]
  split
  · exact halike
  · exact halike
  · next channel _ _ =>
    have hrun : (shuts channel other.run).mapState seen =
        (shut channel framework.run).mapState view := by
      rw [← hshut, ← hshuts, halike.run]
    have hclosed := (halike.resume hrun).note [.closed channel]
    rwa [halike.channel] at hclosed

section Operations

variable {sinks : Channel → Sink σ} {others : Channel → Sink τ} {images : Channel → Sink ω}

/-- An operation that does the same on session sides that look the same comes to the same. -/
theorem operate {α : Type} (halike : Alike view seen framework other) (stage : String)
    (operation : (ρ : Type) → Sink ρ → Run ρ → Except Failure α × Run ρ)
    (hoperation : ∀ channel run, operation ω (images channel) (run.mapState view) =
      Prod.map id (Run.mapState view) (operation σ (sinks channel) run))
    (hagain : ∀ channel run, operation ω (images channel) (run.mapState seen) =
      Prod.map id (Run.mapState seen) (operation τ (others channel) run)) :
    (other.operate others stage (operation τ)).1 =
        (framework.operate sinks stage (operation σ)).1 ∧
      Alike view seen (framework.operate sinks stage (operation σ)).2
        (other.operate others stage (operation τ)).2 := by
  obtain ⟨hchannel, hconnected⟩ := halike.connect
  rcases hconnect : framework.connect with ⟨failure | channel, between⟩
  all_goals rcases hseen : other.connect with ⟨chosen, after⟩
  all_goals rw [hconnect, hseen] at hchannel hconnected
  all_goals dsimp only at hchannel; subst hchannel
  · rw [operate_eq_of_error sinks stage (operation σ) hconnect,
      operate_eq_of_error others stage (operation τ) hseen]
    exact ⟨rfl, hconnected.tell stage (.error failure : Except Failure α)⟩
  · rw [operate_eq_of_ok sinks stage (operation σ) hconnect,
      operate_eq_of_ok others stage (operation τ) hseen]
    have hstart : Run.mapState seen { after.run with events := #[] } =
        Run.mapState view { between.run with events := #[] } :=
      congrArg (fun run : Run ω => { run with events := #[] }) hconnected.run
    have hworked := hagain channel { after.run with events := #[] }
    rw [hstart, hoperation channel] at hworked
    generalize operation σ (sinks channel) { between.run with events := #[] } = worked at hworked
    generalize operation τ (others channel) { after.run with events := #[] } = again at hworked
    obtain ⟨outcome, run⟩ := worked
    obtain ⟨same, later⟩ := again
    obtain ⟨rfl, hrun⟩ := Prod.mk.inj hworked
    exact ⟨rfl, (hconnected.follow channel hrun.symm).tell stage outcome⟩

variable (hsim : ∀ channel, (sinks channel).Simulates view (images channel))
  (hagain : ∀ channel, (others channel).Simulates seen (images channel))

include hsim hagain

theorem evaluate (halike : Alike view seen framework other) (request : Request) :
    (other.evaluate others request).1 = (framework.evaluate sinks request).1 ∧
      Alike view seen (framework.evaluate sinks request).2
        (other.evaluate others request).2 := by
  obtain ⟨houtcome, hafter⟩ := halike.operate "evaluate"
    (fun _ sink run => Transport.perform sink framework.settings request run)
    (fun channel run => Transport.perform_mapState (hsim channel) request run)
    (fun channel run => Transport.perform_mapState (hagain channel) request run)
  rw [evaluate_eq, evaluate_eq, halike.settings]
  dsimp only
  rw [houtcome]
  exact ⟨rfl, hafter.announce request _⟩

theorem loadSession (halike : Alike view seen framework other) (request : Request) :
    (other.loadSession others request).1 = (framework.loadSession sinks request).1 ∧
      Alike view seen (framework.loadSession sinks request).2
        (other.loadSession others request).2 := by
  obtain ⟨houtcome, hafter⟩ := halike.operate "load_session"
    (fun _ sink run => Transport.loadSession sink framework.settings request run)
    (fun channel run => Transport.loadSession_mapState (hsim channel) request run)
    (fun channel run => Transport.loadSession_mapState (hagain channel) request run)
  simp only [Framework.loadSession, halike.settings]
  exact ⟨congrArg (·.map (·.name)) houtcome, hafter⟩

theorem prepSession (halike : Alike view seen framework other) (key : Option String)
    (bindings : List (String × Value)) :
    (other.prepSession others key bindings).1 = (framework.prepSession sinks key bindings).1 ∧
      Alike view seen (framework.prepSession sinks key bindings).2
        (other.prepSession others key bindings).2 := by
  obtain ⟨houtcome, hafter⟩ := halike.operate "prep_session"
    (fun _ sink run => Transport.prepSession sink framework.settings key bindings run)
    (fun channel run => Transport.prepSession_mapState (hsim channel) key bindings run)
    (fun channel run => Transport.prepSession_mapState (hagain channel) key bindings run)
  simp only [Framework.prepSession, halike.settings]
  exact ⟨congrArg (·.map (·.name)) houtcome, hafter⟩

end Operations

end Alike

end Framework

end JuliaBlocks
