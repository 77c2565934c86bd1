import JuliaBlocks.Cli
import JuliaBlocks.Proofs.Framework.Likeness
import JuliaBlocks.Proofs.Plugin.Simulation
import JuliaBlocks.Proofs.Transport.Trampoline

/-!
The exchanges of a command with the session sides. A command comes to the same when these are
watched, and an evaluation that gets ready has the exchanges of the transport on the channel that is
chosen, if one is.
-/

namespace JuliaBlocks

variable {σ τ : Type}

namespace Framework

/-- A framework that has a channel evaluates by performing the request on it. -/
theorem evaluate_of_ok (sinks : Channel → Sink σ) (request : Request)
    {framework between : Framework σ} {channel : Channel} (hconnect : framework.connect = (.ok channel, between)) :
    let worked := Transport.perform (sinks channel) framework.settings request
      { between.run with events := #[] }
    framework.evaluate sinks request = (worked.1,
      ((between.follow channel worked.2).tell "evaluate" worked.1).announce request worked.1) := by
  rw [evaluate_eq, operate_eq_of_ok sinks "evaluate" _ hconnect]

theorem evaluate_of_error (sinks : Channel → Sink σ) (request : Request)
    {framework between : Framework σ} {failure : Failure}
    (hconnect : framework.connect = (.error failure, between)) :
    framework.evaluate sinks request =
      (.error failure, between.tell "evaluate" (.error failure : Except Failure String)) := by
  rw [evaluate_eq, operate_eq_of_error sinks "evaluate" _ hconnect]
  rfl

/-- Of a run, no more than the state depends on how the plugins are asked for a sink. -/
theorem connect_run (framework : Framework σ) : framework.connect.2.run =
    { framework.run with state := framework.connect.2.run.state } := by
  rw [connect_eq]
  cases framework.transport with
  | some channel => rfl
  | none =>
      cases hchannel : framework.channel with
      | some channel => rw [choose_eq_of_set hchannel]
      | none =>
          rw [choose_eq_of_unset hchannel]
          rfl

section Keeping

variable {view : σ → τ} {framework : Framework σ} (hkeeps : framework.registry.Keeps view)

include hkeeps

theorem connect_view : view framework.connect.2.run.state = view framework.run.state := by
  rw [connect_eq]
  cases framework.transport with
  | some channel => rfl
  | none =>
      cases hchannel : framework.channel with
      | some channel => rw [choose_eq_of_set hchannel]
      | none =>
          rw [choose_eq_of_unset hchannel]
          exact hkeeps.callFirst .provideSessionSink framework.wish framework.run.state

theorem tell_view {α : Type} (stage : String) (outcome : Except Failure α) :
    view (framework.tell stage outcome).run.state = view framework.run.state := by
  cases outcome with
  | error failure => exact hkeeps.notifyError stage failure _
  | ok a => rfl

theorem announce_view (request : Request) (outcome : Except Failure String) :
    view (framework.announce request outcome).run.state = view framework.run.state := by
  cases outcome with
  | error failure => rfl
  | ok result => exact hkeeps.callMany .onResult _ _

/-- What plugins leave alone, an evaluation leaves as the transport does, if it gets to that. -/
theorem evaluate_view (sinks : Channel → Sink σ) (request : Request) :
    (∀ {failure between}, framework.connect = (.error failure, between) →
      view (framework.evaluate sinks request).2.run.state = view framework.run.state) ∧
    ∀ {channel between}, framework.connect = (.ok channel, between) →
      view (framework.evaluate sinks request).2.run.state =
        view (Transport.perform (sinks channel) framework.settings request
          { between.run with events := #[] }).2.state := by
  have hregistry := framework.connect_registry
  constructor
  · intro failure between hconnect
    rw [hconnect] at hregistry
    have hbetween : between.registry.Keeps view := by rw [hregistry]; exact hkeeps
    have hconnected := connect_view hkeeps
    rw [hconnect] at hconnected
    rw [evaluate_of_error sinks request hconnect]
    exact (tell_view hbetween "evaluate" _).trans hconnected
  · intro channel between hconnect
    rw [hconnect] at hregistry
    rw [evaluate_of_ok sinks request hconnect]
    generalize Transport.perform (sinks channel) framework.settings request
      { between.run with events := #[] } = worked
    have hfollowed : (between.follow channel worked.2).registry.Keeps view := by
      rw [← hregistry] at hkeeps
      exact hkeeps
    have htold : ((between.follow channel worked.2).tell "evaluate"
        worked.1).registry.Keeps view := by
      rw [tell_registry]
      exact hfollowed
    exact (announce_view htold request worked.1).trans (tell_view hfollowed "evaluate" worked.1)

end Keeping

end Framework

/-- Plugins come to the same if there is more to the state than they go by. -/
theorem Registry.beside_alike (ρ : Type) (registry : Registry σ) :
    (registry.map Implementation.beside : Registry (σ × ρ)).Alike Prod.fst id registry where
  told stage failure state before hstate := by
    subst hstate
    exact congrArg Aftermath.state
      (registry.notifyError_mapState (Implementation.lifts_beside ρ) stage failure state)
  asked arguments state before hstate := by
    subst hstate
    have hasked := registry.callFirst_mapState (Implementation.lifts_beside ρ)
      .provideSessionSink arguments state
    exact ⟨congrArg Prod.fst hasked, congrArg (·.2.state) hasked⟩
  heard arguments state before hstate := by
    subst hstate
    have hheard := registry.callMany_mapState (Implementation.lifts_beside ρ)
      .onResult arguments state
    exact congrArg (·.2.state) hheard

namespace Cli

/-- A venue whose session sides do nothing. -/
def silent : Venue Unit where
  sinks _ := { send := fun _ _ _ _ => { state := () }, pause := fun _ _ _ => { state := () } }
  initial _ := ()
  shut _ run := run

/-- A venue whose sinks log the exchanges with them, which plugins leave alone. -/
def Venue.watched (venue : Venue σ) : Venue (σ × List Exchange) where
  sinks channel := (venue.sinks channel).watched
  initial settings := (venue.initial settings, [])
  shut channel run := (venue.shut channel (run.mapState Prod.fst)).mapState (·, run.state.2)
  advertised := venue.advertised.map (·.map Implementation.beside)
  leaving := venue.leaving
  closingFault channel run := venue.closingFault channel (run.mapState Prod.fst)

/-- The exchanges of a command with the session sides, from the first to the last. -/
def exchanges (surroundings : Surroundings) (venue : Venue σ) (command : Command) :
    List Exchange :=
  ((run surroundings venue.watched command).2.map (·.run.state.2)).getD []

namespace Surroundings

variable (surroundings : Surroundings) (venue : Venue σ)

/-- The run that a framework starts with. -/
def start (settings : Settings) : Run σ where
  state := venue.initial settings
  files := surroundings.files
  naming := surroundings.naming

/-- The channel that an evaluation comes to choose, unless the choice fails. -/
def channel (settings : Settings) : Except Failure Channel :=
  (surroundings.framework venue settings).connect.1

/-- The run that the transport of an evaluation starts from: that of the framework once it has chosen
the channel. -/
def opening (settings : Settings) : Run σ :=
  { (surroundings.framework venue settings).connect.2.run with events := #[] }

theorem framework_settings (settings : Settings) :
    (surroundings.framework venue settings).settings = settings := by
  obtain ⟨level, message, hloaded⟩ := Framework.loadPlugins_spec
    { settings, registry := { leaving := venue.leaving }, run := surroundings.start venue settings }
    venue.advertised
  exact congrArg Framework.settings hloaded

theorem framework_registry (settings : Settings) :
    (surroundings.framework venue settings).registry =
      (Registry.load venue.advertised { leaving := venue.leaving }).2 := by
  obtain ⟨level, message, hloaded⟩ := Framework.loadPlugins_spec
    { settings, registry := { leaving := venue.leaving }, run := surroundings.start venue settings }
    venue.advertised
  exact congrArg Framework.registry hloaded

theorem framework_run (settings : Settings) :
    (surroundings.framework venue settings).run = surroundings.start venue settings := by
  obtain ⟨level, message, hloaded⟩ := Framework.loadPlugins_spec
    { settings, registry := { leaving := venue.leaving }, run := surroundings.start venue settings }
    venue.advertised
  exact congrArg Framework.run hloaded

theorem opening_files (settings : Settings) :
    (surroundings.opening venue settings).files = surroundings.files := by
  have hrun := (surroundings.framework venue settings).connect_run
  rw [framework_run] at hrun
  exact congrArg Run.files hrun

theorem load_watched :
    Registry.load venue.watched.advertised { leaving := venue.watched.leaving } =
      (Registry.load venue.advertised { leaving := venue.leaving }).map id
        (Registry.map Implementation.beside) :=
  Registry.load_map (g := Implementation.beside) (fun _ => rfl) { leaving := venue.leaving }
    venue.advertised

theorem framework_watched (settings : Settings) :
    (surroundings.framework venue.watched settings).Alike Prod.fst id
      (surroundings.framework venue settings) := by
  simp only [framework, Framework.loadPlugins, load_watched]
  rcases Registry.load venue.advertised { leaving := venue.leaving } with ⟨failure | count, registry⟩
  · exact ⟨rfl, registry.beside_alike _, rfl, rfl, rfl, rfl⟩
  · exact ⟨rfl, registry.beside_alike _, rfl, rfl, rfl, rfl⟩

/-- Plugins leave the log of the exchanges alone. -/
theorem framework_keeps (settings : Settings) :
    (surroundings.framework venue.watched settings).registry.Keeps Prod.snd := by
  rw [framework_registry, load_watched]
  intro impl hmem
  obtain ⟨origin, _, rfl⟩ := List.mem_map.mp hmem
  exact fun _ _ => rfl

theorem channel_watched (settings : Settings) :
    surroundings.channel venue.watched settings = surroundings.channel venue settings :=
  (surroundings.framework_watched venue settings).connect.1.symm

theorem opening_watched (settings : Settings) :
    surroundings.opening venue.watched settings = (surroundings.opening venue settings).watch := by
  have hrun := (surroundings.framework_watched venue settings).connect.2.run
  have hlog := Framework.connect_view (surroundings.framework_keeps venue settings)
  rw [framework_run] at hlog
  have hopened : surroundings.opening venue settings =
      (surroundings.opening venue.watched settings).mapState Prod.fst :=
    congrArg (fun run : Run σ => { run with events := #[] }) hrun
  have hempty : (surroundings.opening venue.watched settings).state.2 = [] := hlog
  rw [hopened, Run.watch]
  generalize surroundings.opening venue.watched settings = run at hempty
  obtain ⟨⟨state, log⟩⟩ := run
  obtain rfl : log = [] := hempty
  rfl

/-- An evaluation that is ready performs its request on the channel that is chosen, if one is. -/
theorem evaluate_of_ready {block : Block} {debug : Bool} {settings : Settings} {request : Request}
    (hprepare : surroundings.prepare debug = .ok settings)
    (hrequest : surroundings.request block = .ok request) :
    (surroundings.evaluate venue block debug).1 =
      (surroundings.channel venue settings).bind fun channel =>
        (Transport.perform (venue.sinks channel) settings request
          (surroundings.opening venue settings)).1 := by
  have hsettings := surroundings.framework_settings venue settings
  simp only [evaluate, hprepare, hrequest, channel, opening]
  rcases hconnect : (surroundings.framework venue settings).connect with ⟨failure | chosen, between⟩
  · rw [Framework.evaluate_of_error venue.sinks request hconnect]
    rfl
  · rw [Framework.evaluate_of_ok venue.sinks request hconnect, hsettings]
    rfl

theorem evaluate_watched (block : Block) (debug : Bool) :
    let watched := surroundings.evaluate venue.watched block debug
    let evaluated := surroundings.evaluate venue block debug
    evaluated.1 = watched.1 ∧
      Option.Rel (Framework.Alike Prod.fst id) watched.2 evaluated.2 := by
  unfold evaluate
  cases surroundings.prepare debug with
  | error failure => exact ⟨rfl, .none⟩
  | ok settings =>
      have halike := surroundings.framework_watched venue settings
      cases surroundings.request block with
      | error failure => exact ⟨rfl, .some halike⟩
      | ok request =>
          obtain ⟨houtcome, hafter⟩ := halike.evaluate
            (fun channel => (venue.sinks channel).watched_simulates)
            (fun channel => Sink.Simulates.mk (fun _ _ _ _ => rfl) fun _ _ _ => rfl) request
          exact ⟨houtcome, .some hafter⟩

end Surroundings

theorem conclude_watched (venue : Venue σ) (outcome : Outcome)
    {watched : Option (Framework (σ × List Exchange))} {framework : Option (Framework σ)}
    (halike : Option.Rel (Framework.Alike Prod.fst id) watched framework) :
    (conclude venue outcome framework).1 = (conclude venue.watched outcome watched).1 ∧
      Option.Rel (Framework.Alike Prod.fst id) (conclude venue.watched outcome watched).2
        (conclude venue outcome framework).2 := by
  cases halike with
  | none => exact ⟨rfl, .none⟩
  | @some watched framework halike =>
      have hfault : framework.closingFault? venue.closingFault =
          watched.closingFault? venue.watched.closingFault := by
        have hrun : framework.run = watched.run.mapState Prod.fst := halike.run
        simp only [Framework.closingFault?, halike.channel, hrun]
        rfl
      have hshut (channel : Channel) (run : Run (σ × List Exchange)) :
          venue.shut channel (run.mapState Prod.fst) =
            (venue.watched.shut channel run).mapState Prod.fst := rfl
      have hclosed : Framework.Alike Prod.fst id (watched.close venue.watched.shut)
          (framework.close venue.shut) := halike.close hshut fun _ _ => rfl
      simp only [conclude, Option.map_some, Option.bind_some, hfault]
      cases watched.closingFault? venue.watched.closingFault with
      | none => exact ⟨rfl, .some hclosed⟩
      | some failure => exact ⟨rfl, .some hclosed⟩

/-- A command comes to the same when its exchanges are watched. -/
theorem run_watched (surroundings : Surroundings) (venue : Venue σ) (command : Command) :
    let watched := run surroundings venue.watched command
    let ended := run surroundings venue command
    ended.1 = watched.1 ∧ Option.Rel (Framework.Alike Prod.fst id) watched.2 ended.2 := by
  cases command with
  | expand block => exact ⟨rfl, .none⟩
  | wrap block => exact ⟨rfl, .none⟩
  | evaluate block debug =>
      obtain ⟨houtcome, halike⟩ := surroundings.evaluate_watched venue block debug
      simp only [run, houtcome]
      exact conclude_watched venue _ halike
  | hooks =>
      have hreport (settings : Settings) :
          (surroundings.framework venue.watched settings).registry.report =
            (surroundings.framework venue settings).registry.report := by
        rw [Surroundings.framework_registry, Surroundings.framework_registry,
          Surroundings.load_watched]
        exact Registry.report_map (g := Implementation.beside) (fun _ => rfl) _
      have hlisted : surroundings.hooks venue = surroundings.hooks venue.watched := by
        simp only [Surroundings.hooks, hreport]
      exact ⟨congrArg Outcome.ofListing hlisted, .none⟩

/-- The exchanges of an evaluation are made before its channel is closed. -/
theorem exchanges_evaluate (surroundings : Surroundings) (venue : Venue σ) (block : Block)
    (debug : Bool) :
    exchanges surroundings venue (.evaluate block debug) =
      ((surroundings.evaluate venue.watched block debug).2.map (·.run.state.2)).getD [] := by
  have hclosed (framework : Framework (σ × List Exchange)) :
      (framework.close venue.watched.shut).run.state.2 = framework.run.state.2 := by
    unfold Framework.close
    split
    · rfl
    · rfl
    · rfl
  have hconcluded (outcome : Outcome) (framework : Option (Framework (σ × List Exchange))) :
      (conclude venue.watched outcome framework).2 =
        framework.map (·.close venue.watched.shut) := by
    unfold conclude
    split
    · rfl
    · rfl
  simp only [exchanges, run, hconcluded, Option.map_map, Function.comp_def, hclosed]

/-- An evaluation that is ready has the exchanges of the transport on the channel that is chosen; if
none is, it has none. -/
theorem exchanges_of_ready (surroundings : Surroundings) (venue : Venue σ) {block : Block}
    {debug : Bool} {settings : Settings} {request : Request}
    (hprepare : surroundings.prepare debug = .ok settings)
    (hrequest : surroundings.request block = .ok request) :
    exchanges surroundings venue (.evaluate block debug) =
      match surroundings.channel venue settings with
      | .error _ => []
      | .ok channel => (Transport.Step.evaluate request).exchanges (venue.sinks channel) settings
          none (surroundings.opening venue settings) := by
  have hkeeps := surroundings.framework_keeps venue settings
  obtain ⟨herror, hok⟩ := Framework.evaluate_view hkeeps venue.watched.sinks request
  have hopening := surroundings.opening_watched venue settings
  rw [exchanges_evaluate, ← surroundings.channel_watched venue settings]
  simp only [Surroundings.evaluate, hprepare, hrequest, Prod.map_snd, Option.map_some,
    Option.getD_some, Surroundings.channel]
  rcases hconnect : (surroundings.framework venue.watched settings).connect with
    ⟨failure | channel, between⟩
  · rw [herror hconnect, Surroundings.framework_run]
    rfl
  · rw [Surroundings.opening, hconnect] at hopening
    dsimp only
    rw [hok hconnect, hopening, Surroundings.framework_settings, Transport.Step.exchanges,
      Transport.Step.run, Transport.evaluate_unobserved]
    rfl

theorem exchanges_of_unready (surroundings : Surroundings) (venue : Venue σ) {block : Block}
    {debug : Bool} (hunready : ∀ settings request, surroundings.prepare debug = .ok settings →
      surroundings.request block ≠ .ok request) :
    exchanges surroundings venue (.evaluate block debug) = [] := by
  rw [exchanges_evaluate, Surroundings.evaluate]
  cases hprepare : surroundings.prepare debug with
  | error failure => rfl
  | ok settings =>
      cases hrequest : surroundings.request block with
      | error failure =>
          simp only [Option.map_some, Option.getD_some, Surroundings.framework_run]
          rfl
      | ok request => exact absurd hrequest (hunready settings request hprepare)

end Cli

end JuliaBlocks
