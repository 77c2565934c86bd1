import JuliaBlocks.Proofs.Framework.Steps
import JuliaBlocks.Proofs.Plugin.Report

/-!
The channel of a framework. It is chosen when it is first needed, by one call of the providers of
sinks, and all that is sent or closed in a run goes to it, whichever plugins are registered later.
Only a choice that fails, because it cannot be told whether what a plugin provides is a sink, is made
again. Main statement: `one_channel_per_run`.
-/

namespace JuliaBlocks

variable {σ : Type}

def Occurrence.closed? : Occurrence → Option Channel
  | .closed channel => some channel
  | _ => none

/-- Whether there is anything to close about a channel. -/
def Channel.isClosable : Channel → Bool
  | .plugin _ closable => closable
  | .pool => true

namespace Framework

/-- Whether a step cannot do without a channel. -/
def Step.needsChannel : Step σ → Bool
  | .sink | .evaluate _ | .loadSession _ | .prepSession _ _ => true
  | .register _ | .load _ | .report | .close => false

/-- What is asked of a framework or of its hooks: a step, or a call of a hook for its own sake. -/
inductive Act (σ : Type)
  | step (step : Step σ)
  | callFirst (hook : Hook) (arguments : Arguments)
  | callMany (hook : Hook) (arguments : Arguments)

namespace Act

def needsChannel : Act σ → Bool
  | step s => s.needsChannel
  | _ => false

def isStep : Act σ → Bool
  | step _ => true
  | _ => false

def isClose : Act σ → Bool
  | step .close => true
  | _ => false

/-- The implementations that an act may register. -/
def brought : Act σ → List (Implementation σ)
  | step s => s.brought
  | _ => []

/-- Does what is asked. A call of a hook changes nothing but the state. -/
def take (sinks : Channel → Sink σ) (shut : Channel → Run σ → Run σ) (act : Act σ)
    (framework : Framework σ) : Framework σ :=
  match act with
  | step s => (s.take sinks shut framework).2
  | callFirst hook arguments =>
    framework.heed (framework.registry.callFirst hook arguments framework.run.state).2
  | callMany hook arguments =>
    framework.heed (framework.registry.callMany hook arguments framework.run.state).2

/-- What an act adds to the history. -/
def added (sinks : Channel → Sink σ) (shut : Channel → Run σ → Run σ) (act : Act σ)
    (framework : Framework σ) : List Occurrence :=
  (act.take sinks shut framework).history.drop framework.history.length

end Act

/-- Does what is asked in order. -/
def runActs (sinks : Channel → Sink σ) (shut : Channel → Run σ → Run σ) (acts : List (Act σ))
    (framework : Framework σ) : Framework σ :=
  acts.foldl (fun framework act => act.take sinks shut framework) framework

/-- The runs of providers that the choice of a channel takes: in the order of precedence, each at
most once, and none behind the first that answers. -/
def consultation (framework : Framework σ) : List HookEvent :=
  Registry.runsOf framework.wish (framework.registry.turnedTo framework.wish
    (framework.registry.running .provideSessionSink) framework.run.state)

/-- Whether the transport, if there is one, was made for the channel. -/
def Linked (framework : Framework σ) : Prop :=
  ∀ channel, framework.transport = some channel → framework.channel = some channel

/-- What the choice of a channel shows: the call that asks for a sink, unless it was made before. -/
def choiceEvents (framework : Framework σ) : List HookEvent :=
  match framework.channel with
  | some _ => []
  | none => framework.asked.2.events

section Choice

variable (framework : Framework σ)

theorem choose_channel : framework.choose.2.channel = framework.choose.1.toOption := by
  cases hchannel : framework.channel with
  | some channel => rw [choose_eq_of_set hchannel, hchannel, Except.toOption]
  | none => rw [choose_eq_of_unset hchannel]

theorem choose_transport : framework.choose.2.transport = framework.transport := by
  cases hchannel : framework.channel with
  | some channel => rw [choose_eq_of_set hchannel]
  | none =>
      rw [choose_eq_of_unset hchannel]
      rfl

theorem choose_history :
    framework.choose.2.history = framework.history ++ framework.choiceEvents.map .hook := by
  cases hchannel : framework.channel with
  | some channel =>
      rw [choose_eq_of_set hchannel, choiceEvents, hchannel, List.map_nil, List.append_nil]
  | none =>
      rw [choose_eq_of_unset hchannel, choiceEvents, hchannel]
      rfl

theorem choiceEvents_runs :
    framework.choiceEvents.filter (·.runs .provideSessionSink) =
      if framework.channel = none then framework.consultation else [] := by
  unfold choiceEvents
  cases framework.channel with
  | some channel => rfl
  | none =>
      rw [if_pos rfl]
      exact framework.registry.callFirst_runs (by decide) _ _

variable {framework}

/-- What works on the transport works on the channel that is chosen. -/
theorem connect_of_linked (hlinked : framework.Linked) : framework.connect =
    (framework.choose.1,
      { framework.choose.2 with transport := framework.choose.1.toOption }) := by
  rw [connect_eq]
  cases htransport : framework.transport with
  | none => rfl
  | some channel =>
      have hkept : framework = { framework with transport := some channel } := by
        rw [← htransport]
      rw [choose_eq_of_set (hlinked channel htransport)]
      exact congrArg _ hkept

theorem Linked.choose (hlinked : framework.Linked) : framework.choose.2.Linked := by
  intro channel htransport
  rw [choose_transport] at htransport
  rwa [choose_eq_of_set (hlinked channel htransport), hlinked]

end Choice

/-- What an act does about the channel, and what it adds to the history. -/
structure Act.Effect (act : Act σ) (framework after : Framework σ) (added : List Occurrence) :
    Prop where
  history : after.history = framework.history ++ added
  channel : after.channel =
    if act.needsChannel then framework.choose.1.toOption else framework.channel
  linked : after.Linked
  consulted : act.isStep → added.filterMap (·.run? .provideSessionSink) =
    if act.needsChannel ∧ framework.channel = none then framework.consultation else []
  sent : ∀ sent ∈ added.filterMap (·.sent?),
    act.needsChannel ∧ framework.choose.1 = .ok sent.1
  closed : added.filterMap (·.closed?) =
    if act.isClose then framework.channel.toList.filter (·.isClosable) else []

section Effects

variable (sinks : Channel → Sink σ) (shut : Channel → Run σ → Run σ) {framework : Framework σ}

theorem filterMap_hook {α : Type} {f : Occurrence → Option α} {events : List HookEvent}
    (hnone : ∀ event, f (.hook event) = none) : (events.map .hook).filterMap f = [] := by
  rw [List.filterMap_map, List.filterMap_eq_nil_iff]
  intro event _
  exact hnone event

theorem filterMap_run?_hook (hook : Hook) (events : List HookEvent) :
    (events.map .hook).filterMap (Occurrence.run? hook) = events.filter (·.runs hook) := by
  rw [List.filterMap_map, ← List.filterMap_eq_filter]
  rfl

/-- What happens on the transport of the channel that a framework chooses, if it chooses one. -/
def OnChosen (framework : Framework σ) (worked : List Occurrence) : Prop :=
  ∀ occurrence ∈ worked,
    ∃ channel event, framework.choose.1 = .ok channel ∧ occurrence = .transport channel event

theorem OnChosen.filterMap_eq_nil {α : Type} {f : Occurrence → Option α}
    {worked : List Occurrence} (hworked : framework.OnChosen worked)
    (hnone : ∀ channel event, f (.transport channel event) = none) : worked.filterMap f = [] := by
  rw [List.filterMap_eq_nil_iff]
  intro occurrence hmem
  obtain ⟨channel, event, _, rfl⟩ := hworked occurrence hmem
  exact hnone channel event

/-- An act that needs the channel chooses it, if that was not done, and works on it. -/
theorem Act.Effect.of_working {s : Step σ} (hneeds : s.needsChannel = true)
    {after : Framework σ} {worked : List Occurrence} (hworked : framework.OnChosen worked)
    (told : List HookEvent)
    (hchannel : after.channel = framework.choose.1.toOption) (hlinked : after.Linked)
    (hhistory : after.history = framework.choose.2.history ++ (worked ++ told.map .hook))
    (htold : told.filter (·.runs .provideSessionSink) = []) :
    (Act.step s).Effect framework after
      (framework.choiceEvents.map .hook ++ (worked ++ told.map .hook)) where
  history := by rw [hhistory, choose_history, List.append_assoc]
  channel := by
    have hact : (Act.step s).needsChannel = true := hneeds
    rw [hchannel, hact, if_pos rfl]
  linked := hlinked
  consulted := by
    intro _
    have hact : (Act.step s).needsChannel = true := hneeds
    rw [List.filterMap_append, List.filterMap_append,
      hworked.filterMap_eq_nil fun _ _ => rfl, filterMap_run?_hook, filterMap_run?_hook, htold,
      choiceEvents_runs]
    simp [hact]
  sent := by
    intro sent hsent
    have hact : (Act.step s).needsChannel = true := hneeds
    rw [List.filterMap_append, List.filterMap_append, filterMap_hook fun _ => rfl,
      filterMap_hook fun _ => rfl, List.nil_append, List.append_nil] at hsent
    obtain ⟨occurrence, hmem, hsent⟩ := List.mem_filterMap.mp hsent
    obtain ⟨channel, event, hchosen, rfl⟩ := hworked occurrence hmem
    refine ⟨hact, ?_⟩
    cases event with
    | sent session message =>
        cases hsent
        exact hchosen
    | created | slept | logged | observed => cases hsent
  closed := by
    have hopen : (Act.step s).isClose = false := by
      cases s with
      | close => cases hneeds
      | _ => rfl
    rw [List.filterMap_append, List.filterMap_append,
      hworked.filterMap_eq_nil fun _ _ => rfl, filterMap_hook fun _ => rfl,
      filterMap_hook fun _ => rfl, hopen]
    rfl

/-- An act that needs no channel leaves it as it is, and of the occurrences that matter it adds at
most the closing of the channel. -/
theorem Act.Effect.of_idle (act : Act σ) (hidle : act.needsChannel = false)
    (hlinked : framework.Linked) {after : Framework σ} {added : List Occurrence}
    (hchannel : after.channel = framework.channel)
    (htransport : after.transport = framework.transport)
    (hhistory : after.history = framework.history ++ added)
    (hconsulted : act.isStep → added.filterMap (·.run? .provideSessionSink) = [])
    (hsent : added.filterMap (·.sent?) = [])
    (hclosed : added.filterMap (·.closed?) =
      if act.isClose then framework.channel.toList.filter (·.isClosable) else []) :
    act.Effect framework after added where
  history := hhistory
  channel := by rw [hchannel, hidle, if_neg Bool.false_ne_true]
  linked := by
    intro channel hset
    rw [hchannel]
    exact hlinked channel (htransport.symm.trans hset)
  consulted := by
    intro hstep
    rw [hconsulted hstep, hidle]
    simp
  sent := by
    rw [hsent]
    intro sent hmem
    cases hmem
  closed := hclosed

/-- An operation works on the channel that is chosen, or on none if that fails, and tells failures
to observers of failures only. -/
theorem operate_working {α : Type} (hlinked : framework.Linked) (stage : String)
    (operation : Sink σ → Run σ → Except Failure α × Run σ) :
    let after := (framework.operate sinks stage operation).2
    after.channel = framework.choose.1.toOption ∧ after.transport = framework.choose.1.toOption ∧
    ∃ worked, ∃ told : List HookEvent, framework.OnChosen worked ∧
      told.filter (·.runs .provideSessionSink) = [] ∧
      after.history = framework.choose.2.history ++ (worked ++ told.map .hook) := by
  intro after
  have hchannel := framework.choose_channel
  have hconnect := connect_of_linked hlinked
  have hother : Hook.provideSessionSink ≠ .onError := by decide
  rcases hchosen : framework.choose with ⟨failure | channel, between⟩
  · rw [hchosen] at hconnect hchannel
    have hafter := operate_eq_of_error sinks stage operation hconnect
    obtain ⟨told, htold, hhistory⟩ := tell_history
      { between with transport := none } hother stage (.error failure : Except Failure α)
    simp only [after, hafter]
    exact ⟨hchannel, rfl, [], told, by simp [OnChosen], htold, hhistory⟩
  · rw [hchosen] at hconnect hchannel
    have hafter := operate_eq_of_ok sinks stage operation hconnect
    dsimp only at hafter
    generalize operation (sinks channel) { between.run with events := #[] } = worked at hafter
    have honChosen : framework.OnChosen (worked.2.events.toList.map (.transport channel)) := by
      intro occurrence hmem
      obtain ⟨event, _, rfl⟩ := List.mem_map.mp hmem
      exact ⟨channel, event, by rw [hchosen], rfl⟩
    obtain ⟨told, htold, hhistory⟩ := tell_history
      (follow { between with transport := some channel } channel worked.2) hother stage worked.1
    simp only [after, hafter]
    refine ⟨(tell_channel _ stage _).trans hchannel, tell_transport _ stage _, _, told, honChosen,
      htold, ?_⟩
    rw [← List.append_assoc]
    exact hhistory

/-- What follows on an operation may tell plugins of it. -/
theorem operate_effect {α : Type} (hlinked : framework.Linked) {s : Step σ}
    (hneeds : s.needsChannel = true) (stage : String)
    (operation : Sink σ → Run σ → Except Failure α × Run σ) {after : Framework σ}
    (more : List HookEvent)
    (hchannel : after.channel = (framework.operate sinks stage operation).2.channel)
    (htransport : after.transport = (framework.operate sinks stage operation).2.transport)
    (hhistory : after.history =
      (framework.operate sinks stage operation).2.history ++ more.map .hook)
    (hmore : more.filter (·.runs .provideSessionSink) = []) :
    ∃ added, (Act.step s).Effect framework after added := by
  obtain ⟨hchosen, hmade, worked, told, hworked, htold, hadded⟩ :=
    operate_working sinks hlinked stage operation
  rw [hchosen] at hchannel
  rw [hmade] at htransport
  refine ⟨_, Act.Effect.of_working hneeds hworked (told ++ more) hchannel ?_ ?_ ?_⟩
  · intro channel hset
    rwa [hchannel, ← htransport]
  · rw [hhistory, hadded, List.map_append, List.append_assoc, List.append_assoc]
  · rw [List.filter_append, htold, hmore, List.append_nil]

theorem close_effect (hlinked : framework.Linked) :
    ∃ added, (Act.step .close).Effect framework (framework.close shut) added := by
  have hclosed (channel : Channel) : [Occurrence.closed channel].filterMap (·.closed?) = [channel] :=
    rfl
  unfold close
  split
  · next hnone =>
    refine ⟨[], Act.Effect.of_idle _ rfl hlinked rfl rfl (List.append_nil _).symm (fun _ => rfl)
      rfl ?_⟩
    rw [hnone]
    rfl
  · next name hplugin =>
    refine ⟨[], Act.Effect.of_idle _ rfl hlinked rfl rfl (List.append_nil _).symm (fun _ => rfl)
      rfl ?_⟩
    rw [hplugin]
    rfl
  · next channel hfixed hchannel =>
    refine ⟨[.closed channel], Act.Effect.of_idle _ rfl hlinked rfl rfl rfl (fun _ => rfl) rfl ?_⟩
    have hclosable : channel.isClosable = true := by
      cases channel with
      | pool => rfl
      | plugin name closable =>
          cases closable with
          | true => rfl
          | false => exact (hfixed name rfl).elim
    rw [hchannel]
    simp [Act.isClose, hclosable, hclosed]

/-- What any act does about the channel. -/
theorem Act.take_effect (act : Act σ) (hlinked : framework.Linked) :
    ∃ added, act.Effect framework (act.take sinks shut framework) added := by
  have hcall {act : Act σ} (hidle : act.needsChannel = false) (hopen : act.isClose = false)
      (hcall : act.isStep = false) (after : Aftermath σ) :
      ∃ added, act.Effect framework (framework.heed after) added := by
    refine ⟨after.events.map .hook, Act.Effect.of_idle act hidle hlinked rfl rfl rfl ?_ ?_ ?_⟩
    · rw [hcall]
      intro hstep
      cases hstep
    · exact filterMap_hook fun _ => rfl
    · rw [hopen]
      exact filterMap_hook fun _ => rfl
  cases act with
  | callFirst hook arguments => exact hcall rfl rfl rfl _
  | callMany hook arguments => exact hcall rfl rfl rfl _
  | step s =>
      cases s with
      | register plugin =>
          exact ⟨[], Act.Effect.of_idle _ rfl hlinked rfl rfl (List.append_nil _).symm
            (fun _ => rfl) rfl rfl⟩
      | load advertised =>
          obtain ⟨level, message, hloaded⟩ := framework.loadPlugins_spec advertised
          rw [take, Step.take, Prod.map_snd, hloaded]
          exact ⟨_, Act.Effect.of_idle _ rfl hlinked rfl rfl rfl (fun _ => rfl) rfl rfl⟩
      | report =>
          exact ⟨[], Act.Effect.of_idle _ rfl hlinked rfl rfl (List.append_nil _).symm
            (fun _ => rfl) rfl rfl⟩
      | close => exact close_effect shut hlinked
      | sink =>
          have hnothing : framework.OnChosen [] := by simp [OnChosen]
          exact ⟨_, Act.Effect.of_working rfl hnothing [] framework.choose_channel hlinked.choose
            (List.append_nil _).symm rfl⟩
      | loadSession request =>
          refine operate_effect sinks hlinked rfl "load_session"
            (fun sink run => Transport.loadSession sink framework.settings request run) [] rfl rfl
            ?_ rfl
          exact (List.append_nil _).symm
      | prepSession key bindings =>
          refine operate_effect sinks hlinked rfl "prep_session"
            (fun sink run => Transport.prepSession sink framework.settings key bindings run) []
            rfl rfl ?_ rfl
          exact (List.append_nil _).symm
      | evaluate request =>
          rw [take, Step.take, Prod.map_snd, evaluate_eq]
          generalize hworked : framework.operate sinks "evaluate"
            (fun sink run => Transport.perform sink framework.settings request run) = worked
          have hoperated {after : Framework σ} (more : List HookEvent)
              (hchannel : after.channel = worked.2.channel)
              (htransport : after.transport = worked.2.transport)
              (hhistory : after.history = worked.2.history ++ more.map .hook)
              (hmore : more.filter (·.runs .provideSessionSink) = []) :
              ∃ added, (step (.evaluate request)).Effect framework after added := by
            subst hworked
            exact operate_effect sinks hlinked rfl "evaluate" _ more hchannel htransport hhistory
              hmore
          obtain ⟨failure | result, between⟩ := worked
          · exact hoperated [] rfl rfl (List.append_nil _).symm rfl
          · exact hoperated _ rfl rfl rfl
              (Registry.callMany_runs_of_ne _ (by decide) (by decide) _ _)

/-- The occurrences that an act adds are those of its effect. -/
theorem Act.added_effect (act : Act σ) (hlinked : framework.Linked) :
    act.Effect framework (act.take sinks shut framework) (act.added sinks shut framework) := by
  have heffect : ∃ added, act.Effect framework _ added := act.take_effect sinks shut hlinked
  obtain ⟨added, heffect⟩ := heffect
  have hadded : act.added sinks shut framework = added := by
    rw [Act.added, heffect.history, List.drop_left]
  rwa [hadded]

theorem Act.take_linked (act : Act σ) (hlinked : framework.Linked) :
    (act.take sinks shut framework).Linked :=
  (act.added_effect sinks shut hlinked).linked

end Effects

section Runs

variable (sinks : Channel → Sink σ) (shut : Channel → Run σ → Run σ)

section Others

variable {sinks others : Channel → Sink σ} {shut shuts : Channel → Run σ → Run σ}
  {framework : Framework σ}

end Others

/-! Choices that do not fail. -/

section Legibility

theorem Act.mem_take {act : Act σ} {framework : Framework σ} {impl : Implementation σ}
    (hmem : impl ∈ (act.take sinks shut framework).registry.implementations) :
    impl ∈ framework.registry.implementations ∨ impl ∈ act.brought := by
  cases act with
  | step s => exact (s.mem_take sinks shut hmem).imp_right (·.1)
  | callFirst hook arguments => exact Or.inl hmem
  | callMany hook arguments => exact Or.inl hmem

end Legibility

end Runs

/-- A plugin that only provides a sink, in its own way. -/
def provider (name : String) (response : Except Failure Product) : Plugin Unit where
  name
  implementations := [
    { plugin := name, hook := .provideSessionSink, declared := ["settings"]
      respond := fun _ state => (response, state) }]

/-- A session side that takes everything, or nothing. -/
def accepting (fault : Option Failure) : Sink Unit where
  send state _ _ _ := { state, fault }
  pause state _ _ := { state }

/-- A provider is asked again if it cannot be told whether what it returned is a sink. -/
example :
    let acts : List (Act Unit) := [
      .step (.register (provider "odd" (.ok (.brittle .spentToken)))), .step .sink, .step .sink]
    (runActs (fun _ => accepting none) (fun _ run => run) acts
      { settings := .usual, run := { state := (), files := {} } }).hookRuns .provideSessionSink =
      [.called "odd" .provideSessionSink [("settings", .settings .usual)],
        .called "odd" .provideSessionSink [("settings", .settings .usual)]] := by
  rfl

end Framework

end JuliaBlocks
