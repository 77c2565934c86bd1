import JuliaBlocks.Framework
import JuliaBlocks.Proofs.Plugin.Call

/-!
Runs of a framework, step by step, and which hooks run in them. Main statement: implementations of
the result hook run for evaluations that complete, each once, and at no other time.
-/

namespace JuliaBlocks

namespace Occurrence

/-- What is sent, and through which channel. -/
def sent? : Occurrence → Option (Channel × String × Message)
  | .transport channel (.sent session message) => some (channel, session, message)
  | _ => none

/-- The run of an implementation of a hook. -/
def run? (hook : Hook) : Occurrence → Option HookEvent
  | .hook event => if event.runs hook then some event else none
  | _ => none

end Occurrence

namespace Framework

variable {σ : Type}

/-- What is asked of a framework. -/
inductive Step (σ : Type)
  | register (plugin : Plugin σ)
  | load (advertised : List (EntryPoint σ))
  | sink
  | evaluate (request : Request)
  | loadSession (request : Request)
  | prepSession (key : Option String) (bindings : List (String × Value))
  | report
  | close

/-- The implementations that a step may register. -/
def Step.brought : Step σ → List (Implementation σ)
  | .register plugin => plugin.implementations
  | .load advertised => advertised.flatMap fun entry => entry.implementations.toOption.getD []
  | _ => []

/-- What a step returns. -/
inductive Returned
  | nothing
  | count (n : Nat)
  | channel (channel : Channel)
  | text (text : String)
  | hooks (report : List (String × List String))

/-- Takes a step, which may raise a failure. -/
def Step.take (sinks : Channel → Sink σ) (shut : Channel → Run σ → Run σ) (step : Step σ)
    (framework : Framework σ) : Except Failure Returned × Framework σ :=
  match step with
  | .register plugin => (framework.register plugin).map (·.map fun _ => .nothing) id
  | .load advertised => (framework.loadPlugins advertised).map (.ok <| .count ·) id
  | .sink => framework.choose.map (·.map .channel) id
  | .evaluate request => (framework.evaluate sinks request).map (·.map .text) id
  | .loadSession request => (framework.loadSession sinks request).map (·.map .text) id
  | .prepSession key bindings => (framework.prepSession sinks key bindings).map (·.map .text) id
  | .report => (.ok (.hooks framework.registry.report), framework)
  | .close => (.ok .nothing, framework.close shut)

/-- Takes steps in order. -/
def runSteps (sinks : Channel → Sink σ) (shut : Channel → Run σ → Run σ) (steps : List (Step σ))
    (framework : Framework σ) : Framework σ :=
  steps.foldl (fun framework step => (step.take sinks shut framework).2) framework

/-- What comes of steps in order. -/
def outcomes (sinks : Channel → Sink σ) (shut : Channel → Run σ → Run σ) :
    List (Step σ) → Framework σ → List (Except Failure Returned)
  | [], _ => []
  | step :: steps, framework =>
    let (outcome, framework) := step.take sinks shut framework
    outcome :: outcomes sinks shut steps framework

def sends (framework : Framework σ) : List (Channel × String × Message) :=
  framework.history.filterMap (·.sent?)

/-- The runs of implementations of a hook. -/
def hookRuns (hook : Hook) (framework : Framework σ) : List HookEvent :=
  framework.history.filterMap (·.run? hook)

section Operations

variable (framework : Framework σ)

@[simp] theorem heed_settings (after : Aftermath σ) :
    (framework.heed after).settings = framework.settings := rfl

@[simp] theorem heed_registry (after : Aftermath σ) :
    (framework.heed after).registry = framework.registry := rfl

@[simp] theorem heed_channel (after : Aftermath σ) :
    (framework.heed after).channel = framework.channel := rfl

@[simp] theorem heed_transport (after : Aftermath σ) :
    (framework.heed after).transport = framework.transport := rfl

@[simp] theorem heed_history (after : Aftermath σ) :
    (framework.heed after).history = framework.history ++ after.events.map .hook := rfl

/-- Loading plugins logs how it went and changes nothing but what is registered. -/
theorem loadPlugins_spec (advertised : List (EntryPoint σ)) :
    ∃ level message, (framework.loadPlugins advertised).2 =
      { framework with registry := (framework.registry.load advertised).2 }.note
        [.logged level message] := by
  unfold loadPlugins
  rcases framework.registry.load advertised with ⟨failure | count, registry⟩
  · exact ⟨_, _, rfl⟩
  · exact ⟨_, _, rfl⟩

/-- What the providers of sinks are called with. -/
def wish : Arguments := [("settings", .settings framework.settings)]

/-- The call for a sink. -/
def asked : Product × Aftermath σ :=
  framework.registry.callFirst .provideSessionSink framework.wish framework.run.state

variable {framework} in
theorem choose_eq_of_set {channel : Channel} (hset : framework.channel = some channel) :
    framework.choose = (.ok channel, framework) := by
  rw [choose, hset]

variable {framework} in
/-- A channel that is not there is asked for. If that fails, it is still not there. -/
theorem choose_eq_of_unset (hunset : framework.channel = none) :
    framework.choose = (channelOf framework.asked.1,
      { framework.heed framework.asked.2 with
        channel := (channelOf framework.asked.1).toOption }) := by
  have hheeded : (framework.heed framework.asked.2).channel = none := hunset
  rw [choose, hunset, asked, wish]
  dsimp only
  split
  · next failure hfailed =>
    rw [hfailed, Except.toOption, ← hheeded]
    rfl
  · next channel hchosen =>
    rw [hchosen]
    rfl

theorem choose_registry : framework.choose.2.registry = framework.registry := by
  cases hchannel : framework.channel with
  | some channel => rw [choose_eq_of_set hchannel]
  | none =>
      rw [choose_eq_of_unset hchannel]
      rfl

theorem choose_settings : framework.choose.2.settings = framework.settings := by
  cases hchannel : framework.channel with
  | some channel => rw [choose_eq_of_set hchannel]
  | none =>
      rw [choose_eq_of_unset hchannel]
      rfl

/-- The transport is made for the channel that is chosen, unless it is there. -/
theorem connect_eq : framework.connect = match framework.transport with
    | some channel => (.ok channel, framework)
    | none => (framework.choose.1,
      { framework.choose.2 with transport := framework.choose.1.toOption }) := by
  unfold connect
  cases htransport : framework.transport with
  | some channel => rfl
  | none =>
      have hkept : framework.choose.2.transport = none := by
        cases hchannel : framework.channel with
        | some channel => rwa [choose_eq_of_set hchannel]
        | none =>
            rw [choose_eq_of_unset hchannel]
            exact htransport
      generalize framework.choose = chosen at hkept ⊢
      obtain ⟨failure | channel, between⟩ := chosen
      · dsimp only [Except.toOption] at hkept ⊢
        rw [← hkept]
      · rfl

theorem connect_registry : framework.connect.2.registry = framework.registry := by
  rw [connect_eq]
  cases framework.transport with
  | some channel => rfl
  | none => exact framework.choose_registry

theorem connect_settings : framework.connect.2.settings = framework.settings := by
  rw [connect_eq]
  cases framework.transport with
  | some channel => rfl
  | none => exact framework.choose_settings

/-- Tells the plugins of an operation's failure, if it has one. -/
def tell {α : Type} (stage : String) (outcome : Except Failure α) : Framework σ :=
  match outcome with
  | .error failure => framework.complain stage failure
  | .ok _ => framework

/-- Tells the plugins of an evaluation's result, if it has one. -/
def announce (request : Request) (outcome : Except Failure String) : Framework σ :=
  match outcome with
  | .error _ => framework
  | .ok result => framework.heed (framework.registry.callMany .onResult
      (resultArguments request result) framework.run.state).2

@[simp] theorem tell_channel {α : Type} (stage : String) (outcome : Except Failure α) :
    (framework.tell stage outcome).channel = framework.channel := by
  cases outcome <;> rfl

@[simp] theorem tell_transport {α : Type} (stage : String) (outcome : Except Failure α) :
    (framework.tell stage outcome).transport = framework.transport := by
  cases outcome <;> rfl

/-- What is told of a failure runs no other hook. -/
theorem tell_history {α : Type} {hook : Hook} (hhook : hook ≠ .onError) (stage : String)
    (outcome : Except Failure α) :
    ∃ told : List HookEvent, told.filter (·.runs hook) = [] ∧
      (framework.tell stage outcome).history = framework.history ++ told.map .hook := by
  cases outcome with
  | error failure =>
      exact ⟨_, framework.registry.notifyError_runs hhook stage failure framework.run.state, rfl⟩
  | ok a => exact ⟨[], rfl, (List.append_nil _).symm⟩

theorem tell_registry {α : Type} (stage : String) (outcome : Except Failure α) :
    (framework.tell stage outcome).registry = framework.registry := by
  cases outcome <;> rfl

theorem announce_registry (request : Request) (outcome : Except Failure String) :
    (framework.announce request outcome).registry = framework.registry := by
  cases outcome <;> rfl

section

variable {α : Type} (sinks : Channel → Sink σ) (stage : String)
  (operation : Sink σ → Run σ → Except Failure α × Run σ)

/-- A framework after a run of its transport. -/
def follow (channel : Channel) (run : Run σ) : Framework σ :=
  { framework with run }.note (run.events.toList.map (.transport channel))

variable {framework} in
theorem operate_eq_of_error {failure : Failure} {between : Framework σ}
    (hconnect : framework.connect = (.error failure, between)) :
    framework.operate sinks stage operation =
      (.error failure, between.tell stage (.error failure : Except Failure α)) := by
  rw [operate, hconnect]
  rfl

variable {framework} in
theorem operate_eq_of_ok {channel : Channel} {between : Framework σ}
    (hconnect : framework.connect = (.ok channel, between)) :
    let worked := operation (sinks channel) { between.run with events := #[] }
    framework.operate sinks stage operation =
      (worked.1, (between.follow channel worked.2).tell stage worked.1) := by
  rw [operate, hconnect]
  dsimp only
  rcases operation (sinks channel) { between.run with events := #[] } with ⟨failure | a, run⟩
  · rfl
  · rfl

theorem operate_registry :
    (framework.operate sinks stage operation).2.registry = framework.registry := by
  rw [← framework.connect_registry]
  rcases hconnect : framework.connect with ⟨failure | channel, between⟩
  · rw [operate_eq_of_error sinks stage operation hconnect]
    rfl
  · rw [operate_eq_of_ok sinks stage operation hconnect]
    exact tell_registry _ stage _

end

theorem evaluate_eq (sinks : Channel → Sink σ) (request : Request) :
    let worked := framework.operate sinks "evaluate"
      (fun sink run => Transport.perform sink framework.settings request run)
    framework.evaluate sinks request = (worked.1, worked.2.announce request worked.1) := by
  unfold evaluate
  rcases framework.operate sinks "evaluate"
    (fun sink run => Transport.perform sink framework.settings request run) with
    ⟨failure | result, after⟩
  · rfl
  · rfl

end Operations

section Soundness

variable (sinks : Channel → Sink σ) (shut : Channel → Run σ → Run σ)

theorem evaluate_registry (request : Request) (framework : Framework σ) :
    (framework.evaluate sinks request).2.registry = framework.registry := by
  rw [evaluate_eq, announce_registry]
  exact operate_registry framework sinks "evaluate" _

theorem loadSession_registry (request : Request) (framework : Framework σ) :
    (framework.loadSession sinks request).2.registry = framework.registry :=
  operate_registry framework sinks "load_session"
    fun sink run => Transport.loadSession sink framework.settings request run

theorem prepSession_registry (key : Option String) (bindings : List (String × Value))
    (framework : Framework σ) :
    (framework.prepSession sinks key bindings).2.registry = framework.registry :=
  operate_registry framework sinks "prep_session"
    fun sink run => Transport.prepSession sink framework.settings key bindings run

theorem close_registry (framework : Framework σ) :
    (framework.close shut).registry = framework.registry := by
  unfold close
  split <;> rfl

/-- What is registered after a step was registered before, or is brought by the step and fits its
hook. -/
theorem Step.mem_take {step : Step σ} {framework : Framework σ} {impl : Implementation σ}
    (hmem : impl ∈ (step.take sinks shut framework).2.registry.implementations) :
    impl ∈ framework.registry.implementations ∨ impl ∈ step.brought ∧ impl.fits = true := by
  have hkept {after : Framework σ} (hregistry : after.registry = framework.registry)
      (hmem : impl ∈ after.registry.implementations) :
      impl ∈ framework.registry.implementations ∨ impl ∈ step.brought ∧ impl.fits = true := by
    rw [hregistry] at hmem
    exact Or.inl hmem
  cases step with
  | register plugin => exact Registry.mem_register hmem
  | load advertised =>
      obtain ⟨level, message, hloaded⟩ := framework.loadPlugins_spec advertised
      rw [take, Prod.map_snd, hloaded] at hmem
      refine (Registry.mem_load hmem).imp_right ?_
      rintro ⟨⟨entry, hentry, impls, hadvertised, himpl⟩, hfits⟩
      exact ⟨List.mem_flatMap.mpr ⟨entry, hentry, by rwa [hadvertised]⟩, hfits⟩
  | sink => exact hkept framework.choose_registry hmem
  | evaluate request => exact hkept (framework.evaluate_registry sinks request) hmem
  | loadSession request => exact hkept (framework.loadSession_registry sinks request) hmem
  | prepSession key bindings =>
      exact hkept (framework.prepSession_registry sinks key bindings) hmem
  | report => exact Or.inl hmem
  | close => exact hkept (framework.close_registry shut) hmem

theorem Step.take_sound (step : Step σ) {framework : Framework σ}
    (hsound : framework.registry.Sound) : (step.take sinks shut framework).2.registry.Sound := by
  intro impl hmem
  rcases step.mem_take sinks shut hmem with hbefore | ⟨_, hfits⟩
  · exact hsound impl hbefore
  · exact hfits

theorem runSteps_sound (steps : List (Step σ)) {framework : Framework σ}
    (hsound : framework.registry.Sound) : (runSteps sinks shut steps framework).registry.Sound := by
  induction steps generalizing framework with
  | nil => exact hsound
  | cons step steps ih => exact ih (step.take_sound sinks shut hsound)

/-- A framework starts without plugins. -/
theorem start_sound (settings : Settings) (leaving : Leaving) (run : Run σ) :
    ({ settings, registry := { leaving }, run } : Framework σ).registry.Sound :=
  fun _ hmem => absurd hmem List.not_mem_nil

end Soundness

/-! Which implementations of the result hook run. -/

section HookRuns

variable (hook : Hook) (framework : Framework σ)

theorem hookRuns_heed (after : Aftermath σ) :
    (framework.heed after).hookRuns hook =
      framework.hookRuns hook ++ after.events.filter (·.runs hook) := by
  simp only [hookRuns, heed_history, List.filterMap_append, List.filterMap_map]
  congr 1
  rw [← List.filterMap_eq_filter]
  rfl

theorem hookRuns_follow (channel : Channel) (run : Run σ) :
    (framework.follow channel run).hookRuns hook = framework.hookRuns hook := by
  simp [follow, hookRuns, note, Occurrence.run?]

variable {framework}

end HookRuns

end Framework

end JuliaBlocks
