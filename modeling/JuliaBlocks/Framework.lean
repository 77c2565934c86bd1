import JuliaBlocks.Plugin.Call
import JuliaBlocks.Transport

/-!
The framework: it evaluates requests through the sink that a plugin provides, or through the pool
of processes if none does, and tells plugins of results and failures.
-/

namespace JuliaBlocks

/-- Where text for sessions goes: to the sink of a plugin, or to the pool of processes. -/
inductive Channel
  | plugin (name : String) (closable : Bool)
  | pool
deriving DecidableEq

/-- What can be seen of a framework at work. -/
inductive Occurrence
  | hook (event : HookEvent)
  | logged (level : Level) (message : String)
  | transport (channel : Channel) (event : Event)
  | closed (channel : Channel)

/-- A framework with its registered plugins, the channel it chose once it needed one, the channel
that its transport was made for once that was needed, and the state it shares with the plugins and
sessions. -/
structure Framework (σ : Type) where
  settings : Settings
  registry : Registry σ := {}
  channel : Option Channel := none
  transport : Option Channel := none
  run : Run σ
  history : List Occurrence := []

namespace Framework

variable {σ : Type}

def note (framework : Framework σ) (occurrences : List Occurrence) : Framework σ :=
  { framework with history := framework.history ++ occurrences }

/-- Goes on with what calls of implementations leave behind. -/
def heed (framework : Framework σ) (after : Aftermath σ) : Framework σ :=
  { framework with run := { framework.run with state := after.state } }.note
    (after.events.map .hook)

def register (framework : Framework σ) (plugin : Plugin σ) :
    Except Failure Unit × Framework σ :=
  let (outcome, registry) := framework.registry.register plugin
  (outcome, { framework with registry })

/-- Registers the plugins that are advertised and returns how many they are. If one of them fails,
those before it stay registered, the rest are left out and nothing is counted. -/
def loadPlugins (framework : Framework σ) (advertised : List (EntryPoint σ)) :
    Nat × Framework σ :=
  let (outcome, registry) := framework.registry.load advertised
  let framework := { framework with registry }
  match outcome with
  | .error _ =>
    (0, framework.note [.logged .warning "plugin.load_failed group=babel_julia"])
  | .ok count =>
    (count, framework.note [.logged .debug
      ("plugin.loaded group=babel_julia count=" ++ Numeral.render count)])

/-- The channel for what the plugins provide: anything but a sink means the pool, unless it cannot
be told whether it is one. -/
def channelOf : Product → Except Failure Channel
  | .sink plugin closable => .ok (.plugin plugin closable)
  | .brittle failure => .error failure
  | _ => .ok .pool

/-- The channel, chosen when it is first needed and then kept. A choice that fails is none, so that
the plugins are asked again. -/
def choose (framework : Framework σ) : Except Failure Channel × Framework σ :=
  match framework.channel with
  | some channel => (.ok channel, framework)
  | none =>
    let (product, after) := framework.registry.callFirst .provideSessionSink
      [("settings", .settings framework.settings)] framework.run.state
    let framework := framework.heed after
    match channelOf product with
    | .error failure => (.error failure, framework)
    | .ok channel => (.ok channel, { framework with channel := some channel })

/-- The channel of the transport, which is made for the chosen one when it is first needed and then
kept. -/
def connect (framework : Framework σ) : Except Failure Channel × Framework σ :=
  match framework.transport with
  | some channel => (.ok channel, framework)
  | none =>
    match framework.choose with
    | (.error failure, framework) => (.error failure, framework)
    | (.ok channel, framework) => (.ok channel, { framework with transport := some channel })

/-- Tells the plugins of a failure at a stage. -/
def complain (framework : Framework σ) (stage : String) (failure : Failure) : Framework σ :=
  framework.heed (framework.registry.notifyError stage failure framework.run.state)

/-- Runs an operation of the transport on its channel. A failure, be it to have a channel, is told to
the plugins with the name of the operation, and remains a failure. -/
def operate {α : Type} (sinks : Channel → Sink σ) (stage : String)
    (operation : Sink σ → Run σ → Except Failure α × Run σ) (framework : Framework σ) :
    Except Failure α × Framework σ :=
  match framework.connect with
  | (.error failure, framework) => (.error failure, framework.complain stage failure)
  | (.ok channel, framework) =>
    -- The run starts without events, so that those it ends with are the operation's own.
    let (outcome, run) := operation (sinks channel) { framework.run with events := #[] }
    let framework := { framework with run }.note (run.events.toList.map (.transport channel))
    match outcome with
    | .ok a => (.ok a, framework)
    | .error failure => (.error failure, framework.complain stage failure)

def resultArguments (request : Request) (result : String) : Arguments :=
  [("request", .request request), ("result", .value (.text result))]

/-- Evaluates a request and tells the plugins of its result. -/
def evaluate (sinks : Channel → Sink σ) (request : Request) (framework : Framework σ) :
    Except Failure String × Framework σ :=
  match operate sinks "evaluate"
      (fun sink run => Transport.perform sink framework.settings request run) framework with
  | (.error failure, framework) => (.error failure, framework)
  | (.ok result, framework) =>
    let (_, after) := framework.registry.callMany .onResult (resultArguments request result)
      framework.run.state
    (.ok result, framework.heed after)

/-- Binds variables in a persistent session, whose name is returned. -/
def prepSession (sinks : Channel → Sink σ) (key : Option String)
    (bindings : List (String × Value)) (framework : Framework σ) :
    Except Failure String × Framework σ :=
  let (outcome, framework) := operate sinks "prep_session"
    (fun sink run => Transport.prepSession sink framework.settings key bindings run) framework
  (outcome.map (·.name), framework)

/-- Sends the snippet of a request to a persistent session, whose name is returned. -/
def loadSession (sinks : Channel → Sink σ) (request : Request) (framework : Framework σ) :
    Except Failure String × Framework σ :=
  let (outcome, framework) := operate sinks "load_session"
    (fun sink run => Transport.loadSession sink framework.settings request run) framework
  (outcome.map (·.name), framework)

def close (shut : Channel → Run σ → Run σ) (framework : Framework σ) : Framework σ :=
  match framework.channel with
  | none => framework
  | some (.plugin _ false) => framework
  | some channel => { framework with run := shut channel framework.run }.note [.closed channel]

/-- How closing fails, if a channel is closed at all and its closing fails. -/
def closingFault? (fault : Channel → Run σ → Option Failure) (framework : Framework σ) :
    Option Failure :=
  match framework.channel with
  | none => none
  | some (.plugin _ false) => none
  | some channel => fault channel framework.run

end Framework

end JuliaBlocks
