import JuliaBlocks.Log
import JuliaBlocks.Plugin.Registry

/-!
Calls of hooks. A failing implementation harms neither the caller nor the other implementations:
its failure is told to the implementations of the error hook, and failures of those are logged.
-/

namespace JuliaBlocks

/-- What can be seen of a hook call: an implementation that runs with its arguments, and a record
that is logged. -/
inductive HookEvent
  | called (plugin : String) (hook : Hook) (arguments : Arguments)
  | logged (level : Level) (message : String)

/-- What calls of implementations leave behind: their state, and what was seen of them. -/
structure Aftermath (σ : Type) where
  state : σ
  events : List HookEvent := []

variable {σ : Type}

/-- What is left behind by calls and by others after them. -/
def Aftermath.upTo (before after : Aftermath σ) : Aftermath σ where
  state := after.state
  events := before.events ++ after.events

namespace Implementation

/-- Calls an implementation. One that declares an argument which is not there does not run. -/
def call (impl : Implementation σ) (arguments : Arguments) (state : σ) :
    Except Failure Product × Aftermath σ :=
  if impl.missing arguments = [] then
    let given := impl.select arguments
    let (response, state) := impl.respond given state
    (response, { state, events := [.called impl.plugin impl.hook given] })
  else (.error (.missingArguments (impl.missing arguments)), { state })

end Implementation

namespace Registry

def errorArguments (stage : String) (failure : Failure) : Arguments :=
  [("stage", .value (.text stage)), ("error", .failure failure)]

/-- Tells one implementation of the error hook of a failure. -/
def notifyOne (stage : String) (failure : Failure) (impl : Implementation σ) (state : σ) :
    Aftermath σ :=
  match impl.call (errorArguments stage failure) state with
  | (.ok _, after) => after
  | (.error _, after) => { after with events := after.events ++ [.logged .warning
      ("hook.on_error_failed stage=" ++ stage ++ " plugin=" ++ impl.plugin)] }

/-- Tells implementations of the error hook of a failure, one after another. -/
def notifyEach (stage : String) (failure : Failure) :
    List (Implementation σ) → σ → Aftermath σ
  | [], state => { state }
  | impl :: rest, state =>
    let after := notifyOne stage failure impl state
    after.upTo (notifyEach stage failure rest after.state)

/-- Tells the implementations of the error hook of a failure at some stage. -/
def notifyError (registry : Registry σ) (stage : String) (failure : Failure) (state : σ) :
    Aftermath σ :=
  notifyEach stage failure (registry.running .onError) state

/-- Calls one implementation and reports its failure; a failed call returns nothing at all. -/
def invoke (registry : Registry σ) (arguments : Arguments) (impl : Implementation σ) (state : σ) :
    Option Product × Aftermath σ :=
  match impl.call arguments state with
  | (.ok product, after) => (some product, after)
  | (.error failure, after) =>
    (none, after.upTo
      (registry.notifyError (impl.hook.name ++ ":" ++ impl.plugin) failure after.state))

/-- Calls implementations up to the first that returns something. -/
def firstOf (registry : Registry σ) (arguments : Arguments) :
    List (Implementation σ) → σ → Product × Aftermath σ
  | [], state => (.nothing, { state })
  | impl :: rest, state =>
    match registry.invoke arguments impl state with
    | (none, after) | (some .nothing, after) =>
      let (product, later) := firstOf registry arguments rest after.state
      (product, after.upTo later)
    | (some product, after) => (product, after)

/-- Calls all implementations for what those that do not fail return. -/
def allOf (registry : Registry σ) (arguments : Arguments) :
    List (Implementation σ) → σ → List Product × Aftermath σ
  | [], state => ([], { state })
  | impl :: rest, state =>
    let (product, after) := registry.invoke arguments impl state
    let (products, later) := allOf registry arguments rest after.state
    (product.toList ++ products, after.upTo later)

def callFirst (registry : Registry σ) (hook : Hook) (arguments : Arguments) (state : σ) :
    Product × Aftermath σ :=
  registry.firstOf arguments (registry.running hook) state

/-- All that the implementations of a hook return. -/
def callMany (registry : Registry σ) (hook : Hook) (arguments : Arguments) (state : σ) :
    List Product × Aftermath σ :=
  registry.allOf arguments (registry.running hook) state

end Registry

end JuliaBlocks
