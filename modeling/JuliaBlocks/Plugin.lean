import JuliaBlocks.Request
import JuliaBlocks.Settings

/-!
Plugins: what they may hook into, what their implementations are called with and what they come
back with.
-/

namespace JuliaBlocks

/-- The points at which plugins take part. -/
inductive Hook
  | onError
  | onResult
  | provideSessionSink
deriving DecidableEq, Repr

namespace Hook

def name : Hook → String
  | onError => "on_error"
  | onResult => "on_result"
  | provideSessionSink => "provide_session_sink"

def all : List Hook := [onError, onResult, provideSessionSink]

def ofName? (s : String) : Option Hook :=
  all.find? (·.name == s)

/-- The arguments a hook is called with. -/
def parameters : Hook → List String
  | onError => ["stage", "error"]
  | onResult => ["request", "result"]
  | provideSessionSink => ["settings"]

end Hook

inductive Argument
  | settings (settings : Settings)
  | request (request : Request)
  | failure (failure : Failure)
  | value (v : Value)
deriving Inhabited

abbrev Arguments := Named Argument

/-- What an implementation returns: nothing, the sink of a plugin, which may have to be closed,
a plain value, an object that is none of these, or one that fails when it is asked for its
parts. -/
inductive Product
  | nothing
  | sink (plugin : String) (closable : Bool)
  | value (v : Value) (given : v ≠ .null)
  | object
  | brittle (failure : Failure)
deriving Inhabited

/-- Where an implementation asks to stand among those of its hook. -/
structure Preference where
  tryFirst : Bool := false
  tryLast : Bool := false
deriving DecidableEq

/-- What a plugin declares of an implementation: its hook, the arguments it takes and where it asks
to stand. -/
structure Declaration where
  plugin : String
  hook : Hook
  declared : List String
  preference : Preference := {}

namespace Declaration

/-- The arguments of a call that an implementation declares. -/
def select (declaration : Declaration) (arguments : Arguments) : Arguments :=
  declaration.declared.filterMap fun name => (arguments.lookup name).map (name, ·)

/-- The declared arguments that a call lacks. -/
def missing (declaration : Declaration) (arguments : Arguments) : List String :=
  declaration.declared.filter fun name => (arguments.lookup name).isNone

/-- Whether an implementation declares no arguments but those of its hook. -/
def fits (declaration : Declaration) : Bool :=
  declaration.declared.all declaration.hook.parameters.contains

end Declaration

/-- The implementation of a hook by a plugin: what is declared of it, and its response to those of
the declared arguments that a call has. Plugins keep what they know in a state, which they share
with the session sides: a response depends on it and may change it, even one that fails. -/
structure Implementation (σ : Type) extends Declaration where
  respond : Arguments → σ → Except Failure Product × σ

/-- A plugin with its implementations, in the order of the hooks' names. -/
structure Plugin (σ : Type) where
  name : String
  implementations : List (Implementation σ)

/-- A plugin that an installed distribution advertises under a name, unless it cannot be loaded. -/
structure EntryPoint (σ : Type) where
  name : String
  implementations : Except Failure (List (Implementation σ))

end JuliaBlocks
