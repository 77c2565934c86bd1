import JuliaBlocks.Plugin

/-!
The registered plugins, and for each hook its implementations. They are listed with those asked
to stand last at the front and those asked to stand first at the end, and run from the end.
-/

namespace JuliaBlocks

/-- What is left of a plugin that is refused for one of its implementations: nothing, or its name
and the implementations before that one. Managers of plugins differ in this. -/
inductive Leaving
  | nothing
  | start
deriving DecidableEq

/-- The names of the registered plugins, which of them implement no hook, all implementations in
their order, and what is left of plugins that are refused. -/
structure Registry (σ : Type) where
  names : List String := []
  empty : List String := []
  implementations : List (Implementation σ) := []
  leaving : Leaving := .nothing

namespace Registry

variable {σ : Type}

/-- Puts an implementation behind the ordinary ones, before those at the end that asked to stand
first. -/
def insertPlain (impl : Implementation σ) : List (Implementation σ) → List (Implementation σ)
  | [] => [impl]
  | other :: rest =>
    if (other :: rest).all (·.preference.tryFirst) then impl :: other :: rest
    else other :: insertPlain impl rest

/-- Puts an implementation in its place among those of its hook. To stand last prevails over to
stand first. -/
def insert (impl : Implementation σ) (others : List (Implementation σ)) :
    List (Implementation σ) :=
  if impl.preference.tryLast then impl :: others
  else if impl.preference.tryFirst then others ++ [impl]
  else insertPlain impl others

/-- The implementations of a hook as they are listed. -/
def listed (registry : Registry σ) (hook : Hook) : List (Implementation σ) :=
  registry.implementations.filter (·.hook = hook)

/-- The implementations of a hook as they run. -/
def running (registry : Registry σ) (hook : Hook) : List (Implementation σ) :=
  (registry.listed hook).reverse

def add (registry : Registry σ) (impl : Implementation σ) : Registry σ :=
  let others := registry.implementations.filter (·.hook != impl.hook)
  { registry with implementations := others ++ insert impl (registry.listed impl.hook) }

/-- Whether a plugin is refused as it is: its name, unless it has none, must be new, and there can be
only one plugin without implementations, any two such being equal. -/
def refuses (registry : Registry σ) (plugin : Plugin σ) : Bool :=
  (plugin.name != "" && registry.names.contains plugin.name) ||
    (plugin.implementations.isEmpty && !registry.empty.isEmpty)

/-- Takes up a plugin, of which nothing is listed yet. -/
def enter (registry : Registry σ) (plugin : Plugin σ) : Registry σ :=
  { registry with
    names := registry.names ++ [plugin.name]
    empty := if plugin.implementations.isEmpty
      then registry.empty ++ [plugin.name] else registry.empty }

/-- Registers a plugin, if it is not refused as it is, and none of its implementations declares an
argument its hook does not have. -/
def register (registry : Registry σ) (plugin : Plugin σ) : Except Failure Unit × Registry σ :=
  if registry.refuses plugin then (.error .duplicatePlugin, registry)
  else
    let fitting := plugin.implementations.takeWhile (·.fits)
    let entered := fitting.foldl add (registry.enter plugin)
    if plugin.implementations.all (·.fits) then (.ok (), entered)
    else (.error .undeclaredArgument, match registry.leaving with
      | .nothing => registry
      | .start => entered)

/-- Registers advertised plugins one after another, up to one that cannot be loaded or is refused.
Those whose name is taken are passed over; the others are counted. -/
def load : List (EntryPoint σ) → Registry σ → Except Failure Nat × Registry σ
  | [], registry => (.ok 0, registry)
  | entry :: entries, registry =>
    if registry.names.contains entry.name then load entries registry
    else match entry.implementations with
      | .error failure => (.error failure, registry)
      | .ok implementations =>
        match registry.register { name := entry.name, implementations } with
        | (.error failure, registry) => (.error failure, registry)
        | (.ok (), registry) => (load entries registry).map (·.map (· + 1)) id

/-- The hooks that have implementations, with the names of the plugins as they are listed. -/
def report (registry : Registry σ) : List (String × List String) :=
  (Hook.all.map fun hook => (hook.name, (registry.listed hook).map (·.plugin))).filter
    (!·.2.isEmpty)

end Registry

end JuliaBlocks
