import JuliaBlocks.Plugin.Registry
import Mathlib.Data.List.TakeWhile

/-!
What registration does with implementations. They are listed only once they are found to fit their
hook, and how they are listed depends on what is declared of them, not on how they respond.
-/

namespace JuliaBlocks

variable {σ τ : Type}

namespace Registry

variable {registry : Registry σ}

section Membership

theorem mem_running {hook : Hook} {impl : Implementation σ} :
    impl ∈ registry.running hook ↔ impl ∈ registry.implementations ∧ impl.hook = hook := by
  rw [running, List.mem_reverse, listed, List.mem_filter, decide_eq_true_iff]

theorem mem_insertPlain {impl other : Implementation σ} {others : List (Implementation σ)}
    (hmem : other ∈ insertPlain impl others) : other = impl ∨ other ∈ others := by
  induction others with
  | nil => exact Or.inl (List.mem_singleton.mp hmem)
  | cons next rest ih =>
      rw [insertPlain] at hmem
      split at hmem
      · exact List.mem_cons.mp hmem
      · rcases List.mem_cons.mp hmem with rfl | hmem
        · exact Or.inr List.mem_cons_self
        · exact (ih hmem).imp_right (List.mem_cons_of_mem next)

theorem mem_insert {impl other : Implementation σ} {others : List (Implementation σ)}
    (hmem : other ∈ insert impl others) : other = impl ∨ other ∈ others := by
  unfold insert at hmem
  split at hmem
  · exact List.mem_cons.mp hmem
  · split at hmem
    · exact (List.mem_append.mp hmem).symm.imp_left List.mem_singleton.mp
    · exact mem_insertPlain hmem

theorem mem_add {impl other : Implementation σ}
    (hmem : other ∈ (registry.add impl).implementations) :
    other = impl ∨ other ∈ registry.implementations := by
  rcases List.mem_append.mp hmem with hmem | hmem
  · exact Or.inr (List.mem_filter.mp hmem).1
  · exact (mem_insert hmem).imp_right fun hlisted => (List.mem_filter.mp hlisted).1

theorem mem_foldl_add {impls : List (Implementation σ)} {other : Implementation σ}
    (hmem : other ∈ (impls.foldl add registry).implementations) :
    other ∈ impls ∨ other ∈ registry.implementations := by
  induction impls generalizing registry with
  | nil => exact Or.inr hmem
  | cons impl impls ih =>
      rcases ih hmem with hlater | hadded
      · exact Or.inl (List.mem_cons_of_mem impl hlater)
      · rcases mem_add hadded with rfl | hbefore
        · exact Or.inl List.mem_cons_self
        · exact Or.inr hbefore

/-- What is listed after a plugin was registered was listed before, or is one of the plugin's
implementations, and fits its hook. This holds of a plugin that is refused, too. -/
theorem mem_register {plugin : Plugin σ} {impl : Implementation σ}
    (hmem : impl ∈ (registry.register plugin).2.implementations) :
    impl ∈ registry.implementations ∨ impl ∈ plugin.implementations ∧ impl.fits = true := by
  have hentered (hmem : impl ∈ ((plugin.implementations.takeWhile (·.fits)).foldl add
      (registry.enter plugin)).implementations) :
      impl ∈ registry.implementations ∨ impl ∈ plugin.implementations ∧ impl.fits = true := by
    rcases mem_foldl_add hmem with hfitting | hbefore
    · exact Or.inr ⟨List.takeWhile_subset _ hfitting,
        List.mem_takeWhile_imp (p := fun impl : Implementation σ => impl.fits) hfitting⟩
    · exact Or.inl hbefore
  unfold register at hmem
  split at hmem
  · exact Or.inl hmem
  · dsimp only at hmem
    split at hmem
    · exact hentered hmem
    · dsimp only at hmem
      split at hmem
      · exact Or.inl hmem
      · exact hentered hmem

/-- What is listed after advertised plugins were loaded was listed before, or is an implementation
of one of them, and fits its hook. -/
theorem mem_load {entries : List (EntryPoint σ)} {impl : Implementation σ}
    (hmem : impl ∈ (load entries registry).2.implementations) :
    impl ∈ registry.implementations ∨
      (∃ entry ∈ entries, ∃ impls, entry.implementations = .ok impls ∧ impl ∈ impls) ∧
        impl.fits = true := by
  induction entries generalizing registry with
  | nil => exact Or.inl hmem
  | cons entry entries ih =>
      have hlater {between : Registry σ} (hmem : impl ∈ (load entries between).2.implementations) :
          impl ∈ between.implementations ∨
            (∃ other ∈ entry :: entries, ∃ impls, other.implementations = .ok impls ∧
              impl ∈ impls) ∧ impl.fits = true :=
        (ih hmem).imp_right fun ⟨⟨other, hother, hloaded⟩, hfits⟩ =>
          ⟨⟨other, List.mem_cons_of_mem entry hother, hloaded⟩, hfits⟩
      have hregistered {impls : List (Implementation σ)}
          (hloaded : entry.implementations = .ok impls)
          (hmem : impl ∈ (registry.register
            { name := entry.name, implementations := impls }).2.implementations) :
          impl ∈ registry.implementations ∨
            (∃ other ∈ entry :: entries, ∃ impls, other.implementations = .ok impls ∧
              impl ∈ impls) ∧ impl.fits = true :=
        (mem_register hmem).imp_right fun ⟨himpl, hfits⟩ =>
          ⟨⟨entry, List.mem_cons_self, impls, hloaded, himpl⟩, hfits⟩
      rw [load] at hmem
      split at hmem
      · exact hlater hmem
      · split at hmem
        · exact Or.inl hmem
        · next impls hloaded =>
          split at hmem
          · next failure refused hrefused =>
            exact hregistered hloaded (by rwa [hrefused])
          · next between hbetween =>
            rcases hlater hmem with hbefore | hadvertised
            · exact hregistered hloaded (by rwa [hbetween])
            · exact Or.inr hadvertised

/-- Whether all implementations fit their hooks, as those that are registered do. -/
def Sound (registry : Registry σ) : Prop :=
  ∀ impl ∈ registry.implementations, impl.fits = true

theorem Sound.register (hsound : registry.Sound) (plugin : Plugin σ) :
    (registry.register plugin).2.Sound := by
  intro impl hmem
  rcases mem_register hmem with hbefore | ⟨_, hfits⟩
  · exact hsound impl hbefore
  · exact hfits

theorem Sound.load (hsound : registry.Sound) (entries : List (EntryPoint σ)) :
    (load entries registry).2.Sound := by
  intro impl hmem
  rcases mem_load hmem with hbefore | ⟨_, hfits⟩
  · exact hsound impl hbefore
  · exact hfits

end Membership

end Registry

/-! Implementations that are replaced by others of which the same is declared. -/

section Replacement

variable (g : Implementation σ → Implementation τ)

def Plugin.map (plugin : Plugin σ) : Plugin τ where
  name := plugin.name
  implementations := plugin.implementations.map g

def EntryPoint.map (entry : EntryPoint σ) : EntryPoint τ where
  name := entry.name
  implementations := Except.map (List.map g) entry.implementations

def Registry.map (registry : Registry σ) : Registry τ where
  names := registry.names
  empty := registry.empty
  implementations := registry.implementations.map g
  leaving := registry.leaving

namespace Registry

variable {g} (hg : ∀ impl, (g impl).toDeclaration = impl.toDeclaration) (registry : Registry σ)

include hg

theorem filter_map (p : Declaration → Bool) (impls : List (Implementation σ)) :
    (impls.map g).filter (p ·.toDeclaration) = (impls.filter (p ·.toDeclaration)).map g := by
  rw [List.filter_map]
  congr 2
  funext impl
  exact congrArg p (hg impl)

theorem listed_map (hook : Hook) :
    (registry.map g).listed hook = (registry.listed hook).map g :=
  filter_map hg (·.hook = hook) registry.implementations

theorem running_map (hook : Hook) :
    (registry.map g).running hook = (registry.running hook).map g := by
  rw [running, listed_map hg, ← List.map_reverse, running]

theorem report_map : (registry.map g).report = registry.report := by
  have hplugins (hook : Hook) : ((registry.map g).listed hook).map (·.plugin) =
      (registry.listed hook).map (·.plugin) := by
    rw [listed_map hg, List.map_map]
    exact List.map_congr_left fun impl _ => congrArg Declaration.plugin (hg impl)
  simp only [report, hplugins]

theorem insertPlain_map (impl : Implementation σ) (others : List (Implementation σ)) :
    insertPlain (g impl) (others.map g) = (insertPlain impl others).map g := by
  induction others with
  | nil => rfl
  | cons other rest ih =>
      have hall : ((other :: rest).map g).all (·.preference.tryFirst) =
          (other :: rest).all (·.preference.tryFirst) := by
        rw [List.all_map]
        congr 1
        funext next
        exact congrArg (·.preference.tryFirst) (hg next)
      rw [List.map_cons] at hall ⊢
      rw [insertPlain, insertPlain, hall, ih]
      split <;> rfl

theorem insert_map (impl : Implementation σ) (others : List (Implementation σ)) :
    insert (g impl) (others.map g) = (insert impl others).map g := by
  have hpreference : (g impl).preference = impl.preference :=
    congrArg Declaration.preference (hg impl)
  rw [insert, insert, hpreference]
  split
  · rfl
  · split
    · rw [List.map_append, List.map_singleton]
    · exact insertPlain_map hg impl others

theorem add_map (impl : Implementation σ) :
    (registry.map g).add (g impl) = (registry.add impl).map g := by
  have hhook : (g impl).hook = impl.hook := congrArg Declaration.hook (hg impl)
  have hothers : (registry.map g).implementations.filter (·.hook != impl.hook) =
      (registry.implementations.filter (·.hook != impl.hook)).map g :=
    filter_map hg (·.hook != impl.hook) registry.implementations
  rw [add, add, hhook, hothers, listed_map hg, insert_map hg, ← List.map_append]
  rfl

theorem foldl_add_map (impls : List (Implementation σ)) :
    (impls.map g).foldl add (registry.map g) = (impls.foldl add registry).map g := by
  rw [List.foldl_map]
  exact List.foldl_hom (map g) (add_map hg)

theorem register_map (plugin : Plugin σ) :
    (registry.map g).register (plugin.map g) = (registry.register plugin).map id (map g) := by
  have hfits (impl : Implementation σ) : (g impl).fits = impl.fits :=
    congrArg Declaration.fits (hg impl)
  have hempty : (plugin.map g).implementations.isEmpty = plugin.implementations.isEmpty :=
    List.isEmpty_map
  have hrefuses : (registry.map g).refuses (plugin.map g) = registry.refuses plugin := by
    unfold refuses
    rw [hempty]
    rfl
  have hall : (plugin.map g).implementations.all (·.fits) =
      plugin.implementations.all (·.fits) := by
    rw [Plugin.map, List.all_map]
    exact congrArg (plugin.implementations.all ·) (funext hfits)
  have hfitting : (plugin.map g).implementations.takeWhile (·.fits) =
      (plugin.implementations.takeWhile (·.fits)).map g := by
    rw [Plugin.map, List.takeWhile_map]
    congr 2
    exact funext hfits
  have henter : (registry.map g).enter (plugin.map g) = (registry.enter plugin).map g := by
    unfold enter
    rw [hempty]
    rfl
  have hleaving : (registry.map g).leaving = registry.leaving := rfl
  unfold register
  simp only [hrefuses, hall, hfitting, henter, foldl_add_map hg, hleaving]
  split
  · rfl
  · split
    · rfl
    · cases registry.leaving <;> rfl

theorem load_map (entries : List (EntryPoint σ)) :
    load (entries.map (·.map g)) (registry.map g) = (load entries registry).map id (map g) := by
  induction entries generalizing registry with
  | nil => rfl
  | cons entry entries ih =>
      have hknown : (registry.map g).names.contains (entry.map g).name =
          registry.names.contains entry.name := rfl
      rw [List.map_cons, load, load, hknown, ih]
      split
      · rfl
      · have himpls : (entry.map g).implementations =
            Except.map (List.map g) entry.implementations := rfl
        rw [himpls]
        cases entry.implementations with
        | error failure => rfl
        | ok impls =>
            have hregister : (registry.map g).register
                { name := (entry.map g).name, implementations := impls.map g } =
                (registry.register { name := entry.name, implementations := impls }).map id (map g) :=
              register_map hg registry { name := entry.name, implementations := impls }
            dsimp only [Except.map]
            rw [hregister]
            rcases registry.register { name := entry.name, implementations := impls } with
              ⟨failure | _, between⟩
            · rfl
            · exact congrArg (Prod.map _ id) (ih between)

end Registry

end Replacement

end JuliaBlocks
