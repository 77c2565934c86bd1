import JuliaBlocks.Proofs.Named
import JuliaBlocks.Proofs.Settings

/-!
The value that prevails for a field: one given directly, else the text of the environment, else the
text of the environment file. Main statement: `lookup_gather`.
-/

namespace JuliaBlocks.Settings

/-- The text that bindings of an environment have for a field; a name bound to nothing has none. -/
def textIn (bindings : Named (Option String)) (field : String) : Option String :=
  (bindings.lookup (environmentName field)).join

namespace Sources

/-- The environment, with each name bound once. -/
def bound (sources : Sources) : Named String := Named.ofList sources.environment

/-- The bindings of the environment by names in lower case. -/
def exported (sources : Sources) : Named (Option String) :=
  foldCase (sources.bound.map fun e => (e.1, some e.2))

/-- The bindings of the environment file by names in lower case; without a file there are none. -/
def filed (sources : Sources) : Named (Option String) :=
  match sources.dotenv with
  | some s => foldCase (sources.readDotenv sources.bound s)
  | none => []

/-- The value that prevails for a field that is given as plain text. -/
def value? (sources : Sources) (field : String) : Option Value :=
  ((lowerNames (Named.ofList sources.overrides)).lookup field).or <|
    ((textIn sources.exported field).map .text).or ((textIn sources.filed field).map .text)

end Sources

/-- Looking up a name among values that some of the names have. -/
theorem lookup_filterMap_names {α : Type} (names : List String) (value? : String → Option α)
    (name : String) :
    (names.filterMap fun n => (value? n).map fun a => (n, a)).lookup name =
      if name ∈ names then value? name else none := by
  induction names with
  | nil => rfl
  | cons n names ih =>
      rw [List.filterMap_cons]
      by_cases hname : name = n
      · subst hname
        cases hvalue : value? name with
        | none =>
            rw [Option.map_none, ih, hvalue, ite_self, ite_self]
        | some a =>
            rw [Option.map_some, Named.lookup_cons_self, if_pos List.mem_cons_self]
      · have hmem : name ∈ n :: names ↔ name ∈ names := by simp [hname]
        simp only [hmem]
        cases value? n with
        | none => exact ih
        | some a =>
            rw [Option.map_some, Named.lookup_cons_of_ne hname]
            exact ih

/-- What a source with texts gives for a field is the text that it has for it. -/
theorem lookup_ofTexts {source : String} {bindings : Named (Option String)} {given : Given}
    (hgiven : ofTexts source bindings = .ok given) {field : String} (hfield : field ∈ textFields) :
    given.values.lookup field = (textIn bindings field).map .text := by
  have hvalues : given.values = textFields.filterMap fun field =>
      ((textIn bindings field).map Value.text).map fun v => (field, v) := by
    have hnames : (textFields.filterMap fun field =>
        ((bindings.lookup (environmentName field)).join).map fun s => (field, Value.text s)) =
        textFields.filterMap fun field =>
          ((textIn bindings field).map Value.text).map fun v => (field, v) := by
      simp only [textIn, Option.map_map]
      rfl
    rw [← hnames]
    unfold ofTexts at hgiven
    dsimp only at hgiven
    split at hgiven
    · cases hgiven
      rfl
    · split at hgiven
      · cases hgiven
      · cases hgiven
        rfl
      · cases hgiven
        rfl
  rw [hvalues, lookup_filterMap_names, if_pos hfield]

theorem lookup_gather {sources : Sources} {given : Given} (hgiven : gather sources = .ok given)
    {field : String} (hfield : field ∈ textFields) :
    given.values.lookup field = sources.value? field := by
  obtain ⟨fromEnvironment, henvironment, hgiven⟩ := exists_of_bind_ok hgiven
  have hexported := lookup_ofTexts henvironment hfield
  have hfiled : ∃ fromFile : Given,
      fromFile.values.lookup field = (textIn sources.filed field).map Value.text ∧
      given.values = lowerNames (Named.ofList sources.overrides) ++ fromEnvironment.values ++
        fromFile.values := by
    cases hdotenv : sources.dotenv with
    | none =>
        rw [hdotenv] at hgiven
        cases hgiven
        refine ⟨{}, ?_, rfl⟩
        simp only [Sources.filed, hdotenv]
        rfl
    | some s =>
        rw [hdotenv] at hgiven
        obtain ⟨fromFile, hfile, hgiven⟩ := exists_of_bind_ok hgiven
        cases hgiven
        refine ⟨fromFile, ?_, rfl⟩
        simp only [Sources.filed, hdotenv]
        exact lookup_ofTexts hfile hfield
  obtain ⟨fromFile, hfile, hvalues⟩ := hfiled
  rw [hvalues, List.lookup_append, List.lookup_append, hexported, hfile, Option.or_assoc]
  rfl

end JuliaBlocks.Settings
