import JuliaBlocks.Proofs.Settings.Sources

/-!
How settings fail to load. Values that are refused are all reported together, each by its field; but
a list whose text is no JSON ends the loading before any value is looked at, and that failure is of
another kind. Main statement: `load_configured_iff`.
-/

namespace JuliaBlocks

/-- An issue about a setting, or about an item of one that is a list. -/
def Issue.About (field : String) (issue : Issue) : Prop :=
  issue.location = field ∨ ∃ i : Nat, issue.location = field ++ "." ++ Numeral.render i

namespace Settings

/-- A reading of a setting that gives a value, or else some issues, all about the setting. -/
inductive Reports {α : Type} (field : String) : Except (List Issue) α → Prop
  | read (a : α) : Reports field (.ok a)
  | refused {found : List Issue} (hsome : found ≠ []) (habout : ∀ issue ∈ found, issue.About field) :
      Reports field (.error found)

namespace Reports

variable {α : Type} {field : String} {reading : Except (List Issue) α}

theorem exists_of_no_issues (hreports : Reports field reading) (hnone : issues reading = []) :
    ∃ a, reading = .ok a := by
  cases hreports with
  | read a => exact ⟨a, rfl⟩
  | refused hsome _ => exact absurd hnone hsome

theorem about (hreports : Reports field reading) : ∀ issue ∈ issues reading, issue.About field := by
  cases hreports with
  | read a => exact List.forall_mem_nil _
  | refused _ habout => exact habout

end Reports

theorem reports_take {α : Type} (values : Named Value) (field : String) (reader : Field.Reader α)
    (default : α) : Reports field (take values field reader default) := by
  unfold take
  split
  · exact .read default
  · next v _ =>
    cases reader v with
    | ok a => exact .read a
    | error rule =>
        refine .refused (List.cons_ne_nil _ _) ?_
        exact List.forall_mem_singleton.mpr (Or.inl rfl)

theorem reports_takeList (objects : Field.Objects) (given : Given) :
    Reports listField (takeList objects given) := by
  unfold takeList
  dsimp only
  split
  · refine .refused (List.cons_ne_nil _ _) ?_
    exact List.forall_mem_singleton.mpr (Or.inl rfl)
  · next items _ =>
    split
    · exact .read _
    · next hsome =>
      refine .refused (fun hnil => hsome (List.isEmpty_iff.mpr hnil)) ?_
      intro issue hissue
      obtain ⟨⟨reading, i⟩, _, hlocated⟩ := List.mem_filterMap.mp hissue
      cases reading with
      | ok text => cases hlocated
      | error rule =>
          cases hlocated
          exact Or.inr ⟨i, rfl⟩

/-- The issues that a failure to load settings is made of: there are some, each about a setting. -/
structure Configuration (found : List Issue) : Prop where
  ne_nil : found ≠ []
  about : ∀ issue ∈ found, ∃ field ∈ listField :: textFields, issue.About field

/-- Whatever is given, settings are read from it or refused with all issues. -/
theorem ofGiven_cases (objects : Field.Objects) (given : Given) :
    (∃ settings, ofGiven objects given = .ok settings) ∨
      ∃ found, Configuration found ∧ ofGiven objects given = .error (.configuration found) := by
  cases hgiven : ofGiven objects given with
  | ok settings => exact Or.inl ⟨settings, rfl⟩
  | error failure =>
      have hdebug := reports_take given.values "debug" (Field.bool objects) usual.debug
      have hinterval :=
        reports_take given.values "poll_interval" (interval objects) usual.pollInterval
      have hattempts := reports_take given.values "poll_attempts" (count objects) usual.pollAttempts
      have hlines := reports_take given.values "max_line_length" (count objects) usual.maxLineLength
      have hdirectory := reports_take given.values "temp_dir" (Field.path objects) usual.tempDir
      have hsession :=
        reports_take given.values "default_session" (sessionName objects) usual.defaultSession
      have hcommand :=
        reports_take given.values "julia_command" (Field.text objects) usual.juliaCommand
      have harguments := reports_takeList objects given
      have hlevel := reports_take given.values "log_level" (Field.text objects) usual.logLevel
      obtain ⟨_, hread, rfl⟩ := exists_of_mapError_error hgiven
      refine Or.inr ⟨_, ⟨?_, ?_⟩, rfl⟩
      · -- Without issues every value is read, and so the settings are.
        intro hnil
        simp only [List.append_eq_nil_iff] at hnil
        obtain ⟨⟨⟨⟨⟨⟨⟨⟨hd, hi⟩, ha⟩, hl⟩, ht⟩, hs⟩, hc⟩, hj⟩, hg⟩ := hnil
        obtain ⟨_, hd⟩ := hdebug.exists_of_no_issues hd
        obtain ⟨_, hi⟩ := hinterval.exists_of_no_issues hi
        obtain ⟨_, ha⟩ := hattempts.exists_of_no_issues ha
        obtain ⟨_, hl⟩ := hlines.exists_of_no_issues hl
        obtain ⟨_, ht⟩ := hdirectory.exists_of_no_issues ht
        obtain ⟨_, hs⟩ := hsession.exists_of_no_issues hs
        obtain ⟨_, hc⟩ := hcommand.exists_of_no_issues hc
        obtain ⟨_, hj⟩ := harguments.exists_of_no_issues hj
        obtain ⟨_, hg⟩ := hlevel.exists_of_no_issues hg
        rw [hd, hi, ha, hl, ht, hs, hc, hj, hg] at hread
        cases hread
      · intro issue hissue
        simp only [List.mem_append] at hissue
        rcases hissue with (((((((hd | hi) | ha) | hl) | ht) | hs) | hc) | hj) | hg
        · exact ⟨_, by decide, hdebug.about issue hd⟩
        · exact ⟨_, by decide, hinterval.about issue hi⟩
        · exact ⟨_, by decide, hattempts.about issue ha⟩
        · exact ⟨_, by decide, hlines.about issue hl⟩
        · exact ⟨_, by decide, hdirectory.about issue ht⟩
        · exact ⟨_, by decide, hsession.about issue hs⟩
        · exact ⟨_, by decide, hcommand.about issue hc⟩
        · exact ⟨_, by decide, harguments.about issue hj⟩
        · exact ⟨_, by decide, hlevel.about issue hg⟩

/-- Whether the text for the list among the bindings of a source, if there is one, is JSON. -/
def ReadsList (bindings : Named (Option String)) : Prop :=
  ∀ s, textIn bindings listField = some s → Json.read? s ≠ none

theorem ofTexts_cases (source : String) (bindings : Named (Option String)) :
    (ReadsList bindings ∧ ∃ given, ofTexts source bindings = .ok given) ∨
      ¬ ReadsList bindings ∧
        ofTexts source bindings = .error (.unreadableSetting listField source) := by
  unfold ofTexts
  dsimp only
  split
  · next hnone =>
    refine Or.inl ⟨?_, _, rfl⟩
    intro s hs
    rw [textIn, hnone] at hs
    cases hs
  · next s hs =>
    have hreads : ReadsList bindings ↔ Json.read? s ≠ none := by
      simp [ReadsList, textIn, hs]
    rw [hreads]
    cases hjson : Json.read? s with
    | none => exact Or.inr ⟨not_not_intro rfl, rfl⟩
    | some json =>
        -- The value null counts as no list, but it is read all the same.
        refine Or.inl ⟨Option.some_ne_none json, ?_⟩
        cases json <;> exact ⟨_, rfl⟩

/-- Which source the text of the list cannot be read of, if it cannot. The environment is read
first, and it is read even if the list is given directly. -/
inductive Sources.Unreadable (sources : Sources) : String → Prop
  | environment (hexported : ¬ ReadsList sources.exported) : Unreadable sources "EnvSettingsSource"
  | file (hexported : ReadsList sources.exported) (hfiled : ¬ ReadsList sources.filed) :
      Unreadable sources "DotEnvSettingsSource"

/-- Whether the text of the list can be read wherever there is one. -/
def Sources.Readable (sources : Sources) : Prop :=
  ReadsList sources.exported ∧ ReadsList sources.filed

namespace Sources.Unreadable

variable {sources : Sources} {source : String}

theorem not_readable (hunreadable : sources.Unreadable source) : ¬ sources.Readable := by
  rintro ⟨hexported, hfiled⟩
  cases hunreadable with
  | environment hfails => exact hfails hexported
  | file _ hfails => exact hfails hfiled

theorem unique {other : String} (hunreadable : sources.Unreadable source)
    (hother : sources.Unreadable other) : other = source := by
  cases hunreadable with
  | environment hfails =>
      cases hother with
      | environment _ => rfl
      | file hexported _ => exact absurd hexported hfails
  | file hexported _ =>
      cases hother with
      | environment hfails => exact absurd hexported hfails
      | file _ _ => rfl

end Sources.Unreadable

theorem gather_cases (sources : Sources) :
    (sources.Readable ∧ ∃ given, gather sources = .ok given) ∨
      ∃ source, sources.Unreadable source ∧
        gather sources = .error (.unreadableSetting listField source) := by
  rcases ofTexts_cases "EnvSettingsSource" sources.exported with
    ⟨hexported, fromEnvironment, henvironment⟩ | ⟨hexported, henvironment⟩
  · rw [Sources.exported, Sources.bound] at henvironment
    cases hdotenv : sources.dotenv with
    | none =>
        have hfiled : ReadsList sources.filed := by
          intro s hs
          rw [Sources.filed, hdotenv] at hs
          cases hs
        refine Or.inl ⟨⟨hexported, hfiled⟩, ?_⟩
        simp only [gather, hdotenv, henvironment]
        exact ⟨_, rfl⟩
    | some s =>
        have hbindings : sources.filed = foldCase (sources.readDotenv sources.bound s) := by
          rw [Sources.filed, hdotenv]
        rcases ofTexts_cases "DotEnvSettingsSource" sources.filed with
          ⟨hfiled, fromFile, hfile⟩ | ⟨hfiled, hfile⟩
        · refine Or.inl ⟨⟨hexported, hfiled⟩, ?_⟩
          rw [hbindings, Sources.bound] at hfile
          simp only [gather, hdotenv, henvironment, bind, Except.bind, hfile]
          exact ⟨_, rfl⟩
        · refine Or.inr ⟨_, .file hexported hfiled, ?_⟩
          rw [hbindings, Sources.bound] at hfile
          simp only [gather, hdotenv, henvironment, bind, Except.bind, hfile]
  · exact Or.inr ⟨_, .environment hexported, bind_error_iff.mpr (Or.inl henvironment)⟩

theorem load_cases (sources : Sources) :
    (sources.Readable ∧ ((∃ settings, load sources = .ok settings) ∨
      ∃ found, Configuration found ∧ load sources = .error (.configuration found))) ∨
    ∃ source, sources.Unreadable source ∧
      load sources = .error (.unreadableSetting listField source) := by
  rcases gather_cases sources with ⟨hreadable, given, hgiven⟩ | ⟨source, hunreadable, hgiven⟩
  · have hload : load sources = ofGiven sources.objects given := by
      rw [load, hgiven]
      rfl
    rw [hload]
    exact Or.inl ⟨hreadable, ofGiven_cases sources.objects given⟩
  · exact Or.inr ⟨source, hunreadable, bind_error_iff.mpr (Or.inl hgiven)⟩

/-- Settings load, or else are refused for the values of fields, just if the text of the list is
JSON in the environment and in the environment file, wherever there is one. Otherwise loading ends
with a failure of another kind, which names the first of the two where it is none. It fails in no
third way, and the user is told of a failure as of one of their own only if it is a refusal. -/
theorem load_configured_iff (sources : Sources) :
    (((∃ settings, load sources = .ok settings) ∨
        ∃ found, Configuration found ∧ load sources = .error (.configuration found)) ↔
      sources.Readable) ∧
    (∀ source, load sources = .error (.unreadableSetting listField source) ↔
      sources.Unreadable source) ∧
    ∀ failure, load sources = .error failure →
      ((∃ found, failure = .configuration found) ∨
        ∃ source, failure = .unreadableSetting listField source) ∧
      (failure.isReported = true ↔ sources.Readable) := by
  rcases load_cases sources with ⟨hreadable, hconfigured⟩ | ⟨source, hunreadable, hload⟩
  · refine ⟨iff_of_true hconfigured hreadable, ?_, ?_⟩
    · intro source
      refine iff_of_false ?_ fun hunreadable => hunreadable.not_readable hreadable
      rcases hconfigured with ⟨settings, hload⟩ | ⟨found, _, hload⟩
      · rw [hload]
        rintro ⟨⟩
      · rw [hload]
        rintro ⟨⟩
    · intro failure hfailure
      rcases hconfigured with ⟨settings, hload⟩ | ⟨found, _, hload⟩
      · rw [hload] at hfailure
        cases hfailure
      · rw [hload] at hfailure
        cases hfailure
        exact ⟨Or.inl ⟨found, rfl⟩, iff_of_true rfl hreadable⟩
  · rw [hload]
    refine ⟨iff_of_false ?_ hunreadable.not_readable, ?_, ?_⟩
    · rintro (⟨_, ⟨⟩⟩ | ⟨_, _, ⟨⟩⟩)
    · intro other
      constructor
      · rintro ⟨⟩
        exact hunreadable
      · intro hother
        rw [hunreadable.unique hother]
    · rintro _ ⟨⟩
      exact ⟨Or.inr ⟨source, rfl⟩, iff_of_false Bool.noConfusion hunreadable.not_readable⟩

/-- An environment with a list that is JSON but no list of texts, and a number that is none, beside
an environment file with a list that is no JSON. -/
def mistaken : Sources where
  environment := [("Babel_Julia_Julia_Args", "[null]"), ("BABEL_JULIA_POLL_ATTEMPTS", "many")]
  dotenv := some "BABEL_JULIA_JULIA_ARGS=--quiet"

/-- What is wrong with the values is told only once the environment file can be read. -/
theorem load_configured_mistaken :
    load mistaken = .error (.unreadableSetting "julia_args" "DotEnvSettingsSource") ∧
    ¬ ((∃ settings, load mistaken = .ok settings) ∨
      ∃ found, Configuration found ∧ load mistaken = .error (.configuration found)) ∧
    load { mistaken with dotenv := none } =
      .error (.configuration [⟨"poll_attempts", .intParsing⟩, ⟨"julia_args.0", .stringType⟩]) ∧
    Sources.Readable { mistaken with dotenv := none } := by
  have hexported : ReadsList mistaken.exported := by
    have htext : textIn mistaken.exported listField = some "[null]" := rfl
    rintro s hs
    rw [htext] at hs
    cases hs
    exact Option.some_ne_none _
  have hfiled : ¬ ReadsList mistaken.filed := fun hreads => hreads "--quiet" rfl rfl
  have hunreadable : mistaken.Unreadable "DotEnvSettingsSource" := .file hexported hfiled
  have hrefused : load { mistaken with dotenv := none } =
      .error (.configuration [⟨"poll_attempts", .intParsing⟩, ⟨"julia_args.0", .stringType⟩]) :=
    rfl
  obtain ⟨hconfigured, hunread, _⟩ := load_configured_iff mistaken
  obtain ⟨_, _, hreported⟩ := load_configured_iff { mistaken with dotenv := none }
  exact ⟨(hunread _).mpr hunreadable, hconfigured.not.mpr hunreadable.not_readable, hrefused,
    (hreported _ hrefused).2.mp rfl⟩

/-- A list that is given by hand, as one would on a command line, ends loading with a failure that is
neither a refusal nor told of as the user's own. -/
theorem plain_list_not_configured :
    let sources : Sources := { environment := [("BABEL_JULIA_JULIA_ARGS", "--quiet")] }
    load sources = .error (.unreadableSetting "julia_args" "EnvSettingsSource") ∧
    (Failure.unreadableSetting "julia_args" "EnvSettingsSource").isReported = false ∧
    ¬ ((∃ settings, load sources = .ok settings) ∨
      ∃ found, load sources = .error (.configuration found)) := by
  intro sources
  have hload : load sources = .error (.unreadableSetting "julia_args" "EnvSettingsSource") := rfl
  rw [hload]
  refine ⟨rfl, rfl, ?_⟩
  rintro (⟨_, ⟨⟩⟩ | ⟨_, ⟨⟩⟩)

end Settings

end JuliaBlocks
