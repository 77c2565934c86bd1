import JuliaBlocks.Proofs.Except
import JuliaBlocks.Settings

/-!
What is known of settings that were loaded: the conditions that their fields are read under hold of
them, and of the defaults just as well.
-/

namespace JuliaBlocks

/-- The conditions on settings: time passes between two looks at an output file, there is a look,
a line may have a character, and the default session keeps its state. -/
structure Settings.Valid (settings : Settings) : Prop where
  interval : settings.pollInterval.isNonpositive = false
  attempts : 1 ≤ settings.pollAttempts
  lines : 1 ≤ settings.maxLineLength
  session : settings.defaultSession ≠ "" ∧ settings.defaultSession ≠ SessionRef.ephemeralKey

theorem Field.holds_of_require {α : Type} {reader : Reader α} {holds : α → Bool}
    {message : α → String} {v : Value} {a : α} (hread : require reader holds message v = .ok a) :
    holds a = true := by
  obtain ⟨b, _, hread⟩ := exists_of_bind_ok hread
  split at hread
  · next hb =>
    cases hread
    exact hb
  · cases hread

namespace Settings

/-- A setting that is taken meets its condition, if the default does. -/
theorem holds_of_take {α : Type} {values : Named Value} {field : String} {reader : Field.Reader α}
    {holds : α → Bool} {message : α → String} {default a : α} (hdefault : holds default = true)
    (htake : take values field (Field.require reader holds message) default = .ok a) :
    holds a = true := by
  unfold take at htake
  split at htake
  · cases htake
    exact hdefault
  · exact Field.holds_of_require (ok_of_mapError_ok htake)

theorem usual_valid : usual.Valid where
  interval := by decide
  attempts := by decide
  lines := by decide
  session := by decide

/-- Where each of the settings is taken from what is given. -/
structure Taken (objects : Field.Objects) (given : Given) (settings : Settings) : Prop where
  debug : take given.values "debug" (Field.bool objects) usual.debug = .ok settings.debug
  pollInterval :
    take given.values "poll_interval" (interval objects) usual.pollInterval =
      .ok settings.pollInterval
  pollAttempts :
    take given.values "poll_attempts" (count objects) usual.pollAttempts = .ok settings.pollAttempts
  maxLineLength :
    take given.values "max_line_length" (count objects) usual.maxLineLength =
      .ok settings.maxLineLength
  tempDir : take given.values "temp_dir" (Field.path objects) usual.tempDir = .ok settings.tempDir
  defaultSession :
    take given.values "default_session" (sessionName objects) usual.defaultSession =
      .ok settings.defaultSession
  juliaCommand :
    take given.values "julia_command" (Field.text objects) usual.juliaCommand =
      .ok settings.juliaCommand
  juliaArgs : takeList objects given = .ok settings.juliaArgs
  logLevel : take given.values "log_level" (Field.text objects) usual.logLevel = .ok settings.logLevel

theorem taken_of_load {sources : Sources} {settings : Settings}
    (hload : load sources = .ok settings) :
    ∃ given, gather sources = .ok given ∧ Taken sources.objects given settings := by
  obtain ⟨given, hgiven, hread⟩ := exists_of_bind_ok hload
  have hread := ok_of_mapError_ok hread
  obtain ⟨_, hdebug, hread⟩ := exists_of_bind_ok hread
  obtain ⟨_, hinterval, hread⟩ := exists_of_bind_ok hread
  obtain ⟨_, hattempts, hread⟩ := exists_of_bind_ok hread
  obtain ⟨_, hlines, hread⟩ := exists_of_bind_ok hread
  obtain ⟨_, hdirectory, hread⟩ := exists_of_bind_ok hread
  obtain ⟨_, hsession, hread⟩ := exists_of_bind_ok hread
  obtain ⟨_, hcommand, hread⟩ := exists_of_bind_ok hread
  obtain ⟨_, harguments, hread⟩ := exists_of_bind_ok hread
  obtain ⟨_, hlevel, hread⟩ := exists_of_bind_ok hread
  cases hread
  exact ⟨given, hgiven, hdebug, hinterval, hattempts, hlines, hdirectory, hsession, hcommand,
    harguments, hlevel⟩

/-- Settings that were loaded are valid. -/
theorem load_valid {sources : Sources} {settings : Settings} (hload : load sources = .ok settings) :
    settings.Valid := by
  obtain ⟨given, _, htaken⟩ := taken_of_load hload
  constructor
  · simpa using holds_of_take (by decide) htaken.pollInterval
  · simpa using holds_of_take (by decide) htaken.pollAttempts
  · simpa using holds_of_take (by decide) htaken.maxLineLength
  · simpa using holds_of_take (by decide) htaken.defaultSession

end Settings

end JuliaBlocks
