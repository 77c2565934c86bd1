import JuliaBlocks.Proofs.Cli.Wrap
import JuliaBlocks.Proofs.Framework.Routing
import JuliaBlocks.Proofs.Settings.Interval

/-!
Where the text of commands goes, and what this says of session keys all in all: the name that a key
leads to is its normal form, and nothing that the program can be asked to do sends text anywhere
else. Main statement: `sessions_canonical`.
-/

namespace JuliaBlocks

open SessionRef

variable {σ : Type}

/-- The default session of settings that were loaded is one that text may be sent to. -/
theorem Settings.default_proper {sources : Sources} {settings : Settings}
    (hload : load sources = .ok settings) : Proper settings.defaultSession where
  ne_empty := (load_valid hload).session.1
  ne_ephemeral := (load_valid hload).session.2
  stripped := session_of_load hload

namespace Cli

theorem conclude_framework (venue : Venue σ) (outcome : Outcome)
    (framework : Option (Framework σ)) :
    (conclude venue outcome framework).2 = framework.map (·.close venue.shut) := by
  unfold conclude
  split
  · rfl
  · rfl

/-- What a command leaves behind, a framework can be brought to from where it starts under settings
that were loaded. -/
theorem exists_acts_of_run {surroundings : Surroundings} {venue : Venue σ} {command : Command}
    {framework : Framework σ} (hrun : (run surroundings venue command).2 = some framework) :
    ∃ overrides settings acts, surroundings.settings overrides = .ok settings ∧
      framework = Framework.runActs venue.sinks venue.shut acts
        { settings, registry := { leaving := venue.leaving },
          run := surroundings.start venue settings } := by
  cases command with
  | expand block => cases hrun
  | wrap block => cases hrun
  | hooks => cases hrun
  | evaluate block debug =>
      rw [run, conclude_framework] at hrun
      cases hprepare : surroundings.prepare debug with
      | error failure =>
          simp only [Surroundings.evaluate, hprepare] at hrun
          cases hrun
      | ok settings =>
          obtain ⟨loaded, hloaded, hconfigured⟩ := exists_of_bind_ok hprepare
          obtain ⟨_, _, hconfigured⟩ := exists_of_bind_ok hconfigured
          cases hconfigured
          cases hrequest : surroundings.request block with
          | error failure =>
              -- The framework is there before the request is made of the block.
              simp only [Surroundings.evaluate, hprepare, hrequest] at hrun
              cases hrun
              exact ⟨_, settings, [.step (.load venue.advertised), .step .close], hloaded,
                rfl⟩
          | ok request =>
              simp only [Surroundings.evaluate, hprepare, hrequest] at hrun
              cases hrun
              exact ⟨_, settings, [.step (.load venue.advertised),
                .step (.evaluate request), .step .close], hloaded, rfl⟩

end Cli

/-- Session routing is canonical. Under any default that text may be sent to, be it that of settings
that were loaded, a key leads to a session that text may be sent to: its name is not empty, has no
blanks around it and is not the key of evaluations that keep no state. A key leads to a session that
does not persist just if it is that key, with or without blanks around it, and then to the default.
The key of what was resolved leads to the same again, and two keys lead to one name just if they have
the same normal form. And so all that is sent, in a run of the transport, by a framework or by a
command, is sent to such a session. -/
theorem sessions_canonical :
    (∀ default, Proper default →
      (∀ key,
        let ref := resolve key default
        Proper ref.name ∧
        (ref.persistent = false ↔ ∃ s, key = some s ∧ Text.trim s = ephemeralKey) ∧
        (ref.persistent = false → ref.name = default) ∧
        resolve (some ref.key) default = ref) ∧
      (∀ key other, (resolve key default).name = (resolve other default).name ↔
        normalKey default key = normalKey default other) ∧
      ∀ {σ : Type} settings, settings.defaultSession = default →
        (∀ (sink : Sink σ) observer steps start, ∃ added,
          (Transport.runSteps sink settings observer steps start).destinations =
            start.destinations ++ added ∧ ∀ session ∈ added, Proper session) ∧
        ∀ (sinks : Channel → Sink σ) shut acts start, start.settings = settings → ∃ added,
          (Framework.runActs sinks shut acts start).destinations =
            start.destinations ++ added ∧ ∀ session ∈ added, Proper session) ∧
    (∀ sources settings, Settings.load sources = .ok settings → Proper settings.defaultSession) ∧
    ∀ {σ : Type} (surroundings : Cli.Surroundings) (venue : Cli.Venue σ) command framework,
      (Cli.run surroundings venue command).2 = some framework →
        ∀ session ∈ framework.destinations, Proper session := by
  refine ⟨?_, fun _ _ hload => Settings.default_proper hload, ?_⟩
  · intro default hdefault
    refine ⟨?_, ?_, ?_⟩
    · intro key ref
      refine ⟨resolve_proper hdefault key, persistent_eq_false_iff key default, ?_,
        resolve_key hdefault key⟩
      intro hephemeral
      obtain ⟨s, rfl, hs⟩ := (persistent_eq_false_iff key default).mp hephemeral
      exact congrArg SessionRef.name (resolve_of_ephemeral hs default)
    · intro key other
      rw [resolve_name, resolve_name]
    · rintro σ settings rfl
      constructor
      · intro sink observer steps start
        exact Transport.destinations_proper sink settings observer hdefault steps start
      · rintro sinks shut acts start rfl
        exact Framework.destinations_proper sinks shut hdefault acts
  · intro σ surroundings venue command framework hrun
    obtain ⟨overrides, settings, acts, hload, rfl⟩ := Cli.exists_acts_of_run hrun
    let start : Framework σ :=
      { settings, registry := { leaving := venue.leaving }, run := surroundings.start venue settings }
    obtain ⟨added, hadded, hproper⟩ := start.destinations_proper venue.sinks venue.shut
      (Settings.default_proper hload) acts
    rw [hadded]
    exact hproper

theorem sessions_canonical_desk :
    let padded := some "\u00A0none\x1C"
    let steps : List Transport.Step := [
      .evaluate { body := "x", sessionKey := .text "\u00A0none\x1C" },
      .prepSession (some " 1\n") [("x", .int 1)]]
    let start : Run Recording := { state := {}, files := Cli.desk.files }
    let idle : Framework Recording := { settings := Cli.deskSettings, run := start }
    let acts : List (Framework.Act Recording) := [
      .step (.loadSession { body := "x", sessionKey := .text "\t" })]
    ((resolve padded "work").name = "work" ∧
      resolve (some (resolve padded "work").key) "work" = resolve padded "work") ∧
    (resolve none "work").name = (resolve (some "\twork ") "work").name ∧
    (resolve (some "None") "work").name ≠ (resolve (some " none") "work").name ∧
    (Transport.runSteps Recording.sink Cli.deskSettings none steps start).destinations =
      ["work", "1"] ∧ (∀ session ∈ ["work", "1"], Proper session) ∧
    (Framework.runActs (fun _ => Recording.sink) (fun _ run => run) acts idle).destinations =
      ["work"] ∧ (∀ session ∈ ["work"], Proper session) ∧
    ∃ framework, (Cli.run Cli.desk Cli.silent (.evaluate Cli.binding false)).2 = some framework ∧
      ∀ session ∈ framework.destinations, Proper session := by
  intro padded steps start idle acts
  obtain ⟨hdefaults, hloaded, hcommands⟩ := sessions_canonical
  have hdefault : Proper "work" :=
    hloaded _ Cli.deskSettings (Cli.Surroundings.settings_of_prepare Cli.desk_prepare)
  obtain ⟨hkeys, hnames, hruns⟩ := hdefaults "work" hdefault
  obtain ⟨_, _, hrouted, hagain⟩ := hkeys padded
  obtain ⟨hsteps, hacts⟩ := hruns (σ := Recording) Cli.deskSettings rfl
  have hsent : (Transport.runSteps Recording.sink Cli.deskSettings none steps start).destinations =
      ["work", "1"] := by decide
  obtain ⟨added, hadded, hproper⟩ := hsteps Recording.sink none steps start
  obtain rfl : ["work", "1"] = added := hsent.symm.trans hadded
  have hloads : (Framework.runActs (fun _ => Recording.sink) (fun _ run => run) acts
      idle).destinations = ["work"] := by decide
  obtain ⟨more, hmore, hsafe⟩ := hacts (fun _ => Recording.sink) (fun _ run => run) acts idle rfl
  obtain rfl : ["work"] = more := hloads.symm.trans hmore
  obtain ⟨framework, hrun⟩ : ∃ framework,
    (Cli.run Cli.desk Cli.silent (.evaluate Cli.binding false)).2 = some framework := ⟨_, rfl⟩
  exact ⟨⟨hrouted (by decide), hagain⟩, (hnames none (some "\twork ")).mpr (by decide),
    (hnames (some "None") (some " none")).not.mpr (by decide), hsent, hproper, hloads, hsafe,
    framework, hrun, hcommands Cli.desk Cli.silent _ framework hrun⟩

end JuliaBlocks
