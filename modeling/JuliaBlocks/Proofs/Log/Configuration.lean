import JuliaBlocks.Log
import Mathlib.Data.List.Induction

/-!
Configuring logging again. The profile that is configured is left as it is, and any other gets one
handler in place of all there are. A call that fails has taken them away already, while the profile
from before still counts as configured, so that a later call for it installs none. Main statement:
`setUpAll_keeps_iff`.
-/

namespace JuliaBlocks.Log

theorem Profile.ofName?_eq_some_iff {s : String} {p : Profile} :
    ofName? s = some p ↔ s = p.name := by
  constructor
  · intro hread
    unfold ofName? at hread
    split at hread <;> cases hread <;> rfl
  · rintro rfl
    cases p <;> rfl

/-- One call that configures logging: the profile and the level that it names. -/
structure Setup where
  profile : String
  level : String

namespace Logging

def setUp (log : Logging) (setup : Setup) : Except Failure Unit × Logging :=
  log.configure setup.profile setup.level

/-- The state after some calls, of which any may fail. -/
def setUpAll (log : Logging) (setups : List Setup) : Logging :=
  setups.foldl (fun log setup => (log.setUp setup).2) log

/-- Whether a profile is the one that counts as configured. -/
def IsActive (log : Logging) (profile : String) : Prop :=
  log.configured.map Profile.name = some profile

/-- Whether there is one handler, and it is of a profile. -/
def Serves (log : Logging) (profile : String) : Prop :=
  ∃ p threshold, profile = p.name ∧ log.handlers = [⟨p, threshold⟩]

/-- What one call comes to. -/
inductive Effect (log : Logging) (setup : Setup) : Except Failure Unit × Logging → Prop
  | idles (hactive : log.IsActive setup.profile) : Effect log setup (.ok (), log)
  | installs {p : Profile} {threshold : Level} (hother : ¬ log.IsActive setup.profile)
      (hprofile : setup.profile = p.name)
      (hlevel : Level.ofName? (Text.upper setup.level) = some threshold) :
      Effect log setup
        (.ok (), { log with handlers := [⟨p, threshold⟩], configured := some p })
  | lacksProfile (hother : ¬ log.IsActive setup.profile)
      (hprofile : ∀ p : Profile, setup.profile ≠ p.name) :
      Effect log setup (.error (.unknownProfile setup.profile), { log with handlers := [] })
  | lacksLevel {p : Profile} (hother : ¬ log.IsActive setup.profile)
      (hprofile : setup.profile = p.name)
      (hlevel : Level.ofName? (Text.upper setup.level) = none) :
      Effect log setup
        (.error (.unknownLevel (Text.upper setup.level)), { log with handlers := [] })

theorem setUp_effect (log : Logging) (setup : Setup) : Effect log setup (log.setUp setup) := by
  unfold setUp configure
  split
  · next hactive => exact .idles hactive
  · next hother =>
    cases hprofile : Profile.ofName? setup.profile with
    | none =>
        refine .lacksProfile hother fun p hname => ?_
        rw [Profile.ofName?_eq_some_iff.mpr hname] at hprofile
        cases hprofile
    | some p =>
        have hname := Profile.ofName?_eq_some_iff.mp hprofile
        dsimp only [Level.ofName]
        cases hlevel : Level.ofName? (Text.upper setup.level) with
        | none => exact .lacksLevel hother hname hlevel
        | some threshold => exact .installs hother hname hlevel

section Step

variable {log : Logging} {setup : Setup}

theorem setUp_of_active (hactive : log.IsActive setup.profile) :
    log.setUp setup = (.ok (), log) := if_pos hactive

theorem setUp_of_error {failure : Failure} (hfails : (log.setUp setup).1 = .error failure) :
    (log.setUp setup).2 = { log with handlers := [] } := by
  have heffect := log.setUp_effect setup
  generalize log.setUp setup = result at heffect hfails
  cases heffect with
  | idles => cases hfails
  | installs => cases hfails
  | lacksProfile => rfl
  | lacksLevel => rfl

theorem setUp_of_ok (hreturns : (log.setUp setup).1 = .ok ()) :
    log.IsActive setup.profile ∧ (log.setUp setup).2 = log ∨
    ¬ log.IsActive setup.profile ∧ ∃ p threshold, setup.profile = p.name ∧
      (log.setUp setup).2 = { log with handlers := [⟨p, threshold⟩], configured := some p } := by
  have heffect := log.setUp_effect setup
  generalize log.setUp setup = result at heffect hreturns
  cases heffect with
  | idles hactive => exact .inl ⟨hactive, rfl⟩
  | installs hother hprofile _ => exact .inr ⟨hother, _, _, hprofile, rfl⟩
  | lacksProfile => cases hreturns
  | lacksLevel => cases hreturns

end Step

/-- Whether a call loses no handler: if it returns there is one, of its profile; the profile that is
configured stays as it is; and if it fails nothing has changed. -/
structure Keeps (log : Logging) (setup : Setup) : Prop where
  served : (log.setUp setup).1 = .ok () → (log.setUp setup).2.Serves setup.profile
  settled : log.IsActive setup.profile → log.setUp setup = (.ok (), log)
  refused : ∀ failure, (log.setUp setup).1 = .error failure →
    (log.setUp setup).2.handlers = log.handlers ∧
      (log.setUp setup).2.configured = log.configured

theorem keeps_iff {log : Logging} {setup : Setup} :
    log.Keeps setup ↔
      (log.IsActive setup.profile → log.Serves setup.profile) ∧
      ∀ failure, (log.setUp setup).1 = .error failure → log.handlers = [] := by
  constructor
  · intro hkeeps
    refine ⟨fun hactive => ?_, fun failure hfails => ?_⟩
    · have hserved := hkeeps.served
      rw [setUp_of_active hactive] at hserved
      exact hserved rfl
    · obtain ⟨hsame, _⟩ := hkeeps.refused failure hfails
      rw [← hsame, setUp_of_error hfails]
  · rintro ⟨hserves, hbare⟩
    refine ⟨fun hreturns => ?_, setUp_of_active, fun failure hfails => ?_⟩
    · rcases setUp_of_ok hreturns with ⟨hactive, hsame⟩ | ⟨_, p, threshold, hprofile, hnew⟩
      · rw [hsame]
        exact hserves hactive
      · rw [hnew]
        exact ⟨p, threshold, hprofile, rfl⟩
    · rw [setUp_of_error hfails, hbare failure hfails]
      exact ⟨rfl, rfl⟩

section Run

variable {start : Logging} {setups : List Setup} {setup : Setup}

theorem setUpAll_concat (start : Logging) (setups : List Setup) (setup : Setup) :
    start.setUpAll (setups ++ [setup]) = ((start.setUpAll setups).setUp setup).2 := by
  rw [setUpAll, List.foldl_append]
  rfl

/-- Whether the last call that was not for the configured profile has failed. -/
inductive Bare (start : Logging) : List Setup → Prop
  | fails {setups : List Setup} {setup : Setup} {failure : Failure}
      (hfails : ((start.setUpAll setups).setUp setup).1 = .error failure) :
      Bare start (setups ++ [setup])
  | idles {setups : List Setup} {setup : Setup} (hbare : Bare start setups)
      (hactive : (start.setUpAll setups).IsActive setup.profile) : Bare start (setups ++ [setup])

theorem bare_concat_iff :
    start.Bare (setups ++ [setup]) ↔
      (∃ failure, ((start.setUpAll setups).setUp setup).1 = .error failure) ∨
      start.Bare setups ∧ (start.setUpAll setups).IsActive setup.profile := by
  constructor
  · intro hbare
    generalize hall : setups ++ [setup] = all at hbare
    cases hbare with
    | fails hfails =>
        obtain ⟨rfl, hlast⟩ := List.append_inj' hall rfl
        cases hlast
        exact .inl ⟨_, hfails⟩
    | idles hbare hactive =>
        obtain ⟨rfl, hlast⟩ := List.append_inj' hall rfl
        cases hlast
        exact .inr ⟨hbare, hactive⟩
  · rintro (⟨failure, hfails⟩ | ⟨hbare, hactive⟩)
    · exact .fails hfails
    · exact .idles hbare hactive

/-- Once a call has failed there are no handlers until one installs its own. Otherwise either no
call has done anything, or there is one handler, of the profile that is configured. -/
theorem setUpAll_cases (start : Logging) (setups : List Setup) :
    start.Bare setups ∧ (start.setUpAll setups).handlers = [] ∨
    ¬ start.Bare setups ∧ (start.setUpAll setups = start ∨
      ∃ p threshold, (start.setUpAll setups).configured = some p ∧
        (start.setUpAll setups).handlers = [⟨p, threshold⟩]) := by
  induction setups using List.reverseRecOn with
  | nil =>
      refine .inr ⟨fun hbare => ?_, .inl rfl⟩
      generalize hall : ([] : List Setup) = all at hbare
      cases hbare <;> simp at hall
  | append_singleton setups setup ih =>
      rw [bare_concat_iff, setUpAll_concat]
      cases hresult : ((start.setUpAll setups).setUp setup).1 with
      | error failure =>
          exact .inl ⟨.inl ⟨failure, rfl⟩, by rw [setUp_of_error hresult]⟩
      | ok _ =>
          simp only [reduceCtorEq, exists_false, false_or]
          rcases setUp_of_ok hresult with ⟨hactive, hsame⟩ | ⟨hother, p, threshold, _, hnew⟩
          · rw [hsame]
            simpa only [hactive, and_true] using ih
          · rw [hnew]
            exact .inr ⟨fun hbare => hother hbare.2, .inr ⟨p, threshold, rfl, rfl⟩⟩

theorem IsActive.serves {log : Logging} {profile : String} {p : Profile} {threshold : Level}
    (hactive : log.IsActive profile) (hconfigured : log.configured = some p)
    (hhandlers : log.handlers = [⟨p, threshold⟩]) : log.Serves profile := by
  rw [IsActive, hconfigured, Option.map_some, Option.some.injEq] at hactive
  exact ⟨p, threshold, hactive.symm, hhandlers⟩

/-- After calls from the start, the configured profile has its handler unless it was taken away. -/
theorem serves_iff_of_active (hfresh : start.configured = none) {profile : String}
    (hactive : (start.setUpAll setups).IsActive profile) :
    (start.setUpAll setups).Serves profile ↔ ¬ start.Bare setups := by
  rcases start.setUpAll_cases setups with ⟨hbare, hnone⟩ | ⟨hsafe, hsame | ⟨p, t, hp, ht⟩⟩
  · refine iff_of_false ?_ (not_not_intro hbare)
    rintro ⟨p, t, _, hhandlers⟩
    rw [hnone] at hhandlers
    cases hhandlers
  · rw [hsame, IsActive, hfresh] at hactive
    cases hactive
  · exact iff_of_true (hactive.serves hp ht) hsafe

/-- Whether none of some calls fails while there is a handler. -/
def Lossless (start : Logging) (setups : List Setup) : Prop :=
  ∀ before setup failure, before ++ [setup] <+: setups →
    ((start.setUpAll before).setUp setup).1 = .error failure → (start.setUpAll before).handlers = []

theorem Lossless.of_prefix {before : List Setup} (hlossless : start.Lossless setups)
    (hpre : before <+: setups) : start.Lossless before :=
  fun earlier other failure hearlier => hlossless earlier other failure (hearlier.trans hpre)

/-- Calls that only fail where there is no handler have not configured anything yet when handlers
are missing on account of one. -/
theorem Bare.configured_eq_none (hfresh : start.configured = none)
    (hlossless : start.Lossless setups) (hbare : start.Bare setups) :
    (start.setUpAll setups).configured = none := by
  induction setups using List.reverseRecOn with
  | nil => exact hfresh
  | append_singleton setups setup ih =>
      have hbefore := ih (hlossless.of_prefix (List.prefix_append _ _))
      rw [setUpAll_concat]
      rcases bare_concat_iff.mp hbare with ⟨failure, hfails⟩ | ⟨hbare, hactive⟩
      · have hnone := hlossless setups setup failure List.prefix_rfl hfails
        rw [setUp_of_error hfails]
        change (start.setUpAll setups).configured = none
        -- what was there before the failure is no handler, so nothing has installed one
        rcases start.setUpAll_cases setups with ⟨hbare, _⟩ | ⟨_, hsame | ⟨p, t, _, ht⟩⟩
        · exact hbefore hbare
        · rw [hsame, hfresh]
        · rw [hnone] at ht
          cases ht
      · rw [setUp_of_active hactive]
        exact hbefore hbare

/-- Where nothing is configured yet, whatever handlers there are, a sequence of calls loses no
handler just if none of them fails while there is one. A single call loses none just if it does not
fail while there is one, and does not ask for the configured profile after a call that has failed,
since it then returns and there is no handler. In any case a call has one of four effects. -/
theorem setUpAll_keeps_iff (hfresh : start.configured = none) (setups : List Setup) :
    (∀ setup, Effect (start.setUpAll setups) setup ((start.setUpAll setups).setUp setup)) ∧
    (∀ setup, (start.setUpAll setups).Keeps setup ↔
      ¬ (start.Bare setups ∧ (start.setUpAll setups).IsActive setup.profile) ∧
      ∀ failure, ((start.setUpAll setups).setUp setup).1 = .error failure →
        (start.setUpAll setups).handlers = []) ∧
    ((∀ before setup, before ++ [setup] <+: setups → (start.setUpAll before).Keeps setup) ↔
      start.Lossless setups) := by
  refine ⟨setUp_effect _, fun setup => ?_, fun hkeeps => ?_, fun hlossless => ?_⟩
  · rw [keeps_iff, not_and']
    refine and_congr_left' (forall_congr' fun hactive => ?_)
    exact serves_iff_of_active hfresh hactive
  · intro before setup failure hpre hfails
    exact (keeps_iff.mp (hkeeps before setup hpre)).2 failure hfails
  · intro before setup hpre
    refine keeps_iff.mpr ⟨fun hactive => ?_, fun failure => hlossless before setup failure hpre⟩
    refine (serves_iff_of_active hfresh hactive).mpr fun hbare => ?_
    have hnone := hbare.configured_eq_none hfresh
      (hlossless.of_prefix ((List.prefix_append _ _).trans hpre))
    rw [IsActive, hnone] at hactive
    cases hactive

end Run

/-- A level that does not exist does no harm before there is a handler, and none where the profile
is configured already. -/
theorem setUpAll_keeps_mistaken :
    let setups : List Setup := [⟨"cli", "loud"⟩, ⟨"cli", "info"⟩, ⟨"cli", "loud"⟩]
    ({} : Logging).configured = none ∧
    (({} : Logging).setUp ⟨"cli", "loud"⟩).1 = .error (.unknownLevel "LOUD") ∧
    ({} : Logging).Lossless setups ∧
    (∀ before setup, before ++ [setup] <+: setups → (({} : Logging).setUpAll before).Keeps setup) ∧
    (({} : Logging).setUpAll setups).handlers = [⟨.cli, .info⟩] := by
  intro setups
  have hfresh : ({} : Logging).configured = none := rfl
  have hlossless : ({} : Logging).Lossless setups := by
    rintro before setup failure ⟨rest, hrest⟩ hfails
    match before, hrest with
    | [], _ => rfl
    | [first], hrest =>
        simp only [setups, List.cons_append, List.nil_append, List.cons.injEq] at hrest
        obtain ⟨rfl, rfl, _⟩ := hrest
        cases hfails
    | [first, second], hrest =>
        simp only [setups, List.cons_append, List.nil_append, List.cons.injEq] at hrest
        obtain ⟨rfl, rfl, rfl, _⟩ := hrest
        cases hfails
    | first :: second :: third :: before, hrest => simp [setups] at hrest
  obtain ⟨_, _, hkeeps⟩ := setUpAll_keeps_iff hfresh setups
  exact ⟨hfresh, rfl, hlossless, hkeeps.mpr hlossless, rfl⟩

/-- A change of profile that fails takes the handler away. A call for the profile that is still
configured then returns as if all were well, and brings none back. -/
theorem failedChange_not_kept :
    let log := ({} : Logging).setUpAll [⟨"default", "info"⟩, ⟨"cli", "loud"⟩]
    (log.setUp ⟨"default", "info"⟩).1 = .ok () ∧
    (log.setUp ⟨"default", "info"⟩).2.handlers = [] ∧
    ¬ log.Keeps ⟨"default", "info"⟩ := by
  intro log
  have hnone : (log.setUp ⟨"default", "info"⟩).2.handlers = [] := rfl
  refine ⟨rfl, hnone, fun hkeeps => ?_⟩
  obtain ⟨p, threshold, _, hhandlers⟩ := hkeeps.served rfl
  rw [hnone] at hhandlers
  cases hhandlers

end Logging

end JuliaBlocks.Log
