import JuliaBlocks.Proofs.Cli.Exchanges
import JuliaBlocks.Proofs.Named
import JuliaBlocks.Proofs.Request.Header
import JuliaBlocks.Proofs.Text.Control
import JuliaBlocks.Proofs.Transport.Trampoline

/-!
What the command that wraps a block prints and what the command that evaluates it brings into the
session: the same source, but for its control sequences. Main statement: `wrap_shows_source`.
-/

namespace JuliaBlocks.Cli

variable {σ : Type}

namespace Outcome

theorem plain_append_newline (s : String) : plain (s ++ "\n") = plain s ++ "\n" := by
  rw [plain, plain, String.toList_append]
  have hnewline : "\n".toList = ['\n'] := rfl
  rw [hnewline, Text.dropControls_append_newline, String.ofList_append]

theorem plain_eq_self_iff (s : String) : plain s = s ↔ ¬ Text.HasControl s.toList := by
  rw [← Text.dropControls_eq_self_iff, plain, ← String.toList_inj, String.toList_ofList]

theorem eq_ok_of_exitCode {result : Except Failure String} (hexit : (ofBlock result).exitCode = 0) :
    ∃ text, result = .ok text := by
  cases result with
  | ok text => exact ⟨text, rfl⟩
  | error failure =>
      rw [ofBlock] at hexit
      split at hexit
      · cases hexit
      · cases hexit

end Outcome

namespace Block

theorem lookup_entry (name other : String) (v : Option Value) :
    (entry name v).lookup other = if other = name then v else none := by
  cases v with
  | none => simp [entry]
  | some v =>
      by_cases hname : other = name
      · rw [if_pos hname, hname]
        exact Named.lookup_cons_self name v []
      · rw [if_neg hname]
        exact Named.lookup_cons_of_ne hname v []

theorem lookup_entries_of_ne {name other : String} (hne : other ≠ name) (items : List String) :
    (entries name items).lookup other = none := by
  cases items with
  | nil => rfl
  | cons item items => exact Named.lookup_cons_of_ne hne _ []

theorem get_session (block : Block) :
    Header.get block.params "session" = .ofText? block.session := by
  simp only [Header.get, params, List.lookup_append, lookup_entry]
  rw [lookup_entries_of_ne (by decide), lookup_entries_of_ne (by decide)]
  cases block.session with
  | none => rfl
  | some key => rfl

end Block

namespace Surroundings

theorem sessionKey_of_request {surroundings : Surroundings} {block : Block} {request : Request}
    (hrequest : surroundings.request block = .ok request) :
    request.sessionKey = .ofText? block.session := by
  have hkey := (Request.taken_of_ofHeader hrequest).session
  rw [block.get_session] at hkey
  cases hsession : block.session with
  | none =>
      rw [hsession] at hkey
      exact (Except.ok.inj hkey).symm
  | some key =>
      rw [hsession] at hkey
      exact (Except.ok.inj hkey).symm

theorem settings_of_prepare {surroundings : Surroundings} {settings : Settings}
    (hprepare : surroundings.prepare false = .ok settings) :
    surroundings.settings = .ok settings := by
  obtain ⟨loaded, hloaded, hprepare⟩ := exists_of_bind_ok hprepare
  obtain ⟨_, _, hprepare⟩ := exists_of_bind_ok hprepare
  cases hprepare
  exact hloaded

/-- Whether a block is wrapped into a source, under settings that can be loaded. -/
structure Wraps (surroundings : Surroundings) (block : Block) (settings : Settings)
    (request : Request) (source : String) : Prop where
  loaded : surroundings.settings = .ok settings
  requested : surroundings.request block = .ok request
  rendered : ∃ snippet, Snippet.expand request = .ok snippet ∧ Template.wrap snippet
    request.resultKind (Transport.resolve settings block.session).persistent = .ok source

theorem Wraps.ref_eq {surroundings : Surroundings} {block : Block} {settings : Settings}
    {request : Request} {source : String}
    (hwraps : surroundings.Wraps block settings request source) :
    Transport.requested settings request = .ok (Transport.resolve settings block.session) :=
  Transport.requested_ofText? (sessionKey_of_request hwraps.requested)

theorem Wraps.source_unique {surroundings : Surroundings} {block : Block} {settings : Settings}
    {request : Request} {source other : String}
    (hsource : surroundings.Wraps block settings request source)
    (hother : surroundings.Wraps block settings request other) : other = source := by
  obtain ⟨snippet, hsnippet, hrendered⟩ := hsource.rendered
  obtain ⟨again, hagain, hsame⟩ := hother.rendered
  rw [hsnippet] at hagain
  cases hagain
  exact Except.ok.inj (hsame.symm.trans hrendered)

theorem wrap_eq_ok_iff {surroundings : Surroundings} {block : Block} {text : String} :
    surroundings.wrap block = .ok text ↔
      ∃ settings request source, surroundings.Wraps block settings request source ∧
        text = source ++ "\n" := by
  constructor
  · intro hwrap
    obtain ⟨request, hrequest, hwrap⟩ := exists_of_bind_ok hwrap
    obtain ⟨settings, hsettings, hwrap⟩ := exists_of_bind_ok hwrap
    obtain ⟨ref, href, hwrap⟩ := exists_of_bind_ok hwrap
    obtain ⟨snippet, hsnippet, hwrap⟩ := exists_of_bind_ok hwrap
    obtain ⟨source, hsource, hwrap⟩ := exists_of_bind_ok hwrap
    cases hwrap
    rw [Transport.requested_ofText? (sessionKey_of_request hrequest)] at href
    cases href
    exact ⟨settings, request, source, ⟨hsettings, hrequest, snippet, hsnippet, hsource⟩, rfl⟩
  · rintro ⟨settings, request, source, hwraps, rfl⟩
    obtain ⟨snippet, hsnippet, hsource⟩ := hwraps.rendered
    simp only [wrap, hwraps.requested, hwraps.loaded, hwraps.ref_eq, hsnippet, bind, Except.bind]
    rw [hsource]
    rfl

/-- An evaluation that is planned is one of a block that can be wrapped: it brings the source into
the session that the block is wrapped for. -/
theorem wraps_of_plan {surroundings : Surroundings} {block : Block} {settings : Settings}
    {request : Request} {run : Run σ} {p : Transport.Plan}
    (hsettings : surroundings.settings = .ok settings)
    (hrequest : surroundings.request block = .ok request)
    (hplan : Transport.plan settings request run = .ok p) :
    surroundings.Wraps block settings request p.wrapped ∧
      p.ref = Transport.resolve settings block.session ∧
      p.trampoline = Transport.trampolineText p.files request.resultKind := by
  obtain ⟨href, ⟨snippet, hsnippet, hwrapped⟩, hcreated, hfiles⟩ := Transport.plan_spec hplan
  have hresolved : Transport.requested settings request =
      .ok (Transport.resolve settings block.session) :=
    Transport.requested_ofText? (sessionKey_of_request hrequest)
  have hsame : p.ref = Transport.resolve settings block.session :=
    Except.ok.inj (href.symm.trans hresolved)
  have hplanned := Transport.plan_eq run href hsnippet hwrapped hcreated
  rw [hplan] at hplanned
  refine ⟨⟨hsettings, hrequest, snippet, hsnippet, hsame ▸ hwrapped⟩, hsame, ?_⟩
  rw [hfiles]
  exact congrArg Transport.Plan.trampoline (Except.ok.inj hplanned)

/-- What an evaluation comes to if its block cannot be wrapped: it sends nothing and fails. -/
theorem exists_error_of_unwrapped {surroundings : Surroundings} (venue : Venue σ) {block : Block}
    (hunwrapped : ∀ settings request source, ¬ surroundings.Wraps block settings request source) :
    exchanges surroundings venue (.evaluate block false) = [] ∧
    ∃ failure, (surroundings.evaluate venue block false).1 = .error failure := by
  cases hprepare : surroundings.prepare false with
  | error failure =>
      refine ⟨exchanges_of_unready surroundings venue ?_, failure, ?_⟩
      · intro settings request hother
        rw [hprepare] at hother
        cases hother
      · rw [evaluate, hprepare]
  | ok settings =>
      cases hrequest : surroundings.request block with
      | error failure =>
          refine ⟨exchanges_of_unready surroundings venue ?_, failure, ?_⟩
          · intro settings request _ hother
            rw [hrequest] at hother
            cases hother
          · simp only [evaluate, hprepare, hrequest]
      | ok request =>
          have hsettings := settings_of_prepare hprepare
          obtain ⟨failure, hplan⟩ : ∃ failure, Transport.plan settings request
              (surroundings.opening venue settings) = .error failure := by
            cases hplan : Transport.plan settings request (surroundings.opening venue settings) with
            | error failure => exact ⟨failure, rfl⟩
            | ok p =>
                exact absurd (wraps_of_plan hsettings hrequest hplan).1
                  (hunwrapped settings request p.wrapped)
          rw [exchanges_of_ready surroundings venue hprepare hrequest,
            surroundings.evaluate_of_ready venue hprepare hrequest]
          cases surroundings.channel venue settings with
          | error chosen => exact ⟨rfl, chosen, rfl⟩
          | ok channel =>
              refine ⟨Transport.exchanges_of_unplanned hplan, failure, ?_⟩
              rw [Except.bind, Transport.perform, hplan]

end Surroundings

theorem exitCode_conclude (venue : Venue σ) {outcome : Outcome} (hexit : outcome.exitCode = 1)
    (framework : Option (Framework σ)) : (conclude venue outcome framework).1.exitCode = 1 := by
  unfold conclude
  split
  · exact hexit
  · rfl

/-- What is found when a trampoline for a block is sent: it goes to the session that the block means
under the settings and names its side files, and the source file holds the source, but for what the
session has made of it when, debugging, it was sent the trace. -/
structure FindsSource (settings : Settings) (block : Block) (source : String)
    (front : List Exchange) (e : Exchange) (session : String) (side : SideFiles) (line : String) :
    Prop where
  routed : session = (Transport.resolve settings block.session).name
  names : Transport.readTrampoline line = some (side.source, side.output)
  content : e.files.read? side.source = replay (some (Text.Utf8.encode source))
    (Exchange.history side.source front)
  before : ∀ f ∈ front, settings.debug = true ∧ ∃ trace, f.message = some (session, .trace trace)

theorem findsSource_of_trampoline {surroundings : Surroundings} {venue : Venue σ} {block : Block}
    {settings : Settings} {request : Request} {source : String}
    (hwraps : surroundings.Wraps block settings request source) {front back : List Exchange}
    {e : Exchange} {session line : String} {side : SideFiles}
    (hsplit : exchanges surroundings venue (.evaluate block false) = front ++ e :: back)
    (he : e.message = some (session, .trampoline side line)) :
    FindsSource settings block source front e session side line := by
  have hnone : exchanges surroundings venue (.evaluate block false) ≠ [] := by simp [hsplit]
  cases hprepare : surroundings.prepare false with
  | error failure =>
      refine absurd (exchanges_of_unready surroundings venue ?_) hnone
      intro settings request hother
      rw [hprepare] at hother
      cases hother
  | ok prepared =>
      have hloaded := Surroundings.settings_of_prepare hprepare
      rw [hwraps.loaded] at hloaded
      cases hloaded
      rw [exchanges_of_ready surroundings venue hprepare hwraps.requested] at hsplit hnone
      obtain ⟨channel, hchannel⟩ : ∃ channel, surroundings.channel venue settings = .ok channel := by
        cases hchannel : surroundings.channel venue settings with
        | error failure => exact absurd (by rw [hchannel]) hnone
        | ok channel => exact ⟨channel, rfl⟩
      rw [hchannel] at hsplit hnone
      cases hplan : Transport.plan settings request (surroundings.opening venue settings) with
      | error failure => exact absurd (Transport.exchanges_of_unplanned hplan) hnone
      | ok p =>
          obtain ⟨hplanned, href, htrampoline⟩ :=
            Surroundings.wraps_of_plan hwraps.loaded hwraps.requested hplan
          obtain ⟨rfl, rfl, rfl, hcontent, hbefore⟩ :=
            Transport.found_of_trampoline hplan hsplit he
          rw [hwraps.source_unique hplanned] at hcontent
          refine ⟨congrArg SessionRef.name href, ?_, hcontent, hbefore⟩
          rw [htrampoline]
          exact Transport.readTrampoline_text p.files request.resultKind

/-- An evaluation gets to its trampoline if nothing is in its way: the log level is one, there is a
channel, its side files can be created, and it need not send a trace first. -/
theorem exists_trampoline {venue : Venue σ} {surroundings : Surroundings} {block : Block}
    {settings : Settings} {request : Request} {source : String} {channel : Channel}
    (hwraps : surroundings.Wraps block settings request source)
    (hprepare : surroundings.prepare false = .ok settings) (hdebug : settings.debug = false)
    (hchannel : surroundings.channel venue settings = .ok channel)
    (hcreated : surroundings.files.creationFault?
      (Transport.directory settings surroundings.files) SideFiles.uncreated = none) :
    ∃ e back session side line,
      exchanges surroundings venue (.evaluate block false) = e :: back ∧
        e.message = some (session, .trampoline side line) := by
  obtain ⟨snippet, hsnippet, hrendered⟩ := hwraps.rendered
  rw [← surroundings.opening_files venue settings] at hcreated
  obtain ⟨p, hplan⟩ : ∃ p, Transport.plan settings request
      (surroundings.opening venue settings) = .ok p :=
    ⟨_, Transport.plan_eq _ hwraps.ref_eq hsnippet hrendered hcreated⟩
  obtain ⟨e, back, hexchanges, hmessage⟩ :=
    Transport.trampoline_first (venue.sinks channel) none hdebug hplan
  refine ⟨e, back, _, _, _, ?_, hmessage⟩
  rw [exchanges_of_ready surroundings venue hprepare hwraps.requested, hchannel]
  exact hexchanges

/-- If a block can be wrapped, its source is printed without the control sequences in it, so just as
it is if it has none; and whenever the same block is evaluated, this source is what the session
finds, which it gets to find if there is a channel. If a block cannot be wrapped, its evaluation sends
nothing and fails. -/
theorem wrap_shows_source (surroundings : Surroundings) (venue : Venue σ) (block : Block) :
    let shown := (run surroundings venue (.wrap block)).1
    let evaluated := (run surroundings venue (.evaluate block false)).1
    let exchanges := exchanges surroundings venue (.evaluate block false)
    (shown.exitCode = 0 → ∃ settings source, surroundings.settings = .ok settings ∧
      shown = .printed (source ++ "\n") ∧ shown.standardOutput = Outcome.plain source ++ "\n" ∧
      (shown.standardOutput = source ++ "\n" ↔ ¬ Text.HasControl source.toList) ∧
      (∀ front e back session side line, exchanges = front ++ e :: back →
        e.message = some (session, .trampoline side line) →
        FindsSource settings block source front e session side line) ∧
      (surroundings.prepare false = .ok settings → settings.debug = false →
        (∃ channel, surroundings.channel venue settings = .ok channel) →
        surroundings.files.creationFault? (Transport.directory settings surroundings.files)
          SideFiles.uncreated = none →
        ∃ e back session side line, exchanges = e :: back ∧
          e.message = some (session, .trampoline side line))) ∧
    (shown.exitCode ≠ 0 → exchanges = [] ∧ evaluated.exitCode = 1) := by
  intro shown evaluated exchanges
  have hended : shown = .ofBlock (surroundings.wrap block) := by simp only [shown, run]
  constructor
  · intro hexit
    rw [hended] at hexit
    obtain ⟨text, htext⟩ := Outcome.eq_ok_of_exitCode hexit
    have hshown : shown = .printed text := by
      rw [hended, htext]
      rfl
    obtain ⟨settings, request, source, hwraps, rfl⟩ := Surroundings.wrap_eq_ok_iff.mp htext
    have houtput : shown.standardOutput = Outcome.plain source ++ "\n" := by
      rw [hshown]
      exact Outcome.plain_append_newline source
    refine ⟨settings, source, hwraps.loaded, hshown, houtput, ?_, ?_, ?_⟩
    · rw [houtput, ← Outcome.plain_eq_self_iff, String.append_left_inj]
    · intro front e back session side line hsplit he
      exact findsSource_of_trampoline hwraps hsplit he
    · rintro hprepare hdebug ⟨channel, hchannel⟩ hcreated
      exact exists_trampoline hwraps hprepare hdebug hchannel hcreated
  · intro hexit
    have hunwrapped : ∀ settings request source,
        ¬ surroundings.Wraps block settings request source := by
      intro settings request source hwraps
      have htext := Surroundings.wrap_eq_ok_iff.mpr ⟨settings, request, source, hwraps, rfl⟩
      rw [hended, htext] at hexit
      exact hexit rfl
    obtain ⟨hsilent, failure, hfailed⟩ :=
      Surroundings.exists_error_of_unwrapped venue hunwrapped
    refine ⟨hsilent, ?_⟩
    have hexitCode : (Outcome.ofBlock (.error failure)).exitCode = 1 := by
      rw [Outcome.ofBlock]
      split
      · rfl
      · rfl
    rw [← hfailed] at hexitCode
    exact exitCode_conclude venue hexitCode (surroundings.evaluate venue block false).2

/-- A place with a block on its standard input, where an evaluation waits but once. -/
def desk : Surroundings where
  environment := [("BABEL_JULIA_POLL_ATTEMPTS", "1"), ("BABEL_JULIA_DEFAULT_SESSION", "work")]
  input := "x = n\r\nx"
  files := { directories := Files.systemDirectories }

/-- The settings there. -/
def deskSettings : Settings :=
  { Settings.usual with pollAttempts := 1, defaultSession := "work" }

/-- A block that keeps no state, with a variable. -/
def binding : Block := { body := "-", session := some " none ", bindings := ["n=2"] }

/-- A block with a control sequence for bold letters. -/
def bold : Block := { body := "\x1b[1mx" }

theorem desk_prepare : desk.prepare false = .ok deskSettings := rfl

theorem wrap_shows_source_desk :
    let source := "_babel_julia_result = let\nn = 2\nx = n\nx\nend"
    (run desk silent (.wrap binding)).1 = .printed (source ++ "\n") ∧
    (run desk silent (.wrap binding)).1.standardOutput = Outcome.plain source ++ "\n" ∧
    ∃ e back session side line,
      exchanges desk silent (.evaluate binding false) = e :: back ∧
      e.message = some (session, .trampoline side line) ∧ session = "work" ∧
      e.files.read? side.source = some (Text.Utf8.encode source) := by
  intro source
  have hrequested : desk.request binding = .ok {
      body := "x = n\nx", sessionKey := .text " none ", bindings := [("n", .int 2)]
      params := binding.params } := by
    have hinput : String.ofList (Text.universalNewlines desk.input.toList) = "x = n\nx" := rfl
    rw [Surroundings.request, hinput]
    rfl
  have hwraps : desk.Wraps binding deskSettings _ source := ⟨rfl, hrequested, _, rfl, rfl⟩
  have hprinted : (run desk silent (.wrap binding)).1 = .printed (source ++ "\n") :=
    congrArg Outcome.ofBlock (Surroundings.wrap_eq_ok_iff.mpr ⟨_, _, _, hwraps, rfl⟩)
  have hexit : (run desk silent (.wrap binding)).1.exitCode = 0 := by
    rw [hprinted]
    rfl
  obtain ⟨settings, shown, hloaded, hshown, houtput, _, hfound, hreached⟩ :=
    (wrap_shows_source desk silent binding).1 hexit
  obtain rfl : deskSettings = settings := Except.ok.inj (hwraps.loaded.symm.trans hloaded)
  rw [hprinted, Outcome.printed.injEq, String.append_left_inj] at hshown
  subst hshown
  obtain ⟨e, back, session, side, line, hfirst, hmessage⟩ :=
    hreached desk_prepare rfl ⟨.pool, rfl⟩ (by decide)
  have hsource := hfound [] e back session side line hfirst hmessage
  exact ⟨hprinted, houtput, e, back, session, side, line, hfirst, hmessage, hsource.routed,
    hsource.content⟩

/-- A control sequence is not in what is printed, and it is in what the session finds. -/
theorem control_not_shown :
    let source := "_babel_julia_result = begin\n\x1b[1mx\nend"
    (run desk silent (.wrap bold)).1.exitCode = 0 ∧
    (run desk silent (.wrap bold)).1.standardOutput ≠ source ++ "\n" ∧
    ∃ e back session side line,
      exchanges desk silent (.evaluate bold false) = e :: back ∧
      e.message = some (session, .trampoline side line) ∧
      e.files.read? side.source = some (Text.Utf8.encode source) := by
  intro source
  have hrequested : desk.request bold = .ok { body := "\x1b[1mx", params := bold.params } := rfl
  have hwraps : desk.Wraps bold deskSettings _ source := ⟨rfl, hrequested, _, rfl, rfl⟩
  have hprinted : (run desk silent (.wrap bold)).1 = .printed (source ++ "\n") :=
    congrArg Outcome.ofBlock (Surroundings.wrap_eq_ok_iff.mpr ⟨_, _, _, hwraps, rfl⟩)
  have hcontrol : Text.HasControl source.toList :=
    ⟨"_babel_julia_result = begin\n".toList, ['1'], 'm', "x\nend".toList, by decide,
      List.forall_mem_singleton.mpr rfl, rfl⟩
  have hchannel : desk.channel silent deskSettings = .ok .pool := rfl
  obtain ⟨e, back, session, side, line, hfirst, hmessage⟩ :=
    exists_trampoline hwraps desk_prepare rfl hchannel (by decide)
  have hsource : FindsSource deskSettings bold source [] e session side line :=
    findsSource_of_trampoline hwraps hfirst hmessage
  refine ⟨?_, ?_, e, back, session, side, line, hfirst, hmessage, hsource.content⟩
  · rw [hprinted]
    rfl
  · intro hsame
    rw [hprinted] at hsame
    have hplain := (Outcome.plain_append_newline source).symm.trans hsame
    rw [String.append_left_inj, Outcome.plain_eq_self_iff] at hplain
    exact hplain hcontrol

end JuliaBlocks.Cli
