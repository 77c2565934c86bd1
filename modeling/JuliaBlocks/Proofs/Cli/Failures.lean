import JuliaBlocks.Proofs.Cli.Exchanges
import JuliaBlocks.Proofs.Transport.Failures

/-!
How the commands end when something fails. The commands on blocks report the failures that are the
user's own, wherever in them these arise; what escapes is a failure of the settings where the
plugins are listed, and a failure to close the channel of an evaluation. Main statement:
`reported_iff_caught`.
-/

namespace JuliaBlocks.Cli

variable {σ : Type}

namespace Surroundings

/-- What a command comes to before its channel, if it has one, is closed. -/
def result (surroundings : Surroundings) (venue : Venue σ) : Command → Except Failure String
  | .expand block => surroundings.expand block
  | .wrap block => surroundings.wrap block
  | .evaluate block debug => (surroundings.evaluate venue block debug).1
  | .hooks => surroundings.hooks venue

/-- How closing the channel of a command fails, if it has one and that fails. -/
def closingFault? (surroundings : Surroundings) (venue : Venue σ) : Command → Option Failure
  | .evaluate block debug =>
    (surroundings.evaluate venue block debug).2.bind (·.closingFault? venue.closingFault)
  | _ => none

/-- The settings that a block is evaluated under. -/
def evaluationSettings (surroundings : Surroundings) (debug : Bool) : Except Failure Settings :=
  surroundings.settings (if debug then [("debug", .bool true)] else [])

end Surroundings

/-- Where in a command a failure is raised, everything before it having succeeded. Failures of
plugins in their hooks are not among them: these never come back to the command. What comes back is
that it cannot be told whether a provider has returned a sink. -/
inductive Raised (surroundings : Surroundings) (venue : Venue σ) : Command → Failure → Prop
  | expandRequest {block : Block} {failure : Failure}
      (hrequest : surroundings.request block = .error failure) :
      Raised surroundings venue (.expand block) failure
  | expandSnippet {block : Block} {request : Request} {failure : Failure}
      (hrequest : surroundings.request block = .ok request)
      (hsnippet : Snippet.expand request = .error failure) :
      Raised surroundings venue (.expand block) failure
  | wrapRequest {block : Block} {failure : Failure}
      (hrequest : surroundings.request block = .error failure) :
      Raised surroundings venue (.wrap block) failure
  | wrapSettings {block : Block} {request : Request} {failure : Failure}
      (hrequest : surroundings.request block = .ok request)
      (hsettings : surroundings.settings = .error failure) :
      Raised surroundings venue (.wrap block) failure
  | wrapSource {block : Block} {request : Request} {settings : Settings} {failure : Failure}
      (hrequest : surroundings.request block = .ok request)
      (hsettings : surroundings.settings = .ok settings)
      (hsource : Transport.Unwrapped settings request failure) :
      Raised surroundings venue (.wrap block) failure
  | evaluateSettings {block : Block} {debug : Bool} {failure : Failure}
      (hsettings : surroundings.evaluationSettings debug = .error failure) :
      Raised surroundings venue (.evaluate block debug) failure
  | evaluateLogging {block : Block} {debug : Bool} {settings : Settings} {failure : Failure}
      (hsettings : surroundings.evaluationSettings debug = .ok settings)
      (hlogging : (({} : Log.Logging).configure Log.Profile.cli.name settings.logLevel).1 =
        .error failure) :
      Raised surroundings venue (.evaluate block debug) failure
  | evaluateRequest {block : Block} {debug : Bool} {settings : Settings} {failure : Failure}
      (hprepare : surroundings.prepare debug = .ok settings)
      (hrequest : surroundings.request block = .error failure) :
      Raised surroundings venue (.evaluate block debug) failure
  | evaluateChannel {block : Block} {debug : Bool} {settings : Settings} {request : Request}
      {failure : Failure} (hprepare : surroundings.prepare debug = .ok settings)
      (hrequest : surroundings.request block = .ok request)
      (hchannel : surroundings.channel venue settings = .error failure) :
      Raised surroundings venue (.evaluate block debug) failure
  | evaluateRun {block : Block} {debug : Bool} {settings : Settings} {request : Request}
      {channel : Channel} {failure : Failure} (hprepare : surroundings.prepare debug = .ok settings)
      (hrequest : surroundings.request block = .ok request)
      (hchannel : surroundings.channel venue settings = .ok channel)
      (hrun : Transport.Unperformed (venue.sinks channel) settings request
        (surroundings.opening venue settings) failure) :
      Raised surroundings venue (.evaluate block debug) failure
  | hooksSettings {failure : Failure} (hsettings : surroundings.settings = .error failure) :
      Raised surroundings venue .hooks failure

section Raising

variable (surroundings : Surroundings) (venue : Venue σ)

theorem expand_raised_iff (block : Block) (failure : Failure) :
    surroundings.expand block = .error failure ↔
      Raised surroundings venue (.expand block) failure := by
  constructor
  · intro hexpand
    rcases bind_error_iff.mp hexpand with hrequest | ⟨request, hrequest, hexpand⟩
    · exact .expandRequest hrequest
    rcases bind_error_iff.mp hexpand with hsnippet | ⟨_, _, ⟨⟩⟩
    exact .expandSnippet hrequest hsnippet
  · intro hraised
    cases hraised with
    | expandRequest hrequest =>
        rw [Surroundings.expand, hrequest]
        rfl
    | expandSnippet hrequest hsnippet =>
        simp only [Surroundings.expand, hrequest, hsnippet, bind, Except.bind]

theorem wrap_raised_iff (block : Block) (failure : Failure) :
    surroundings.wrap block = .error failure ↔ Raised surroundings venue (.wrap block) failure := by
  constructor
  · intro hwrap
    rcases bind_error_iff.mp hwrap with hrequest | ⟨request, hrequest, hwrap⟩
    · exact .wrapRequest hrequest
    rcases bind_error_iff.mp hwrap with hsettings | ⟨settings, hsettings, hwrap⟩
    · exact .wrapSettings hrequest hsettings
    refine .wrapSource hrequest hsettings ?_
    rcases bind_error_iff.mp hwrap with hsession | ⟨ref, href, hwrap⟩
    · exact .session hsession
    rcases bind_error_iff.mp hwrap with hsnippet | ⟨snippet, hsnippet, hwrap⟩
    · exact .snippet href hsnippet
    rcases bind_error_iff.mp hwrap with htemplate | ⟨_, _, ⟨⟩⟩
    exact .template href hsnippet htemplate
  · intro hraised
    cases hraised with
    | wrapRequest hrequest =>
        rw [Surroundings.wrap, hrequest]
        rfl
    | wrapSettings hrequest hsettings =>
        simp only [Surroundings.wrap, hrequest, hsettings, bind, Except.bind]
    | wrapSource hrequest hsettings hsource =>
        cases hsource with
        | session hsession =>
            simp only [Surroundings.wrap, hrequest, hsettings, hsession, bind, Except.bind]
        | snippet href hsnippet =>
            simp only [Surroundings.wrap, hrequest, hsettings, href, hsnippet, bind, Except.bind]
        | template href hsnippet htemplate =>
            simp only [Surroundings.wrap, hrequest, hsettings, href, hsnippet, htemplate, bind,
              Except.bind]

theorem prepare_error_iff (debug : Bool) (failure : Failure) :
    surroundings.prepare debug = .error failure ↔
      surroundings.evaluationSettings debug = .error failure ∨
      ∃ settings, surroundings.evaluationSettings debug = .ok settings ∧
        (({} : Log.Logging).configure Log.Profile.cli.name settings.logLevel).1 =
          .error failure := by
  rw [Surroundings.prepare, bind_error_iff]
  refine or_congr Iff.rfl (exists_congr fun settings => and_congr Iff.rfl ?_)
  rw [bind_error_iff]
  constructor
  · rintro (hlogging | ⟨_, _, ⟨⟩⟩)
    exact hlogging
  · exact Or.inl

theorem evaluate_of_unprepared {block : Block} {debug : Bool} {failure : Failure}
    (hprepare : surroundings.prepare debug = .error failure) :
    (surroundings.evaluate venue block debug).1 = .error failure := by
  rw [Surroundings.evaluate, hprepare]

theorem evaluate_raised_iff (block : Block) (debug : Bool) (failure : Failure) :
    (surroundings.evaluate venue block debug).1 = .error failure ↔
      Raised surroundings venue (.evaluate block debug) failure := by
  constructor
  · intro hevaluate
    cases hprepare : surroundings.prepare debug with
    | error other =>
        rw [evaluate_of_unprepared surroundings venue hprepare] at hevaluate
        cases hevaluate
        rcases (prepare_error_iff surroundings debug failure).mp hprepare with
          hsettings | ⟨settings, hsettings, hlogging⟩
        · exact .evaluateSettings hsettings
        · exact .evaluateLogging hsettings hlogging
    | ok settings =>
        cases hrequest : surroundings.request block with
        | error other =>
            simp only [Surroundings.evaluate, hprepare, hrequest, Except.error.injEq] at hevaluate
            subst hevaluate
            exact .evaluateRequest hprepare hrequest
        | ok request =>
            rw [surroundings.evaluate_of_ready venue hprepare hrequest] at hevaluate
            rcases bind_error_iff.mp hevaluate with hchannel | ⟨channel, hchannel, hperform⟩
            · exact .evaluateChannel hprepare hrequest hchannel
            · exact .evaluateRun hprepare hrequest hchannel
                (Transport.perform_error_iff.mp hperform)
  · intro hraised
    cases hraised with
    | evaluateSettings hsettings =>
        exact evaluate_of_unprepared surroundings venue
          ((prepare_error_iff surroundings debug failure).mpr (Or.inl hsettings))
    | evaluateLogging hsettings hlogging =>
        exact evaluate_of_unprepared surroundings venue
          ((prepare_error_iff surroundings debug failure).mpr (Or.inr ⟨_, hsettings, hlogging⟩))
    | evaluateRequest hprepare hrequest =>
        simp only [Surroundings.evaluate, hprepare, hrequest]
    | evaluateChannel hprepare hrequest hchannel =>
        rw [surroundings.evaluate_of_ready venue hprepare hrequest, hchannel]
        rfl
    | evaluateRun hprepare hrequest hchannel hrun =>
        rw [surroundings.evaluate_of_ready venue hprepare hrequest, hchannel]
        exact Transport.perform_error_iff.mpr hrun

theorem hooks_raised_iff (failure : Failure) :
    surroundings.hooks venue = .error failure ↔ Raised surroundings venue .hooks failure := by
  constructor
  · intro hhooks
    rcases bind_error_iff.mp hhooks with hsettings | ⟨settings, _, hlisted⟩
    · exact .hooksSettings hsettings
    · split at hlisted
      · cases hlisted
      · cases hlisted
  · intro hraised
    cases hraised with
    | hooksSettings hsettings =>
        rw [Surroundings.hooks, hsettings]
        rfl

/-- A command fails with what is raised in it. -/
theorem result_error_iff (command : Command) (failure : Failure) :
    surroundings.result venue command = .error failure ↔
      Raised surroundings venue command failure := by
  cases command with
  | expand block => exact expand_raised_iff surroundings venue block failure
  | wrap block => exact wrap_raised_iff surroundings venue block failure
  | evaluate block debug => exact evaluate_raised_iff surroundings venue block debug failure
  | hooks => exact hooks_raised_iff surroundings venue failure

/-- How a command ends, by its result and by the closing of its channel. -/
theorem run_outcome (command : Command) :
    (run surroundings venue command).1 =
      match surroundings.closingFault? venue command with
      | some fault => .unclosed (.ofBlock (surroundings.result venue command)) fault
      | none =>
        if command = .hooks then .ofListing (surroundings.result venue command)
        else .ofBlock (surroundings.result venue command) := by
  cases command with
  | expand block => rfl
  | wrap block => rfl
  | evaluate block debug =>
      simp only [run, conclude, Surroundings.closingFault?, Surroundings.result]
      split
      · next hclosed => simp [hclosed]
      · next fault hclosed => simp [hclosed]
  | hooks => rfl

end Raising

section Ending

variable {surroundings : Surroundings} {venue : Venue σ} {command : Command}

/-- Whether a command ends cleanly by a failure: it is reported in one line and nothing is
printed. -/
structure EndsCleanly (ended : Outcome) (failure : Failure) : Prop where
  reported : ended = .reported failure
  exitCode : ended.exitCode = 1
  output : ended.standardOutput = ""
  error : ended.standardError = Outcome.plain ("error: " ++ failure.message ++ "\n")

theorem EndsCleanly.of_reported (failure : Failure) : EndsCleanly (.reported failure) failure :=
  ⟨rfl, rfl, rfl, rfl⟩

theorem endsCleanly_iff {failure : Failure} (hraised : Raised surroundings venue command failure)
    (hreported : failure.isReported = true) :
    EndsCleanly (run surroundings venue command).1 failure ↔
      command ≠ .hooks ∧ surroundings.closingFault? venue command = none := by
  have hresult := (result_error_iff surroundings venue command failure).mpr hraised
  rw [run_outcome]
  cases hclosed : surroundings.closingFault? venue command with
  | some fault =>
      refine iff_of_false ?_ (by simp)
      intro hclean
      cases hclean.reported
  | none =>
      by_cases hhooks : command = .hooks
      · refine iff_of_false ?_ (by simp [hhooks])
        intro hclean
        have hescaped := hclean.reported
        simp only [if_pos hhooks, hresult, Outcome.ofListing] at hescaped
        cases hescaped
      · simp only [if_neg hhooks, hresult, Outcome.ofBlock, hreported, if_true]
        exact iff_of_true (.of_reported failure) ⟨hhooks, trivial⟩

theorem printed_iff :
    (∃ text, (run surroundings venue command).1 = .printed text) ↔
      (∀ failure, ¬ Raised surroundings venue command failure) ∧
        surroundings.closingFault? venue command = none := by
  simp only [← result_error_iff, run_outcome]
  cases surroundings.closingFault? venue command with
  | some fault => simp
  | none =>
      cases surroundings.result venue command with
      | ok text =>
          refine iff_of_true ⟨text, ?_⟩ ⟨by simp, rfl⟩
          dsimp only
          split
          · rfl
          · rfl
      | error failure =>
          refine iff_of_false ?_ (by simp)
          rintro ⟨text, hprinted⟩
          dsimp only [Outcome.ofListing, Outcome.ofBlock] at hprinted
          split at hprinted
          · cases hprinted
          · split at hprinted
            · cases hprinted
            · cases hprinted

/-- A failure of the user's own that is raised in a command ends it cleanly just if the command is
one on blocks and no channel fails to close. Where the plugins are listed it escapes, and a failure
to close a channel always does. Without failures a command prints. -/
theorem reported_iff_caught {line : List String} (hread : Command.read line = .ok command) :
    let ended := (runLine surroundings venue line).1
    (∀ failure, Raised surroundings venue command failure → failure.isReported = true →
      (EndsCleanly ended failure ↔
        command ≠ .hooks ∧ surroundings.closingFault? venue command = none)) ∧
    (∀ failure, Raised surroundings venue command failure → command = .hooks →
      ended = .escaped failure) ∧
    (∀ fault, surroundings.closingFault? venue command = some fault →
      ∃ before, ended = .unclosed before fault) ∧
    ((∃ text, ended = .printed text) ↔ (∀ failure, ¬ Raised surroundings venue command failure) ∧
      surroundings.closingFault? venue command = none) := by
  have hended : (runLine surroundings venue line).1 = (run surroundings venue command).1 := by
    rw [runLine, hread]
  rw [hended]
  refine ⟨fun failure => endsCleanly_iff, ?_, ?_, printed_iff⟩
  · rintro failure hraised rfl
    have hresult := (result_error_iff surroundings venue .hooks failure).mpr hraised
    exact congrArg Outcome.ofListing hresult
  · intro fault hclosing
    exact ⟨_, by rw [run_outcome, hclosing]⟩

end Ending

/-- A place without settings of its own. -/
def bare : Surroundings where
  files := { directories := Files.systemDirectories }

/-- A block with a variable that is no identifier. -/
def misnamed : Block := { body := "x", bindings := ["1a=2"] }

theorem reported_iff_caught_misnamed :
    let failure := Failure.invalidVariable "1a"
    Command.read ["eval", "-v1a=2", "x"] = .ok (.evaluate misnamed false) ∧
    Raised bare silent (.evaluate misnamed false) failure ∧
    EndsCleanly (runLine bare silent ["eval", "-v1a=2", "x"]).1 failure ∧
    ¬ ∃ text, (runLine bare silent ["eval", "-v1a=2", "x"]).1 = .printed text := by
  intro failure
  have hread : Command.read ["eval", "-v1a=2", "x"] = .ok (.evaluate misnamed false) := by rfl
  have hrequest : bare.request misnamed = .ok {
      body := "x", bindings := [("1a", .int 2)], params := misnamed.params } := by rfl
  have hprepare : bare.prepare false = .ok Settings.usual := rfl
  have hraised : Raised bare silent (.evaluate misnamed false) failure :=
    .evaluateRun hprepare hrequest rfl (.unplanned (.source (.snippet rfl rfl)))
  have hclosed : bare.closingFault? silent (.evaluate misnamed false) = none := rfl
  obtain ⟨hreported, _, _, hprinted⟩ := @reported_iff_caught Unit bare silent _ _ hread
  refine ⟨hread, hraised, (hreported failure hraised rfl).mpr ⟨by decide, hclosed⟩, ?_⟩
  rw [hprinted]
  rintro ⟨hnone, _⟩
  exact hnone failure hraised

/-- A place with settings that are refused. -/
def refusing : Surroundings where
  environment := [("BABEL_JULIA_POLL_ATTEMPTS", "0")]

/-- The command that lists the plugins does not report that the settings are refused. -/
theorem hooks_escapes :
    ∃ failure, Raised refusing silent .hooks failure ∧ failure.isReported = true ∧
      (runLine refusing silent ["hooks"]).1 = .escaped failure := by
  refine ⟨_, .hooksSettings rfl, rfl, rfl⟩

end JuliaBlocks.Cli
