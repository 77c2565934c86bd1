import JuliaBlocks.Proofs.Except
import JuliaBlocks.Proofs.Run.Deliver
import JuliaBlocks.Proofs.Template
import JuliaBlocks.Transport

/-!
What the operations of the transport come to once everything that can fail before a send has
succeeded.
-/

namespace JuliaBlocks.Transport

variable {σ : Type} {sink : Sink σ} {settings : Settings}

/-- Variables are bound by one send of all their assignments. -/
theorem prepSession_eq {key : Option String} {bindings : List (String × Value)} {run : Run σ}
    {ref : SessionRef} {lines : List String} (href : persistent (resolve settings key) = .ok ref)
    (hlines : Julia.assignments bindings = .ok lines) (hsome : lines ≠ []) :
    prepSession sink settings key bindings run =
      let (sent, after) := run.send sink ref.name (.source (String.intercalate "\n" lines))
      (sent.map fun _ => ref, after) := by
  obtain ⟨line, others, rfl⟩ := List.exists_cons_of_ne_nil hsome
  simp only [prepSession, href, hlines]
  rcases hsent : run.send sink ref.name
    (.source (String.intercalate "\n" (line :: others))) with ⟨_ | _, after⟩
  · simp [bind, Except.bind, pure, Except.pure, Except.map, hsent]
  · simp [bind, Except.bind, pure, Except.pure, Except.map, hsent]

theorem eq_of_persistent_ok {ref kept : SessionRef} (href : persistent ref = .ok kept) :
    kept = ref ∧ ref.persistent = true := by
  unfold persistent at href
  split at href
  · next hkeeps =>
    cases href
    exact ⟨rfl, hkeeps⟩
  · cases href

/-- Variables are bound by one send of all their assignments, if any are sent. -/
theorem prepSession_cases (key : Option String) (bindings : List (String × Value)) (run : Run σ) :
    (prepSession sink settings key bindings run).2 = run ∨
    ∃ lines, Julia.assignments bindings = .ok lines ∧
      (prepSession sink settings key bindings run).2 =
        (run.send sink (resolve settings key).name (.source (String.intercalate "\n" lines))).2 := by
  unfold prepSession
  split
  · exact Or.inl rfl
  · exact Or.inl rfl
  · next ref lines _ hprepared =>
    obtain ⟨kept, hkept, hprepared⟩ := exists_of_bind_ok hprepared
    obtain ⟨all, hall, hprepared⟩ := exists_of_bind_ok hprepared
    cases hprepared
    obtain ⟨rfl, _⟩ := eq_of_persistent_ok hkept
    refine Or.inr ⟨lines, hall, ?_⟩
    rcases run.send sink (resolve settings key).name
      (.source (String.intercalate "\n" lines)) with ⟨_ | _, after⟩
    · rfl
    · rfl

/-- A snippet that is not waited for is sent as a whole, if at all. -/
theorem loadSession_cases (request : Request) (run : Run σ) :
    (loadSession sink settings request run).2 = run ∨
    ∃ ref snippet, requested settings request = .ok ref ∧ Snippet.expand request = .ok snippet ∧
      (loadSession sink settings request run).2 =
        (run.send sink ref.name (.source snippet)).2 := by
  unfold loadSession
  split
  · exact Or.inl rfl
  · next ref snippet hprepared =>
    obtain ⟨asked, hasked, hprepared⟩ := exists_of_bind_ok hprepared
    obtain ⟨kept, hkept, hprepared⟩ := exists_of_bind_ok hprepared
    obtain ⟨expanded, hexpanded, hprepared⟩ := exists_of_bind_ok hprepared
    cases hprepared
    obtain ⟨rfl, _⟩ := eq_of_persistent_ok hkept
    refine Or.inr ⟨ref, snippet, hasked, hexpanded, ?_⟩
    rcases run.send sink ref.name (.source snippet) with ⟨_ | _, after⟩
    · rfl
    · rfl

/-- Loading a session is giving it something to run, or nothing. -/
theorem loadSession_sends (request : Request) (run : Run σ) :
    (loadSession sink settings request run).2 = run ∨
    ∃ session text,
      (loadSession sink settings request run).2 = (run.send sink session (.source text)).2 := by
  rcases loadSession_cases request run with hkept | ⟨ref, snippet, _, _, hsent⟩
  · exact Or.inl hkept
  · exact Or.inr ⟨ref.name, snippet, hsent⟩

/-- Preparing a session is giving it something to run, or nothing. -/
theorem prepSession_sends (key : Option String) (bindings : List (String × Value)) (run : Run σ) :
    (prepSession sink settings key bindings run).2 = run ∨
    ∃ session text,
      (prepSession sink settings key bindings run).2 = (run.send sink session (.source text)).2 := by
  rcases prepSession_cases key bindings run with hkept | ⟨lines, _, hsent⟩
  · exact Or.inl hkept
  · exact Or.inr ⟨_, _, hsent⟩

theorem place_events (run : Run σ) (p : Plan) :
    (place run p).events = run.events.push (.created p.files) := rfl

/-- Only what is one of the two kinds of results can be wrapped. -/
theorem kind_of_wrap {body wrapped : String} {kind : ResultKind} {persistent : Bool}
    (hwrapped : Template.wrap body kind persistent = .ok wrapped) :
    kind = .value ∨ kind = .output := by
  obtain ⟨template, htemplate, _⟩ := exists_of_bind_ok hwrapped
  exact (Template.forKind_returns_iff kind persistent).mp ⟨template, htemplate⟩

/-- The packages that a trampoline brings in. -/
def packages : ResultKind → String
  | .output => "using Suppressor; "
  | _ => ""

/-- The text of a trampoline for one of the two kinds of results. -/
def trampolineText (files : SideFiles) (kind : ResultKind) : String :=
  packages kind ++ "include(" ++ Julia.quote files.source ++ "); open(" ++
    Julia.quote files.output ++ ", \"w\") do io; print(io, " ++ Template.resultVariable ++ "); end"

theorem toList_trampolineText (files : SideFiles) (kind : ResultKind) :
    (trampolineText files kind).toList = (packages kind).toList ++ ("include(".toList ++
      ((Julia.quote files.source).toList ++ ("); open(".toList ++
        ((Julia.quote files.output).toList ++
          ", \"w\") do io; print(io, _babel_julia_result); end".toList)))) := by
  have hend : ", \"w\") do io; print(io, ".toList ++
      (Template.resultVariable.toList ++ "); end".toList) =
        ", \"w\") do io; print(io, _babel_julia_result); end".toList := by decide
  simp only [trampolineText, String.toList_append, List.append_assoc, hend]

/-- A package stands before a line just if output is captured. -/
theorem dropPrefix?_packages (kind : ResultKind) {line : List Char}
    (hplain : line.dropPrefix? "using Suppressor; ".toList = none) :
    ((packages kind).toList ++ line).dropPrefix? "using Suppressor; ".toList =
      match kind with
      | .output => some line
      | _ => none := by
  cases kind with
  | output => exact List.dropPrefix?_append_of_beq _ (BEq.refl _)
  | value => exact hplain
  | other given => exact hplain

theorem trampoline_eq (source output : String) {kind : ResultKind}
    (hkind : kind = .value ∨ kind = .output) :
    trampoline source output kind = .ok (trampolineText ⟨source, output⟩ kind) := by
  rcases hkind with rfl | rfl
  · rfl
  · rfl

/-- A trampoline is made for just the two kinds of results. -/
theorem trampoline_eq_ok_iff (source output : String) (kind : ResultKind) (line : String) :
    trampoline source output kind = .ok line ↔
      (kind = .value ∨ kind = .output) ∧ trampolineText ⟨source, output⟩ kind = line := by
  constructor
  · intro hmade
    have hkind : kind = .value ∨ kind = .output := by
      cases kind with
      | value => exact Or.inl rfl
      | output => exact Or.inr rfl
      | other given =>
          obtain ⟨uses, hrefused, _⟩ := exists_of_bind_ok hmade
          exact absurd hrefused (ResultKind.refusal_ne_ok given uses)
    rw [trampoline_eq source output hkind] at hmade
    exact ⟨hkind, Except.ok.inj hmade⟩
  · rintro ⟨hkind, rfl⟩
    exact trampoline_eq source output hkind

/-- An evaluation is planned once its parts are known: what it sends is found from the names of its
side files. -/
theorem plan_eq {request : Request} (run : Run σ) {ref : SessionRef} {expanded wrapped : String}
    (href : requested settings request = .ok ref)
    (hexpanded : Snippet.expand request = .ok expanded)
    (hwrapped : Template.wrap expanded request.resultKind ref.persistent = .ok wrapped)
    (hcreated : run.files.creationFault? (directory settings run.files) SideFiles.uncreated =
      none) :
    let side := run.naming.files (directory settings run.files) (run.created + 1)
    plan settings request run = .ok {
      ref, wrapped, files := side, trampoline := trampolineText side request.resultKind } := by
  intro side
  have htrampoline : trampoline side.source side.output request.resultKind =
      .ok (trampolineText side request.resultKind) :=
    trampoline_eq side.source side.output (kind_of_wrap hwrapped)
  simp only [plan, href, hexpanded, hwrapped, hcreated, bind, Except.bind]
  rw [htrampoline]
  rfl

/-- What must have succeeded for an evaluation to be planned, and what its plan holds. -/
theorem plan_spec {request : Request} {run : Run σ} {p : Plan}
    (hplan : plan settings request run = .ok p) :
    requested settings request = .ok p.ref ∧
    (∃ expanded, Snippet.expand request = .ok expanded ∧
      Template.wrap expanded request.resultKind p.ref.persistent = .ok p.wrapped) ∧
    run.files.creationFault? (directory settings run.files) SideFiles.uncreated = none ∧
    p.files = run.naming.files (directory settings run.files) (run.created + 1) := by
  obtain ⟨ref, href, hplan⟩ := exists_of_bind_ok hplan
  obtain ⟨expanded, hexpanded, hplan⟩ := exists_of_bind_ok hplan
  obtain ⟨wrapped, hwrapped, hplan⟩ := exists_of_bind_ok hplan
  simp only at hplan
  split at hplan
  · cases hplan
  · next hcreated =>
    obtain ⟨text, _, hplan⟩ := exists_of_bind_ok hplan
    cases hplan
    exact ⟨href, ⟨expanded, hexpanded, hwrapped⟩, hcreated, rfl⟩

/-- The messages that start an evaluation: the trace when debugging, and the trampoline. -/
def script (settings : Settings) (request : Request) (p : Plan) : Except Failure (List Message) :=
  if settings.debug then do
    return [.trace (← Trace.render request.params p.wrapped), .trampoline p.files p.trampoline]
  else .ok [.trampoline p.files p.trampoline]

/-- An evaluation is started by delivering its messages, if all of them can be made. -/
theorem transmit_eq (request : Request) (p : Plan) (run : Run σ) :
    transmit sink settings request p run =
      match script settings request p with
      | .error failure => (.error failure, run)
      | .ok messages => run.deliver sink p.ref.name messages := by
  have hlast (run : Run σ) : run.deliver sink p.ref.name [.trampoline p.files p.trampoline] =
      run.send sink p.ref.name (.trampoline p.files p.trampoline) := by
    rw [Run.deliver]
    rcases run.send sink p.ref.name (.trampoline p.files p.trampoline) with ⟨_ | _, after⟩
    · rfl
    · rfl
  unfold transmit script
  cases settings.debug with
  | false => exact (hlast run).symm
  | true =>
      cases Trace.render request.params p.wrapped with
      | error failure => rfl
      | ok trace =>
          simp only [if_true, bind, Except.bind, pure, Except.pure, Run.deliver]
          rcases run.send sink p.ref.name (.trace trace) with ⟨_ | _, after⟩
          · rfl
          · exact (hlast after).symm

/-- Logs what is noteworthy about the content that the last look found. -/
def conclude (settings : Settings) (p : Plan) (content : Option (List UInt8)) (run : Run σ) :
    Run σ :=
  report settings p (Output.arrived content) (Output.read content settings.maxLineLength) run

/-- How the collection of a result ends: with what the last look finds, or with the failure that has
broken off the wait. -/
inductive Collected (sink : Sink σ) (settings : Settings) (request : Request) (p : Plan)
    (run : Run σ) : Except Failure String × Run σ → Prop where
  | read {n : Nat} {content : Option (List UInt8)}
      (hstops : Stops (run.look sink (.float settings.pollInterval) p.files.output)
        settings.pollAttempts.toNat n)
      (hslept : ∀ k < n, run.sleepFault sink (.float settings.pollInterval) k = none)
      (hcontent : run.look sink (.float settings.pollInterval) p.files.output n = content) :
      Collected sink settings request p run
        (.ok (Output.read content settings.maxLineLength), conclude settings p content
          ((run.log .debug (sentMessage request p)).waited sink (.float settings.pollInterval) n))
  | broken {n : Nat} {failure : Failure}
      (hbreaks : Breaks (run.look sink (.float settings.pollInterval) p.files.output)
        (run.sleepFault sink (.float settings.pollInterval)) settings.pollAttempts.toNat n
        failure) :
      Collected sink settings request p run (.error failure,
        (run.log .debug (sentMessage request p)).waited sink (.float settings.pollInterval) (n + 1))

theorem collected_collect (sink : Sink σ) (settings : Settings) (request : Request) (p : Plan)
    (run : Run σ) :
    Collected sink settings request p run (collect sink settings request p run) := by
  have hended := Run.awaited_awaitOutput sink p.files.output (.float settings.pollInterval)
    settings.pollAttempts.toNat (run.log .debug (sentMessage request p))
  simp only [collect]
  generalize Run.awaitOutput sink p.files.output (.float settings.pollInterval)
    settings.pollAttempts.toNat (run.log .debug (sentMessage request p)) = ended at hended
  cases hended with
  | @stopped n hstops hslept =>
      have hread : ((run.log .debug (sentMessage request p)).waited sink
          (.float settings.pollInterval) n).files.read? p.files.output =
            run.look sink (.float settings.pollInterval) p.files.output n := by
        rw [← Run.look, Run.look_log]
      rw [Run.look_log] at hstops ⊢
      rw [Run.sleepFault_log] at hslept
      simp only [hread]
      exact .read hstops hslept rfl
  | broken hbreaks =>
      rw [Run.look_log, Run.sleepFault_log] at hbreaks
      exact .broken hbreaks

/-- An evaluation that was planned and started ends with what is collected and observed, if its wait
is not broken off. -/
theorem evaluate_eq (observer : Option Observer) {request : Request} {run sent : Run σ} {p : Plan}
    (hplan : plan settings request run = .ok p)
    (hsent : transmit sink settings request p { place run p with session := p.ref.name } =
      (.ok (), sent)) :
    evaluate sink settings observer request run =
      match collect sink settings request p sent with
      | (.error failure, after) => (.error failure, { after with session := run.session })
      | (.ok result, after) =>
        observe observer request result { after with session := run.session } := by
  simp only [evaluate, perform, hplan, hsent]
  rcases collect sink settings request p sent with ⟨_ | _, after⟩
  · rfl
  · rfl

end JuliaBlocks.Transport
