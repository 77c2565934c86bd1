import JuliaBlocks.Proofs.Julia.Quote
import JuliaBlocks.Proofs.Transport.Steps

/-!
The protocol of an evaluation in any run: it creates side files that no other has, sends to one
session its messages in order, and at the moment of the trampoline the source file that this names
holds the wrapped snippet.
-/

namespace JuliaBlocks

/-- A session side that changes no source file. It may write output files whenever it likes. -/
structure Sink.SparesSources {σ : Type} (sink : Sink σ) (naming : Naming) (directory : String) :
    Prop where
  send : ∀ state files session message number,
    Change.history (naming.files directory number).source
      (sink.send state files session message).changes = []
  pause : ∀ state files interval number,
    Change.history (naming.files directory number).source
      (sink.pause state files interval).changes = []

theorem Sink.SparesSources.history_eq_nil {σ : Type} {sink : Sink σ} {naming : Naming}
    {directory : String} (hsink : sink.SparesSources naming directory) (number : Nat)
    {exchanges : List Exchange} (hof : ∀ e ∈ exchanges, e.Of sink) :
    Exchange.history (naming.files directory number).source exchanges = [] := by
  rw [Exchange.history, List.flatMap_eq_nil_iff]
  intro e he
  have hof := hof e he
  unfold Exchange.Of at hof
  split at hof
  · obtain ⟨state, hchanges, _⟩ := hof
    rw [hchanges]
    exact hsink.send _ _ _ _ _
  · obtain ⟨state, interval, hchanges, _⟩ := hof
    rw [hchanges]
    exact hsink.pause _ _ _ _

namespace Transport

open Exchange Run

/-- Reads the two files that a trampoline names: the one that it includes, and the one that it
opens. -/
def readTrampoline (text : String) : Option (String × String) := do
  let s := (text.toList.dropPrefix? "using Suppressor; ".toList).getD text.toList
  let s ← s.dropPrefix? "include(".toList
  let (source, s) ← Julia.readString s
  let s ← s.dropPrefix? "); open(".toList
  let (output, _) ← Julia.readString s
  return (String.ofList source, String.ofList output)

/-- A trampoline names the side files that it was made for, whatever their names are. -/
theorem readTrampoline_text (files : SideFiles) (kind : ResultKind) :
    readTrampoline (trampolineText files kind) = some (files.source, files.output) := by
  let line := "include(".toList ++ ((Julia.quote files.source).toList ++ ("); open(".toList ++
    ((Julia.quote files.output).toList ++
      ", \"w\") do io; print(io, _babel_julia_result); end".toList)))
  have hline : (trampolineText files kind).toList = (packages kind).toList ++ line :=
    toList_trampolineText files kind
  have huses : (((packages kind).toList ++ line).dropPrefix? "using Suppressor; ".toList).getD
      ((packages kind).toList ++ line) = line := by
    rw [dropPrefix?_packages kind rfl]
    cases kind with
    | output => rfl
    | value => rfl
    | other given => rfl
  rw [readTrampoline, hline]
  simp only [huses, line, List.dropPrefix?_append_of_beq _ (BEq.refl _), Julia.readString_quote,
    Option.bind_eq_bind, Option.bind_some, Option.pure_def, String.ofList_toList]

theorem requested_ofText? {settings : Settings} {request : Request} {key : Option String}
    (hkey : request.sessionKey = .ofText? key) :
    requested settings request = .ok (resolve settings key) := by
  rw [requested, hkey]
  cases key with
  | none => rfl
  | some key => rfl

/-- The traces that a plan makes for: one when debugging, and else none. -/
theorem exists_script (settings : Settings) (request : Request) (p : Plan)
    (htrace : settings.debug = true → ∃ trace, Trace.render request.params p.wrapped = .ok trace) :
    ∃ traces : List Message,
      (if settings.debug then
        ∃ trace, Trace.render request.params p.wrapped = .ok trace ∧ traces = [.trace trace]
      else traces = []) ∧
      script settings request p = .ok (traces ++ [.trampoline p.files p.trampoline]) := by
  unfold script
  cases hdebug : settings.debug with
  | false => exact ⟨[], by simp, rfl⟩
  | true =>
      obtain ⟨trace, htrace⟩ := htrace hdebug
      refine ⟨[.trace trace], by simp [htrace], ?_⟩
      rw [htrace]
      rfl

/-- There is just one trampoline among the messages of an evaluation. -/
theorem eq_of_trampoline_mem {settings : Settings} {request : Request} {p : Plan}
    {traces : List Message} {own side : SideFiles} {line text : String}
    (htraces : if settings.debug then
      ∃ trace, Trace.render request.params p.wrapped = .ok trace ∧ traces = [.trace trace]
      else traces = [])
    (hmem : Message.trampoline side text ∈ traces ++ [.trampoline own line]) :
    side = own ∧ text = line := by
  rcases List.mem_append.mp hmem with htraced | hlast
  · split at htraces
    · obtain ⟨trace, _, rfl⟩ := htraces
      cases List.mem_singleton.mp htraced
    · rw [htraces] at htraced
      cases htraced
  · cases List.mem_singleton.mp hlast
    exact ⟨rfl, rfl⟩

/-- As long as the session side changes no source file, every exchange of an evaluation finds the
wrapped snippet in its own. -/
theorem read?_source_of_spared {σ : Type} {sink : Sink σ} {run after : Run (σ × List Exchange)}
    {p : Plan} {exchanges : List Exchange} {naming : Naming} {directory : String} {number : Nat}
    (hextends : (place run p).Extends sink exchanges after)
    (hsink : sink.SparesSources naming directory)
    (hfiles : p.files = naming.files directory number)
    {e : Exchange} (he : e ∈ exchanges) :
    e.files.read? p.files.source = some (Text.Utf8.encode p.wrapped) := by
  obtain ⟨front, back, rfl⟩ := List.append_of_mem he
  have hspared : history p.files.source front = [] := by
    rw [hfiles]
    apply hsink.history_eq_nil
    intro other hother
    exact hextends.genuine other (List.mem_append_left _ hother)
  rw [hextends.linked.read?_found p.files.source, hspared, replay_nil, place_read?_source]

/-- An evaluation in a run, once its snippet is expanded and its side files can be created. Its side
files are its own; it sends to its session, in order and up to the first refusal, a trace just when
debugging and one trampoline; and when the trampoline is sent, the source file that it names holds
the wrapped snippet, and the output file that it names is the evaluation's own. -/
theorem evaluate_protocol {σ : Type} {sink : Sink σ} {settings : Settings}
    {observer : Option Observer} {state : σ} {files : Files} {naming : Naming}
    {before : List Step} {run : Run σ} {request : Request} {key : Option String}
    {expanded wrapped : String}
    (hrun : run = runSteps sink settings observer before { state, files, naming })
    (hkey : request.sessionKey = .ofText? key)
    (hexpanded : Snippet.expand request = .ok expanded)
    (hwrapped : Template.wrap expanded request.resultKind (resolve settings key).persistent =
      .ok wrapped)
    (hcreated : run.files.creationFault? (directory settings run.files) SideFiles.uncreated = none)
    (htrace : settings.debug = true → ∃ trace, Trace.render request.params wrapped = .ok trace)
    (hsink : sink.SparesSources naming (directory settings files)) :
    let evaluation := Step.evaluate request
    let after := evaluation.run sink settings observer run
    let exchanges := evaluation.exchanges sink settings observer run
    ∃ own : SideFiles,
      (after.sideFiles = run.sideFiles ++ [own] ∧ own.source ≠ own.output ∧
        ∀ earlier ∈ run.sideFiles, List.Disjoint own.names earlier.names) ∧
      (∃ traces sends waits outcome,
        (if settings.debug then
          ∃ trace, Trace.render request.params wrapped = .ok trace ∧ traces = [.trace trace]
        else traces = []) ∧
        exchanges = sends ++ waits ∧
        Delivered (resolve settings key).name
          (traces ++ [.trampoline own (trampolineText own request.resultKind)]) sends outcome ∧
        (∀ e ∈ waits, e.message = none) ∧
        ∀ fault, outcome = some fault →
          waits = [] ∧ (evaluate sink settings observer request run).1 = .error fault) ∧
      ∀ e ∈ exchanges, ∀ session side text, e.message = some (session, .trampoline side text) →
        ∃ source output, readTrampoline text = some (source, output) ∧
          e.files.read? source = some (Text.Utf8.encode wrapped) ∧
          source = own.source ∧ output = own.output := by
  intro evaluation after exchanges
  have hstart : directory settings run.files = directory settings files ∧ run.naming = naming ∧
      Accounted (directory settings files) run := by
    rw [hrun]
    exact accounted_from_start sink settings observer before state files naming
  obtain ⟨hdirectory, hnaming, haccounted⟩ := hstart
  let own := run.naming.files (directory settings run.files) (run.created + 1)
  let p : Plan := {
    ref := resolve settings key, wrapped, files := own
    trampoline := trampolineText own request.resultKind }
  have hplan : plan settings request run = .ok p :=
    plan_eq run (requested_ofText? hkey) hexpanded hwrapped hcreated
  obtain ⟨traces, htraces, hscript⟩ := exists_script settings request p htrace
  have hwatched : plan settings request run.watch = .ok p := hplan
  obtain ⟨sends, waits, outcome, hdelivered, hwaits, hextends, houtcome⟩ :=
    evaluate_watched sink observer hwatched hscript
  have hlog : exchanges = sends ++ waits := hextends.log
  have hevaluate := evaluate_eq_watched sink settings observer request run
  refine ⟨own, ⟨?_, ?_, ?_⟩, ⟨traces, sends, waits, outcome, htraces, hlog, hdelivered, hwaits, ?_⟩,
    ?_⟩
  · have hafter : after = mapState Prod.fst
        (evaluate sink.watched settings observer request run.watch).2 := congrArg Prod.snd hevaluate
    rw [hafter, ← place_sideFiles run p]
    exact hextends.sideFiles
  · exact run.naming.source_ne_output _ _ _
  · intro earlier hearlier
    rw [haccounted] at hearlier
    obtain ⟨n, hn, rfl⟩ := List.mem_map.mp hearlier
    have hlt := List.mem_range.mp hn
    simp only [own, hdirectory]
    exact run.naming.names_disjoint (by omega)
  · rintro fault rfl
    exact ⟨houtcome.1, (congrArg Prod.fst hevaluate).trans houtcome.2⟩
  · intro e he session side text hmessage
    rw [hlog] at he
    have hsent : e ∈ sends := by
      rcases List.mem_append.mp he with hsent | hwaited
      · exact hsent
      · rw [hwaits e hwaited] at hmessage
        cases hmessage
    obtain ⟨message, hmem, hsame⟩ := hdelivered.exists_message hsent
    rw [hmessage] at hsame
    cases hsame
    obtain ⟨rfl, rfl⟩ := eq_of_trampoline_mem (p := p) htraces hmem
    -- The trace before it may have been answered, but not in the source file.
    have hsink : sink.SparesSources run.naming (directory settings run.files) := by
      rwa [hdirectory, hnaming]
    have hcontent := read?_source_of_spared hextends hsink (plan_files hplan) he
    exact ⟨own.source, own.output, readTrampoline_text own request.resultKind, hcontent, rfl, rfl⟩

/-- A session side that answers a trace at once and refuses the trampoline after it. -/
def refusing : Sink Unit where
  send _ _ _ message :=
    match message with
    | .trampoline _ _ => { state := (), fault := some (.session (.withoutInput "main")) }
    | _ => { state := (), changes := [.write (Naming.numbered.files "/tmp" 1).output [0x31]] }
  pause _ _ _ := { state := () }

theorem refusing_spares : refusing.SparesSources .numbered "/tmp" where
  send state files session message number := by
    cases message with
    | trampoline side text => rfl
    | trace text =>
        have hother := (Naming.numbered.source_ne_output "/tmp" number 1).symm
        simp [refusing, Change.history, Change.leaves?, hother]
    | source text =>
        have hother := (Naming.numbered.source_ne_output "/tmp" number 1).symm
        simp [refusing, Change.history, Change.leaves?, hother]
  pause state files interval number := rfl

/-- Settings for debugging. -/
def tracing : Settings := { Settings.usual with debug := true }

/-- A run of one evaluation. -/
def refusedRun : Run Unit :=
  runSteps refusing tracing none [.evaluate { body := "0" }]
    { state := (), files := { directories := Files.systemDirectories } }

theorem evaluate_protocol_refused :
    let request : Request := { body := "1 + 1", resultKind := .output }
    let wrapped :=
      "_babel_julia_result = begin eval(Meta.parse(\"@capture_out begin\n1 + 1\nend\")) end"
    Snippet.expand request = .ok "1 + 1" ∧
    Template.wrap "1 + 1" .output true = .ok wrapped ∧
    refusedRun.files.creationFault? (directory tracing refusedRun.files) SideFiles.uncreated =
      none ∧
    (∃ trace, Trace.render request.params wrapped = .ok trace) ∧
    refusing.SparesSources .numbered "/tmp" ∧
    ∃ own : SideFiles,
      ((Step.evaluate request).run refusing tracing none refusedRun).sideFiles =
        refusedRun.sideFiles ++ [own] ∧
      ∀ e ∈ (Step.evaluate request).exchanges refusing tracing none refusedRun,
        ∀ session side text, e.message = some (session, .trampoline side text) →
          readTrampoline text = some (own.source, own.output) := by
  intro request wrapped
  have hexpanded : Snippet.expand request = .ok "1 + 1" := rfl
  have hwrapped : Template.wrap "1 + 1" .output true = .ok wrapped := rfl
  have hcreated : refusedRun.files.creationFault? (directory tracing refusedRun.files)
      SideFiles.uncreated = none := by decide
  have htrace : ∃ trace, Trace.render request.params wrapped = .ok trace := ⟨_, rfl⟩
  have hkey : request.sessionKey = .ofText? none := rfl
  have hrun : refusedRun = runSteps refusing tracing none [.evaluate { body := "0" }]
      { state := (), files := { directories := Files.systemDirectories } } := rfl
  obtain ⟨own, hfresh, _, hnamed⟩ := evaluate_protocol hrun hkey hexpanded hwrapped hcreated
    (fun _ => htrace) refusing_spares
  refine ⟨hexpanded, hwrapped, hcreated, htrace, refusing_spares, own, hfresh.1, ?_⟩
  intro e he session side text hmessage
  obtain ⟨source, output, hread, _, rfl, rfl⟩ := hnamed e he session side text hmessage
  exact hread

end Transport

end JuliaBlocks
