import JuliaBlocks.Proofs.Transport.Steps

/-!
The side files keep evaluations apart. What an evaluation returns depends on the history of its own
output file and on no other file, and once its files are placed they are the session side's.
-/

namespace JuliaBlocks.Transport

open Exchange Run

variable {σ : Type} {sink : Sink σ} {settings : Settings} {observer : Option Observer}

theorem eq_of_observe_ok {request : Request} {found result : String} {run : Run σ}
    (hresult : (observe observer request found run).1 = .ok result) : result = found := by
  cases observer with
  | none =>
      cases hresult
      rfl
  | some observer =>
      simp only [observe] at hresult
      split at hresult
      · cases hresult
        rfl
      · cases hresult

theorem length_of_script {request : Request} {p : Plan} {messages : List Message}
    (hscript : script settings request p = .ok messages) :
    messages.length = if settings.debug then 2 else 1 := by
  unfold script at hscript
  split at hscript
  · next hdebug =>
    obtain ⟨trace, _, hmessages⟩ := exists_of_bind_ok hscript
    cases hmessages
    rw [if_pos hdebug]
    rfl
  · next hdebug =>
    cases hscript
    rw [if_neg hdebug]
    rfl

/-- What an evaluation that returns a value has exchanged: its sends, and waits that stop by what
its own output file holds. -/
theorem exists_stops_of_evaluate {request : Request} {run : Run σ} {p : Plan} {result : String}
    (hplan : plan settings request run = .ok p)
    (hresult : (evaluate sink settings observer request run).1 = .ok result) :
    ∃ sends waits,
      (Step.evaluate request).exchanges sink settings observer run = sends ++ waits ∧
      sends.length = (if settings.debug then 2 else 1) ∧
      Stops (fun k => replay (some []) (history p.files.output (sends ++ waits.take k)))
        settings.pollAttempts.toNat waits.length ∧
      result = Output.read (replay (some []) (history p.files.output (sends ++ waits)))
        settings.maxLineLength := by
  have hwatched : (evaluate sink.watched settings observer request run.watch).1 = .ok result :=
    (congrArg Prod.fst (evaluate_eq_watched sink settings observer request run)).symm.trans hresult
  have hwatchedPlan : plan settings request run.watch = .ok p := hplan
  cases hscript : script settings request p with
  | error failure =>
      simp only [evaluate, perform, hwatchedPlan, transmit_eq, hscript] at hwatched
      cases hwatched
  | ok messages =>
      obtain ⟨sends, waits, outcome, hdelivered, _, hextends, houtcome⟩ :=
        evaluate_watched sink observer hwatchedPlan hscript
      cases outcome with
      | some fault =>
          rw [houtcome.2] at hwatched
          cases hwatched
      | none =>
          obtain ⟨ended, hwaited, hended⟩ := houtcome
          cases hwaited with
          | broken _ _ =>
              rw [hended] at hwatched
              cases hwatched
          | stopped hstops _ =>
              obtain ⟨collected, hobserved⟩ := hended
              rw [hobserved] at hwatched
              refine ⟨sends, waits, hextends.log, ?_, hstops, eq_of_observe_ok hwatched⟩
              rw [hdelivered.length_eq, length_of_script hscript]

/-- Exchanges that agree on two files one by one have left these with the same history. -/
theorem history_take_eq {path other : String} {exchanges others : List Exchange}
    (hsame : ∀ (i : Nat) (e f : Exchange), exchanges[i]? = some e → others[i]? = some f →
      Change.history path e.changes = Change.history other f.changes)
    {n : Nat} (hn : n ≤ exchanges.length) (hother : n ≤ others.length) :
    history path (exchanges.take n) = history other (others.take n) := by
  induction exchanges generalizing others n with
  | nil =>
      obtain rfl : n = 0 := Nat.le_zero.mp hn
      rfl
  | cons e exchanges ih =>
      cases others with
      | nil =>
          obtain rfl : n = 0 := Nat.le_zero.mp hother
          rfl
      | cons f others =>
          cases n with
          | zero => rfl
          | succ n =>
              have hfirst := hsame 0 e f rfl rfl
              have hrest := ih (fun i e f he hf => hsame (i + 1) e f he hf)
                (Nat.le_of_succ_le_succ hn) (Nat.le_of_succ_le_succ hother)
              simp only [history] at hrest ⊢
              rw [List.take_succ_cons, List.take_succ_cons, List.flatMap_cons, List.flatMap_cons,
                hfirst, hrest]

/-- Two evaluations whose own output files have the same history return the same value, whatever
happens to all other files, and whatever they evaluate. -/
theorem result_eq_of_history {τ : Type} {other : Sink τ} {otherObserver : Option Observer}
    {request otherRequest : Request} {run : Run σ} {otherRun : Run τ} {p q : Plan}
    {result otherResult : String}
    (hplan : plan settings request run = .ok p)
    (hother : plan settings otherRequest otherRun = .ok q)
    (hsame : ∀ (i : Nat) (e f : Exchange),
      ((Step.evaluate request).exchanges sink settings observer run)[i]? = some e →
      ((Step.evaluate otherRequest).exchanges other settings otherObserver otherRun)[i]? = some f →
      Change.history p.files.output e.changes = Change.history q.files.output f.changes)
    (hresult : (evaluate sink settings observer request run).1 = .ok result)
    (hotherResult : (evaluate other settings otherObserver otherRequest otherRun).1 =
      .ok otherResult) : result = otherResult := by
  obtain ⟨sends, waits, hlog, hsends, hstops, rfl⟩ := exists_stops_of_evaluate hplan hresult
  obtain ⟨otherSends, otherWaits, hotherLog, hotherSends, hotherStops, rfl⟩ :=
    exists_stops_of_evaluate hother hotherResult
  rw [hlog, hotherLog] at hsame
  have htake (k : Nat) (hk : k ≤ waits.length) (hotherk : k ≤ otherWaits.length) :
      history p.files.output (sends ++ waits.take k) =
        history q.files.output (otherSends ++ otherWaits.take k) := by
    have hhistory := history_take_eq hsame (n := sends.length + k) (by simp; omega)
      (by rw [List.length_append, hotherSends, hsends]; omega)
    rw [List.take_length_add_append] at hhistory
    rw [hhistory, hsends, ← hotherSends, List.take_length_add_append]
  have hlength : waits.length = otherWaits.length :=
    hstops.unique hotherStops fun k hk hotherk => by rw [htake k hk hotherk]
  have hall := htake waits.length (Nat.le_refl _) (by omega)
  rw [List.take_length, hlength, List.take_length] at hall
  rw [hall]

/-- Evaluations are isolated by their side files. In a run whose session side may change any file at
any exchange, no two side files have the same name; the value of an evaluation is what the history
of its own output file has left, and another evaluation with such a history returns the same; from
any exchange of the evaluation to the end of the run its side files change only as the session side
changes them, and the source file keeps the wrapped snippet if the session side leaves it alone. -/
theorem evaluation_isolated (sink : Sink σ) (observer : Option Observer) (later : List Step)
    {state : σ} {files : Files} {naming : Naming} {before : List Step} {run : Run σ}
    {request : Request} {p : Plan}
    (hrun : run = runSteps sink settings observer before { state, files, naming })
    (hplan : plan settings request run = .ok p) :
    let evaluation := Step.evaluate request
    let after := evaluation.run sink settings observer run
    let exchanges := evaluation.exchanges sink settings observer run
    let rest := exchangesOver sink settings observer later after
    let final := runSteps sink settings observer later after
    (p.files ∈ final.sideFiles ∧ (final.sideFiles.flatMap SideFiles.names).Nodup) ∧
    (∀ result, (evaluate sink settings observer request run).1 = .ok result →
      result = Output.read (replay (some []) (history p.files.output exchanges))
        settings.maxLineLength) ∧
    (∀ {τ : Type} (other : Sink τ) (otherObserver : Option Observer) (otherRun : Run τ)
        (otherRequest : Request) (q : Plan),
      plan settings otherRequest otherRun = .ok q →
      (∀ (i : Nat) (e f : Exchange), exchanges[i]? = some e →
        ((Step.evaluate otherRequest).exchanges other settings otherObserver otherRun)[i]? =
          some f →
        Change.history p.files.output e.changes = Change.history q.files.output f.changes) →
      ∀ result otherResult, (evaluate sink settings observer request run).1 = .ok result →
        (evaluate other settings otherObserver otherRequest otherRun).1 = .ok otherResult →
        result = otherResult) ∧
    (∀ path ∈ p.files.names, ∀ front e back, exchanges = front ++ e :: back →
      final.files.read? path = replay (e.files.read? path) (history path (e :: back ++ rest))) ∧
    (history p.files.source (exchanges ++ rest) = [] →
      final.files.read? p.files.source = some (Text.Utf8.encode p.wrapped)) := by
  intro evaluation after exchanges rest final
  obtain ⟨hlinked, hcreated⟩ :=
    evaluate_linked sink settings observer hplan
  have hdirectory : directory settings after.files = directory settings run.files :=
    evaluation.directory_run sink settings observer run
  have hnaming : after.naming = run.naming := evaluation.naming_run sink settings observer run
  -- From here on the files belong to the session side.
  have hrest (path : String) (hpath : path ∈ p.files.names) :
      final.files.read? path = replay (after.files.read? path) (history path rest) := by
    rw [plan_files hplan, ← hdirectory, ← hnaming] at hpath
    exact read?_runSteps sink settings observer later (Nat.le_of_eq hcreated.symm) hpath
  have haccounted : Accounted (directory settings run.files) final := by
    have hstart : Accounted (directory settings run.files) run := by
      obtain ⟨hsame, _, hnumbered⟩ :=
        accounted_from_start sink settings observer before state files naming
      rw [hrun, hsame]
      exact hnumbered
    have hafter := evaluation.accounted_run sink settings observer hstart
    rw [← hdirectory] at hafter ⊢
    exact accounted_runSteps sink settings observer later hafter
  have hcount : run.created < final.created := by
    have hlater := created_le_runSteps sink settings observer later after
    simp only [after, evaluation, hcreated] at hlater
    exact hlater
  refine ⟨⟨?_, haccounted.nodup_names⟩, ?_, ?_, ?_, ?_⟩
  · have hkept : final.naming = run.naming :=
      (naming_runSteps sink settings observer later after).trans hnaming
    rw [haccounted, plan_files hplan, hkept]
    exact List.mem_map.mpr ⟨run.created, List.mem_range.mpr hcount, rfl⟩
  · intro result hresult
    obtain ⟨sends, waits, hlog, _, _, hread⟩ := exists_stops_of_evaluate hplan hresult
    simp only [exchanges, evaluation, hlog]
    exact hread
  · intro τ other otherObserver otherRun otherRequest q hother hsame result otherResult hresult
      hotherResult
    exact result_eq_of_history hplan hother hsame hresult hotherResult
  · intro path hpath front e back hparts
    have hlinked : Linked (place run p).files (front ++ e :: back) after.files := hparts ▸ hlinked
    rw [hrest path hpath, hlinked.read?_since path, history_append, replay_append]
  · intro hspared
    rw [history_append, List.append_eq_nil_iff] at hspared
    rw [hrest p.files.source (by simp [SideFiles.names]), hspared.2, replay_nil,
      hlinked.read? p.files.source, place_read?_source]
    simp only [exchanges, evaluation] at hspared
    rw [hspared.1, replay_nil]

/-- A session side that answers an evaluation during the next one, which it answers in time. -/
def tardy : Sink Nat where
  send state _ _ _ :=
    { state := state + 1
      changes :=
        if state = 1 then [.write (Naming.numbered.files "/tmp" 1).output [0x31]] else [] }
  pause state _ _ :=
    { state
      changes :=
        if state = 2 then [.write (Naming.numbered.files "/tmp" 2).output [0x32]] else [] }

/-- Settings with a single wait. -/
def hasty : Settings := { Settings.usual with pollAttempts := 1 }

/-- The run after an evaluation that was not answered in time. -/
def tardyRun : Run Nat :=
  runSteps tardy hasty none [.evaluate { body := "1" }]
    { state := 0, files := { directories := Files.systemDirectories } }

theorem evaluation_isolated_tardy : ∃ p : Plan,
    plan hasty { body := "2" } tardyRun = .ok p ∧
    (evaluate tardy hasty none { body := "2" } tardyRun).1 = .ok "2" ∧
    "2" = Output.read (replay (some []) (history p.files.output
      ((Step.evaluate { body := "2" }).exchanges tardy hasty none tardyRun))) 12000 ∧
    ((Step.evaluate { body := "2" }).run tardy hasty none tardyRun).files.read? p.files.source =
      some (Text.Utf8.encode "_babel_julia_result = begin\n2\nend") := by
  have hcreated : tardyRun.files.creationFault? (directory hasty tardyRun.files)
      SideFiles.uncreated = none := by decide
  have href : requested hasty { body := "2" } = .ok ⟨"main", "main", true⟩ := rfl
  have hexpanded : Snippet.expand { body := "2" } = .ok "2" := rfl
  have hwrapped : Template.wrap "2" .value true =
      .ok "_babel_julia_result = begin\n2\nend" := rfl
  have hplan := plan_eq tardyRun href hexpanded hwrapped hcreated
  have hresult : (evaluate tardy hasty none { body := "2" } tardyRun).1 = .ok "2" := rfl
  obtain ⟨_, hread, _, _, hkept⟩ :=
    evaluation_isolated tardy none [] rfl hplan
  refine ⟨_, hplan, hresult, hread "2" hresult, hkept ?_⟩
  decide

end JuliaBlocks.Transport
