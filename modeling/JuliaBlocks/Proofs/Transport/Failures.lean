import JuliaBlocks.Proofs.Transport.Trampoline

/-!
Where an evaluation fails, with what comes before succeeding: its session, its snippet or its
template is refused, its side files or its trace cannot be made, a send is refused, or a sleep
fails. Main statement: `perform_error_iff`.
-/

namespace JuliaBlocks

/-- The fault of an exchange is what its delivery comes to. -/
theorem Exchange.Delivered.outcome_iff {session : String} {messages : List Message}
    {exchanges : List Exchange} {outcome : Option Failure}
    (hdelivered : Delivered session messages exchanges outcome) (failure : Failure) :
    (∃ e ∈ exchanges, e.fault = some failure) ↔ outcome = some failure := by
  induction hdelivered with
  | done => simp
  | refused _ hfault => simp [hfault]
  | taken _ hfault _ ih => simp [hfault, ih]

/-- The fault of a sleep is what its wait comes to. -/
theorem Exchange.Waited.ended_iff {look : List Exchange → Option (List UInt8)} {attempts : Nat}
    {waits : List Exchange} {ended : Option Failure} (hwaited : Waited look attempts waits ended)
    (failure : Failure) : (∃ e ∈ waits, e.fault = some failure) ↔ ended = some failure := by
  cases hwaited with
  | stopped _ hcalm =>
      refine iff_of_false ?_ nofun
      rintro ⟨e, he, hfault⟩
      rw [hcalm e he] at hfault
      cases hfault
  | @broken n other hlength hbreaks =>
      have hlast : n < waits.length := by omega
      have hfault : waits[n].fault = some other := by
        simpa [List.getElem?_eq_getElem hlast] using hbreaks.fault
      constructor
      · rintro ⟨e, he, hfailure⟩
        obtain ⟨k, hk, rfl⟩ := List.mem_iff_getElem.mp he
        rcases Nat.lt_or_ge k n with hlt | hge
        · have hnone := hbreaks.slept k hlt
          simp [List.getElem?_eq_getElem hk, hfailure] at hnone
        · obtain rfl : k = n := by omega
          exact hfault.symm.trans hfailure
      · intro hsame
        exact ⟨waits[n], List.getElem_mem hlast, hfault.trans hsame⟩

namespace Transport

open Exchange

variable {σ : Type} {settings : Settings} {request : Request}

/-- How a request fails to have a source: its session, its snippet or its template is refused. -/
inductive Unwrapped (settings : Settings) (request : Request) (failure : Failure) : Prop
  | session (hsession : requested settings request = .error failure)
  | snippet {ref : SessionRef} (href : requested settings request = .ok ref)
      (hsnippet : Snippet.expand request = .error failure)
  | template {ref : SessionRef} {snippet : String} (href : requested settings request = .ok ref)
      (hsnippet : Snippet.expand request = .ok snippet)
      (htemplate : Template.wrap snippet request.resultKind ref.persistent = .error failure)

/-- How an evaluation fails to be planned: it has no source, or nowhere to put it. -/
inductive Unplanned (settings : Settings) (request : Request) (files : Files) (failure : Failure) :
    Prop
  | source (hsource : Unwrapped settings request failure)
  | files {ref : SessionRef} {snippet wrapped : String} {fault : PathFault}
      (href : requested settings request = .ok ref)
      (hsnippet : Snippet.expand request = .ok snippet)
      (htemplate : Template.wrap snippet request.resultKind ref.persistent = .ok wrapped)
      (hfault : files.creationFault? (directory settings files) SideFiles.uncreated = some fault)
      (hfailure : failure = .uncreatable fault
        (Path.join (directory settings files) SideFiles.uncreated))

theorem plan_error_iff {run : Run σ} {failure : Failure} :
    plan settings request run = .error failure ↔
      Unplanned settings request run.files failure := by
  have huncreated {ref : SessionRef} {snippet wrapped : String} {fault : PathFault}
      (href : requested settings request = .ok ref)
      (hsnippet : Snippet.expand request = .ok snippet)
      (htemplate : Template.wrap snippet request.resultKind ref.persistent = .ok wrapped)
      (hfault : run.files.creationFault? (directory settings run.files) SideFiles.uncreated =
        some fault) :
      plan settings request run = .error (.uncreatable fault
        (Path.join (directory settings run.files) SideFiles.uncreated)) := by
    simp only [plan, href, hsnippet, htemplate, hfault, bind, Except.bind]
    rfl
  constructor
  · intro hplan
    rcases bind_error_iff.mp hplan with hsession | ⟨ref, href, hrest⟩
    · exact .source (.session hsession)
    rcases bind_error_iff.mp hrest with hsnippet | ⟨snippet, hsnippet, hrest⟩
    · exact .source (.snippet href hsnippet)
    rcases bind_error_iff.mp hrest with htemplate | ⟨wrapped, htemplate, _⟩
    · exact .source (.template href hsnippet htemplate)
    cases hfault :
      run.files.creationFault? (directory settings run.files) SideFiles.uncreated with
    | none =>
        rw [plan_eq run href hsnippet htemplate hfault] at hplan
        cases hplan
    | some fault =>
        rw [huncreated href hsnippet htemplate hfault] at hplan
        exact .files href hsnippet htemplate hfault (Except.error.inj hplan).symm
  · rintro ((hsession | ⟨href, hsnippet⟩ | ⟨href, hsnippet, htemplate⟩) |
      ⟨href, hsnippet, htemplate, hfault, rfl⟩)
    · rw [plan, hsession]
      rfl
    · simp only [plan, href, hsnippet, bind, Except.bind]
    · simp only [plan, href, hsnippet, htemplate, bind, Except.bind]
    · exact huncreated href hsnippet htemplate hfault

/-- How an evaluation fails: it cannot be planned, its trace cannot be made, or an exchange fails,
which is a send that is refused or a sleep. -/
inductive Unperformed (sink : Sink σ) (settings : Settings) (request : Request) (run : Run σ)
    (failure : Failure) : Prop
  | unplanned (hplan : Unplanned settings request run.files failure)
  | untraced {p : Plan} (hplan : plan settings request run = .ok p)
      (hdebug : settings.debug = true)
      (htrace : Trace.render request.params p.wrapped = .error failure)
  | exchange {e : Exchange} (he : e ∈ (Step.evaluate request).exchanges sink settings none run)
      (hfault : e.fault = some failure)

theorem script_error_iff {p : Plan} {failure : Failure} :
    script settings request p = .error failure ↔
      settings.debug = true ∧ Trace.render request.params p.wrapped = .error failure := by
  unfold script
  cases hdebug : settings.debug with
  | false => simp
  | true =>
      rw [if_pos rfl, bind_error_iff]
      constructor
      · rintro (htrace | ⟨_, _, ⟨⟩⟩)
        exact ⟨rfl, htrace⟩
      · rintro ⟨_, htrace⟩
        exact Or.inl htrace

/-- An evaluation whose messages can be made fails with the fault of an exchange, and not
otherwise. -/
theorem perform_error_iff_fault {sink : Sink σ} {run : Run σ} {p : Plan} {messages : List Message}
    (hplan : plan settings request run = .ok p)
    (hscript : script settings request p = .ok messages) (failure : Failure) :
    (perform sink settings request run).1 = .error failure ↔
      ∃ e ∈ (Step.evaluate request).exchanges sink settings none run, e.fault = some failure := by
  have hwatched : plan settings request run.watch = .ok p := hplan
  obtain ⟨sends, waits, outcome, hdelivered, hwaits, hextends, houtcome⟩ :=
    evaluate_watched sink none hwatched hscript
  have hlog : (Step.evaluate request).exchanges sink settings none run = sends ++ waits :=
    hextends.log
  rw [← evaluate_unobserved, evaluate_eq_watched, hlog]
  simp only [List.mem_append, or_and_right, exists_or, hdelivered.outcome_iff]
  cases outcome with
  | some fault =>
      obtain ⟨rfl, hfailed⟩ := houtcome
      simp [hfailed]
  | none =>
      obtain ⟨ended, hwaited, hended⟩ := houtcome
      rw [hwaited.ended_iff]
      cases ended with
      | some fault => simp [hended]
      | none =>
          obtain ⟨collected, hcollected⟩ := hended
          simp [hcollected, observe]

theorem perform_error_iff {sink : Sink σ} {run : Run σ} {failure : Failure} :
    (perform sink settings request run).1 = .error failure ↔
      Unperformed sink settings request run failure := by
  cases hplan : plan settings request run with
  | error other =>
      have hsilent : (Step.evaluate request).exchanges sink settings none run = [] :=
        exchanges_of_unplanned hplan
      rw [perform, hplan]
      constructor
      · rintro ⟨⟩
        exact .unplanned (plan_error_iff.mp hplan)
      · rintro (hunplanned | ⟨hplanned, _, _⟩ | ⟨he, _⟩)
        · rw [← hplan, plan_error_iff.mpr hunplanned]
        · rw [hplan] at hplanned
          cases hplanned
        · rw [hsilent] at he
          cases he
  | ok p =>
      have hplanned : ¬ Unplanned settings request run.files failure := by
        intro hunplanned
        rw [plan_error_iff.mpr hunplanned] at hplan
        cases hplan
      cases hscript : script settings request p with
      | error other =>
          have hsilent : (Step.evaluate request).exchanges sink settings none run = [] :=
            exchanges_of_unscripted hplan hscript
          have hfailed : (perform sink settings request run).1 = .error other := by
            simp only [perform, hplan, transmit_eq, hscript]
          rw [hfailed]
          constructor
          · rintro ⟨⟩
            obtain ⟨hdebug, htrace⟩ := script_error_iff.mp hscript
            exact .untraced hplan hdebug htrace
          · rintro (hunplanned | ⟨hother, hdebug, htrace⟩ | ⟨he, _⟩)
            · exact absurd hunplanned hplanned
            · rw [hplan] at hother
              cases hother
              rw [script_error_iff.mpr ⟨hdebug, htrace⟩] at hscript
              cases hscript
              rfl
            · rw [hsilent] at he
              cases he
      | ok messages =>
          rw [perform_error_iff_fault hplan hscript]
          constructor
          · rintro ⟨e, he, hfault⟩
            exact .exchange he hfault
          · rintro (hunplanned | ⟨hother, hdebug, htrace⟩ | ⟨he, hfault⟩)
            · exact absurd hunplanned hplanned
            · rw [hplan] at hother
              cases hother
              rw [script_error_iff.mpr ⟨hdebug, htrace⟩] at hscript
              cases hscript
            · exact ⟨_, he, hfault⟩

end Transport

end JuliaBlocks
