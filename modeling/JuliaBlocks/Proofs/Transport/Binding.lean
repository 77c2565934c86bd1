import JuliaBlocks.Proofs.Transport.Calls

/-!
The session that log records are marked with. An evaluation marks its records with its own session
and gives the run back with the one that was bound before, whichever way it ends and before its
callback is told; the other steps bind none. Main statement: `binding_scoped`.
-/

namespace JuliaBlocks

namespace Run

variable {σ : Type}

@[simp] theorem records_observed (run : Run σ) (request : Request) (result : String) :
    (run.note (.observed request result)).records = run.records := by
  simpa [Event.record?] using records_push (note_events run (.observed request result))

end Run

namespace Transport

open Run

variable {σ : Type} {sink : Sink σ} {settings : Settings} {request : Request}

theorem session_of_mem_logged {p : Plan} {content : Option (List UInt8)} {record : Record}
    (hrecord : record ∈ logged settings request p content) : record.session = p.ref.name := by
  unfold logged at hrecord
  rcases List.mem_cons.mp hrecord with rfl | hrecord
  · rfl
  · split at hrecord
    · obtain rfl := List.mem_singleton.mp hrecord
      rfl
    · split at hrecord
      · obtain rfl := List.mem_singleton.mp hrecord
        rfl
      · cases hrecord

/-- However an evaluation ends, the session is bound again that was bound before. -/
theorem Performed.session {run after : Run σ} {ended : Except Failure String}
    (hended : Performed sink settings request run ended after) : after.session = run.session := by
  cases hended with
  | unplanned hplan => rfl
  | unsent hplan hsent => rfl
  | unawaited hsends hbreaks => rfl
  | read hsends hstops hcontent => rfl

/-- The records of an evaluation are marked with its own session. -/
theorem Performed.records {run after : Run σ} {ended : Except Failure String}
    (hended : Performed sink settings request run ended after) :
    ∃ added, after.records = run.records ++ added ∧
      ∀ record ∈ added, ∃ ref, requested settings request = .ok ref ∧
        record.session = ref.name := by
  -- Neither placing the side files nor sending logs anything.
  have hquiet (p : Plan) :
      let sent := (transmit sink settings request p
        { place run p with session := p.ref.name }).2
      sent.records = run.records ∧ sent.session = p.ref.name := by
    have hplaced : (place run p).records = run.records := by
      simpa [Event.record?] using records_push (place_events run p)
    obtain ⟨hrecords, _, hsession⟩ := transmit_frame sink settings request p
      { place run p with session := p.ref.name }
    exact ⟨hrecords.trans hplaced, hsession⟩
  cases hended with
  | unplanned hplan => exact ⟨[], by simp, by simp⟩
  | @unsent p failure sent hplan hsent =>
      have hsame := hquiet p
      rw [hsent] at hsame
      refine ⟨[], ?_, by simp⟩
      rw [List.append_nil, ← hsame.1]
      rfl
  | @unawaited p sent n failure hsends hbreaks =>
      obtain ⟨hrecords, hsession⟩ := hquiet p
      rw [hsends.transmit] at hrecords hsession
      refine ⟨[⟨.debug, p.ref.name, sentMessage request p⟩], ?_, ?_⟩
      · rw [← hrecords, ← hsession, ← records_log]
        exact records_waited (sent.log .debug (sentMessage request p)) (n + 1)
      · intro record hrecord
        obtain rfl := List.mem_singleton.mp hrecord
        exact ⟨p.ref, (plan_spec hsends.plan).1, rfl⟩
  | @read p sent n content hsends hstops hcontent =>
      obtain ⟨hrecords, hsession⟩ := hquiet p
      rw [hsends.transmit] at hrecords hsession
      obtain ⟨hlogged, _⟩ := conclude_spec sink settings request p content n hsession
      refine ⟨logged settings request p content, ?_, ?_⟩
      · rw [← hrecords]
        exact hlogged
      · intro record hrecord
        exact ⟨p.ref, (plan_spec hsends.plan).1, session_of_mem_logged hrecord⟩

theorem observe_frame (observer : Option Observer) (request : Request) (result : String)
    (run : Run σ) :
    let after := (observe observer request result run).2
    after.session = run.session ∧ after.records = run.records := by
  cases observer with
  | none => exact ⟨rfl, rfl⟩
  | some observer =>
      have hnote := records_observed run request result
      simp only [observe]
      cases observer request result with
      | none => exact ⟨rfl, hnote⟩
      | some failure => exact ⟨rfl, hnote⟩

section Runs

variable (sink : Sink σ) (settings : Settings)

/-- How a step treats the bound session: an evaluation binds its own one for its records, and the
callback finds the one that was bound before. -/
theorem Call.scopes (call : Call) (run : Run σ) :
    let next := call.run sink settings run
    next.session = run.session ∧
    match call.step with
    | .evaluate request =>
      (∃ added, next.records = run.records ++ added ∧
        ∀ record ∈ added, ∃ ref, requested settings request = .ok ref ∧
          record.session = ref.name) ∧
      ∃ ended told, Performed sink settings request run ended told ∧
        told.session = run.session ∧
        evaluate sink settings call.observer request run =
          match ended with
          | .error failure => (.error failure, told)
          | .ok result => observe call.observer request result told
    | _ => next.records = run.records := by
  intro next
  obtain ⟨step, observer⟩ := call
  cases step with
  | loadSession request =>
      have hnext : next = (loadSession sink settings request run).2 := rfl
      rcases loadSession_sends request run with hkept | ⟨session, text, hsent⟩
      · rw [hnext, hkept]
        exact ⟨rfl, rfl⟩
      · rw [hnext, hsent]
        exact ⟨send_session run sink session _, records_send run session _⟩
  | prepSession key bindings =>
      have hnext : next = (prepSession sink settings key bindings run).2 := rfl
      rcases prepSession_sends key bindings run with hkept | ⟨session, text, hsent⟩
      · rw [hnext, hkept]
        exact ⟨rfl, rfl⟩
      · rw [hnext, hsent]
        exact ⟨send_session run sink session _, records_send run session _⟩
  | evaluate request =>
      have hnext : next = (evaluate sink settings observer request run).2 := rfl
      have hended := performed_perform sink settings request run
      obtain ⟨added, hadded, hmarked⟩ := hended.records
      rcases hperformed : perform sink settings request run with ⟨failure | result, told⟩
      · rw [hperformed] at hended hadded
        have hevaluate : evaluate sink settings observer request run = (.error failure, told) :=
          evaluate_eq_error sink settings request run hperformed
        have htold : next = told := by rw [hnext, hevaluate]
        rw [htold]
        exact ⟨hended.session, ⟨added, hadded, hmarked⟩, _, told, hended, hended.session, hevaluate⟩
      · rw [hperformed] at hended hadded
        have hevaluate : evaluate sink settings observer request run =
            observe observer request result told :=
          evaluate_eq_observe sink settings request run hperformed
        obtain ⟨hsession, hrecords⟩ := observe_frame observer request result told
        rw [hnext, hevaluate]
        exact ⟨hsession.trans hended.session, ⟨added, hrecords.trans hadded, hmarked⟩, _, told,
          hended, hended.session, hevaluate⟩

theorem session_runCalls (calls : List Call) (run : Run σ) :
    (runCalls sink settings calls run).session = run.session := by
  induction calls generalizing run with
  | nil => rfl
  | cons call calls ih =>
      have hfirst := (call.scopes sink settings run).1
      exact (ih (call.run sink settings run)).trans hfirst

end Runs

/-- The session that log records are marked with is bound for an evaluation only. Through any run of
steps, whatever sends or callbacks fail in it, and whichever session is bound at its start, this one
is bound before and after each step. What an evaluation logs is marked with the session that its
request means, and its callback is told once the session from before is bound again; the other steps
log nothing. -/
theorem binding_scoped (sink : Sink σ) (settings : Settings) (calls : List Call) (start : Run σ) :
    (runCalls sink settings calls start).session = start.session ∧
    ∀ before call after, calls = before ++ call :: after →
      let run := runCalls sink settings before start
      let next := call.run sink settings run
      runCalls sink settings calls start = runCalls sink settings after next ∧
      run.session = start.session ∧ next.session = start.session ∧
      match call.step with
      | .evaluate request =>
        (∃ added, next.records = run.records ++ added ∧
          ∀ record ∈ added, ∃ ref, requested settings request = .ok ref ∧
            record.session = ref.name) ∧
        ∃ ended told, Performed sink settings request run ended told ∧
          told.session = start.session ∧
          evaluate sink settings call.observer request run =
            match ended with
            | .error failure => (.error failure, told)
            | .ok result => observe call.observer request result told
      | _ => next.records = run.records := by
  refine ⟨session_runCalls sink settings calls start, ?_⟩
  rintro before call after rfl run next
  have hrun : run.session = start.session := session_runCalls sink settings before start
  obtain ⟨hnext, hscopes⟩ := call.scopes sink settings run
  rw [hrun] at hnext hscopes
  exact ⟨runCalls_append sink settings before (call :: after) start, hrun, hnext, hscopes⟩

end Transport

end JuliaBlocks
