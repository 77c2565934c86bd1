import JuliaBlocks.Proofs.Transport.Protocol

/-!
What an evaluation exchanges with the session side up to its trampoline. Main statement:
`found_of_trampoline`.
-/

namespace JuliaBlocks.Transport

open Exchange Run

variable {σ : Type} {sink : Sink σ} {settings : Settings} {observer : Option Observer}
  {request : Request} {run : Run σ}

/-- Without an observer an evaluation is what is performed. -/
theorem evaluate_unobserved (sink : Sink σ) (settings : Settings) (request : Request)
    (run : Run σ) :
    evaluate sink settings none request run = perform sink settings request run := by
  unfold evaluate
  rcases perform sink settings request run with ⟨_ | _, _⟩
  · rfl
  · rfl

/-- An evaluation that cannot be planned exchanges nothing. -/
theorem exchanges_of_unplanned {failure : Failure}
    (hplan : plan settings request run = .error failure) :
    (Step.evaluate request).exchanges sink settings observer run = [] := by
  have hwatched : plan settings request run.watch = .error failure := hplan
  rw [Step.exchanges, Step.run, evaluate, perform, hwatched]
  rfl

/-- Neither does one whose messages cannot be made. -/
theorem exchanges_of_unscripted {p : Plan} {failure : Failure}
    (hplan : plan settings request run = .ok p)
    (hscript : script settings request p = .error failure) :
    (Step.evaluate request).exchanges sink settings observer run = [] := by
  have hwatched : plan settings request run.watch = .ok p := hplan
  simp only [Step.exchanges, Step.run, evaluate, perform, hwatched, transmit_eq, hscript]
  rfl

/-- The messages of an evaluation that can be made: one trace at most, and the trampoline. -/
theorem exists_traces {p : Plan} {messages : List Message}
    (hscript : script settings request p = .ok messages) :
    ∃ traces : List Message,
      (if settings.debug then
        ∃ trace, Trace.render request.params p.wrapped = .ok trace ∧ traces = [.trace trace]
      else traces = []) ∧
      messages = traces ++ [.trampoline p.files p.trampoline] := by
  have htrace : settings.debug = true →
      ∃ trace, Trace.render request.params p.wrapped = .ok trace := by
    intro hdebug
    rw [script, if_pos hdebug] at hscript
    obtain ⟨trace, htrace, _⟩ := exists_of_bind_ok hscript
    exact ⟨trace, htrace⟩
  obtain ⟨traces, htraces, hsame⟩ := exists_script settings request p htrace
  rw [hscript] at hsame
  exact ⟨traces, htraces, Except.ok.inj hsame⟩

/-- What was exchanged before the last of the messages was delivered is the others. -/
theorem exists_message_of_front {session : String} {messages : List Message} {last : Message}
    {sends waits front back : List Exchange} {outcome : Option Failure} {e : Exchange}
    (hdelivered : Delivered session (messages ++ [last]) sends outcome)
    (hwaits : ∀ e ∈ waits, e.message = none) (hsplit : sends ++ waits = front ++ e :: back)
    (he : e.message = some (session, last)) (hlast : last ∉ messages) :
    ∀ f ∈ front, ∃ message ∈ messages, f.message = some (session, message) := by
  have hnotwait {rest : List Exchange} (hrest : waits = rest ++ e :: back) : False := by
    have hnone := hwaits e (by simp [hrest])
    rw [he] at hnone
    cases hnone
  induction messages generalizing sends front with
  | nil =>
      cases front with
      | nil => simp
      | cons f front =>
          cases hdelivered with
          | refused _ _ => exact (hnotwait (List.cons.inj hsplit).2).elim
          | taken _ _ hlater =>
              cases hlater
              exact (hnotwait (List.cons.inj hsplit).2).elim
  | cons message messages ih =>
      have hother {first : Exchange} {later : List Exchange}
          (hfirst : first.message = some (session, message))
          (hsame : first :: later = e :: back) : False := by
        rw [(List.cons.inj hsame).1, he] at hfirst
        cases hfirst
        exact hlast List.mem_cons_self
      cases hdelivered with
      | refused hmessage _ =>
          cases front with
          | nil => exact (hother hmessage hsplit).elim
          | cons f front => exact (hnotwait (List.cons.inj hsplit).2).elim
      | taken hmessage _ hlater =>
          cases front with
          | nil => exact (hother hmessage hsplit).elim
          | cons f front =>
              obtain ⟨rfl, hrest⟩ := List.cons.inj hsplit
              have hfront := ih hlater hrest fun hmem => hlast (List.mem_cons_of_mem _ hmem)
              rw [List.forall_mem_cons]
              refine ⟨⟨message, List.mem_cons_self, hmessage⟩, fun g hg => ?_⟩
              obtain ⟨other, hother, hsent⟩ := hfront g hg
              exact ⟨other, List.mem_cons_of_mem _ hother, hsent⟩

/-- An evaluation that was planned delivers its messages and waits. -/
theorem exchanges_of_script (sink : Sink σ) (observer : Option Observer) {p : Plan}
    {messages : List Message}
    (hplan : plan settings request run = .ok p)
    (hscript : script settings request p = .ok messages) :
    ∃ sends waits outcome after, Delivered p.ref.name messages sends outcome ∧
      (∀ e ∈ waits, e.message = none) ∧
      (Step.evaluate request).exchanges sink settings observer run = sends ++ waits ∧
      Linked (place run p).files (sends ++ waits) after := by
  have hwatched : plan settings request run.watch = .ok p := hplan
  obtain ⟨sends, waits, outcome, hdelivered, hwaits, hextends, _⟩ :=
    evaluate_watched sink observer hwatched hscript
  exact ⟨sends, waits, outcome, _, hdelivered, hwaits, hextends.log, hextends.linked⟩

/-- The trampoline of an evaluation goes to its session and names its side files; at that moment its
source file is what the evaluation has written there, but for what the session side has made of it
when it was sent the trace. -/
theorem found_of_trampoline {p : Plan} {front back : List Exchange} {e : Exchange}
    {session line : String} {side : SideFiles}
    (hplan : plan settings request run = .ok p)
    (hsplit : (Step.evaluate request).exchanges sink settings observer run = front ++ e :: back)
    (he : e.message = some (session, .trampoline side line)) :
    session = p.ref.name ∧ side = p.files ∧ line = p.trampoline ∧
    e.files.read? p.files.source = replay (some (Text.Utf8.encode p.wrapped))
      (history p.files.source front) ∧
    ∀ f ∈ front, settings.debug = true ∧ ∃ trace, f.message = some (session, .trace trace) := by
  cases hscript : script settings request p with
  | error failure =>
      rw [exchanges_of_unscripted hplan hscript] at hsplit
      simp at hsplit
  | ok messages =>
      obtain ⟨traces, htraces, rfl⟩ := exists_traces hscript
      obtain ⟨sends, waits, outcome, after, hdelivered, hwaits, hexchanges, hlinked⟩ :=
        exchanges_of_script sink observer hplan hscript
      rw [hsplit] at hexchanges
      have hsent : e ∈ sends := by
        have hmem : e ∈ sends ++ waits := hexchanges ▸ (by simp)
        rcases List.mem_append.mp hmem with hsent | hwaited
        · exact hsent
        · rw [hwaits e hwaited] at he
          cases he
      obtain ⟨message, hmem, hmessage⟩ := hdelivered.exists_message hsent
      rw [he] at hmessage
      cases hmessage
      obtain ⟨rfl, rfl⟩ := eq_of_trampoline_mem htraces hmem
      have htrace : ∀ message ∈ traces,
          settings.debug = true ∧ ∃ trace, message = .trace trace := by
        intro message hmessage
        split at htraces
        · next hdebug =>
          obtain ⟨trace, _, rfl⟩ := htraces
          exact ⟨hdebug, trace, List.mem_singleton.mp hmessage⟩
        · rw [htraces] at hmessage
          cases hmessage
      have hother : Message.trampoline p.files p.trampoline ∉ traces := by
        intro htraced
        obtain ⟨_, trace, hsame⟩ := htrace _ htraced
        cases hsame
      refine ⟨rfl, rfl, rfl, ?_, ?_⟩
      · rw [← hexchanges] at hlinked
        rw [hlinked.read?_found p.files.source, place_read?_source]
      · intro f hf
        obtain ⟨message, hmessage, hsent⟩ :=
          exists_message_of_front hdelivered hwaits hexchanges.symm he hother f hf
        obtain ⟨hdebug, trace, rfl⟩ := htrace message hmessage
        exact ⟨hdebug, trace, hsent⟩

/-- Unless debugging, a planned evaluation starts with its trampoline. -/
theorem trampoline_first (sink : Sink σ) (observer : Option Observer) {p : Plan}
    (hdebug : settings.debug = false)
    (hplan : plan settings request run = .ok p) :
    ∃ e back, (Step.evaluate request).exchanges sink settings observer run = e :: back ∧
      e.message = some (p.ref.name, .trampoline p.files p.trampoline) := by
  have hscript : script settings request p = .ok [.trampoline p.files p.trampoline] := by
    rw [script, hdebug, if_neg Bool.false_ne_true]
  obtain ⟨sends, waits, outcome, _, hdelivered, _, hexchanges, _⟩ :=
    exchanges_of_script sink observer hplan hscript
  cases hdelivered with
  | refused hmessage _ => exact ⟨_, _, hexchanges, hmessage⟩
  | taken hmessage _ _ => exact ⟨_, _, hexchanges, hmessage⟩

end JuliaBlocks.Transport
