import JuliaBlocks.Proofs.Run.Tracing
import JuliaBlocks.Proofs.Trace
import JuliaBlocks.Proofs.Transport.Calls

/-!
Debugging changes nothing but what is sent. As long as all header arguments can be shown, and the
session side does nothing about traces, each step of a run answers the same with debugging as
without, except that a trace goes to the session before each trampoline. Main statement:
`debugging_transparent`.
-/

namespace JuliaBlocks.Transport

open Run

variable {σ : Type} {sink : Sink σ} {alike : σ → σ → Prop} {text : String}
  {first second : List Event} {run twin : Run σ}

/-- An answer with debugging and the one without. Only the history differs, by one trace right
before each trampoline. -/
structure Answer.Debugs (answer usual : Answer) : Prop where
  outcome : answer.outcome = usual.outcome
  session : answer.session = usual.session
  events : ∃ text, answer.events = usual.events.flatMap (Event.traced text)

theorem beside_place (hbeside : Beside alike text first second run twin) (p : Plan) :
    Beside alike text first second (place run p) (place twin p) := by
  have hfiles : (place run p).files = (place twin p).files := by
    simp only [place, Run.note, hbeside.files]
  have hcreated : (place run p).created = (place twin p).created :=
    congrArg (· + 1) hbeside.created
  refine hbeside.push ⟨hbeside.state, hfiles, hbeside.naming, hcreated, hbeside.session⟩ ?_
    (place_events twin p)
  rw [place_events, Array.toList_push]
  rfl

/-- What is noteworthy about an output is logged in both runs. -/
theorem beside_report (hbeside : Beside alike text first second run twin) (settings : Settings)
    (p : Plan) (arrived : Bool) (result : String) :
    Beside alike text first second (report { settings with debug := true } p arrived result run)
      (report { settings with debug := false } p arrived result twin) := by
  unfold report
  split
  · exact hbeside.log _ _
  · split
    · exact hbeside.log _ _
    · exact hbeside

/-- A callback fails or not whatever has been sent before. -/
theorem agree_observe (observer : Option Observer) (request : Request) (result : String)
    (hbeside : Beside alike text first second run twin) :
    Agree alike text first second (observe observer request result run)
      (observe observer request result twin) := by
  cases observer with
  | none => exact ⟨_, _, _, rfl, rfl, hbeside⟩
  | some observer =>
      have hnote : Beside alike text first second (run.note (.observed request result))
          (twin.note (.observed request result)) := hbeside.note rfl
      simp only [observe]
      cases observer request result with
      | none => exact ⟨_, _, _, rfl, rfl, hnote⟩
      | some failure => exact ⟨_, _, _, rfl, rfl, hnote⟩

section Settings

variable (settings : Settings) (hsink : sink.Overlooks alike)
include hsink

/-- A trampoline is taken or refused whether or not a trace goes before it. -/
theorem agree_transmit {request : Request} {p : Plan}
    (htext : Trace.render request.params p.wrapped = .ok text)
    (hbeside : Beside alike text first second run twin) :
    Agree alike text first second
      (transmit sink { settings with debug := true } request p run)
      (transmit sink { settings with debug := false } request p twin) := by
  obtain ⟨traced, haccepted, hagree⟩ :=
    hbeside.sendTraced hsink p.ref.name p.files p.trampoline
  have hsent : transmit sink { settings with debug := true } request p run =
      traced.send sink p.ref.name (.trampoline p.files p.trampoline) := by
    simp only [transmit, htext, haccepted, if_true]
  rw [hsent]
  exact hagree

/-- What is collected is the same, and so is what is logged about it. -/
theorem agree_collect (request : Request) (p : Plan)
    (hbeside : Beside alike text first second run twin) :
    Agree alike text first second
      (collect sink { settings with debug := true } request p run)
      (collect sink { settings with debug := false } request p twin) := by
  obtain ⟨arrived, after, usual, hrun, husual, hafter⟩ :=
    (hbeside.log .debug (sentMessage request p)).awaitOutput hsink p.files.output
      (.float settings.pollInterval) settings.pollAttempts.toNat
  simp only [collect, hrun, husual]
  cases arrived with
  | error failure => exact ⟨_, _, _, rfl, rfl, hafter⟩
  | ok arrived =>
      simp only [hafter.files]
      exact ⟨_, _, _, rfl, rfl, beside_report hafter settings p arrived _⟩

/-- Up to its result, an evaluation with debugging goes beside the one without. -/
theorem agree_perform {request : Request}
    (hparams : ∀ e ∈ request.params, ∃ shown, e.2.quoted = .ok shown)
    (htwins : Twins alike run twin) :
    ∃ text, Agree alike text run.events.toList twin.events.toList
      (perform sink { settings with debug := true } request run)
      (perform sink { settings with debug := false } request twin) := by
  -- What is planned does not depend on debugging, so both runs fail before a send or neither does.
  have hplan : plan { settings with debug := true } request run =
      plan { settings with debug := false } request twin := by
    simp only [plan, htwins.files, htwins.naming, htwins.created]
    rfl
  simp only [perform, hplan]
  cases plan { settings with debug := false } request twin with
  | error failure => exact ⟨"", _, _, _, rfl, rfl, htwins.beside ""⟩
  | ok p =>
      have hprintable : ∀ e ∈ request.params, e.2.Printable := by
        intro e he
        obtain ⟨shown, hshown⟩ := hparams e he
        exact .of_quoted (Value.quoted_eq_ok_iff.mp hshown)
      obtain ⟨text, htext⟩ := (Trace.exists_render_iff request.params p.wrapped).mpr hprintable
      have hplaced : Beside alike text run.events.toList twin.events.toList
          { place run p with session := p.ref.name } { place twin p with session := p.ref.name } :=
        (beside_place (htwins.beside text) p).bound p.ref.name
      obtain ⟨outcome, sent, usual, hrun, husual, hsent⟩ :=
        agree_transmit settings hsink htext hplaced
      refine ⟨text, ?_⟩
      simp only [hrun, husual, ← htwins.session]
      cases outcome with
      | error failure => exact ⟨_, _, _, rfl, rfl, hsent.bound run.session⟩
      | ok _ =>
          obtain ⟨result, after, usual, hrun, husual, hafter⟩ :=
            agree_collect settings hsink request p hsent
          simp only [hrun, husual]
          exact ⟨_, _, _, rfl, rfl, hafter.bound run.session⟩

theorem agree_evaluate (observer : Option Observer) {request : Request}
    (hparams : ∀ e ∈ request.params, ∃ shown, e.2.quoted = .ok shown)
    (htwins : Twins alike run twin) :
    ∃ text, Agree alike text run.events.toList twin.events.toList
      (evaluate sink { settings with debug := true } observer request run)
      (evaluate sink { settings with debug := false } observer request twin) := by
  obtain ⟨text, outcome, after, usual, hrun, husual, hafter⟩ :=
    agree_perform settings hsink hparams htwins
  refine ⟨text, ?_⟩
  simp only [evaluate, hrun, husual]
  cases outcome with
  | error failure => exact ⟨_, _, _, rfl, rfl, hafter⟩
  | ok result => exact agree_observe observer request result hafter

theorem agree_loadSession (request : Request)
    (hbeside : Beside alike text first second run twin) :
    Agree alike text first second
      (loadSession sink { settings with debug := true } request run)
      (loadSession sink { settings with debug := false } request twin) := by
  have hrun : loadSession sink { settings with debug := true } request run =
      loadSession sink { settings with debug := false } request run := rfl
  rw [hrun]
  simp only [loadSession]
  split
  · exact ⟨_, _, _, rfl, rfl, hbeside⟩
  · next ref snippet _ =>
    obtain ⟨outcome, after, usual, hrun, husual, hafter⟩ :=
      hbeside.sendSource hsink ref.name snippet
    simp only [hrun, husual]
    cases outcome with
    | error failure => exact ⟨_, _, _, rfl, rfl, hafter⟩
    | ok _ => exact ⟨_, _, _, rfl, rfl, hafter⟩

theorem agree_prepSession (key : Option String) (bindings : List (String × Value))
    (hbeside : Beside alike text first second run twin) :
    Agree alike text first second
      (prepSession sink { settings with debug := true } key bindings run)
      (prepSession sink { settings with debug := false } key bindings twin) := by
  have hrun : prepSession sink { settings with debug := true } key bindings run =
      prepSession sink { settings with debug := false } key bindings run := rfl
  rw [hrun]
  simp only [prepSession]
  split
  · exact ⟨_, _, _, rfl, rfl, hbeside⟩
  · exact ⟨_, _, _, rfl, rfl, hbeside⟩
  · next ref lines _ _ =>
    obtain ⟨outcome, after, usual, hrun, husual, hafter⟩ :=
      hbeside.sendSource hsink ref.name (String.intercalate "\n" lines)
    simp only [hrun, husual]
    cases outcome with
    | error failure => exact ⟨_, _, _, rfl, rfl, hafter⟩
    | ok _ => exact ⟨_, _, _, rfl, rfl, hafter⟩

/-- A step with debugging does what it does without, and sends a trace before its trampoline. -/
theorem Call.debugs {call : Call}
    (hparams : ∀ request, call.step = .evaluate request →
      ∀ e ∈ request.params, ∃ shown, e.2.quoted = .ok shown)
    (htwins : Twins alike run twin) :
    (call.answer sink { settings with debug := true } run).Debugs
        (call.answer sink { settings with debug := false } twin) ∧
      Twins alike (call.run sink { settings with debug := true } run)
        (call.run sink { settings with debug := false } twin) := by
  obtain ⟨step, observer⟩ := call
  cases step with
  | evaluate request =>
      obtain ⟨text, hagree⟩ :=
        agree_evaluate settings hsink observer (hparams request rfl) htwins
      obtain ⟨houtcome, hnext, hevents⟩ := hagree.traced
      exact ⟨⟨congrArg (Except.map Returned.result) houtcome, hnext.session, text, hevents⟩, hnext⟩
  | loadSession request =>
      have hagree := agree_loadSession settings hsink request (htwins.beside "")
      obtain ⟨houtcome, hnext, hevents⟩ := hagree.traced
      exact ⟨⟨congrArg (Except.map Returned.session) houtcome, hnext.session, "", hevents⟩, hnext⟩
  | prepSession key bindings =>
      have hagree := agree_prepSession settings hsink key bindings (htwins.beside "")
      obtain ⟨houtcome, hnext, hevents⟩ := hagree.traced
      exact ⟨⟨congrArg (Except.map Returned.session) houtcome, hnext.session, "", hevents⟩, hnext⟩

theorem debugs_runCalls {calls : List Call}
    (hparams : ∀ call ∈ calls, ∀ request, call.step = .evaluate request →
      ∀ e ∈ request.params, ∃ shown, e.2.quoted = .ok shown)
    (htwins : Twins alike run twin) :
    List.Forall₂ Answer.Debugs (callAnswers sink { settings with debug := true } calls run)
        (callAnswers sink { settings with debug := false } calls twin) ∧
      Twins alike (runCalls sink { settings with debug := true } calls run)
        (runCalls sink { settings with debug := false } calls twin) := by
  induction calls generalizing run twin with
  | nil => exact ⟨.nil, htwins⟩
  | cons call calls ih =>
      obtain ⟨hfirst, hnext⟩ := call.debugs settings hsink (hparams call (by simp)) htwins
      obtain ⟨hrest, hfinal⟩ := ih (fun other hother => hparams other (by simp [hother])) hnext
      exact ⟨.cons hfirst hrest, hfinal⟩

end Settings

/-- Debugging is transparent. In every run of steps whose header arguments can all be shown, on a
session side that accepts traces and does nothing about them, each step comes to the same with
debugging as without, be it a result or a failure, with the same history but for one trace to the
same session right before each trampoline; and the runs end with the same files. -/
theorem debugging_transparent (settings : Settings) (start : Run σ) {calls : List Call}
    (hsink : sink.Overlooks alike) (hstart : alike start.state start.state)
    (hparams : ∀ call ∈ calls, ∀ request, call.step = .evaluate request →
      ∀ e ∈ request.params, ∃ shown, e.2.quoted = .ok shown) :
    let final := runCalls sink { settings with debug := true } calls start
    let usual := runCalls sink { settings with debug := false } calls start
    List.Forall₂ Answer.Debugs (callAnswers sink { settings with debug := true } calls start)
      (callAnswers sink { settings with debug := false } calls start) ∧
    final.files = usual.files ∧ final.created = usual.created ∧
    final.session = usual.session ∧ alike final.state usual.state := by
  intro final usual
  obtain ⟨hanswers, hfinal⟩ := debugs_runCalls settings hsink hparams ⟨hstart, rfl, rfl, rfl, rfl⟩
  exact ⟨hanswers, hfinal.files, hfinal.created, hfinal.session, hfinal.state⟩

/-- A session side that counts the trampolines, answers the first and refuses the others, and counts
traces besides. -/
def tallying : Sink (Nat × Nat) where
  send state _ _ message :=
    match message with
    | .trace _ => { state := (state.1, state.2 + 1) }
    | .trampoline files _ =>
      if state.1 = 0 then { state := (1, state.2), changes := [.write files.output [0x31]] }
      else { state, fault := some (.session (.withoutInput "main")) }
    | .source _ => { state }
  pause state _ _ := { state }

theorem tallying_overlooks : tallying.Overlooks fun state other => state.1 = other.1 where
  trace state other files session text halike := ⟨rfl, rfl, halike⟩
  send state other files session message hmessage halike := by
    cases message with
    | trace text => exact absurd rfl (hmessage text)
    | source text => exact ⟨rfl, rfl, halike⟩
    | trampoline side line =>
        simp only [tallying, halike]
        split
        · exact ⟨rfl, rfl, rfl⟩
        · exact ⟨rfl, rfl, halike⟩
  pause state other files interval halike := ⟨rfl, rfl, halike⟩

/-- Steps of all kinds: an evaluation that is answered and whose callback fails, source for a
session, and an evaluation that is refused. -/
def shownCalls : List Call :=
  [⟨.evaluate { body := "1", params := [("session", .text "s")] },
      some fun _ _ => some (.session (.withoutInput "main"))⟩,
    ⟨.prepSession (some "work") [("x", .int 1)], none⟩,
    ⟨.evaluate { body := "2", params := [("width", .int 3)] }, none⟩]

theorem debugging_transparent_tallied :
    let start : Run (Nat × Nat) :=
      { state := (0, 0), files := { directories := Files.systemDirectories } }
    let tracing := { Settings.usual with debug := true }
    let quiet := { Settings.usual with debug := false }
    tallying.Overlooks (fun state other => state.1 = other.1) ∧
    (∀ call ∈ shownCalls, ∀ request, call.step = .evaluate request →
      ∀ e ∈ request.params, ∃ shown, e.2.quoted = .ok shown) ∧
    List.Forall₂ Answer.Debugs (callAnswers tallying tracing shownCalls start)
      (callAnswers tallying quiet shownCalls start) ∧
    (runCalls tallying tracing shownCalls start).state = (1, 2) ∧
    (runCalls tallying quiet shownCalls start).state = (1, 0) := by
  intro start tracing quiet
  have hparams : ∀ call ∈ shownCalls, ∀ request, call.step = .evaluate request →
      ∀ e ∈ request.params, ∃ shown, e.2.quoted = .ok shown := by
    intro call hcall request hrequest e he
    simp only [shownCalls, List.mem_cons, List.not_mem_nil, or_false] at hcall
    rcases hcall with rfl | rfl | rfl
    · cases hrequest
      obtain rfl := List.mem_singleton.mp he
      exact ⟨_, rfl⟩
    · cases hrequest
    · cases hrequest
      obtain rfl := List.mem_singleton.mp he
      exact ⟨_, rfl⟩
  obtain ⟨hanswers, _⟩ := debugging_transparent .usual start tallying_overlooks rfl hparams
  exact ⟨tallying_overlooks, hparams, hanswers, by decide +kernel, by decide +kernel⟩

end JuliaBlocks.Transport
