import JuliaBlocks.Clock
import JuliaBlocks.Proofs.Output
import JuliaBlocks.Proofs.Settings
import JuliaBlocks.Proofs.Transport.Basic

/-!
What comes of an evaluation whose sends succeed. Its result is what the output file holds at the
first look that finds content, and it is empty exactly if no look does, which is just when a timeout
is logged. How long the content takes to arrive makes no other difference. All this is so unless the
interval between two looks is one that the clock cannot count: then the evaluation fails in its
first wait. Main statement: `evaluate_outcome`.
-/

namespace JuliaBlocks

/-- Whether a record tells of an evaluation that nothing came of in time. -/
def Record.IsTimeout (record : Record) : Prop :=
  "transport.timeout ".toList <+: record.message.toList

/-- What a text begins with is seen from its start, if that is long enough. -/
theorem prefix_append_iff {mark start rest : String}
    (hlong : mark.toList.length ≤ start.toList.length) :
    mark.toList <+: (start ++ rest).toList ↔ mark.toList <+: start.toList := by
  rw [String.toList_append]
  constructor
  · intro hprefix
    exact List.prefix_of_prefix_length_le hprefix (List.prefix_append _ _) hlong
  · intro hprefix
    exact hprefix.trans (List.prefix_append _ _)

namespace Transport

variable {σ : Type} {sink : Sink σ} {settings : Settings} {request : Request}

/-- An evaluation that is planned and all of whose sends succeed, up to the wait for its output. -/
structure Sends (sink : Sink σ) (settings : Settings) (request : Request) (run : Run σ)
    (p : Plan) (sent : Run σ) : Prop where
  plan : plan settings request run = .ok p
  transmit : transmit sink settings request p { place run p with session := p.ref.name } =
    (.ok (), sent)

/-- The records of an evaluation whose last look found some content, or none. -/
def logged (settings : Settings) (request : Request) (p : Plan)
    (content : Option (List UInt8)) : List Record :=
  ⟨.debug, p.ref.name, sentMessage request p⟩ ::
    if !Output.arrived content then
      [⟨.warning, p.ref.name, "transport.timeout session=" ++ p.ref.name ++ " output=" ++
        p.files.output⟩]
    else if Output.read content settings.maxLineLength = Output.suppressed then
      [⟨.info, p.ref.name, "transport.suppressed session=" ++ p.ref.name ++ " limit=" ++
        Numeral.render settings.maxLineLength⟩]
    else []

theorem prefix_sentMessage_iff {mark : String}
    (hmark : mark.toList.length ≤ "transport.sent session=".toList.length) (request : Request)
    (p : Plan) :
    mark.toList <+: (sentMessage request p).toList ↔
      mark.toList <+: "transport.sent session=".toList := by
  delta sentMessage
  simp only [String.append_assoc]
  exact prefix_append_iff hmark

/-- Which records there are is seen from what their messages begin with. -/
theorem exists_marked_iff (settings : Settings) (request : Request) (mark : String)
    (hmark : mark.toList.length ≤ "transport.sent session=".toList.length) (p : Plan)
    (content : Option (List UInt8)) :
    (∃ record ∈ logged settings request p content, mark.toList <+: record.message.toList) ↔
      mark.toList <+: "transport.sent session=".toList ∨
      Output.arrived content = false ∧ mark.toList <+: "transport.timeout session=".toList ∨
      Output.arrived content = true ∧
        Output.read content settings.maxLineLength = Output.suppressed ∧
        mark.toList <+: "transport.suppressed session=".toList := by
  have hsent := prefix_sentMessage_iff hmark request p
  have htimeout (rest : String) : mark.toList <+: ("transport.timeout session=" ++ rest).toList ↔
      mark.toList <+: "transport.timeout session=".toList :=
    prefix_append_iff (Nat.le_trans hmark (by decide))
  have hnotice (rest : String) : mark.toList <+: ("transport.suppressed session=" ++ rest).toList ↔
      mark.toList <+: "transport.suppressed session=".toList :=
    prefix_append_iff (Nat.le_trans hmark (by decide))
  cases harrived : Output.arrived content with
  | false =>
      simp only [logged, harrived, Bool.not_false, if_true, String.append_assoc,
        List.exists_mem_cons_iff, hsent, htimeout, List.not_mem_nil, false_and, exists_false,
        or_false, true_and, Bool.false_eq_true]
  | true =>
      by_cases hlong : Output.read content settings.maxLineLength = Output.suppressed
      · simp only [logged, harrived, hlong, Bool.not_true, Bool.false_eq_true, if_false, if_true,
          String.append_assoc, List.exists_mem_cons_iff, hsent, hnotice, List.not_mem_nil,
          false_and, exists_false, or_false, true_and, false_or, Bool.true_eq_false]
      · simp only [logged, harrived, hlong, Bool.not_true, Bool.false_eq_true, if_false,
          List.exists_mem_cons_iff, hsent, List.not_mem_nil, false_and, exists_false, or_false,
          and_false, Bool.true_eq_false]

/-- A timeout is logged exactly if the last look found nothing. -/
theorem exists_isTimeout_iff (p : Plan) (content : Option (List UInt8)) :
    (∃ record ∈ logged settings request p content, record.IsTimeout) ↔
      Output.arrived content = false := by
  have hsent : ¬ "transport.timeout ".toList <+: "transport.sent session=".toList := by decide
  have htimeout : "transport.timeout ".toList <+: "transport.timeout session=".toList := by decide
  have hnotice : ¬ "transport.timeout ".toList <+: "transport.suppressed session=".toList := by
    decide
  have hmarked := exists_marked_iff settings request "transport.timeout " (by decide) p content
  simpa only [Record.IsTimeout, hsent, htimeout, hnotice, false_or, and_true, and_false, or_false]
    using hmarked

theorem transmit_frame (sink : Sink σ) (settings : Settings) (request : Request) (p : Plan)
    (run : Run σ) :
    let after := (transmit sink settings request p run).2
    after.records = run.records ∧ after.waits = run.waits ∧ after.session = run.session := by
  rw [transmit_eq]
  cases script settings request p with
  | error failure => exact ⟨rfl, rfl, rfl⟩
  | ok messages => exact Run.deliver_frame run p.ref.name messages

/-- Ends an evaluation: its result is told to the observer, its failure remains one. -/
def settle (observer : Option Observer) (request : Request) :
    Except Failure String → Run σ → Except Failure String × Run σ
  | .ok result, run => observe observer request result run
  | .error failure, run => (.error failure, run)

/-- Waiting logs nothing, and what is logged around it depends on the last look. -/
theorem conclude_spec (sink : Sink σ) (settings : Settings) (request : Request) (p : Plan)
    (content : Option (List UInt8)) (n : Nat) {run : Run σ} (hsession : run.session = p.ref.name) :
    let after := conclude settings p content ((run.log .debug (sentMessage request p)).waited sink
      (.float settings.pollInterval) n)
    after.records = run.records ++ logged settings request p content ∧
      after.waits = run.waits + n := by
  simp only [conclude, report, logged]
  split
  · simp [hsession]
  · split
    · simp [hsession]
    · simp [hsession]

/-- How an evaluation ends once it has started, with the records that it logs and the number of its
sleeps: its result is what the last look finds, unless its wait is broken off. -/
inductive Ended (settings : Settings) (request : Request) (p : Plan)
    (look : Nat → Option (List UInt8)) (fault : Nat → Option Failure) :
    Except Failure String → List Record → Nat → Prop where
  | read {n : Nat} (hstops : Stops look settings.pollAttempts.toNat n)
      (hslept : ∀ k < n, fault k = none) :
      Ended settings request p look fault (.ok (Output.read (look n) settings.maxLineLength))
        (logged settings request p (look n)) n
  | broken {n : Nat} {failure : Failure}
      (hbreaks : Breaks look fault settings.pollAttempts.toNat n failure) :
      Ended settings request p look fault (.error failure)
        [⟨.debug, p.ref.name, sentMessage request p⟩] (n + 1)

/-- The waiting for an output ends with its last look, or with the sleep that breaks it off. -/
theorem collect_spec (sink : Sink σ) (settings : Settings) (request : Request) (p : Plan)
    (run : Run σ) (hsession : run.session = p.ref.name) :
    ∃ outcome records sleeps after,
      Ended settings request p (run.look sink (.float settings.pollInterval) p.files.output)
        (run.sleepFault sink (.float settings.pollInterval)) outcome records sleeps ∧
      collect sink settings request p run = (outcome, after) ∧
      after.records = run.records ++ records ∧ after.waits = run.waits + sleeps := by
  have hcollected := collected_collect sink settings request p run
  generalize collect sink settings request p run = collected at hcollected
  cases hcollected with
  | @read n content hstops hslept hcontent =>
      obtain ⟨hrecords, hwaits⟩ :=
        conclude_spec sink settings request p content n hsession
      subst hcontent
      exact ⟨_, _, n, _, .read hstops hslept, rfl, hrecords, hwaits⟩
  | @broken n failure hbreaks =>
      exact ⟨_, _, n + 1, _, .broken hbreaks, rfl, by simp [hsession], by simp⟩

/-- An evaluation whose sends succeed comes to an end. -/
theorem evaluate_spec (observer : Option Observer) {run sent : Run σ} {p : Plan}
    (hsends : Sends sink settings request run p sent) :
    ∃ outcome records sleeps after,
      Ended settings request p (sent.look sink (.float settings.pollInterval) p.files.output)
        (sent.sleepFault sink (.float settings.pollInterval)) outcome records sleeps ∧
      evaluate sink settings observer request run = settle observer request outcome after ∧
      after.records = run.records ++ records ∧ after.waits = run.waits + sleeps := by
  have hframe := transmit_frame sink settings request p
    { place run p with session := p.ref.name }
  rw [hsends.transmit] at hframe
  obtain ⟨hrecords, hwaits, hsession⟩ := hframe
  obtain ⟨outcome, records, sleeps, after, hended, hcollect, hlogged, hwaited⟩ :=
    collect_spec sink settings request p sent hsession
  refine ⟨outcome, records, sleeps, { after with session := run.session }, hended, ?_, ?_, ?_⟩
  · rw [evaluate_eq observer hsends.plan hsends.transmit, hcollect]
    cases outcome with
    | ok result => rfl
    | error failure => rfl
  · have hplaced : (place run p).records = run.records := by
      simpa [Event.record?] using Run.records_push (place_events run p)
    have hstart : sent.records = run.records := hrecords.trans hplaced
    rw [← hstart]
    exact hlogged
  · have hplaced : (place run p).waits = run.waits := Run.waits_push (place_events run p)
    have hstart : sent.waits = run.waits := hwaits.trans hplaced
    rw [← hstart]
    exact hwaited

namespace Ended

variable {p : Plan} {look otherLook : Nat → Option (List UInt8)}
  {fault otherFault : Nat → Option Failure} {outcome : Except Failure String}
  {records : List Record} {sleeps : Nat}

/-- An evaluation whose wait is broken off fails by the sleep that does. -/
theorem error_of_breaks (hended : Ended settings request p look fault outcome records sleeps)
    {n : Nat} {failure : Failure}
    (hbreaks : Breaks look fault settings.pollAttempts.toNat n failure) :
    outcome = .error failure ∧ sleeps = n + 1 := by
  cases hended with
  | read hstops hslept => exact (hbreaks.not_of_stops hstops hslept).elim
  | broken hother =>
      obtain ⟨rfl, rfl⟩ := hbreaks.unique hother
      exact ⟨rfl, rfl⟩

/-- An evaluation fails just if its wait is broken off. -/
theorem eq_error_iff (hended : Ended settings request p look fault outcome records sleeps)
    (failure : Failure) :
    outcome = .error failure ↔ ∃ n, Breaks look fault settings.pollAttempts.toNat n failure := by
  constructor
  · intro hfailed
    cases hended with
    | read => cases hfailed
    | broken hbreaks =>
        cases hfailed
        exact ⟨_, hbreaks⟩
  · rintro ⟨n, hbreaks⟩
    exact (hended.error_of_breaks hbreaks).1

/-- An evaluation for which content arrives before a sleep fails reads that content. -/
theorem read_of_firstArrival
    (hended : Ended settings request p look fault outcome records sleeps) {n : Nat}
    (hfirst : FirstArrival look settings.pollAttempts.toNat n) (hslept : ∀ k < n, fault k = none) :
    outcome = .ok (Output.read (look n) settings.maxLineLength) ∧
      records = logged settings request p (look n) ∧ sleeps = n := by
  cases hended with
  | read hstops _ =>
      obtain rfl := hfirst.eq_of_stops hstops
      exact ⟨rfl, rfl, rfl⟩
  | broken hbreaks =>
      have hnone := hbreaks.not_arrived hslept
      rw [hfirst.arrived] at hnone
      cases hnone

/-- An evaluation has the empty result just if no look finds content and no sleep fails. It has then
slept as often as it may. -/
theorem eq_empty_iff (hended : Ended settings request p look fault outcome records sleeps)
    (hvalid : settings.Valid) :
    (outcome = .ok "" ↔ (∀ n ≤ settings.pollAttempts.toNat, Output.arrived (look n) = false) ∧
      ∀ k < settings.pollAttempts.toNat, fault k = none) ∧
    (outcome = .ok "" → sleeps = settings.pollAttempts.toNat) := by
  cases hended with
  | read hstops hslept =>
      have hlimit : 0 ≤ settings.maxLineLength := Int.le_trans (by decide) hvalid.lines
      have hempty : Output.read (look sleeps) settings.maxLineLength = "" ↔
          Output.arrived (look sleeps) = false := Output.read_eq_empty_iff (look sleeps) hlimit
      rw [Except.ok.injEq, hempty, hstops.not_arrived_iff]
      refine ⟨⟨?_, And.left⟩, ?_⟩
      · intro hnone
        rw [← hstops.eq_attempts (hnone sleeps hstops.taken)]
        exact ⟨fun k hk => hnone k (Nat.le_trans hk hstops.taken), hslept⟩
      · intro hnone
        exact hstops.eq_attempts (hnone sleeps hstops.taken)
  | @broken n failure hbreaks =>
      refine ⟨iff_of_false nofun ?_, nofun⟩
      rintro ⟨_, hslept⟩
      exact hbreaks.fault_ne_none (hslept n hbreaks.taken)

/-- A timeout is logged just if the result is empty. -/
theorem exists_isTimeout_iff (hended : Ended settings request p look fault outcome records sleeps)
    (hvalid : settings.Valid) :
    (∃ record ∈ records, record.IsTimeout) ↔ outcome = .ok "" := by
  cases hended with
  | read hstops hslept =>
      have hlimit : 0 ≤ settings.maxLineLength := Int.le_trans (by decide) hvalid.lines
      rw [Except.ok.injEq, Output.read_eq_empty_iff (look sleeps) hlimit]
      exact Transport.exists_isTimeout_iff p (look sleeps)
  | @broken n failure hbreaks =>
      have hsent : ¬ Record.IsTimeout ⟨.debug, p.ref.name, sentMessage request p⟩ := by
        rw [Record.IsTimeout, prefix_sentMessage_iff (by decide)]
        decide
      exact iff_of_false (by simpa using hsent) nofun

end Ended

end Transport

/-- A session side whose waits fail just when the clock cannot count their interval. -/
def Sink.KeepsTime {σ : Type} (sink : Sink σ) : Prop :=
  ∀ state files interval, (sink.pause state files interval).fault = Clock.fault? interval

theorem Sink.keepsTime_timed {σ : Type} {sink : Sink σ}
    (hpause : ∀ state files interval, (sink.pause state files interval).fault = none) :
    sink.timed.KeepsTime := by
  intro state files interval
  simp only [timed]
  cases hfault : Clock.fault? interval with
  | none => exact hpause state files interval
  | some fault => rfl

/-- By the clock, a wait is broken off in its first sleep or not at all. -/
theorem Sink.KeepsTime.breaks_iff {σ : Type} {sink : Sink σ} (hsink : sink.KeepsTime)
    (run : Run σ) (path : String) (interval : Value) {attempts : Nat} (hattempts : 0 < attempts)
    (failure : Failure) :
    (∃ n, Breaks (run.look sink interval path) (run.sleepFault sink interval) attempts n failure) ↔
      Clock.fault? interval = some failure ∧
        Output.arrived (run.look sink interval path 0) = false := by
  have hfault (n : Nat) : run.sleepFault sink interval n = Clock.fault? interval := hsink _ _ _
  constructor
  · rintro ⟨n, hbreaks⟩
    exact ⟨(hfault n).symm.trans hbreaks.fault, hbreaks.unseen 0 (Nat.zero_le n)⟩
  · rintro ⟨hclock, hnone⟩
    refine ⟨0, hattempts, ?_, by omega, (hfault 0).trans hclock⟩
    intro k hk
    obtain rfl := Nat.le_zero.mp hk
    exact hnone

namespace Transport

variable {σ : Type} {sink : Sink σ} {settings : Settings} {request : Request}

/-- The outcome of an evaluation whose sends succeed, whatever becomes of its output file. It fails
just if a sleep does before content is found, and for a session side that keeps time, just if the
clock cannot count the interval and there is no content at once. Else its result is what is found
first, or empty if nothing is found, which is just when a timeout is logged; and the number of the
sleep in which the content arrives is the number of sleeps, but makes no other difference. -/
theorem evaluate_outcome (observer : Option Observer) {run sent : Run σ} {p : Plan}
    (hvalid : settings.Valid) (hsends : Sends sink settings request run p sent) :
    let interval := .float settings.pollInterval
    let look := sent.look sink interval p.files.output
    let fault := sent.sleepFault sink interval
    let attempts := settings.pollAttempts.toNat
    ∃ outcome after records,
      evaluate sink settings observer request run = settle observer request outcome after ∧
      after.records = run.records ++ records ∧
      (∀ failure, outcome = .error failure ↔ ∃ n, Breaks look fault attempts n failure) ∧
      (∀ n failure, Breaks look fault attempts n failure →
        after.waits = run.waits + (n + 1)) ∧
      (sink.KeepsTime → ∀ failure, outcome = .error failure ↔
        Clock.fault? interval = some failure ∧ Output.arrived (look 0) = false) ∧
      (∀ n, FirstArrival look attempts n → (∀ k < n, fault k = none) →
        outcome = .ok (Output.read (look n) settings.maxLineLength) ∧
          after.waits = run.waits + n) ∧
      (outcome = .ok "" ↔
        (∀ n ≤ attempts, Output.arrived (look n) = false) ∧ ∀ k < attempts, fault k = none) ∧
      (outcome = .ok "" → after.waits = run.waits + attempts) ∧
      (outcome = .ok "" ↔ ∃ record ∈ records, record.IsTimeout) ∧
      ∀ {τ : Type} (other : Sink τ) (otherRun otherSent : Run τ),
        Sends other settings request otherRun p otherSent → ∀ n m,
        let otherLook := otherSent.look other interval p.files.output
        FirstArrival look attempts n → (∀ k < n, fault k = none) →
        FirstArrival otherLook attempts m →
        (∀ k < m, otherSent.sleepFault other interval k = none) →
        look n = otherLook m →
        ∃ otherAfter,
          evaluate other settings observer request otherRun =
            settle observer request outcome otherAfter ∧
          otherAfter.records = otherRun.records ++ records ∧
          otherAfter.waits = otherRun.waits + m := by
  intro interval look fault attempts
  obtain ⟨outcome, records, sleeps, after, hended, hevaluate, hrecords, hwaits⟩ :=
    evaluate_spec observer hsends
  obtain ⟨hempty, hidle⟩ := hended.eq_empty_iff hvalid
  refine ⟨outcome, after, records, hevaluate, hrecords, hended.eq_error_iff, ?_, ?_, ?_, hempty, ?_,
    (hended.exists_isTimeout_iff hvalid).symm, ?_⟩
  · intro n failure hbreaks
    rw [hwaits, (hended.error_of_breaks hbreaks).2]
  · intro hsink failure
    have hattempts : 0 < attempts := by
      have hsome := hvalid.attempts
      omega
    rw [hended.eq_error_iff]
    exact hsink.breaks_iff sent p.files.output interval hattempts failure
  · intro n hfirst hslept
    obtain ⟨houtcome, _, rfl⟩ := hended.read_of_firstArrival hfirst hslept
    exact ⟨houtcome, hwaits⟩
  · intro hnone
    rw [hwaits, hidle hnone]
  · intro τ other otherRun otherSent hother n m otherLook hn hslept hm hotherSlept hsame
    obtain ⟨houtcome, hlogged, _⟩ := hended.read_of_firstArrival hn hslept
    obtain ⟨otherOutcome, otherRecords, otherSleeps, otherAfter, hotherEnded, hevaluated, hrecorded,
      hwaited⟩ := evaluate_spec observer hother
    obtain ⟨hotherOutcome, hotherLogged, hcount⟩ := hotherEnded.read_of_firstArrival hm hotherSlept
    have hsameOutcome : otherOutcome = outcome := by
      rw [hotherOutcome, houtcome, Except.ok.injEq]
      exact congrArg (Output.read · settings.maxLineLength) hsame.symm
    have hsameRecords : otherRecords = records := by
      rw [hotherLogged, hlogged]
      exact congrArg (Transport.logged settings request p) hsame.symm
    exact ⟨otherAfter, hsameOutcome ▸ hevaluated, hsameRecords ▸ hrecorded, hcount ▸ hwaited⟩

/-- A session side that answers in its second wait, with an octet that is no UTF-8. -/
def lateAnswer : Sink Nat where
  send state _ _ _ := { state }
  pause state _ _ :=
    { state := state + 1
      changes := if state = 1 then [.write "/tmp/babel-julia-out-1" [0xFF]] else [] }

/-- A run at whose start there are only the usual directories. -/
def lateStart : Run Nat where
  state := 0
  files := { directories := Files.systemDirectories }

/-- The plan of a small evaluation under any settings for the usual session. -/
def latePlan : Plan where
  ref := ⟨"main", "main", true⟩
  wrapped := "_babel_julia_result = begin\n1 + 1\nend"
  files := Naming.numbered.files "/tmp" 1
  trampoline := trampolineText (Naming.numbered.files "/tmp" 1) .value

theorem evaluate_outcome_late : ∃ sent,
    Settings.usual.Valid ∧
    Sends lateAnswer.timed .usual { body := "1 + 1" } lateStart latePlan sent ∧
    lateAnswer.timed.KeepsTime ∧
    FirstArrival (sent.look lateAnswer.timed (.float Settings.usual.pollInterval)
      latePlan.files.output) 100 2 ∧
    (evaluate lateAnswer.timed .usual none { body := "1 + 1" } lateStart).1 =
      .ok (String.ofList [Text.Utf8.replacement]) := by
  have hplan : plan .usual { body := "1 + 1" } lateStart = .ok latePlan :=
    plan_eq lateStart rfl rfl rfl (by decide)
  let sent := (transmit lateAnswer.timed .usual { body := "1 + 1" } latePlan
    { place lateStart latePlan with session := "main" }).2
  have hsends : Sends lateAnswer.timed .usual { body := "1 + 1" } lateStart latePlan sent :=
    ⟨hplan, rfl⟩
  have htime : lateAnswer.timed.KeepsTime := Sink.keepsTime_timed fun _ _ _ => rfl
  have harrival : FirstArrival (sent.look lateAnswer.timed (.float Settings.usual.pollInterval)
      latePlan.files.output) 100 2 := ⟨by decide, by decide, by decide⟩
  have hslept : ∀ k < 2, sent.sleepFault lateAnswer.timed
      (.float Settings.usual.pollInterval) k = none := fun k _ => htime _ _ _
  obtain ⟨outcome, after, records, hevaluate, _, _, _, _, hfound, _⟩ :=
    evaluate_outcome none Settings.usual_valid hsends
  refine ⟨sent, Settings.usual_valid, hsends, htime, harrival, ?_⟩
  have houtcome : outcome = .ok (String.ofList [Text.Utf8.replacement]) := by
    rw [(hfound 2 harrival hslept).1, Except.ok.injEq]
    decide
  rw [hevaluate, houtcome]
  rfl

/-- An interval without end is taken for one between two looks, but there is no waiting for it: an
evaluation that is not answered at once fails while it waits, where it should go on for a while and
return the empty text. -/
theorem endlessInterval_raises :
    let settings := { Settings.usual with pollInterval := .infinity false }
    Settings.load { environment := [("BABEL_JULIA_POLL_INTERVAL", "inf")] } = .ok settings ∧
    settings.Valid ∧
    (∃ sent, Sends lateAnswer.timed settings { body := "1 + 1" } lateStart latePlan sent) ∧
    (evaluate lateAnswer.timed settings none { body := "1 + 1" } lateStart).1 =
      .error .endlessInterval := by
  intro settings
  have hvalid : settings.Valid := ⟨by decide, by decide, by decide, by decide⟩
  let sent := (transmit lateAnswer.timed settings { body := "1 + 1" } latePlan
    { place lateStart latePlan with session := "main" }).2
  have hsends : Sends lateAnswer.timed settings { body := "1 + 1" } lateStart latePlan sent :=
    ⟨plan_eq lateStart rfl rfl rfl (by decide), rfl⟩
  have htime : lateAnswer.timed.KeepsTime := Sink.keepsTime_timed fun _ _ _ => rfl
  obtain ⟨outcome, records, sleeps, after, hended, hevaluate, _⟩ :=
    evaluate_spec none hsends
  have hfailed : outcome = .error .endlessInterval := by
    rw [hended.eq_error_iff, htime.breaks_iff _ _ _ (by decide)]
    exact ⟨rfl, by decide⟩
  refine ⟨rfl, hvalid, ⟨sent, hsends⟩, ?_⟩
  rw [hevaluate, hfailed]
  rfl

end Transport

end JuliaBlocks
