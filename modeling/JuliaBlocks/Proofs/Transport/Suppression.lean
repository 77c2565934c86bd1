import JuliaBlocks.Proofs.Output.Fidelity
import JuliaBlocks.Proofs.Transport.Outcome
import JuliaBlocks.Script

/-!
When an evaluation reports that its output was suppressed. It goes by what was read, so that it
reports this of output with a line that is too long, and of output that is the very notice. Main
statement: `evaluate_suppression`.
-/

namespace JuliaBlocks

/-- Whether a record tells that output was replaced by the notice. -/
def Record.IsSuppression (record : Record) : Prop :=
  "transport.suppressed ".toList <+: record.message.toList

instance : DecidablePred Record.IsTimeout :=
  fun record => inferInstanceAs (Decidable (_ <+: record.message.toList))

instance : DecidablePred Record.IsSuppression :=
  fun record => inferInstanceAs (Decidable (_ <+: record.message.toList))

namespace Output

/-- The text in an output file; one that does not exist has none. -/
def text (content : Option (List UInt8)) : List Char :=
  decode (content.getD [])

/-- A text without line feeds is its only line. -/
theorem hasLongLine_iff_of_free {text : List Char} (hfree : '\n' ∉ text) (limit : Int) :
    HasLongLine text limit ↔ limit < text.length := by
  simp only [HasLongLine, ← Text.mem_lineRuns_iff, Text.lineRuns_of_free hfree,
    List.mem_singleton, exists_eq_left]

theorem text_of_not_arrived {content : Option (List UInt8)} (hnone : arrived content = false) :
    text content = [] := by
  rcases content with _ | _ | ⟨octet, octets⟩
  · rfl
  · rfl
  · cases hnone

/-- The notice is read where it stands for a line that is too long, and where it was written. -/
theorem read_eq_suppressed_iff {content : Option (List UInt8)} (harrived : arrived content = true)
    (limit : Int) : read content limit = suppressed ↔
      HasLongLine (text content) limit ∨ text content = suppressed.toList := by
  rcases content with _ | octets
  · cases harrived
  · by_cases hlong : HasLongLine (decode octets) limit
    · exact iff_of_true (read_of_long hlong) (Or.inl hlong)
    · rw [read_of_fits hlong, ← String.toList_inj, String.toList_ofList]
      exact (or_iff_right hlong).symm

end Output

namespace Transport

variable {σ : Type} {sink : Sink σ} {settings : Settings} {request : Request}

/-- Suppression is logged exactly if the notice was read from a file with content. -/
theorem exists_isSuppression_iff (p : Plan) (content : Option (List UInt8)) :
    (∃ record ∈ logged settings request p content, record.IsSuppression) ↔
      Output.arrived content = true ∧
        Output.read content settings.maxLineLength = Output.suppressed := by
  have hsent : ¬ "transport.suppressed ".toList <+: "transport.sent session=".toList := by decide
  have htimeout : ¬ "transport.suppressed ".toList <+: "transport.timeout session=".toList := by
    decide
  have hnotice : "transport.suppressed ".toList <+: "transport.suppressed session=".toList := by
    decide
  have hmarked := exists_marked_iff settings request "transport.suppressed " (by decide) p content
  simpa only [Record.IsSuppression, hsent, htimeout, hnotice, false_or, and_true, and_false]
    using hmarked

/-- Suppression is logged of output with a line that is too long and of output that is the notice,
and of no other. -/
theorem exists_isSuppression_iff_text (hvalid : settings.Valid) (request : Request) (p : Plan)
    (content : Option (List UInt8)) :
    (∃ record ∈ logged settings request p content, record.IsSuppression) ↔
      Output.HasLongLine (Output.text content) settings.maxLineLength ∨
        Output.text content = Output.suppressed.toList := by
  rw [exists_isSuppression_iff]
  cases harrived : Output.arrived content with
  | true => simpa using Output.read_eq_suppressed_iff harrived settings.maxLineLength
  | false =>
      have hlimit := hvalid.lines
      rw [Output.text_of_not_arrived harrived,
        Output.hasLongLine_iff_of_free List.not_mem_nil, List.length_nil]
      refine iff_of_false (by simp) ?_
      rintro (hlong | hnotice)
      · omega
      · exact absurd hnotice (by decide)

/-- The record of the sent trampoline is followed by at most one other, so that no two records tell
what became of the output. -/
theorem length_filter_logged_le (p : Plan) (content : Option (List UInt8)) :
    ((logged settings request p content).filter
      fun record => record.IsTimeout ∨ record.IsSuppression).length ≤ 1 := by
  have hsent : ¬ (Record.IsTimeout ⟨.debug, p.ref.name, sentMessage request p⟩ ∨
      Record.IsSuppression ⟨.debug, p.ref.name, sentMessage request p⟩) := by
    rw [Record.IsTimeout, Record.IsSuppression, prefix_sentMessage_iff (by decide),
      prefix_sentMessage_iff (by decide)]
    decide
  rw [logged, List.filter_cons_of_neg (by simpa using hsent)]
  refine Nat.le_trans (List.length_filter_le _ _) ?_
  split
  · exact Nat.le_refl 1
  · split
    · exact Nat.le_refl 1
    · exact Nat.zero_le 1

/-- Whether the records of an evaluation tell of suppression just if a line of its output is longer
than the limit. -/
def ReportsLongLines (records : List Record) (text : List Char) (limit : Int) : Prop :=
  (∃ record ∈ records, record.IsSuppression) ↔ Output.HasLongLine text limit

/-- What an evaluation logs goes by what its last look finds, be it broken off thereafter or not. -/
theorem Ended.reports {p : Plan} {look : Nat → Option (List UInt8)}
    {fault : Nat → Option Failure} {outcome : Except Failure String} {records : List Record}
    {sleeps : Nat} (hended : Ended settings request p look fault outcome records sleeps)
    (hvalid : settings.Valid) :
    ∃ n, (Stops look settings.pollAttempts.toNat n ∧ (∀ k < n, fault k = none) ∧
        outcome = .ok (Output.read (look n) settings.maxLineLength) ∨
      ∃ failure, Breaks look fault settings.pollAttempts.toNat n failure ∧
        outcome = .error failure) ∧
      ((∃ record ∈ records, record.IsSuppression) ↔
        Output.HasLongLine (Output.text (look n)) settings.maxLineLength ∨
          Output.text (look n) = Output.suppressed.toList) ∧
      (records.filter fun record => record.IsTimeout ∨ record.IsSuppression).length ≤ 1 := by
  cases hended with
  | read hstops hslept =>
      exact ⟨sleeps, Or.inl ⟨hstops, hslept, rfl⟩,
        exists_isSuppression_iff_text hvalid request p (look sleeps), length_filter_logged_le p _⟩
  | @broken n failure hbreaks =>
      refine ⟨n, Or.inr ⟨failure, hbreaks, rfl⟩, ?_, List.length_filter_le _ _⟩
      -- The last look has found nothing, which is neither long nor the notice.
      have hnone := hbreaks.unseen n (Nat.le_refl n)
      have hlimit := hvalid.lines
      have hsent : ¬ Record.IsSuppression ⟨.debug, p.ref.name, sentMessage request p⟩ := by
        rw [Record.IsSuppression, prefix_sentMessage_iff (by decide)]
        decide
      rw [Output.text_of_not_arrived hnone, Output.hasLongLine_iff_of_free List.not_mem_nil,
        List.length_nil]
      refine iff_of_false (by simpa using hsent) ?_
      rintro (hlong | hnotice)
      · omega
      · exact absurd hnotice (by decide)

/-- An evaluation whose sends succeed logs suppression just if a line of what its last look finds is
longer than the limit or the output is the notice itself, whether or not its wait is broken off. The
two are the same unless the output is the notice and the limit lets it through. A timeout and
suppression are never both logged, nor either of them twice. -/
theorem evaluate_suppression (observer : Option Observer) {run sent : Run σ} {p : Plan}
    (hvalid : settings.Valid) (hsends : Sends sink settings request run p sent) :
    let look := sent.look sink (.float settings.pollInterval) p.files.output
    let fault := sent.sleepFault sink (.float settings.pollInterval)
    let attempts := settings.pollAttempts.toNat
    ∃ n outcome after records,
      (Stops look attempts n ∧ (∀ k < n, fault k = none) ∧
          outcome = .ok (Output.read (look n) settings.maxLineLength) ∨
        ∃ failure, Breaks look fault attempts n failure ∧ outcome = .error failure) ∧
      evaluate sink settings observer request run = settle observer request outcome after ∧
      after.records = run.records ++ records ∧
      ((∃ record ∈ records, record.IsSuppression) ↔
        Output.HasLongLine (Output.text (look n)) settings.maxLineLength ∨
          Output.text (look n) = Output.suppressed.toList) ∧
      (ReportsLongLines records (Output.text (look n)) settings.maxLineLength ↔
        Output.text (look n) ≠ Output.suppressed.toList ∨
          settings.maxLineLength < Output.suppressed.length) ∧
      (records.filter fun record => record.IsTimeout ∨ record.IsSuppression).length ≤ 1 := by
  intro look fault attempts
  obtain ⟨outcome, records, sleeps, after, hended, hevaluate, hrecords, _⟩ :=
    evaluate_spec observer hsends
  obtain ⟨n, houtcome, htold, honce⟩ := hended.reports hvalid
  change _ ↔ Output.HasLongLine (Output.text (look n)) settings.maxLineLength ∨
    Output.text (look n) = Output.suppressed.toList at htold
  refine ⟨n, outcome, after, records, houtcome, hevaluate, hrecords, htold, ?_, honce⟩
  rw [ReportsLongLines, htold]
  by_cases hnotice : Output.text (look n) = Output.suppressed.toList
  · have hfree : '\n' ∉ Output.suppressed.toList := by decide
    rw [hnotice, Output.hasLongLine_iff_of_free hfree, String.length_toList]
    simp
  · simp [hnotice]

/-- A run whose session side answers with a text of ASCII as soon as it is asked. -/
def answered (text : String) : Run Script where
  state := { replies := [.output (text.toList.map fun c => UInt8.ofNat c.toNat) 0] }
  files := { directories := Files.systemDirectories }

theorem evaluate_suppression_long :
    let settings := { Settings.usual with maxLineLength := 5 }
    settings.Valid ∧ ∃ p sent,
      Sends Script.sink settings { body := "x" } (answered "abcdef\nabc") p sent ∧
      ∃ after, evaluate Script.sink settings none { body := "x" } (answered "abcdef\nabc") =
          (.ok Output.suppressed, after) ∧
        (∃ record ∈ after.records, record.IsSuppression) ∧
        ReportsLongLines after.records "abcdef\nabc".toList 5 := by
  intro settings
  have hvalid : settings.Valid := ⟨by decide, by decide, by decide, by decide⟩
  let p : Plan := {
    ref := ⟨"main", "main", true⟩
    wrapped := "_babel_julia_result = begin\nx\nend"
    files := Naming.numbered.files "/tmp" 1
    trampoline := trampolineText (Naming.numbered.files "/tmp" 1) .value }
  let sent := (transmit Script.sink settings { body := "x" } p
    { place (answered "abcdef\nabc") p with session := "main" }).2
  have hsends : Sends Script.sink settings { body := "x" } (answered "abcdef\nabc") p sent :=
    ⟨plan_eq _ rfl rfl rfl (by decide), rfl⟩
  obtain ⟨n, outcome, after, records, hended, hevaluate, hrecords, htold, hreports, _⟩ :=
    evaluate_suppression none hvalid hsends
  have hfirst : FirstArrival
      (sent.look Script.sink (.float settings.pollInterval) p.files.output) 100 0 :=
    ⟨by decide, by decide, by decide⟩
  rcases hended with ⟨hstops, _, houtcome⟩ | ⟨failure, hbreaks, _⟩
  case inr =>
    have hnone := hbreaks.unseen 0 (Nat.zero_le n)
    rw [hfirst.arrived] at hnone
    cases hnone
  obtain rfl := hfirst.eq_of_stops hstops
  have hlook : Output.text (sent.look Script.sink (.float settings.pollInterval) p.files.output 0) =
      "abcdef\nabc".toList := by decide
  have hnone : (answered "abcdef\nabc").records = [] := rfl
  rw [hnone, List.nil_append] at hrecords
  have houtcome : outcome = .ok Output.suppressed := by
    rw [houtcome, Except.ok.injEq]
    decide
  rw [hlook] at htold hreports
  rw [houtcome] at hevaluate
  subst hrecords
  refine ⟨hvalid, p, sent, hsends, after, hevaluate, htold.mpr (Or.inl (by decide)), ?_⟩
  exact hreports.mpr (Or.inl (by decide))

/-- Output that is the notice itself is returned as it is under the usual limit, and yet it is
reported as suppressed. -/
theorem notice_not_reportsLongLines :
    let (result, after) :=
      evaluate Script.sink .usual none { body := "x" } (answered Output.suppressed)
    let output := Output.text (after.files.read? "/tmp/babel-julia-out-1")
    result = .ok (String.ofList output) ∧ output = Output.suppressed.toList ∧
      (∃ record ∈ after.records, record.IsSuppression) ∧
      ¬ ReportsLongLines after.records output Settings.usual.maxLineLength := by
  have hlogged : ∃ record ∈ (evaluate Script.sink .usual none { body := "x" }
      (answered Output.suppressed)).2.records, record.IsSuppression := by decide
  have hfits : ¬ Output.HasLongLine Output.suppressed.toList Settings.usual.maxLineLength := by
    decide
  refine ⟨rfl, by decide, hlogged, ?_⟩
  intro hreports
  exact hfits (hreports.mp hlogged)

end Transport

end JuliaBlocks
