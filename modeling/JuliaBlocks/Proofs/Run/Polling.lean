import JuliaBlocks.Proofs.Files
import JuliaBlocks.Proofs.Run.Wait

/-!
The exact course of a wait for a file. What a look finds is what the changes made up to then have
left, and nothing matters to the wait but whether the looks find content. Main statement:
`awaitOutput_exact`.
-/

namespace JuliaBlocks

/-- What a file holds after a number of waits, given what it held before them and its history in
each. Of a history only the end counts. -/
def heldAfter (content : Option (List UInt8)) (histories : Nat → List (Option (List UInt8))) :
    Nat → Option (List UInt8)
  | 0 => content
  | n + 1 => replay (heldAfter content histories n) (histories n)

/-- The course of a wait by what its looks find and by how its sleeps fail: what it comes to, and how
many sleeps it takes. -/
inductive Course (look : Nat → Option (List UInt8)) (fault : Nat → Option Failure)
    (attempts : Nat) : Except Failure Bool → Nat → Prop
  | stopped {n : Nat} (hstops : Stops look attempts n) (hslept : ∀ k < n, fault k = none) :
      Course look fault attempts (.ok (Output.arrived (look n))) n
  | broken {n : Nat} {failure : Failure} (hbreaks : Breaks look fault attempts n failure) :
      Course look fault attempts (.error failure) (n + 1)

namespace Course

variable {look other : Nat → Option (List UInt8)} {fault faults : Nat → Option Failure}
  {attempts sleeps : Nat} {outcome : Except Failure Bool}

theorem found_iff (hcourse : Course look fault attempts outcome sleeps) : outcome = .ok true ↔
    ∃ n ≤ attempts, Output.arrived (look n) = true ∧ ∀ k < n, fault k = none := by
  cases hcourse with
  | stopped hstops hslept =>
      constructor
      · intro hcontent
        exact ⟨sleeps, hstops.taken, Except.ok.inj hcontent, hslept⟩
      · rintro ⟨m, hm, hcontent, _⟩
        cases harrived : Output.arrived (look sleeps) with
        | true => rfl
        | false =>
            rw [hstops.not_arrived_iff.mp harrived m hm] at hcontent
            cases hcontent
  | @broken n failure hbreaks =>
      refine iff_of_false nofun ?_
      rintro ⟨m, _, hcontent, hslept⟩
      rw [hbreaks.not_arrived hslept] at hcontent
      cases hcontent

theorem none_iff (hcourse : Course look fault attempts outcome sleeps) : outcome = .ok false ↔
    (∀ n ≤ attempts, Output.arrived (look n) = false) ∧ ∀ k < attempts, fault k = none := by
  cases hcourse with
  | stopped hstops hslept =>
      constructor
      · intro hnone
        have hnone := Except.ok.inj hnone
        obtain rfl := hstops.eq_attempts hnone
        exact ⟨hstops.not_arrived_iff.mp hnone, hslept⟩
      · rintro ⟨hnone, _⟩
        exact congrArg _ (hnone sleeps hstops.taken)
  | @broken n failure hbreaks =>
      refine iff_of_false nofun ?_
      exact fun hnone => hbreaks.fault_ne_none (hnone.2 n hbreaks.taken)

theorem error_iff (hcourse : Course look fault attempts outcome sleeps) (failure : Failure) :
    outcome = .error failure ↔ ∃ n, Breaks look fault attempts n failure := by
  cases hcourse with
  | stopped hstops hslept =>
      refine iff_of_false nofun ?_
      rintro ⟨m, hbreaks⟩
      exact hbreaks.not_of_stops hstops hslept
  | @broken n failure hbreaks =>
      constructor
      · intro hsame
        cases hsame
        exact ⟨n, hbreaks⟩
      · rintro ⟨m, hother⟩
        rw [(hbreaks.unique hother).2]

/-- A wait sleeps up to the first look that finds content. -/
theorem sleeps_of_first {n : Nat} (hcourse : Course look fault attempts outcome sleeps)
    (hfirst : FirstArrival look attempts n) (hslept : ∀ k < n, fault k = none) : sleeps = n := by
  cases hcourse with
  | stopped hstops _ => exact (hfirst.eq_of_stops hstops).symm
  | broken hbreaks =>
      have harrived := hfirst.arrived
      rw [hbreaks.not_arrived hslept] at harrived
      cases harrived

theorem sleeps_of_none (hcourse : Course look fault attempts outcome sleeps)
    (hnone : outcome = .ok false) : sleeps = attempts := by
  cases hcourse with
  | stopped hstops _ => exact hstops.eq_attempts (Except.ok.inj hnone)
  | broken _ => cases hnone

theorem sleeps_of_breaks {n : Nat} {failure : Failure}
    (hcourse : Course look fault attempts outcome sleeps)
    (hbreaks : Breaks look fault attempts n failure) : sleeps = n + 1 := by
  cases hcourse with
  | stopped hstops hslept => exact (hbreaks.not_of_stops hstops hslept).elim
  | broken hother => rw [(hother.unique hbreaks).1]

/-- Nothing matters to the course but which looks find content and how sleeps fail. -/
theorem congr (hcourse : Course look fault attempts outcome sleeps)
    (hlook : ∀ n ≤ attempts, Output.arrived (other n) = Output.arrived (look n))
    (hfault : ∀ n < attempts, faults n = fault n) :
    Course other faults attempts outcome sleeps := by
  cases hcourse with
  | stopped hstops hslept =>
      have htaken := hstops.taken
      rw [← hlook sleeps htaken]
      refine .stopped (hstops.congr fun k hk => hlook k (Nat.le_trans hk htaken)) ?_
      intro k hk
      exact (hfault k (Nat.lt_of_lt_of_le hk htaken)).trans (hslept k hk)
  | @broken n _ hbreaks =>
      have htaken := hbreaks.taken
      exact .broken (hbreaks.congr (fun k hk => hlook k (by omega)) fun k hk => hfault k (by omega))

/-- There is one course only. -/
theorem unique {otherOutcome : Except Failure Bool} {otherSleeps : Nat}
    (hcourse : Course look fault attempts outcome sleeps)
    (hother : Course look fault attempts otherOutcome otherSleeps) :
    outcome = otherOutcome ∧ sleeps = otherSleeps := by
  cases hcourse with
  | stopped hstops hslept =>
      cases hother with
      | stopped hotherStops _ =>
          obtain rfl := hstops.unique hotherStops fun _ _ _ => rfl
          exact ⟨rfl, rfl⟩
      | broken hbreaks => exact (hbreaks.not_of_stops hstops hslept).elim
  | broken hbreaks =>
      exact ⟨((hother.error_iff _).mpr ⟨_, hbreaks⟩).symm, (hother.sleeps_of_breaks hbreaks).symm⟩

end Course

/-- A session side that makes given changes, in each wait the next of them, whatever it is sent. -/
def Sink.scheduled (changes : Nat → List Change) : Sink Nat where
  send state _ _ _ := { state }
  pause state _ _ := { state := state + 1, changes := changes state }

namespace Run

variable {σ : Type} (sink : Sink σ) (interval : Value) (path : String) (run : Run σ)

/-- The changes that the session side makes in the wait after a number of others. -/
def changesIn (n : Nat) : List Change :=
  let waited := run.waited sink interval n
  (sink.pause waited.state waited.files interval).changes

/-- What a file holds after a number of waits by the changes that are made in them. -/
def held : Nat → Option (List UInt8) :=
  heldAfter (run.files.read? path) fun k => Change.history path (run.changesIn sink interval k)

theorem waited_add_one (n : Nat) :
    run.waited sink interval (n + 1) = ((run.waited sink interval n).sleep sink interval).2 :=
  Function.iterate_succ_apply' _ n run

/-- A look finds what the changes of the waits before it have left. -/
theorem look_eq_held : run.look sink interval path = run.held sink interval path := by
  funext n
  induction n with
  | zero => rfl
  | succ n ih =>
      have hheld : run.held sink interval path (n + 1) = replay (run.held sink interval path n)
          (Change.history path (run.changesIn sink interval n)) := rfl
      rw [hheld, ← ih, look, waited_add_one, sleep_files, Files.read?_applyAll]
      rfl

/-- Waits are seen as such, each for the interval that is given. -/
theorem events_waited (n : Nat) : (run.waited sink interval n).events.toList =
    run.events.toList ++ List.replicate n (.slept interval) := by
  induction n with
  | zero => exact (List.append_nil _).symm
  | succ n ih =>
      rw [waited_add_one, sleep_events, Array.toList_push, ih, List.append_assoc,
        List.replicate_succ']

theorem waited_scheduled (changes : Nat → List Change) (start : Run Nat) (n : Nat) :
    (start.waited (.scheduled changes) interval n).state = start.state + n := by
  induction n with
  | zero => rfl
  | succ n ih =>
      rw [waited_add_one, sleep_state, Nat.add_succ, ← ih]
      rfl

/-- Every sequence of changes is made by some session side, and a file is what they leave. -/
theorem held_scheduled (changes : Nat → List Change) {start : Run Nat} (hstart : start.state = 0) :
    start.held (.scheduled changes) interval path =
      heldAfter (start.files.read? path) fun n => Change.history path (changes n) := by
  have hchanges (n : Nat) : start.changesIn (.scheduled changes) interval n = changes n := by
    have hstate := waited_scheduled interval changes start n
    rw [hstart, Nat.zero_add] at hstate
    exact congrArg changes hstate
  simp only [held, hchanges]

/-- A wait takes its course by what the changes leave. -/
theorem course_awaitOutput (attempts : Nat) : ∃ outcome sleeps after,
    awaitOutput sink path interval attempts run = (outcome, after) ∧
    after.events.toList = run.events.toList ++ List.replicate sleeps (.slept interval) ∧
    Course (run.held sink interval path) (run.sleepFault sink interval) attempts outcome
      sleeps := by
  have hended := awaited_awaitOutput sink path interval attempts run
  generalize awaitOutput sink path interval attempts run = ended at hended
  cases hended with
  | @stopped n hstops hslept =>
      rw [look_eq_held] at hstops ⊢
      exact ⟨_, n, _, rfl, events_waited sink interval run n, .stopped hstops hslept⟩
  | @broken n failure hbreaks =>
      rw [look_eq_held] at hbreaks
      exact ⟨_, n + 1, _, rfl, events_waited sink interval run (n + 1), .broken hbreaks⟩

/-- A wait for a file ends with content just if a look finds some, and without just if none does,
unless a sleep fails before. There is a look after each number of sleeps up to the budget of
attempts, which is nothing if it is negative. The wait sleeps until the first of these looks that
finds content and otherwise for the whole budget, or up to the sleep that fails, each time for the
given interval, and leaves no other trace. Nothing else matters: in another place, where the looks
find content or none alike and the sleeps fail alike, it takes the same course, so that content which
does not stay until the next look is not noticed. -/
theorem awaitOutput_exact (run : Run σ) (attempts : Int) :
    let budget := attempts.toNat
    let held := run.held sink interval path
    let fault := run.sleepFault sink interval
    ∃ outcome sleeps after,
      awaitOutput sink path interval budget run = (outcome, after) ∧
      after.events.toList = run.events.toList ++ List.replicate sleeps (.slept interval) ∧
      (outcome = .ok true ↔
        ∃ n ≤ budget, Output.arrived (held n) = true ∧ ∀ k < n, fault k = none) ∧
      (outcome = .ok false ↔
        (∀ n ≤ budget, Output.arrived (held n) = false) ∧ ∀ k < budget, fault k = none) ∧
      (∀ failure, outcome = .error failure ↔ ∃ n, Breaks held fault budget n failure) ∧
      (∀ n, FirstArrival held budget n → (∀ k < n, fault k = none) → sleeps = n) ∧
      (outcome = .ok false → sleeps = budget) ∧
      (∀ n failure, Breaks held fault budget n failure → sleeps = n + 1) ∧
      ∀ {τ : Type} (other : Sink τ) (otherPath : String) (otherRun : Run τ),
        (∀ n ≤ budget, Output.arrived (otherRun.held other interval otherPath n) =
          Output.arrived (held n)) →
        (∀ n < budget, otherRun.sleepFault other interval n = fault n) →
        ∃ otherAfter,
          awaitOutput other otherPath interval budget otherRun = (outcome, otherAfter) ∧
          otherAfter.events.toList =
            otherRun.events.toList ++ List.replicate sleeps (.slept interval) := by
  intro budget held fault
  obtain ⟨outcome, sleeps, after, hwait, hevents, hcourse⟩ :=
    run.course_awaitOutput sink interval path budget
  refine ⟨outcome, sleeps, after, hwait, hevents, hcourse.found_iff, hcourse.none_iff,
    hcourse.error_iff, fun n => hcourse.sleeps_of_first, hcourse.sleeps_of_none,
    fun n failure => hcourse.sleeps_of_breaks, ?_⟩
  intro τ other otherPath otherRun hsame hsleeps
  obtain ⟨otherOutcome, otherSleeps, otherAfter, hother, hotherEvents, hotherCourse⟩ :=
    otherRun.course_awaitOutput other interval otherPath budget
  obtain ⟨rfl, rfl⟩ := (hcourse.congr hsame hsleeps).unique hotherCourse
  exact ⟨otherAfter, hother, hotherEvents⟩

/-- A file that is written and gone again in the first sleep, empty after the second and not UTF-8
after the third: three attempts find it, two do not, and less than none is none. -/
theorem awaitOutput_exact_fleeting :
    let changes : Nat → List Change
      | 0 => [.write "/out" [0x31], .remove "/out"]
      | 1 => [.write "/out" []]
      | 2 => [.write "/out" [0xFF]]
      | _ => []
    let start : Run Nat := { state := 0, files := {} }
    let held := start.held (.scheduled changes) (.int 1) "/out"
    let wait (attempts : Int) :=
      awaitOutput (.scheduled changes) "/out" (.int 1) attempts.toNat start
    (FirstArrival held 3 3 ∧ (wait 3).1 = .ok true ∧
      (wait 3).2.events.toList = List.replicate 3 (.slept (.int 1))) ∧
    ((∀ n ≤ 2, Output.arrived (held n) = false) ∧ (wait 2).1 = .ok false ∧
      (wait 2).2.events.toList = List.replicate 2 (.slept (.int 1))) ∧
    (wait (-1)).1 = .ok false ∧ (wait (-1)).2.events.toList = [] := by
  intro changes start held wait
  have hheld : held = heldAfter none fun n => Change.history "/out" (changes n) :=
    held_scheduled (.int 1) "/out" changes rfl
  have hthird : FirstArrival held 3 3 := by
    rw [hheld]
    exact ⟨by decide, by decide, by decide⟩
  have hnone : ∀ n ≤ 2, Output.arrived (held n) = false := fun n hn => hthird.before n (by omega)
  have hslept (n : Nat) : start.sleepFault (.scheduled changes) (.int 1) n = none := rfl
  have hidle (attempts : Int) (hattempts : attempts.toNat ≤ 2) : (wait attempts).1 = .ok false ∧
      (wait attempts).2.events.toList = List.replicate attempts.toNat (.slept (.int 1)) := by
    obtain ⟨outcome, sleeps, after, hwait, hevents, _, hidle, _, _, hbudget, _⟩ :=
      awaitOutput_exact (.scheduled changes) (.int 1) "/out" start attempts
    have houtcome := hidle.mpr ⟨fun n hn => hnone n (by omega), fun k _ => hslept k⟩
    simp only [wait, hwait]
    rw [hevents, hbudget houtcome]
    exact ⟨houtcome, rfl⟩
  obtain ⟨outcome, sleeps, after, hwait, hevents, hfound, _, _, hfirst, _⟩ :=
    awaitOutput_exact (.scheduled changes) (.int 1) "/out" start 3
  have hsleeps : sleeps = 3 := hfirst 3 hthird fun k _ => hslept k
  have houtcome := hfound.mpr ⟨3, Nat.le_refl 3, hthird.arrived, fun k _ => hslept k⟩
  have hthree : wait 3 = (outcome, after) := hwait
  refine ⟨⟨hthird, ?_, ?_⟩, ⟨hnone, hidle 2 (by decide)⟩, hidle (-1) (by decide)⟩
  · rw [hthree, houtcome]
  · rw [hthree, hevents, hsleeps]
    rfl

end Run

end JuliaBlocks
