import JuliaBlocks.Proofs.Run.Basic
import Mathlib.Logic.Function.Iterate

/-!
Waiting for output. A file is looked at before each of some sleeps and once after the last, and the
waiting ends at the first look that finds content, unless a sleep fails before. Main statement:
`awaited_awaitOutput`.
-/

namespace JuliaBlocks

/-- The log record that an event is. -/
def Event.record? : Event → Option Record
  | logged record => some record
  | _ => none

/-- Whether an event is a wait. -/
def Event.isWait : Event → Bool
  | slept _ => true
  | _ => false

/-- Where a wait ends that looks at a file before each of some attempts and once after the last: no
earlier look finds content, and the last one does unless no attempt is left. -/
structure Stops (look : Nat → Option (List UInt8)) (attempts n : Nat) : Prop where
  taken : n ≤ attempts
  before : ∀ k < n, Output.arrived (look k) = false
  last : Output.arrived (look n) = true ∨ n = attempts

/-- Waits whose looks find content or none alike end alike. -/
theorem Stops.unique {look other : Nat → Option (List UInt8)} {attempts n m : Nat}
    (hn : Stops look attempts n) (hm : Stops other attempts m)
    (hsame : ∀ k, k ≤ n → k ≤ m → Output.arrived (look k) = Output.arrived (other k)) :
    n = m := by
  rcases Nat.lt_trichotomy n m with hlt | heq | hgt
  · rcases hn.last with hcontent | rfl
    · rw [hsame n (Nat.le_refl n) (by omega), hm.before n hlt] at hcontent
      cases hcontent
    · exact absurd hm.taken (by omega)
  · exact heq
  · rcases hm.last with hcontent | rfl
    · rw [← hsame m (by omega) (Nat.le_refl m), hn.before m hgt] at hcontent
      cases hcontent
    · exact absurd hn.taken (by omega)

/-- It matters to where a wait ends only which looks find content. -/
theorem Stops.congr {look other : Nat → Option (List UInt8)} {attempts n : Nat}
    (hn : Stops look attempts n)
    (hsame : ∀ k ≤ n, Output.arrived (other k) = Output.arrived (look k)) :
    Stops other attempts n where
  taken := hn.taken
  before k hk := (hsame k (Nat.le_of_lt hk)).trans (hn.before k hk)
  last := hn.last.imp_left (hsame n (Nat.le_refl n)).trans

/-- A wait that ends without content has made all of its attempts. -/
theorem Stops.eq_attempts {look : Nat → Option (List UInt8)} {attempts n : Nat}
    (hn : Stops look attempts n) (hnone : Output.arrived (look n) = false) : n = attempts := by
  rcases hn.last with hcontent | hlast
  · rw [hnone] at hcontent
    cases hcontent
  · exact hlast

/-- The first look at a file that finds content, if it is one of the looks that are taken: one
before each attempt and one after the last. -/
structure FirstArrival (look : Nat → Option (List UInt8)) (attempts n : Nat) : Prop where
  taken : n ≤ attempts
  arrived : Output.arrived (look n) = true
  before : ∀ k < n, Output.arrived (look k) = false

/-- A wait ends with the first arrival of content. -/
theorem FirstArrival.eq_of_stops {look : Nat → Option (List UInt8)} {attempts n m : Nat}
    (hn : FirstArrival look attempts n) (hm : Stops look attempts m) : n = m := by
  have hstops : Stops look attempts n := ⟨hn.taken, hn.before, Or.inl hn.arrived⟩
  exact hstops.unique hm fun _ _ _ => rfl

/-- A wait that ends without content has looked as often as it could, each time in vain. -/
theorem Stops.not_arrived_iff {look : Nat → Option (List UInt8)} {attempts n : Nat}
    (hn : Stops look attempts n) :
    Output.arrived (look n) = false ↔ ∀ k ≤ attempts, Output.arrived (look k) = false := by
  constructor
  · intro hnone k hk
    obtain rfl := hn.eq_attempts hnone
    rcases Nat.lt_or_eq_of_le hk with hlt | rfl
    · exact hn.before k hlt
    · exact hnone
  · intro hnone
    exact hnone n hn.taken

/-- Where a wait is broken off: none of its looks has found content, and the sleep after the last of
them, which is the first to fail, fails. -/
structure Breaks (look : Nat → Option (List UInt8)) (fault : Nat → Option Failure)
    (attempts n : Nat) (failure : Failure) : Prop where
  taken : n < attempts
  unseen : ∀ k ≤ n, Output.arrived (look k) = false
  slept : ∀ k < n, fault k = none
  fault : fault n = some failure

theorem Breaks.fault_ne_none {look : Nat → Option (List UInt8)} {fault : Nat → Option Failure}
    {attempts n : Nat} {failure : Failure} (hn : Breaks look fault attempts n failure) :
    fault n ≠ none := by
  rw [hn.fault]
  exact Option.some_ne_none failure

/-- A wait is broken off at one point only. -/
theorem Breaks.unique {look : Nat → Option (List UInt8)} {fault : Nat → Option Failure}
    {attempts n m : Nat} {failure other : Failure} (hn : Breaks look fault attempts n failure)
    (hm : Breaks look fault attempts m other) : n = m ∧ failure = other := by
  have hsame : n = m := by
    rcases Nat.lt_trichotomy n m with hlt | heq | hgt
    · exact absurd (hm.slept n hlt) hn.fault_ne_none
    · exact heq
    · exact absurd (hn.slept m hgt) hm.fault_ne_none
  subst hsame
  exact ⟨rfl, Option.some.inj (hn.fault.symm.trans hm.fault)⟩

/-- It matters to a break only which looks find content and which sleeps fail. -/
theorem Breaks.congr {look other : Nat → Option (List UInt8)} {fault faults : Nat → Option Failure}
    {attempts n : Nat} {failure : Failure} (hn : Breaks look fault attempts n failure)
    (hlook : ∀ k ≤ n, Output.arrived (other k) = Output.arrived (look k))
    (hfault : ∀ k ≤ n, faults k = fault k) : Breaks other faults attempts n failure where
  taken := hn.taken
  unseen k hk := (hlook k hk).trans (hn.unseen k hk)
  slept k hk := (hfault k (Nat.le_of_lt hk)).trans (hn.slept k hk)
  fault := (hfault n (Nat.le_refl n)).trans hn.fault

/-- No look that a wait gets to before it is broken off finds content. -/
theorem Breaks.not_arrived {look : Nat → Option (List UInt8)} {fault : Nat → Option Failure}
    {attempts n m : Nat} {failure : Failure} (hn : Breaks look fault attempts n failure)
    (hslept : ∀ k < m, fault k = none) : Output.arrived (look m) = false := by
  rcases Nat.lt_or_ge n m with hlt | hle
  · exact absurd (hslept n hlt) hn.fault_ne_none
  · exact hn.unseen m hle

/-- A wait that is broken off does not stop. -/
theorem Breaks.not_of_stops {look : Nat → Option (List UInt8)} {fault : Nat → Option Failure}
    {attempts n m : Nat} {failure : Failure} (hn : Breaks look fault attempts n failure)
    (hm : Stops look attempts m) (hslept : ∀ k < m, fault k = none) : False := by
  rcases hm.last with hcontent | rfl
  · rw [hn.not_arrived hslept] at hcontent
    cases hcontent
  · exact hn.fault_ne_none (hslept n hn.taken)

namespace Run

variable {σ : Type} (sink : Sink σ)

/-- The log records of a run, from the first to the latest. -/
def records (run : Run σ) : List Record :=
  run.events.toList.filterMap Event.record?

/-- How often a run has waited. -/
def waits (run : Run σ) : Nat :=
  run.events.toList.countP Event.isWait

/-- The run after a number of sleeps, whether or not they have failed. -/
def waited (interval : Value) (n : Nat) (run : Run σ) : Run σ :=
  (fun run => (run.sleep sink interval).2)^[n] run

variable {sink} {interval : Value}

theorem waited_succ (run : Run σ) (n : Nat) :
    run.waited sink interval (n + 1) = (run.sleep sink interval).2.waited sink interval n := rfl

/-- What a file holds after a number of waits. -/
def look (sink : Sink σ) (interval : Value) (path : String) (run : Run σ) (n : Nat) :
    Option (List UInt8) :=
  (run.waited sink interval n).files.read? path

/-- Why the sleep after a number of others fails, if it does. -/
def sleepFault (sink : Sink σ) (interval : Value) (run : Run σ) (n : Nat) : Option Failure :=
  let waited := run.waited sink interval n
  (sink.pause waited.state waited.files interval).fault

/-- The first sleep fails by its fault, if it has one. -/
theorem sleep_outcome (sink : Sink σ) (interval : Value) (run : Run σ) :
    run.sleep sink interval = (match run.sleepFault sink interval 0 with
      | none => .ok ()
      | some fault => .error fault, (run.sleep sink interval).2) := by
  rw [sleep_eq]
  rfl

/-- How a wait ends: it stops at a look, no sleep having failed, or it is broken off. -/
inductive Awaited (sink : Sink σ) (path : String) (interval : Value) (attempts : Nat)
    (run : Run σ) : Except Failure Bool × Run σ → Prop where
  | stopped {n : Nat} (hstops : Stops (run.look sink interval path) attempts n)
      (hslept : ∀ k < n, run.sleepFault sink interval k = none) :
      Awaited sink path interval attempts run
        (.ok (Output.arrived (run.look sink interval path n)), run.waited sink interval n)
  | broken {n : Nat} {failure : Failure}
      (hbreaks : Breaks (run.look sink interval path) (run.sleepFault sink interval) attempts n
        failure) :
      Awaited sink path interval attempts run (.error failure, run.waited sink interval (n + 1))

/-- A sleep that does not fail puts off the end of a wait that finds nothing yet. -/
theorem Awaited.after_sleep {path : String} {attempts : Nat} {run : Run σ}
    {ended : Except Failure Bool × Run σ}
    (hnone : Output.arrived (run.files.read? path) = false)
    (hslept : run.sleepFault sink interval 0 = none)
    (hended : Awaited sink path interval attempts (run.sleep sink interval).2 ended) :
    Awaited sink path interval (attempts + 1) run ended := by
  cases hended with
  | @stopped n hstops hlater =>
      have hstops : Stops (run.look sink interval path) (attempts + 1) (n + 1) := by
        refine ⟨Nat.succ_le_succ hstops.taken, ?_, ?_⟩
        · rintro (_ | k) hk
          · exact hnone
          · exact hstops.before k (by omega)
        · rcases hstops.last with hcontent | rfl
          · exact Or.inl hcontent
          · exact Or.inr rfl
      refine .stopped hstops ?_
      rintro (_ | k) hk
      · exact hslept
      · exact hlater k (by omega)
  | @broken n failure hbreaks =>
      refine .broken (n := n + 1) ⟨Nat.succ_lt_succ hbreaks.taken, ?_, ?_, hbreaks.fault⟩
      · rintro (_ | k) hk
        · exact hnone
        · exact hbreaks.unseen k (by omega)
      · rintro (_ | k) hk
        · exact hslept
        · exact hbreaks.slept k (by omega)

theorem awaited_awaitOutput (sink : Sink σ) (path : String) (interval : Value) (attempts : Nat)
    (run : Run σ) : Awaited sink path interval attempts run
      (awaitOutput sink path interval attempts run) := by
  induction attempts generalizing run with
  | zero => exact .stopped (n := 0) ⟨Nat.le_refl 0, by omega, Or.inr rfl⟩ (by omega)
  | succ attempts ih =>
      rw [awaitOutput]
      cases harrived : Output.arrived (run.files.read? path) with
      | true =>
          rw [if_pos rfl, ← harrived]
          exact .stopped (n := 0) ⟨by omega, by omega, Or.inl harrived⟩ (by omega)
      | false =>
          rw [if_neg Bool.false_ne_true]
          have hended := ih (run.sleep sink interval).2
          rw [sleep_outcome]
          cases hfault : run.sleepFault sink interval 0 with
          | none => exact hended.after_sleep harrived hfault
          | some failure =>
              refine .broken (n := 0) ⟨by omega, ?_, by omega, hfault⟩
              intro k hk
              obtain rfl := Nat.le_zero.mp hk
              exact harrived

/-- What a run of sleeps does to the session side and to the files depends on these alone. -/
theorem waited_congr {run other : Run σ} (hstate : run.state = other.state)
    (hfiles : run.files = other.files) (n : Nat) :
    (run.waited sink interval n).state = (other.waited sink interval n).state ∧
      (run.waited sink interval n).files = (other.waited sink interval n).files := by
  induction n generalizing run other with
  | zero => exact ⟨hstate, hfiles⟩
  | succ n ih =>
      rw [waited_succ, waited_succ]
      apply ih
      · simp [hstate, hfiles]
      · simp [hstate, hfiles]

@[simp] theorem look_log (run : Run σ) (level : Level) (message path : String) :
    (run.log level message).look sink interval path = run.look sink interval path := by
  funext n
  rw [look, look, (waited_congr (log_state run level message) (log_files run level message) n).2]

@[simp] theorem sleepFault_log (run : Run σ) (level : Level) (message : String) :
    (run.log level message).sleepFault sink interval = run.sleepFault sink interval := by
  funext n
  obtain ⟨hstate, hfiles⟩ :
      ((run.log level message).waited sink interval n).state = (run.waited sink interval n).state ∧
        ((run.log level message).waited sink interval n).files =
          (run.waited sink interval n).files :=
    waited_congr (log_state run level message) (log_files run level message) n
  simp only [sleepFault, hstate, hfiles]

@[simp] theorem waited_session (run : Run σ) (n : Nat) :
    (run.waited sink interval n).session = run.session := by
  induction n generalizing run with
  | zero => rfl
  | succ n ih =>
      rw [waited_succ, ih, sleep_session]

theorem records_push {run after : Run σ} {event : Event}
    (hevents : after.events = run.events.push event) :
    after.records = run.records ++ event.record?.toList :=
  filterMap_events_push Event.record? hevents

theorem waits_push {run after : Run σ} {event : Event}
    (hevents : after.events = run.events.push event) :
    after.waits = run.waits + event.isWait.toNat := by
  rw [waits, hevents, Array.toList_push, List.countP_append, ← waits]
  cases event with
  | _ => rfl

@[simp] theorem records_log (run : Run σ) (level : Level) (message : String) :
    (run.log level message).records = run.records ++ [⟨level, run.session, message⟩] :=
  records_push (log_events run level message)

@[simp] theorem waits_log (run : Run σ) (level : Level) (message : String) :
    (run.log level message).waits = run.waits :=
  waits_push (log_events run level message)

@[simp] theorem records_send (run : Run σ) (session : String) (message : Message) :
    (run.send sink session message).2.records = run.records := by
  simpa [Event.record?] using records_push (send_events run sink session message)

@[simp] theorem waits_send (run : Run σ) (session : String) (message : Message) :
    (run.send sink session message).2.waits = run.waits :=
  waits_push (send_events run sink session message)

/-- A view of the history that does not show the intervals of a wait stays the same in it. -/
theorem filterMap_events_waited {α : Type} (view : Event → Option α)
    (hslept : view (.slept interval) = none) (run : Run σ) (n : Nat) :
    (run.waited sink interval n).events.toList.filterMap view =
      run.events.toList.filterMap view := by
  induction n generalizing run with
  | zero => rfl
  | succ n ih =>
      have hfirst := filterMap_events_push view (sleep_events run sink interval)
      rw [hslept, Option.toList_none, List.append_nil] at hfirst
      rw [waited_succ, ih, hfirst]

@[simp] theorem records_waited (run : Run σ) (n : Nat) :
    (run.waited sink interval n).records = run.records :=
  filterMap_events_waited Event.record? rfl run n

@[simp] theorem waits_waited (run : Run σ) (n : Nat) :
    (run.waited sink interval n).waits = run.waits + n := by
  induction n generalizing run with
  | zero => rfl
  | succ n ih =>
      have hfirst : (run.sleep sink interval).2.waits = run.waits + 1 :=
        waits_push (sleep_events run sink interval)
      rw [waited_succ, ih, hfirst]
      omega

end Run

end JuliaBlocks
