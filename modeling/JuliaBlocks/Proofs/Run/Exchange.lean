import JuliaBlocks.Proofs.Files
import JuliaBlocks.Proofs.Run.Simulation

/-!
The exchanges of a run with the session side. A watched session side acts like the one it watches
and logs every exchange with it, so that what a run does to the files can be told from what the
session side does to them.
-/

namespace JuliaBlocks

variable {σ : Type}

/-- One exchange: a message for a session, or a wait if there is none, with the files that it found
and what the session side made of it. -/
structure Exchange where
  message : Option (String × Message)
  files : Files
  changes : List Change
  fault : Option Failure

namespace Exchange

/-- The history of a file in some exchanges. -/
def history (path : String) (exchanges : List Exchange) : List (Option (List UInt8)) :=
  exchanges.flatMap fun e => Change.history path e.changes

theorem history_append (path : String) (exchanges later : List Exchange) :
    history path (exchanges ++ later) = history path exchanges ++ history path later :=
  List.flatMap_append

/-- Exchanges one after another: each finds the files as the one before it has left them. -/
def Linked : Files → List Exchange → Files → Prop
  | before, [], after => after = before
  | before, e :: rest, after => e.files = before ∧ Linked (before.applyAll e.changes) rest after

theorem Linked.append {before between after : Files} {exchanges later : List Exchange}
    (hfirst : Linked before exchanges between) (hlater : Linked between later after) :
    Linked before (exchanges ++ later) after := by
  induction exchanges generalizing before with
  | nil =>
      cases hfirst
      exact hlater
  | cons e exchanges ih => exact ⟨hfirst.1, ih hfirst.2⟩

/-- Exchanges can be parted anywhere. -/
theorem Linked.parted {before after : Files} {exchanges later : List Exchange}
    (hlinked : Linked before (exchanges ++ later) after) :
    ∃ between, Linked before exchanges between ∧ Linked between later after := by
  induction exchanges generalizing before with
  | nil => exact ⟨before, rfl, hlinked⟩
  | cons e exchanges ih =>
      obtain ⟨between, hfirst, hlater⟩ := ih hlinked.2
      exact ⟨between, ⟨hlinked.1, hfirst⟩, hlater⟩

/-- A file changes by its own history in the exchanges, and not otherwise. -/
theorem Linked.read? {before after : Files} {exchanges : List Exchange}
    (hlinked : Linked before exchanges after) (path : String) :
    after.read? path = replay (before.read? path) (history path exchanges) := by
  induction exchanges generalizing before with
  | nil =>
      cases hlinked
      rfl
  | cons e exchanges ih =>
      rw [ih hlinked.2, Files.read?_applyAll, ← replay_append, history, history, List.flatMap_cons]

/-- What an exchange finds in a file is what the exchanges before it have left. -/
theorem Linked.read?_found {before after : Files} {front back : List Exchange} {e : Exchange}
    (hlinked : Linked before (front ++ e :: back) after) (path : String) :
    e.files.read? path = replay (before.read? path) (history path front) := by
  obtain ⟨between, hfront, hfound, _⟩ := hlinked.parted
  rw [hfound, hfront.read? path]

/-- From an exchange on, a file changes by its history in this exchange and the later ones. -/
theorem Linked.read?_since {before after : Files} {front back : List Exchange} {e : Exchange}
    (hlinked : Linked before (front ++ e :: back) after) (path : String) :
    after.read? path = replay (e.files.read? path) (history path (e :: back)) := by
  obtain ⟨between, _, hback⟩ := hlinked.parted
  rw [hback.read? path, hback.1]

theorem Linked.places {before after : Files} {exchanges : List Exchange}
    (hlinked : Linked before exchanges after) :
    after.working = before.working ∧ after.temporary = before.temporary := by
  induction exchanges generalizing before with
  | nil =>
      cases hlinked
      exact ⟨rfl, rfl⟩
  | cons e exchanges ih =>
      obtain ⟨hworking, htemporary⟩ := ih hlinked.2
      have hplaces := before.applyAll_places e.changes
      exact ⟨hworking.trans hplaces.1, htemporary.trans hplaces.2⟩

/-- Messages that were sent to a session in their order, up to the first that was refused, whose
fault is the outcome. -/
inductive Delivered (session : String) :
    List Message → List Exchange → Option Failure → Prop where
  | done : Delivered session [] [] none
  | refused {message : Message} {messages : List Message} {e : Exchange} {fault : Failure}
      (hmessage : e.message = some (session, message)) (hfault : e.fault = some fault) :
      Delivered session (message :: messages) [e] (some fault)
  | taken {message : Message} {messages : List Message} {e : Exchange} {exchanges : List Exchange}
      {outcome : Option Failure} (hmessage : e.message = some (session, message))
      (hfault : e.fault = none) (hlater : Delivered session messages exchanges outcome) :
      Delivered session (message :: messages) (e :: exchanges) outcome

/-- The exchanges of a wait for a file, given what each number of them leaves in it: they end with a
look that finds content or is the last, or with the first that fails, whose fault is the outcome. -/
inductive Waited (look : List Exchange → Option (List UInt8)) (attempts : Nat)
    (waits : List Exchange) : Option Failure → Prop where
  | stopped (hstops : Stops (fun k => look (waits.take k)) attempts waits.length)
      (hcalm : ∀ e ∈ waits, e.fault = none) : Waited look attempts waits none
  | broken {n : Nat} {failure : Failure} (hlength : waits.length = n + 1)
      (hbreaks : Breaks (fun k => look (waits.take k)) (fun k => waits[k]?.bind Exchange.fault)
        attempts n failure) : Waited look attempts waits (some failure)

/-- Whether an exchange is one with a given session side, in some state of it. -/
def Of (sink : Sink σ) (e : Exchange) : Prop :=
  match e.message with
  | some (session, message) => ∃ state,
    e.changes = (sink.send state e.files session message).changes ∧
      e.fault = (sink.send state e.files session message).fault
  | none => ∃ state interval,
    e.changes = (sink.pause state e.files interval).changes ∧
      e.fault = (sink.pause state e.files interval).fault

theorem Delivered.exists_message {session : String} {messages : List Message}
    {exchanges : List Exchange} {outcome : Option Failure}
    (hdelivered : Delivered session messages exchanges outcome) {e : Exchange}
    (he : e ∈ exchanges) : ∃ message ∈ messages, e.message = some (session, message) := by
  induction hdelivered with
  | done => exact absurd he List.not_mem_nil
  | @refused message messages f fault hmessage _ =>
      obtain rfl := List.mem_singleton.mp he
      exact ⟨message, by simp, hmessage⟩
  | @taken message messages f exchanges outcome hmessage _ _ ih =>
      rcases List.mem_cons.mp he with rfl | he
      · exact ⟨message, by simp, hmessage⟩
      · obtain ⟨other, hother, hsent⟩ := ih he
        exact ⟨other, by simp [hother], hsent⟩

theorem Delivered.length_eq {session : String} {messages : List Message}
    {exchanges : List Exchange} (hdelivered : Delivered session messages exchanges none) :
    exchanges.length = messages.length := by
  generalize houtcome : (none : Option Failure) = outcome at hdelivered
  induction hdelivered with
  | done => rfl
  | refused => cases houtcome
  | taken _ _ _ ih => rw [List.length_cons, List.length_cons, ih houtcome]

end Exchange

/-- What a session side does, with one more exchange logged. -/
def Reaction.logged (reaction : Reaction σ) (message : Option (String × Message)) (files : Files)
    (exchanges : List Exchange) : Reaction (σ × List Exchange) :=
  reaction.mapState (·, exchanges ++ [⟨message, files, reaction.changes, reaction.fault⟩])

/-- A session side that acts like another one and logs the exchanges. -/
def Sink.watched (sink : Sink σ) : Sink (σ × List Exchange) where
  send state files session message :=
    (sink.send state.1 files session message).logged (some (session, message)) files state.2
  pause state files interval :=
    (sink.pause state.1 files interval).logged none files state.2

theorem Sink.watched_simulates (sink : Sink σ) : sink.watched.Simulates Prod.fst sink where
  send _ _ _ _ := rfl
  pause _ _ _ := rfl

/-- The side files that an event tells the creation of. -/
def Event.sideFiles? : Event → Option SideFiles
  | created files => some files
  | _ => none

namespace Run

open Exchange

/-- A run that is watched from here on. -/
def watch (run : Run σ) : Run (σ × List Exchange) :=
  run.mapState (·, [])

/-- The side files that were created in a run, from the first to the latest. -/
def sideFiles (run : Run σ) : List SideFiles :=
  run.events.toList.filterMap Event.sideFiles?

theorem sideFiles_push {run after : Run σ} {event : Event}
    (hevents : after.events = run.events.push event) :
    after.sideFiles = run.sideFiles ++ event.sideFiles?.toList :=
  filterMap_events_push Event.sideFiles? hevents

/-- A watched run that goes on by some exchanges, without creating side files. -/
structure Extends (sink : Sink σ) (before : Run (σ × List Exchange)) (exchanges : List Exchange)
    (after : Run (σ × List Exchange)) : Prop where
  log : after.state.2 = before.state.2 ++ exchanges
  linked : Linked before.files exchanges after.files
  naming : after.naming = before.naming
  created : after.created = before.created
  sideFiles : after.sideFiles = before.sideFiles
  genuine : ∀ e ∈ exchanges, e.Of sink

variable {sink : Sink σ}

theorem Extends.trans {before between after : Run (σ × List Exchange)}
    {exchanges later : List Exchange} (hfirst : before.Extends sink exchanges between)
    (hlater : between.Extends sink later after) :
    before.Extends sink (exchanges ++ later) after where
  log := by rw [hlater.log, hfirst.log, List.append_assoc]
  linked := hfirst.linked.append hlater.linked
  naming := hlater.naming.trans hfirst.naming
  created := hlater.created.trans hfirst.created
  sideFiles := hlater.sideFiles.trans hfirst.sideFiles
  genuine := by
    intro e he
    rcases List.mem_append.mp he with he | he
    · exact hfirst.genuine e he
    · exact hlater.genuine e he

/-- Which session is bound does not matter. -/
theorem Extends.bound {before after : Run (σ × List Exchange)} {exchanges : List Exchange}
    {first last : String}
    (hextends : { before with session := first }.Extends sink exchanges after) :
    before.Extends sink exchanges { after with session := last } :=
  { hextends with }

variable (run : Run (σ × List Exchange))

theorem extends_refl : run.Extends sink [] run :=
  ⟨(List.append_nil _).symm, rfl, rfl, rfl, rfl, by simp⟩

/-- A run that only notes other events than the creation of files goes on by no exchange. -/
theorem extends_of_events {run after : Run (σ × List Exchange)} {event : Event}
    (hstate : after.state = run.state) (hfiles : after.files = run.files)
    (hnaming : after.naming = run.naming) (hcreated : after.created = run.created)
    (hevents : after.events = run.events.push event) (hevent : event.sideFiles? = none) :
    run.Extends sink [] after where
  log := by rw [hstate, List.append_nil]
  linked := hfiles
  naming := hnaming
  created := hcreated
  sideFiles := by rw [sideFiles_push hevents, hevent]; simp
  genuine := by simp

/-- An exchange with the session side is one that a watched run goes on by. -/
theorem extends_meet (sink : Sink σ) (event : Event) (message : Option (String × Message))
    (reaction : Reaction σ) (hevent : event.sideFiles? = none)
    (hgenuine : Exchange.Of sink ⟨message, run.files, reaction.changes, reaction.fault⟩) :
    run.Extends sink [⟨message, run.files, reaction.changes, reaction.fault⟩]
      (run.meet event (reaction.logged message run.files run.state.2)).2 := by
  have hevents : (run.meet event (reaction.logged message run.files run.state.2)).2.events =
      run.events.push event := by
    rw [meet_eq]
  rw [meet_eq] at hevents ⊢
  refine ⟨rfl, ⟨rfl, rfl⟩, rfl, rfl, ?_, ?_⟩
  · rw [sideFiles_push hevents, hevent]
    simp
  · intro e he
    obtain rfl := List.mem_singleton.mp he
    exact hgenuine

theorem extends_send (sink : Sink σ) (session : String) (message : Message) :
    let reaction := sink.send run.state.1 run.files session message
    run.Extends sink [⟨some (session, message), run.files, reaction.changes, reaction.fault⟩]
      (run.send sink.watched session message).2 :=
  extends_meet run sink (.sent session message) _ _ rfl ⟨run.state.1, rfl, rfl⟩

theorem extends_sleep (sink : Sink σ) (interval : Value) :
    let reaction := sink.pause run.state.1 run.files interval
    run.Extends sink [⟨none, run.files, reaction.changes, reaction.fault⟩]
      (run.sleep sink.watched interval).2 :=
  extends_meet run sink (.slept interval) _ _ rfl ⟨run.state.1, interval, rfl, rfl⟩

/-- The exchanges of a number of waits. -/
def pauses (sink : Sink σ) (interval : Value) : Nat → Run (σ × List Exchange) → List Exchange
  | 0, _ => []
  | n + 1, run =>
    let reaction := sink.pause run.state.1 run.files interval
    ⟨none, run.files, reaction.changes, reaction.fault⟩ ::
      pauses sink interval n (run.sleep sink.watched interval).2

theorem length_pauses (sink : Sink σ) (interval : Value) (n : Nat) :
    (run.pauses sink interval n).length = n := by
  induction n generalizing run with
  | zero => rfl
  | succ n ih => rw [pauses, List.length_cons, ih]

theorem pauses_congr {run other : Run (σ × List Exchange)} (sink : Sink σ) (interval : Value)
    (hstate : run.state = other.state) (hfiles : run.files = other.files) (n : Nat) :
    run.pauses sink interval n = other.pauses sink interval n := by
  induction n generalizing run other with
  | zero => rfl
  | succ n ih =>
      have hnext : (run.sleep sink.watched interval).2.pauses sink interval n =
          (other.sleep sink.watched interval).2.pauses sink interval n :=
        ih (by simp [hstate, hfiles]) (by simp [hstate, hfiles])
      rw [pauses, pauses, hnext, hstate, hfiles]

theorem message_of_mem_pauses {sink : Sink σ} {interval : Value} {n : Nat} {e : Exchange}
    (he : e ∈ run.pauses sink interval n) : e.message = none := by
  induction n generalizing run with
  | zero => exact absurd he List.not_mem_nil
  | succ n ih =>
      rw [pauses] at he
      rcases List.mem_cons.mp he with rfl | he
      · rfl
      · exact ih _ he

/-- The exchanges of fewer waits are the first of those of more. -/
theorem take_pauses (sink : Sink σ) (interval : Value) {k n : Nat} (hk : k ≤ n) :
    (run.pauses sink interval n).take k = run.pauses sink interval k := by
  induction k generalizing run n with
  | zero => rfl
  | succ k ih =>
      obtain ⟨m, rfl⟩ : ∃ m, n = m + 1 := ⟨n - 1, by omega⟩
      rw [pauses, pauses, List.take_succ_cons, ih _ (by omega)]

theorem extends_waited (sink : Sink σ) (interval : Value) (n : Nat) :
    run.Extends sink (run.pauses sink interval n) (run.waited sink.watched interval n) := by
  induction n generalizing run with
  | zero => exact extends_refl run
  | succ n ih => exact (extends_sleep run sink interval).trans (ih _)

/-- What a look after some waits finds is what the exchanges of these waits have left. -/
theorem look_watched (sink : Sink σ) (interval : Value) (path : String) (n : Nat) :
    run.look sink.watched interval path n =
      replay (run.files.read? path) (history path (run.pauses sink interval n)) :=
  (extends_waited run sink interval n).linked.read? path

/-- How a sleep fails is kept in its exchange. -/
theorem sleepFault_watched (sink : Sink σ) (interval : Value) {k n : Nat} (hk : k < n) :
    (run.pauses sink interval n)[k]?.bind Exchange.fault =
      run.sleepFault sink.watched interval k := by
  induction k generalizing run n with
  | zero =>
      obtain ⟨m, rfl⟩ : ∃ m, n = m + 1 := ⟨n - 1, by omega⟩
      rfl
  | succ k ih =>
      obtain ⟨m, rfl⟩ : ∃ m, n = m + 1 := ⟨n - 1, by omega⟩
      exact ih (run.sleep sink.watched interval).2 (by omega)

theorem fault_of_mem_pauses {sink : Sink σ} {interval : Value} {n : Nat}
    (hslept : ∀ k < n, run.sleepFault sink.watched interval k = none) :
    ∀ e ∈ run.pauses sink interval n, e.fault = none := by
  intro e he
  obtain ⟨k, hk, rfl⟩ := List.mem_iff_getElem.mp he
  have hbound : k < n := by rwa [length_pauses] at hk
  have hnone := (sleepFault_watched run sink interval hbound).trans (hslept k hbound)
  rwa [List.getElem?_eq_getElem hk, Option.bind_some] at hnone

/-- Delivering messages is exchanging them one by one. -/
theorem extends_deliver (sink : Sink σ) (session : String) (messages : List Message) :
    ∃ exchanges outcome,
      run.Extends sink exchanges (run.deliver sink.watched session messages).2 ∧
      Delivered session messages exchanges outcome ∧
      (run.deliver sink.watched session messages).1 =
        match outcome with
        | none => .ok ()
        | some fault => .error fault := by
  induction messages generalizing run with
  | nil => exact ⟨[], none, extends_refl run, .done, rfl⟩
  | cons message messages ih =>
      have hsend := extends_send run sink session message
      have hfst : (run.send sink.watched session message).1 =
          match (sink.send run.state.1 run.files session message).fault with
          | none => .ok ()
          | some fault => .error fault := by
        rw [send_eq]
        rfl
      rcases hsent : run.send sink.watched session message with ⟨outcome, next⟩
      rw [hsent] at hsend hfst
      rw [deliver, hsent]
      cases hfault : (sink.send run.state.1 run.files session message).fault with
      | none =>
          simp only [hfault] at hfst
          subst hfst
          obtain ⟨exchanges, outcome, hextends, hdelivered, hlast⟩ := ih next
          exact ⟨_, outcome, hsend.trans hextends, .taken rfl hfault hdelivered, hlast⟩
      | some fault =>
          simp only [hfault] at hfst
          subst hfst
          exact ⟨_, some fault, hsend, .refused rfl hfault, rfl⟩

end Run

end JuliaBlocks
