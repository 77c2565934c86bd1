import JuliaBlocks.Proofs.Pool.Recording
import JuliaBlocks.Proofs.Text.Order
import Mathlib.Data.List.DropRight

/-!
A pool shares its processes among sessions without loss or mixing: the process of a session is given
the texts sent to it since the pool was last closed, in order, and nothing else. Main statement:
`input_multiplexed`.
-/

namespace JuliaBlocks

variable {π : Type}

/-- Whether a process has not ended. -/
def Host.runs (host : Host π) (p : π) : Bool :=
  (host.exit? p).isNone

/-- Whether a process has an input and keeps it open. -/
def Host.takesInput (host : Host π) (p : π) : Bool :=
  host.hasInput p && host.listens p

namespace Pool

/-- The acts up to the last closing. -/
def untilClose (acts : List Act) : List Act :=
  acts.rdropWhile (!·.isClose)

/-- The acts after the last closing. -/
def sinceClose (acts : List Act) : List Act :=
  acts.rtakeWhile (!·.isClose)

variable (host : Host π)

namespace Act

/-- Whether the process that a send goes to, which its session has or which is started for it, passes
a test. -/
def finds (test : π → Bool) (act : Act) (world : World π) : Bool :=
  match act with
  | send session _ =>
    match (world.pool.process host world.files session).1 with
    | .ok p => test p
    | .error _ => false
  | _ => true

/-- The text that an act sends to a session. -/
def textFor? (session : String) : Act → Option String
  | send name text => if name = session then some text else none
  | _ => none

/-- The text that an act sends to a session without failing, if there is one. -/
def taken (session : String) (act : Act) (world : World π) : List String :=
  if (act.take host world).1.isOk then (act.textFor? session).toList else []

end Act

/-- The texts sent to a session in a run, without those that the send failed for. -/
def taken (session : String) (acts : List Act) (world : World π) : List String :=
  (visits host acts world).flatMap fun visit => visit.1.taken host session visit.2

/-- What the process of a session was given. -/
def input (session : String) (pool : Pool (π × List UInt8)) : List UInt8 :=
  ((pool.sessions.lookup session).map Prod.snd).getD []

section Input

variable {host} {pool after : Pool (π × List UInt8)} {files : Files} {session : String}

theorem Ready.input_eq {p : π × List UInt8} {ready : Pool (π × List UInt8)}
    (hready : Ready host.recorded pool files session p ready) : p.2 = input session pool := by
  cases hready with
  | kept hlookup => rw [input, hlookup, Option.map_some, Option.getD_some]
  | started habsent hspawn =>
      obtain ⟨executable, _, hstart⟩ := (startable_of_spawn hspawn).found
      rw [input, habsent, Option.map_none, Option.getD_none]
      simp only [Host.recorded] at hstart
      cases hplain : host.start files pool.clock executable pool.arguments with
      | error reason =>
          rw [hplain] at hstart
          cases hstart
      | ok q =>
          rw [hplain] at hstart
          cases hstart
          rfl

theorem Sent.input_eq {text : String} {outcome : Except Failure Unit}
    (hsent : Sent host.recorded pool files session text outcome after) :
    input session after = input session pool ++
      if outcome.isOk then Text.Utf8.encode (terminated text) else [] := by
  cases hsent with
  | unstarted =>
      rw [input, spawn_sessions]
      exact (List.append_nil _).symm
  | refused hready =>
      rw [← hready.input_eq, input, hready.lookup_eq]
      exact (List.append_nil _).symm
  | taken hready =>
      rw [← hready.input_eq, input, Named.lookup_put_self]
      rfl

/-- The passing of time gives no input. -/
theorem proceed_input (moment : Nat) :
    input session (proceed host.recorded pool files moment).1 = input session pool := by
  have hrel := proceed_lookup host.recorded pool files moment session
  rw [input, input]
  generalize pool.sessions.lookup session = before at hrel ⊢
  generalize (proceed ..).1.sessions.lookup session = later at hrel ⊢
  cases hrel with
  | none => rfl
  | some hproceeds =>
      obtain ⟨files, hlater⟩ := hproceeds
      rw [hlater]
      rfl

/-- Between two closings the process of a session is given what is sent to the session, and nothing
else. -/
theorem take_input {act : Act} {world : World (π × List UInt8)} (hopen : act.isClose = false)
    (session : String) : input session (act.take host.recorded world).2.pool =
      input session world.pool ++ (act.taken host.recorded session world).flatMap fun text =>
        Text.Utf8.encode (terminated text) := by
  cases act with
  | send name text =>
      have hsent := send_spec host.recorded world.pool world.files name text
      by_cases hname : name = session
      · subst hname
        have htaken : (Act.send name text).taken host.recorded name world =
            if (send host.recorded world.pool world.files name text).1.isOk then [text]
            else [] := by
          rw [Act.taken, Act.textFor?, if_pos rfl]
          rfl
        have hpool : ((Act.send name text).take host.recorded world).2.pool =
            (send host.recorded world.pool world.files name text).2 := rfl
        rw [hpool, hsent.input_eq, htaken]
        split <;> simp
      · have htaken : (Act.send name text).taken host.recorded session world = [] := by
          simp [Act.taken, Act.textFor?, hname]
        have hlookup := hsent.lookup_of_ne (Ne.symm hname)
        rw [htaken, input, input]
        simp only [Act.take, hlookup]
        exact (List.append_nil _).symm
  | close => cases hopen
  | elapse moment =>
      exact (proceed_input moment).trans (List.append_nil _).symm
  | alter changes => exact (List.append_nil _).symm

end Input

section Runs

variable {host} {acts : List Act}

theorem input_runActs {world : World (π × List UInt8)} (hopen : ∀ act ∈ acts, act.isClose = false)
    (session : String) : input session (runActs host.recorded acts world).pool =
      input session world.pool ++ (taken host.recorded session acts world).flatMap
        fun text => Text.Utf8.encode (terminated text) := by
  induction acts generalizing world with
  | nil => exact (List.append_nil _).symm
  | cons act rest ih =>
      have hrest := @ih (act.take host.recorded world).2 fun a ha => hopen a (.tail _ ha)
      rw [take_input (hopen act (.head _)), List.append_assoc, ← List.flatMap_append] at hrest
      exact hrest

theorem taken_recorded (session : String) (acts : List Act) (world : World (π × List UInt8)) :
    taken host session acts world.unrecorded = taken host.recorded session acts world := by
  induction acts generalizing world with
  | nil => rfl
  | cons act rest ih =>
      have hact : act.taken host session world.unrecorded =
          act.taken host.recorded session world := by
        rw [Act.taken, take_recorded, Act.taken]
      have hrest := ih (act.take host.recorded world).2
      rw [taken, visits, List.flatMap_cons, take_recorded, ← taken, hact, hrest]
      rfl

variable {world : World π}

theorem taken_eq_of_isOk (hok : ∀ visit ∈ visits host acts world, (visit.1.take host visit.2).1.isOk)
    (session : String) : taken host session acts world = acts.filterMap (Act.textFor? session) := by
  induction acts generalizing world with
  | nil => rfl
  | cons act rest ih =>
      have hrest := ih fun visit hvisit => hok visit (.tail _ hvisit)
      have hact : act.taken host session world = (act.textFor? session).toList :=
        if_pos (hok (act, world) (.head _))
      rw [taken, visits, List.flatMap_cons, ← taken, hact, hrest, List.filterMap_cons]
      cases act.textFor? session <;> rfl

theorem ready_of_finds {test : π → Bool} {session text : String}
    (hfinds : (Act.send session text).finds host test world) :
    ∃ p ready, Ready host world.pool world.files session p ready ∧ test p := by
  rcases process_spec host world.pool world.files session with
    ⟨p, ready, hready⟩ | ⟨habsent, failure, hspawn⟩
  · rw [Act.finds, hready.process_eq] at hfinds
    exact ⟨p, ready, hready, hfinds⟩
  · rw [Act.finds, process_eq_of_unstarted habsent hspawn] at hfinds
    cases hfinds

/-- A send to a process that has not ended fails exactly if the process takes no input. -/
theorem take_isOk {act : Act} (hruns : act.finds host host.runs world) :
    (act.take host world).1.isOk = act.finds host host.takesInput world := by
  cases act with
  | send session text =>
      obtain ⟨p, ready, hready, hp⟩ := ready_of_finds hruns
      have hlives : host.exit? p = none := Option.isNone_iff_eq_none.mp hp
      rw [Act.finds, hready.process_eq, Act.take, send, hready.process_eq]
      simp only [refusal, hlives, Host.takesInput]
      cases host.hasInput p <;> cases host.listens p <;> rfl
  | close | elapse | alter => rfl

theorem mem_take_names {act : Act} (hopen : act.isClose = false)
    (hruns : act.finds host host.runs world) {name : String} :
    name ∈ (act.take host world).2.pool.names ↔
      name ∈ world.pool.names ∨ act.recipient? = some name := by
  cases act with
  | send session text =>
      obtain ⟨p, ready, hready, -⟩ := ready_of_finds hruns
      have hthere : session ∈ ((Act.send session text).take host world).2.pool.names := by
        rw [take_names hopen, Act.started, ← hready.names_eq]
        exact mem_names_of_lookup hready.lookup_eq
      constructor
      · intro hname
        rw [take_names hopen, Act.started] at hname
        rcases List.mem_append.mp hname with hname | hname
        · exact .inl hname
        · split at hname
          · cases List.mem_singleton.mp hname
            exact .inr rfl
          · cases hname
      · rintro (hname | hname)
        · rw [take_names hopen]
          exact List.mem_append_left _ hname
        · cases hname
          exact hthere
  | close => cases hopen
  | elapse | alter =>
      rw [take_names hopen]
      simp [Act.started, Act.recipient?]

theorem mem_names_runActs (hopen : ∀ act ∈ acts, act.isClose = false)
    (hruns : ∀ visit ∈ visits host acts world, visit.1.finds host host.runs visit.2)
    {name : String} : name ∈ (runActs host acts world).pool.names ↔
      name ∈ world.pool.names ∨ name ∈ acts.filterMap Act.recipient? := by
  induction acts generalizing world with
  | nil => simp [runActs]
  | cons act rest ih =>
      have hrest := @ih (act.take host world).2 (fun a ha => hopen a (.tail _ ha))
        fun visit hvisit => hruns visit (.tail _ hvisit)
      have hcons : runActs host (act :: rest) world = runActs host rest (act.take host world).2 :=
        rfl
      rw [hcons, hrest, mem_take_names (hopen act (.head _)) (hruns (act, world) (.head _)),
        List.mem_filterMap, List.mem_filterMap]
      simp only [List.mem_cons, exists_eq_or_imp, or_assoc]

theorem sessions_untilClose (hfresh : world.pool.sessions = []) :
    (runActs host (untilClose acts) world).pool.sessions = [] := by
  by_cases hnil : untilClose acts = []
  · rw [hnil]
    exact hfresh
  · have hlast : (untilClose acts).getLast hnil = .close := by
      have hnot := List.rdropWhile_last_not _ _ hnil
      rw [Bool.not_eq_true, Bool.not_eq_false'] at hnot
      exact Act.eq_close_of_isClose hnot
    rw [← List.dropLast_concat_getLast hnil, hlast, runActs_append]
    rfl

end Runs

theorem terminated_eq (text : String) :
    terminated text = if ['\n'] <:+ text.toList then text else text ++ "\n" := by
  have hends : text.toList.getLast? = some '\n' ↔ ['\n'] <:+ text.toList := by
    rw [List.getLast?_eq_some_iff]
    constructor
    · rintro ⟨front, hfront⟩
      exact ⟨front, hfront.symm⟩
    · rintro ⟨front, hfront⟩
      exact ⟨front, hfront.symm⟩
  simp only [terminated, hends]

/-- Texts are sent to a pool and it is closed in any order, and since the last closing processes
start and do not end. Then the sessions that have a process are those that texts were sent to, and
each process was given these texts in their order, each with a line feed at its end, and nothing
else. A text is lost only with a failure, that of a send to a process which has closed its input. -/
theorem input_multiplexed (world : World π) (hfresh : world.pool.sessions = []) (acts : List Act)
    (halive : ∀ visit ∈ visits host (sinceClose acts) (runActs host (untilClose acts) world),
      visit.1.finds host host.runs visit.2) :
    let start := runActs host (untilClose acts) world
    let reached := runActs host.recorded acts world.recording
    reached.unrecorded = runActs host acts world ∧
    (∀ session,
      (reached.pool.sessions.lookup session).map Prod.snd =
        if session ∈ (sinceClose acts).filterMap Act.recipient? then
          some ((taken host session (sinceClose acts) start).flatMap fun text =>
            Text.Utf8.encode (if ['\n'] <:+ text.toList then text else text ++ "\n"))
        else none) ∧
    (∀ visit ∈ visits host (sinceClose acts) start,
      (visit.1.take host visit.2).1.isOk = visit.1.finds host host.takesInput visit.2) ∧
    ((∀ visit ∈ visits host (sinceClose acts) start, visit.1.finds host host.takesInput visit.2) →
      ∀ session, taken host session (sinceClose acts) start =
        (sinceClose acts).filterMap (Act.textFor? session)) ∧
    reached.pool.sessionNames.Pairwise (· < ·) ∧
    ∀ name, name ∈ reached.pool.sessionNames ↔
      name ∈ (sinceClose acts).filterMap Act.recipient? := by
  intro start reached
  -- The run is parted where the pool was last closed, and there are no processes.
  let middle := runActs host.recorded (untilClose acts) world.recording
  have hopen : ∀ act ∈ sinceClose acts, act.isClose = false := by
    intro act hact
    have hnot := List.mem_rtakeWhile_imp hact
    rwa [Bool.not_eq_true'] at hnot
  have hparts : reached = runActs host.recorded (sinceClose acts) middle := by
    rw [← runActs_append, untilClose, sinceClose, List.rdropWhile_append_rtakeWhile]
  have hstart : middle.unrecorded = start := by
    rw [← runActs_recorded, unrecorded_recording]
  have hmiddle : middle.pool.sessions = [] := by
    apply sessions_untilClose
    simp [World.recording, hfresh]
  have hnames (name : String) : name ∈ reached.pool.names ↔
      name ∈ (sinceClose acts).filterMap Act.recipient? := by
    have hsince : name ∈ (runActs host (sinceClose acts) start).pool.names ↔
        name ∈ start.pool.names ∨ name ∈ (sinceClose acts).filterMap Act.recipient? :=
      mem_names_runActs hopen halive
    have hnone : start.pool.names = [] := by
      rw [names, sessions_untilClose hfresh, List.map_nil]
    have hend : (runActs host (sinceClose acts) start).pool.names = reached.pool.names := by
      rw [← hstart, runActs_recorded, ← hparts]
      exact unrecorded_names reached.pool
    rw [hnone, hend] at hsince
    simpa using hsince
  have hinput (session : String) : input session reached.pool =
      (taken host session (sinceClose acts) start).flatMap
        fun text => Text.Utf8.encode (terminated text) := by
    rw [hparts, input_runActs hopen, ← hstart, taken_recorded, input, hmiddle]
    rfl
  have hisOk : ∀ visit ∈ visits host (sinceClose acts) start,
      (visit.1.take host visit.2).1.isOk = visit.1.finds host host.takesInput visit.2 :=
    fun visit hvisit => take_isOk (halive visit hvisit)
  refine ⟨?_, ?_, hisOk, ?_, Text.sortDistinct_increasing _, ?_⟩
  · rw [← runActs_recorded, unrecorded_recording]
  · intro session
    simp only [← terminated_eq, ← hinput]
    split
    · next hsent =>
      cases hlookup : reached.pool.sessions.lookup session with
      | none => exact absurd ((hnames session).mpr hsent) (lookup_eq_none_iff.mp hlookup)
      | some p => simp [input, hlookup]
    · next hunsent =>
      rw [lookup_eq_none_iff.mpr fun hname => hunsent ((hnames session).mp hname)]
      rfl
  · intro htakes session
    apply taken_eq_of_isOk
    intro visit hvisit
    rw [hisOk visit hvisit]
    exact htakes visit hvisit
  · intro name
    exact Text.mem_sortDistinct.trans (hnames name)

/-- Two sessions whose texts are sent in turns, after a closing. -/
theorem input_multiplexed_turns :
    let acts : List Act := [.send "a" "0", .send "c" "", .close, .send "b" "x", .send "a" "1",
      .elapse 7, .send "a" "2\n", .send "b" ""]
    let world : World Nat := {
      pool := { command := "/julia", arguments := [] }
      files := { contents := [("/julia", [])] } }
    let reached := runActs (counter 9).recorded acts world.recording
    (reached.pool.sessions.lookup "a").map Prod.snd = some (Text.Utf8.encode "1\n2\n") ∧
    (reached.pool.sessions.lookup "b").map Prod.snd = some (Text.Utf8.encode "x\n\n") ∧
    "a" ∈ reached.pool.sessionNames ∧ "c" ∉ reached.pool.sessionNames := by
  intro acts world reached
  obtain ⟨-, hinput, -, -, -, hnames⟩ :=
    input_multiplexed (counter 9) world rfl acts (by decide +kernel)
  refine ⟨?_, ?_, ?_, ?_⟩
  · rw [hinput "a"]
    decide +kernel
  · rw [hinput "b"]
    decide +kernel
  · rw [hnames "a"]
    decide
  · rw [hnames "c"]
    decide

end Pool

end JuliaBlocks
