import JuliaBlocks.Proofs.Run.Exchange
import JuliaBlocks.Proofs.Transport.Names
import JuliaBlocks.Proofs.Transport.Simulation
import Mathlib.Data.List.Nodup

/-!
Runs of the transport, step by step. Main statements: watching the session side changes nothing,
each step creates the next side files or none, and apart from that it leaves the files to the
session side.
-/

namespace JuliaBlocks.Transport

open Exchange Run

variable {σ : Type} {settings : Settings}

theorem plan_files {request : Request} {run : Run σ} {p : Plan}
    (hplan : plan settings request run = .ok p) :
    p.files = run.naming.files (directory settings run.files) (run.created + 1) :=
  (plan_spec hplan).2.2.2

theorem place_sideFiles (run : Run σ) (p : Plan) :
    (place run p).sideFiles = run.sideFiles ++ [p.files] :=
  sideFiles_push (place_events run p)

theorem place_read?_source (run : Run σ) (p : Plan) :
    (place run p).files.read? p.files.source = some (Text.Utf8.encode p.wrapped) :=
  Files.read?_write_self _ _ _

theorem place_read?_output (run : Run σ) {p : Plan} (hnames : p.files.source ≠ p.files.output) :
    (place run p).files.read? p.files.output = some [] := by
  have hother := Files.read?_write_of_ne (run.files.write p.files.output []) hnames.symm
    (Text.Utf8.encode p.wrapped)
  exact hother.trans (Files.read?_write_self _ _ _)

theorem place_read?_of_not_mem (run : Run σ) {p : Plan} {path : String}
    (hpath : path ∉ p.files.names) : (place run p).files.read? path = run.files.read? path := by
  simp only [SideFiles.names, List.mem_cons, List.not_mem_nil, or_false, not_or] at hpath
  exact (Files.read?_write_of_ne _ hpath.1 _).trans (Files.read?_write_of_ne _ hpath.2 _)

section Watched

variable (sink : Sink σ) (observer : Option Observer)

theorem extends_log (run : Run (σ × List Exchange)) (level : Level) (message : String) :
    run.Extends sink [] (run.log level message) :=
  extends_of_events rfl rfl rfl rfl (log_events run level message) rfl

theorem extends_conclude (settings : Settings) (run : Run (σ × List Exchange)) (p : Plan)
    (content : Option (List UInt8)) : run.Extends sink [] (conclude settings p content run) := by
  unfold conclude report
  split
  · exact extends_log sink run _ _
  · split
    · exact extends_log sink run _ _
    · exact extends_refl run

theorem extends_observe (request : Request) (result : String) (run : Run (σ × List Exchange)) :
    run.Extends sink [] (observe observer request result run).2 := by
  cases observer with
  | none => exact extends_refl run
  | some observer =>
      have hnote : run.Extends sink [] (run.note (.observed request result)) :=
        extends_of_events rfl rfl rfl rfl (note_events run _) rfl
      simp only [observe]
      cases observer request result with
      | none => exact hnote
      | some failure => exact hnote

/-- The result of a wait is read off the exchanges of the wait, and so is its failure. -/
theorem extends_collect (settings : Settings) (request : Request) (p : Plan)
    (run : Run (σ × List Exchange)) :
    let look waits := replay (run.files.read? p.files.output) (history p.files.output waits)
    let collected := collect sink.watched settings request p run
    ∃ (waits : List Exchange) (ended : Option Failure), (∀ e ∈ waits, e.message = none) ∧
      Waited look settings.pollAttempts.toNat waits ended ∧
      (collected.1 = match ended with
        | none => .ok (Output.read (look waits) settings.maxLineLength)
        | some failure => .error failure) ∧
      run.Extends sink waits collected.2 := by
  intro look collected
  have hlook (n : Nat) : run.look sink.watched (.float settings.pollInterval) p.files.output n =
      look (run.pauses sink (.float settings.pollInterval) n) :=
    look_watched run sink (.float settings.pollInterval) p.files.output n
  have hlooks (n k : Nat) (hk : k ≤ n) :
      run.look sink.watched (.float settings.pollInterval) p.files.output k =
        look ((run.pauses sink (.float settings.pollInterval) n).take k) := by
    rw [hlook k, take_pauses run sink _ hk]
  have hwaited (n : Nat) : run.Extends sink (run.pauses sink (.float settings.pollInterval) n)
      ((run.log .debug (sentMessage request p)).waited sink.watched
        (.float settings.pollInterval) n) := by
    have hlogged := extends_log sink run .debug (sentMessage request p)
    have hslept := hlogged.trans (extends_waited (run.log .debug (sentMessage request p)) sink
      (.float settings.pollInterval) n)
    rwa [List.nil_append, pauses_congr sink _ (log_state run _ _) (log_files run _ _)] at hslept
  have hcollected := collected_collect sink.watched settings request p run
  change Collected sink.watched settings request p run collected at hcollected
  generalize collected = ended at hcollected
  cases hcollected with
  | @read n content hstops hslept hcontent =>
      refine ⟨run.pauses sink (.float settings.pollInterval) n, none,
        fun e he => message_of_mem_pauses run he, .stopped ?_ ?_, ?_, ?_⟩
      · rw [length_pauses]
        exact hstops.congr fun k hk => congrArg _ (hlooks n k hk).symm
      · exact fault_of_mem_pauses run hslept
      · rw [← hcontent, hlook n]
      · have hconcluded := (hwaited n).trans (extends_conclude sink settings _ p content)
        rwa [List.append_nil] at hconcluded
  | @broken n failure hbreaks =>
      refine ⟨run.pauses sink (.float settings.pollInterval) (n + 1), some failure,
        fun e he => message_of_mem_pauses run he, ?_, rfl, hwaited (n + 1)⟩
      refine .broken (length_pauses run sink _ (n + 1)) (hbreaks.congr ?_ ?_)
      · intro k hk
        rw [hlooks (n + 1) k (by omega)]
      · intro k hk
        exact sleepFault_watched run sink _ (by omega)

/-- An evaluation all of whose messages were taken waits for its output, which its result is read
from unless the wait fails. -/
theorem evaluate_collected {request : Request} {run sent : Run (σ × List Exchange)} {p : Plan}
    {sends : List Exchange} (hplan : plan settings request run = .ok p)
    (hsent : transmit sink.watched settings request p
      { place run p with session := p.ref.name } = (.ok (), sent))
    (hsends : (place run p).Extends sink sends sent) :
    let after := evaluate sink.watched settings observer request run
    let look waits := replay (some []) (history p.files.output (sends ++ waits))
    ∃ (waits : List Exchange) (ended : Option Failure), (∀ e ∈ waits, e.message = none) ∧
      (place run p).Extends sink (sends ++ waits) after.2 ∧
      Waited look settings.pollAttempts.toNat waits ended ∧
      match ended with
      | some failure => after.1 = .error failure
      | none => ∃ collected, after = observe observer request
        (Output.read (look waits) settings.maxLineLength) collected := by
  intro after look
  have hafter := evaluate_eq observer hplan hsent
  obtain ⟨waits, ended, hwaits, hwaited, hcollected, hextends⟩ :=
    extends_collect sink settings request p sent
  have hnames : p.files.source ≠ p.files.output := by
    rw [plan_files hplan]
    exact run.naming.source_ne_output _ _ _
  have hcontent : sent.files.read? p.files.output =
      replay (some []) (history p.files.output sends) := by
    rw [hsends.linked.read? p.files.output, place_read?_output run hnames]
  have hlook (exchanges : List Exchange) : replay (sent.files.read? p.files.output)
      (history p.files.output exchanges) = look exchanges := by
    rw [hcontent, ← replay_append, ← history_append]
  simp only [hlook] at hwaited hcollected
  rcases hcollect : collect sink.watched settings request p sent with ⟨result, final⟩
  rw [hcollect] at hafter hcollected hextends
  have hfinal : (place run p).Extends sink (sends ++ waits)
      { final with session := run.session } := (hsends.trans hextends).bound
  refine ⟨waits, ended, hwaits, ?_, hwaited, ?_⟩
  all_goals simp only at hcollected
  all_goals subst hcollected
  · cases ended with
    | some failure =>
        rw [show after = _ from hafter]
        exact hfinal
    | none =>
        have hobserved := hfinal.trans (extends_observe sink observer request
          (Output.read (look waits) settings.maxLineLength) _)
        rw [List.append_nil] at hobserved
        rw [show after = _ from hafter]
        exact hobserved
  · cases ended with
    | some failure => exact congrArg Prod.fst hafter
    | none => exact ⟨_, hafter⟩

/-- A planned evaluation delivers its messages and, once all of them are taken, waits for its
output, which its result is read from unless the wait fails. -/
theorem evaluate_watched {request : Request} {run : Run (σ × List Exchange)} {p : Plan}
    {messages : List Message} (hplan : plan settings request run = .ok p)
    (hscript : script settings request p = .ok messages) :
    let after := evaluate sink.watched settings observer request run
    ∃ sends waits outcome,
      Delivered p.ref.name messages sends outcome ∧ (∀ e ∈ waits, e.message = none) ∧
      (place run p).Extends sink (sends ++ waits) after.2 ∧
      match outcome with
      | some fault => waits = [] ∧ after.1 = .error fault
      | none =>
        let look waits := replay (some []) (history p.files.output (sends ++ waits))
        ∃ ended, Waited look settings.pollAttempts.toNat waits ended ∧
          match ended with
          | some failure => after.1 = .error failure
          | none => ∃ collected, after = observe observer request
            (Output.read (look waits) settings.maxLineLength) collected := by
  intro after
  obtain ⟨sends, outcome, hsends, hdelivered, houtcome⟩ := extends_deliver
    { place run p with session := p.ref.name } sink p.ref.name messages
  have hsent : transmit sink.watched settings request p { place run p with session := p.ref.name } =
      Run.deliver sink.watched p.ref.name messages { place run p with session := p.ref.name } := by
    rw [transmit_eq, hscript]
  rcases hrun : Run.deliver sink.watched p.ref.name messages
    { place run p with session := p.ref.name } with ⟨result, sent⟩
  rw [hrun] at hsends houtcome hsent
  have hplaced : (place run p).Extends sink sends sent := hsends.bound
  cases outcome with
  | some fault =>
      simp only at houtcome
      subst houtcome
      have hafter : after = (.error fault, { sent with session := run.session }) := by
        simp only [after, evaluate, perform, hplan, hsent]
      refine ⟨sends, [], some fault, hdelivered, by simp, ?_, rfl, by rw [hafter]⟩
      rw [hafter, List.append_nil]
      exact hplaced.bound
  | none =>
      simp only at houtcome
      subst houtcome
      obtain ⟨waits, ended, hwaits, hextends, hwaited⟩ :=
        evaluate_collected sink observer hplan hsent hplaced
      exact ⟨sends, waits, none, hdelivered, hwaits, hextends, ended, hwaited⟩

/-- A planned evaluation leaves the files to the session side once its own are placed. -/
theorem evaluate_extends {request : Request} {run : Run (σ × List Exchange)} {p : Plan}
    (hplan : plan settings request run = .ok p) :
    ∃ exchanges, (place run p).Extends sink exchanges
      (evaluate sink.watched settings observer request run).2 := by
  cases hscript : script settings request p with
  | error failure =>
      refine ⟨[], ?_⟩
      simp only [evaluate, perform, hplan, transmit_eq, hscript]
      exact (extends_refl (place run p)).bound
  | ok messages =>
      obtain ⟨sends, waits, _, _, _, hextends, _⟩ :=
        evaluate_watched sink observer hplan hscript
      exact ⟨sends ++ waits, hextends⟩

end Watched

/-! Steps and runs of them. -/

/-- A step of a run. -/
inductive Step
  | evaluate (request : Request)
  | loadSession (request : Request)
  | prepSession (key : Option String) (bindings : List (String × Value))

/-- Takes a step. -/
def Step.run (sink : Sink σ) (settings : Settings) (observer : Option Observer) :
    Step → Run σ → Run σ
  | .evaluate request, run => (Transport.evaluate sink settings observer request run).2
  | .loadSession request, run => (Transport.loadSession sink settings request run).2
  | .prepSession key bindings, run => (Transport.prepSession sink settings key bindings run).2

/-- Takes steps in order. -/
def runSteps (sink : Sink σ) (settings : Settings) (observer : Option Observer)
    (steps : List Step) (run : Run σ) : Run σ :=
  steps.foldl (fun run step => step.run sink settings observer run) run

/-- The exchanges of a step. -/
def Step.exchanges (sink : Sink σ) (settings : Settings) (observer : Option Observer)
    (step : Step) (run : Run σ) : List Exchange :=
  (step.run sink.watched settings observer run.watch).state.2

/-- The exchanges of steps in order. -/
def exchangesOver (sink : Sink σ) (settings : Settings) (observer : Option Observer) :
    List Step → Run σ → List Exchange
  | [], _ => []
  | step :: steps, run => step.exchanges sink settings observer run ++
      exchangesOver sink settings observer steps (step.run sink settings observer run)

section Runs

variable (sink : Sink σ) (settings : Settings) (observer : Option Observer)

/-- An evaluation comes to the same when it is watched. -/
theorem evaluate_eq_watched (request : Request) (run : Run σ) :
    evaluate sink settings observer request run = Prod.map id (mapState Prod.fst)
      (evaluate sink.watched settings observer request run.watch) :=
  evaluate_mapState sink.watched_simulates observer request run.watch

/-- A step is taken the same way when it is watched. -/
theorem Step.run_watched (step : Step) (run : Run σ) :
    (step.run sink.watched settings observer run.watch).mapState Prod.fst =
      step.run sink settings observer run := by
  have hsim := sink.watched_simulates
  cases step with
  | evaluate request =>
      exact (congrArg Prod.snd (evaluate_eq_watched sink settings observer request run)).symm
  | loadSession request =>
      exact (congrArg Prod.snd (loadSession_mapState hsim request run.watch)).symm
  | prepSession key bindings =>
      exact (congrArg Prod.snd (prepSession_mapState hsim key bindings run.watch)).symm

/-- The run that a step sets out from once it has created side files, if it creates any. -/
def Placed (settings : Settings) (run placed : Run σ) : Prop :=
  placed = run ∨ ∃ request p, plan settings request run = .ok p ∧ placed = place run p

theorem Step.extends_run (step : Step) (run : Run (σ × List Exchange)) :
    ∃ placed exchanges, Placed settings run placed ∧
      placed.Extends sink exchanges (step.run sink.watched settings observer run) := by
  -- A step that gives a session something to run sends it or does nothing.
  have hsource {after : Run (σ × List Exchange)}
      (hcases : after = run ∨ ∃ session text,
        after = (run.send sink.watched session (.source text)).2) :
      ∃ placed exchanges, Placed settings run placed ∧ placed.Extends sink exchanges after := by
    rcases hcases with rfl | ⟨session, text, rfl⟩
    · exact ⟨after, [], Or.inl rfl, extends_refl after⟩
    · exact ⟨run, _, Or.inl rfl, extends_send run sink session (.source text)⟩
  cases step with
  | loadSession request => exact hsource (loadSession_sends request run)
  | prepSession key bindings => exact hsource (prepSession_sends key bindings run)
  | evaluate request =>
      cases hplan : plan settings request run with
      | error failure =>
          refine ⟨run, [], Or.inl rfl, ?_⟩
          simp only [Step.run, Transport.evaluate, perform, hplan]
          exact extends_refl run
      | ok p =>
          obtain ⟨exchanges, hextends⟩ := evaluate_extends sink observer hplan
          exact ⟨place run p, exchanges, Or.inr ⟨request, p, hplan, rfl⟩, hextends⟩

/-- What a step does: it creates the next side files or none, and from there on only its exchanges
change the files. -/
theorem Step.spec (step : Step) (run : Run σ) :
    let after := step.run sink settings observer run
    ∃ placed, Placed settings run placed ∧
      Linked placed.files (step.exchanges sink settings observer run) after.files ∧
      after.naming = placed.naming ∧ after.created = placed.created ∧
      after.sideFiles = placed.sideFiles := by
  intro after
  obtain ⟨placed, exchanges, hplaced, hextends⟩ :=
    step.extends_run sink settings observer run.watch
  have hafter : after = (step.run sink.watched settings observer run.watch).mapState Prod.fst :=
    (step.run_watched sink settings observer run).symm
  have hlog : step.exchanges sink settings observer run = exchanges := by
    have hstart : placed.state.2 = [] := by
      rcases hplaced with rfl | ⟨request, p, _, rfl⟩
      · rfl
      · rfl
    rw [Step.exchanges, hextends.log, hstart, List.nil_append]
  refine ⟨placed.mapState Prod.fst, ?_, ?_, ?_, ?_, ?_⟩
  · rcases hplaced with rfl | ⟨request, p, hplan, rfl⟩
    · exact Or.inl rfl
    · exact Or.inr ⟨request, p, hplan, rfl⟩
  · rw [hlog, hafter]
    exact hextends.linked
  · rw [hafter]
    exact hextends.naming
  · rw [hafter]
    exact hextends.created
  · rw [hafter]
    exact hextends.sideFiles

theorem evaluate_linked {request : Request} {run : Run σ} {p : Plan}
    (hplan : plan settings request run = .ok p) :
    let evaluation := Step.evaluate request
    let after := evaluation.run sink settings observer run
    Linked (place run p).files (evaluation.exchanges sink settings observer run) after.files ∧
      after.created = run.created + 1 := by
  intro evaluation after
  have hwatched : plan settings request run.watch = .ok p := hplan
  obtain ⟨exchanges, hextends⟩ := evaluate_extends sink observer hwatched
  have hlog : evaluation.exchanges sink settings observer run = exchanges := hextends.log
  rw [hlog, show after = _ from (evaluation.run_watched sink settings observer run).symm]
  exact ⟨hextends.linked, hextends.created⟩

theorem Step.naming_run (step : Step) (run : Run σ) :
    (step.run sink settings observer run).naming = run.naming := by
  obtain ⟨placed, hplaced, _, hnaming, _⟩ := step.spec sink settings observer run
  rw [hnaming]
  rcases hplaced with rfl | ⟨_, p, _, rfl⟩
  · rfl
  · rfl

/-- Side files are always created in the same directory. -/
theorem Step.directory_run (step : Step) (run : Run σ) :
    directory settings (step.run sink settings observer run).files =
      directory settings run.files := by
  obtain ⟨placed, hplaced, hlinked, _⟩ :=
    step.spec sink settings observer run
  have hstart : placed.files.working = run.files.working ∧
      placed.files.temporary = run.files.temporary := by
    rcases hplaced with rfl | ⟨_, p, _, rfl⟩
    · exact ⟨rfl, rfl⟩
    · exact ⟨rfl, rfl⟩
  obtain ⟨hworking, htemporary⟩ := hlinked.places
  simp only [directory, hworking, htemporary, hstart.1, hstart.2]

theorem directory_runSteps (steps : List Step) (run : Run σ) :
    directory settings (runSteps sink settings observer steps run).files =
      directory settings run.files := by
  induction steps generalizing run with
  | nil => rfl
  | cons step steps ih =>
      have hrest := ih (step.run sink settings observer run)
      exact hrest.trans (step.directory_run sink settings observer run)

/-- The side files of a run are numbered in the order of their creation. -/
def Accounted (directory : String) (run : Run σ) : Prop :=
  run.sideFiles = (List.range run.created).map fun n => run.naming.files directory (n + 1)

theorem Step.accounted_run (step : Step) {run : Run σ}
    (haccounted : Accounted (directory settings run.files) run) :
    Accounted (directory settings run.files) (step.run sink settings observer run) := by
  obtain ⟨placed, hplaced, _, _, hcreated, hsideFiles⟩ :=
    step.spec sink settings observer run
  rw [Accounted, hcreated, hsideFiles, step.naming_run sink settings observer run]
  rcases hplaced with rfl | ⟨_, p, hplan, rfl⟩
  · exact haccounted
  · have hcount : (place run p).created = run.created + 1 := rfl
    rw [place_sideFiles, hcount, List.range_succ, List.map_append, haccounted, plan_files hplan]
    rfl

theorem accounted_runSteps (steps : List Step) {run : Run σ}
    (haccounted : Accounted (directory settings run.files) run) :
    Accounted (directory settings run.files) (runSteps sink settings observer steps run) := by
  induction steps generalizing run with
  | nil => exact haccounted
  | cons step steps ih =>
      have hnext := step.accounted_run sink settings observer haccounted
      rw [← step.directory_run sink settings observer run] at hnext ⊢
      exact ih hnext

theorem naming_runSteps (steps : List Step) (run : Run σ) :
    (runSteps sink settings observer steps run).naming = run.naming := by
  induction steps generalizing run with
  | nil => rfl
  | cons step steps ih => exact (ih _).trans (step.naming_run sink settings observer run)

/-- In a run from the start, side files are created in one directory and numbered in order. -/
theorem accounted_from_start (steps : List Step) (state : σ) (files : Files) (naming : Naming) :
    let run := runSteps sink settings observer steps { state, files, naming }
    directory settings run.files = directory settings files ∧ run.naming = naming ∧
      Accounted (directory settings files) run := by
  have hempty : Accounted (directory settings files) ({ state, files, naming } : Run σ) := rfl
  refine ⟨?_, ?_, ?_⟩
  · exact directory_runSteps sink settings observer steps _
  · exact naming_runSteps sink settings observer steps _
  · exact accounted_runSteps sink settings observer steps hempty

/-- No two side files of a run have the same name. -/
theorem Accounted.nodup_names {directory : String} {run : Run σ}
    (haccounted : Accounted directory run) : (run.sideFiles.flatMap SideFiles.names).Nodup := by
  rw [haccounted, List.flatMap_map, List.nodup_flatMap]
  constructor
  · intro n _
    simp [SideFiles.names, Naming.source_ne_output]
  · have hdistinct := List.nodup_range (n := run.created)
    refine hdistinct.imp ?_
    intro m n hne
    exact run.naming.names_disjoint (by omega)

/-- Once side files are created, a step leaves them to the session side. -/
theorem Step.read?_sideFile (step : Step) {run : Run σ} {number : Nat} {path : String}
    (hnumber : number ≤ run.created)
    (hpath : path ∈ (run.naming.files (directory settings run.files) number).names) :
    (step.run sink settings observer run).files.read? path =
      replay (run.files.read? path)
        (history path (step.exchanges sink settings observer run)) := by
  obtain ⟨placed, hplaced, hlinked, _⟩ :=
    step.spec sink settings observer run
  have hstart : placed.files.read? path = run.files.read? path := by
    rcases hplaced with rfl | ⟨_, p, hplan, rfl⟩
    · rfl
    · apply place_read?_of_not_mem
      rw [plan_files hplan]
      intro hother
      exact run.naming.names_disjoint (by omega) hpath hother
  rw [hlinked.read? path, hstart]

theorem Step.created_le (step : Step) (run : Run σ) :
    run.created ≤ (step.run sink settings observer run).created := by
  obtain ⟨placed, hplaced, _, _, hcreated, _⟩ :=
    step.spec sink settings observer run
  rw [hcreated]
  rcases hplaced with rfl | ⟨_, p, _, rfl⟩
  · exact Nat.le_refl _
  · exact Nat.le_succ _

theorem created_le_runSteps (steps : List Step) (run : Run σ) :
    run.created ≤ (runSteps sink settings observer steps run).created := by
  induction steps generalizing run with
  | nil => exact Nat.le_refl _
  | cons step steps ih => exact Nat.le_trans (step.created_le sink settings observer run) (ih _)

/-- In the rest of a run a side file changes by its own history in the exchanges, and not
otherwise. -/
theorem read?_runSteps (steps : List Step) {run : Run σ} {number : Nat} {path : String}
    (hnumber : number ≤ run.created)
    (hpath : path ∈ (run.naming.files (directory settings run.files) number).names) :
    (runSteps sink settings observer steps run).files.read? path =
      replay (run.files.read? path)
        (history path (exchangesOver sink settings observer steps run)) := by
  induction steps generalizing run with
  | nil => rfl
  | cons step steps ih =>
      have hlater : path ∈ ((step.run sink settings observer run).naming.files
          (directory settings (step.run sink settings observer run).files) number).names := by
        rwa [step.directory_run sink settings observer run,
          step.naming_run sink settings observer run]
      have hnext := ih (Nat.le_trans hnumber (step.created_le sink settings observer run)) hlater
      rw [exchangesOver, history_append, replay_append,
        ← step.read?_sideFile sink settings observer hnumber hpath]
      exact hnext

end Runs

end JuliaBlocks.Transport
