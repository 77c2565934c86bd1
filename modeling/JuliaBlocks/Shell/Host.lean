import JuliaBlocks.Pool
import JuliaBlocks.Shell.Execution

/-!
A machine whose processes are shell scripts and the programs they call. A process is run anew from
its start whenever there is something new for it, on the files as they are but for those it has
touched; what it does is determined by that, so it comes to where it had stopped and goes on.
-/

namespace JuliaBlocks.Shell

/-- A process: what was started, what there was at its start, what it was given since, and where it
stopped. -/
structure Job where
  start : Start
  environment : List (String × String)
  executables : List String
  base : Files
  /-- The moment at which it starts to run. -/
  begun : Nat
  /-- The input by the moments of its arrival, the latest first, and the moment of its end. -/
  input : List (Nat × List Char) := []
  ended : Option Nat := none
  /-- The moment up to which it has run. -/
  reached : Option Nat := none
  /-- The moment at which it goes on of itself. -/
  wake : Option Nat := none
  /-- The files that it has touched, as it left them. -/
  touched : List (String × Option (List UInt8)) := []
  output : List Char := []
  listening : Bool := true
  exit : Option Exit := none

/-- Processes: a job, or one that is just there, without input, and ends only when it is waited
for or even then does not. -/
inductive Child
  | job (j : Job)
  | bystander (hanging waited : Bool)

namespace Job

/-- How long a process takes from its start until it runs, and from input until it has it, in
microseconds. -/
def startTime : Nat := 3000

/-- How long input takes until a process has it. -/
def inputTime : Nat := 1000

/-- The files a job runs on: as they are, but its own as they were at its start. -/
def ground (j : Job) (files : Files) : Files :=
  let contents := j.touched.foldl (fun files (path, _) =>
    match j.base.read? path with
    | some content => files.write path content
    | none => files.remove path) files
  let isTouched (path : String) : Bool := (j.touched.lookup path).isSome
  { contents with
    directories := files.directories.filter (!isTouched ·) ++ j.base.directories.filter isTouched }

/-- The next moment at which something happens to a job that was not taken account of. -/
def next? (j : Job) : Option Nat :=
  match j.reached with
  | none => some j.begun
  | some reached =>
    let arrivals := (j.input.map (·.1)) ++ j.ended.toList ++ j.wake.toList
    (arrivals.filter (reached < ·)).min?

/-- The state of a job at its start, with what has come up to a moment. -/
def machine (j : Job) (files : Files) (moment : Nat) : Machine where
  own := {
    name := j.start.name
    scope := j.environment.map fun (name, value) =>
      (name, { value := some (Octets.ofText value), exported := true })
    directory := j.base.working
    clock := j.begun
    number := 2
    shell := 2 }
  shared := {
    input := (j.input.filter (·.1 ≤ moment)).reverse
    ended := j.ended.filter (· ≤ moment)
    limit := moment
    files := j.ground files
    executables := j.executables
    nextNumber := 3 }

/-- The text of what was printed, in the order of the moments. -/
def textOf (printed : List Printed) : List Char :=
  ((printed.reverse.mergeSort fun a b => a.moment ≤ b.moment).map (·.text)).flatten

/-- The changes that a job has made since it ran last: to files, by how it left them then and now,
and to directories. -/
def changes (j : Job) (files : Files) (touched : List (String × Option (List UInt8)))
    (after : Files) : List Change :=
  touched.flatMap fun (path, content) =>
    let isDirectory := after.directories.contains path
    let wasDirectory := files.directories.contains path
    if isDirectory then (if wasDirectory then [] else [Change.makeDirectory path])
    else
      (if wasDirectory then [Change.removeDirectory path] else []) ++
        (if j.touched.lookup path = some content then [] else
          match content with
          | some content => [Change.write path content]
          | none => [Change.remove path])

def run (j : Job) (files : Files) (moment : Nat) : Progress Child :=
  let (ending, m) := (execute j.start).run.run (j.machine files moment)
  -- A job that has ended has ended for good, whatever became of the files it ran on.
  let exit : Option Exit := match j.exit, ending with
    | some e, _ => some e
    | none, .ok e =>
      if e.halt.isSome then none
      else some { code := if e.signal = 0 then e.status else -e.signal, moment := e.clock }
    | none, .error _ => none
  let touched := m.shared.touched.eraseDups.reverse.map fun path =>
    (path, m.shared.files.read? path)
  { state := .job { j with
      reached := some moment, wake := m.shared.wake, touched, exit
      output := textOf m.shared.printed
      listening := m.own.streams.any (·.2 == 0) }
    changes := j.changes files touched m.shared.files }

def proceed (j : Job) (files : Files) (moment : Nat) : Progress Child :=
  match j.next? with
  | some next => if next ≤ moment then j.run files moment else { state := .job j }
  | none => { state := .job j }

end Job

/-- What can be run: the installed programs and other files. -/
def runnable (executables : List String) (files : Files) : Shared where
  files
  executables := executables ++ Program.paths
  nextNumber := 0

/-- The executable that a command names: a path as it is, if it can be run, or else a file in one of
the directories of the search path. -/
def find (executables : List String) (environment : List (String × String)) (files : Files)
    (command : String) : Option String :=
  let places := (environment.lookup "PATH").getD "/bin:/usr/bin"
  if places.isEmpty && !command.toList.contains '/' then none
  else
    match findProgram (runnable executables files) files.working (Octets.ofText places)
        (Octets.ofText command) with
    | .program path => some (Octets.toText path)
    | .denied | .missing => none

/-- The octets of an argument; some halves of surrogate pairs stand for octets. -/
def octetsOf (argument : WideText) : List Char :=
  argument.flatMap fun n =>
    if WideText.isHalf n then [Char.ofNat (n % 256)]
    else Octets.ofText (String.singleton (Char.ofNat n))

def start (executables : List String) (environment : List (String × String)) (files : Files)
    (moment : Nat) (executable : String) (arguments : List WideText) : Except String Child :=
  let s := runnable executables files
  let path := Octets.ofText executable
  match startOf s files.working interpreterLimit path path (arguments.map octetsOf) with
  | .ok start =>
    .ok (.job {
      start, environment, executables := s.executables, base := files
      begun := moment + Job.startTime })
  | .error .missing => .error ("[Errno 2] No such file or directory: " ++ Text.quoted executable)
  | .error .denied => .error ("[Errno 13] Permission denied: " ++ Text.quoted executable)
  | .error .unformatted => .error ("[Errno 8] Exec format error: " ++ Text.quoted executable)

/-- The machine, with the files that may be executed and the environment of processes. -/
def host (executables : List String) (environment : List (String × String)) : Host Child where
  find := find executables environment
  start := start executables environment
  feed
    | .job j, moment, input =>
      let arrival := max j.begun (moment + Job.inputTime)
      .job { j with input := (arrival, Octets.ofBytes input) :: j.input }
    | p, _, _ => p
  finish
    | .job j, moment => .job { j with ended := some (max j.begun (moment + Job.inputTime)) }
    | p, _ => p
  proceed
    | .job j, files, moment => j.proceed files moment
    | p, _, _ => { state := p }
  await
    | .job j, files, moment => j.proceed files moment
    | .bystander hanging _, _, _ => { state := .bystander hanging true }
  next?
    | .job j => j.next?
    | .bystander _ _ => none
  exit?
    | .job j => j.exit
    | .bystander hanging waited => if waited && !hanging then some ⟨0, 0⟩ else none
  hasInput
    | .job _ => true
    | .bystander _ _ => false
  listens
    | .job j => j.listening
    | .bystander _ _ => false
  output
    | .job j => Octets.toBytes j.output
    | .bystander _ _ => []
  kill
    | .job _ => []
    | .bystander _ _ => [(.debug, "session.kill called")]

end JuliaBlocks.Shell
