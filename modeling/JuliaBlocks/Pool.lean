import JuliaBlocks.Log
import JuliaBlocks.Run
import JuliaBlocks.Text.Order
import JuliaBlocks.Text.Wide

/-!
The pool of processes: one for each session name, started when text is first sent to it and fed
through its input. A process that has ended is reported and not started again; only closing the
pool forgets it.
-/

namespace JuliaBlocks

/-- What a process has come to: its new state, and the changes it has made to files. -/
structure Progress (π : Type) where
  state : π
  changes : List Change := []

/-- The end of a process: its code, which is negative for one that a signal ended, and the moment. -/
structure Exit where
  code : Int
  moment : Nat

/-- The machine that processes run on, with states `π` of a process. Moments are in microseconds. -/
structure Host (π : Type) where
  /-- The executable that a command names. -/
  find : Files → (command : String) → Option String
  /-- Starts an executable at a moment, or says why it cannot be started. -/
  start : Files → (moment : Nat) → (executable : String) → (arguments : List WideText) →
    Except String π
  feed : π → (moment : Nat) → List UInt8 → π
  finish : π → (moment : Nat) → π
  /-- Lets time pass up to a moment for a process. -/
  proceed : π → Files → (moment : Nat) → Progress π
  /-- Waits for the end of a process, up to a moment. -/
  await : π → Files → (moment : Nat) → Progress π
  /-- The next moment at which a process does something. -/
  next? : π → Option Nat
  /-- The end of a process that has ended. -/
  exit? : π → Option Exit
  /-- Whether a process was given an input to write to. -/
  hasInput : π → Bool
  /-- Whether a process still has its end of the input open. -/
  listens : π → Bool
  output : π → List UInt8
  /-- Ends a process by force, with the records this gives. -/
  kill : π → List (Level × String)

/-- A pool of processes of one command, in the order in which they were started, with what has
been logged, the moment, and how long a pause lasts. -/
structure Pool (π : Type) where
  command : String
  arguments : List WideText
  sessions : Named π := []
  records : List (Level × String) := []
  clock : Nat := 0
  interval : Nat := 0

namespace Pool

variable {π : Type}

def sessionNames (pool : Pool π) : List String :=
  Text.sortDistinct (pool.sessions.map (·.1))

/-- The text with a line feed at its end. -/
def terminated (text : String) : String :=
  if text.toList.getLast? = some '\n' then text else text ++ "\n"

def log (pool : Pool π) (level : Level) (message : String) : Pool π :=
  { pool with records := pool.records ++ [(level, message)] }

/-- Why arguments cannot be given to a program, if they cannot. Second halves of surrogate pairs up to
a point stand for octets; other halves have no form as octets. -/
def argumentFault? (arguments : List WideText) : Option Failure :=
  arguments.findSome? fun argument =>
    let isFree (n : Nat) : Bool :=
      WideText.isHalf n && !(0xDC80 ≤ n && n < 0xDD00)
    if argument.contains 0 then some .nullCharacter
    else match argument.dropWhile (!isFree ·) with
      | [] => none
      | first :: rest =>
        let start := argument.length - rest.length - 1
        let stop := start + 1 + (rest.takeWhile isFree).length
        some (.unencodable start stop first)

/-- Starts a process for a session. The start is logged before it is tried, so that there is a record
even of one that fails. -/
def spawn (host : Host π) (pool : Pool π) (files : Files) (session : String) :
    Except Failure π × Pool π :=
  match host.find files pool.command with
  | none => (.error (.session (.executableMissing pool.command)), pool)
  | some executable =>
    let pool := pool.log .info ("session.start name=" ++ session ++ " command=" ++ executable)
    match argumentFault? pool.arguments with
    | some failure => (.error failure, pool)
    | none =>
      match host.start files pool.clock executable pool.arguments with
      | .error reason => (.error (.session (.cannotStart session reason)), pool)
      | .ok p => (.ok p, pool)

/-- The process of a session, started and kept if there is none. -/
def process (host : Host π) (pool : Pool π) (files : Files) (session : String) :
    Except Failure π × Pool π :=
  match pool.sessions.lookup session with
  | some p => (.ok p, pool)
  | none =>
    match spawn host pool files session with
    | (.error failure, pool) => (.error failure, pool)
    | (.ok p, pool) => (.ok p, { pool with sessions := Named.put session p pool.sessions })

/-- Why text cannot be written to a process, if it cannot. -/
def refusal (host : Host π) (session : String) (p : π) : Option SessionFault :=
  match host.exit? p with
  | some e => some (.exited session e.code)
  | none =>
    if !host.hasInput p then some (.withoutInput session)
    else if !host.listens p then some (.brokenInput session)
    else none

/-- Sends text to the process of a session. A start that fails leaves the processes as they were. -/
def send (host : Host π) (pool : Pool π) (files : Files) (session text : String) :
    Except Failure Unit × Pool π :=
  match process host pool files session with
  | (.error failure, pool) => (.error failure, pool)
  | (.ok p, pool) =>
    match refusal host session p with
    | some fault => (.error (.session fault), pool)
    | none =>
      let p := host.feed p pool.clock (Text.Utf8.encode (terminated text))
      (.ok (), { pool with sessions := Named.put session p pool.sessions })

/-- Lets time pass up to a moment for all processes. -/
def proceed (host : Host π) (pool : Pool π) (files : Files) (moment : Nat) :
    Pool π × List Change :=
  let (sessions, changes) := pool.sessions.foldl (fun (sessions, changes) (session, p) =>
    -- A process sees what those before it have done to the files.
    let progress := host.proceed p (files.applyAll changes) moment
    (sessions ++ [(session, progress.state)], changes ++ progress.changes)) ([], [])
  ({ pool with sessions, clock := moment }, changes)

/-- How long a pause lasts beyond its interval. -/
def overhead : Nat := 60

def pause (host : Host π) (pool : Pool π) (files : Files) : Pool π × List Change :=
  pool.proceed host files (pool.clock + pool.interval + overhead)

/-- More time than anything takes that ends. -/
def longTime : Nat := 1000000000000

/-- Waits for the end of the process of a session. -/
def await (host : Host π) (pool : Pool π) (files : Files) (session : String) :
    Pool π × List Change :=
  match pool.sessions.lookup session with
  | none => (pool, [])
  | some p =>
    let progress := host.await p files (pool.clock + longTime)
    let clock := match host.exit? progress.state with
      | some e => max pool.clock e.moment
      | none => pool.clock
    ({ pool with clock, sessions := Named.put session progress.state pool.sessions },
      progress.changes)

/-- Lets time pass from one event to the next until a file exists, at most so many. -/
def awaitFile (host : Host π) (path : String) : Nat → Pool π → Files → Pool π × List Change
  | 0, pool, _ => (pool, [])
  | fuel + 1, pool, files =>
    if (files.read? path).isSome then (pool, [])
    else match (pool.sessions.filterMap fun (_, p) => host.next? p).min? with
      | none => (pool, [])
      | some moment =>
        let (pool, changes) := pool.proceed host files (max pool.clock moment)
        let (pool, more) := awaitFile host path fuel pool (files.applyAll changes)
        (pool, changes ++ more)

def outputLines (output : List UInt8) : List String :=
  let lines := Text.lineRuns (Output.decode output)
  let lines := if lines.getLast? = some [] then lines.dropLast else lines
  lines.map String.ofList

/-- The records of the lines that a process has printed. -/
def outputRecords (session : String) (output : List UInt8) : List (Level × String) :=
  (outputLines output).map fun line =>
    (.debug, "session.output name=" ++ session ++ " line=" ++ line)

/-- How long a process may take to end of itself. -/
def graceTime : Nat := 5000000

/-- Ends the process of a session: its input is closed, and if it does not end of itself it is
killed. The moment at which that is done is given too. -/
def shut (host : Host π) (files : Files) (clock : Nat) (session : String) (p : π) :
    List (Level × String) × List Change × Nat :=
  let p := if host.hasInput p then host.finish p clock else p
  let progress := host.await p files (clock + graceTime)
  let printed := outputRecords session (host.output progress.state)
  match host.exit? progress.state with
  | some e => (printed, progress.changes, max clock e.moment)
  | none =>
    (printed ++ (.warning, "session.kill name=" ++ session) :: host.kill progress.state,
      progress.changes, clock + graceTime)

/-- Closes the pool: every process is ended, in the order of their starts, and forgotten. -/
def close (host : Host π) (pool : Pool π) (files : Files) : Pool π × List Change :=
  let (records, changes, clock) := pool.sessions.foldl
    (fun (records, changes, clock) (session, p) =>
      let (more, done, clock) := shut host (files.applyAll changes) clock session p
      (records ++ more, changes ++ done, clock)) ([], [], pool.clock)
  ({ pool with sessions := [], clock, records := pool.records ++ records }, changes)

/-- The pool as the session side of a run. -/
def sink (host : Host π) : Sink (Pool π) where
  send pool files session message :=
    match send host pool files session message.text with
    | (.ok (), pool) => { state := pool }
    | (.error failure, pool) => { state := pool, fault := some failure }
  pause pool files _ :=
    let (pool, changes) := pause host pool files
    { state := pool, changes }

end Pool

end JuliaBlocks
