import JuliaBlocks.Shell.Awk
import JuliaBlocks.Shell.Program
import JuliaBlocks.Shell.Script

/-!
Starting programs: finding the file of a name, what runs that file, the shell as a program, and the
programs that run others.
-/

namespace JuliaBlocks.Shell

/-! ## Finding -/

/-- What a name leads to when it is to be run: a path, or nothing that can be run. -/
inductive Found
  | program (path : List Char)
  | denied
  | missing
deriving DecidableEq

/-- What a path leads to when it is to be run. -/
def foundAt (s : Shared) (directory : String) (name : List Char) : Found :=
  match placeNamed s directory name with
  | .file _ =>
    if s.executables.contains (Path.place directory (Octets.toText name)) then .program name
    else .denied
  | .directory | .device _ | .stream _ => .denied
  | .vacant | .fault _ => .missing

/-- What a name leads to in the directories of a search path, unless the name is a path itself. -/
def findProgram (s : Shared) (directory : String) (places : List Char) (name : List Char) : Found :=
  if name.contains '/' then foundAt s directory name
  else
    let found := (Text.pieces (· == ':') places).map fun d =>
      foundAt s directory (if d.isEmpty then name else d ++ '/' :: name)
    let isProgram (f : Found) : Bool := match f with
      | .program _ => true
      | _ => false
    match found.find? isProgram with
    | some f => f
    | none => if found.contains .denied then .denied else .missing

/-- What a name leads to for a part; the search path may be missing. -/
def findCommand (name : List Char) (usual : List Char := []) : Exec Found := do
  let o ← own
  return findProgram (← shared) o.directory ((o.value? "PATH").getD usual) name

/-! ## Starting -/

/-- Why a file cannot be started: it or its interpreter is missing or not to be run, or it has no
form that can be run. -/
inductive StartFault
  | missing
  | denied
  | unformatted
deriving DecidableEq

/-- A program with the name that it is called by, and its arguments. -/
structure Start where
  program : String
  name : List Char
  arguments : List (List Char)

/-- The interpreter that the first line of a file names, and the argument for it. -/
def interpreter? (content : List Char) : Option (List Char × Option (List Char)) :=
  match content.takeWhile (· != '\n') with
  | '#' :: '!' :: line =>
    let line := (line.dropWhile isSpace).reverse.dropWhile isSpace |>.reverse
    let name := line.takeWhile (!isSpace ·)
    let rest := (line.drop name.length).dropWhile isSpace
    if name.isEmpty then none else some (name, if rest.isEmpty then none else some rest)
  | _ => none

def interpreterLimit : Nat := 5

/-- What is started for a file. -/
def startOf (s : Shared) (directory : String) : Nat → (path name : List Char) →
    List (List Char) → Except StartFault Start
  | 0, _, _, _ => .error .denied
  | fuel + 1, path, name, arguments =>
    match foundAt s directory path with
    | .missing => .error .missing
    | .denied => .error .denied
    | .program _ =>
      let key := Path.place directory (Octets.toText path)
      match Program.ofPath? key with
      | some program => .ok { program, name, arguments }
      | none =>
        match interpreter? (Octets.ofBytes ((s.files.read? key).getD [])) with
        | some (interpreter, argument) =>
          startOf s directory fuel interpreter interpreter (argument.toList ++ path :: arguments)
        | none => .error .unformatted

/-- What is started for the file that a name was found to be. A file without a form that can be run
is a script for the shell. -/
def startFound (s : Shared) (directory : String) (found : Found) (name : List Char)
    (arguments : List (List Char)) : Except StartFault Start :=
  match found with
  | .missing => .error .missing
  | .denied => .error .denied
  | .program path =>
    match startOf s directory interpreterLimit path name arguments with
    | .error .unformatted =>
      .ok { program := "sh", name := "/bin/sh".toList, arguments := path :: arguments }
    | start => start

/-- The state that a program starts with. -/
def Own.enter (o : Own) (name : List Char) : Own where
  name
  scope := o.scope.filter fun (_, v) => v.exported && v.value.isSome
  streams := o.streams
  directory := o.directory
  traps := o.traps.filter fun (signal, action) => signal != 0 && action.isEmpty
  clock := o.clock
  number := o.number
  shell := o.number
  above := o.above
  mask := o.mask

/-! ## The shell as a program -/

/-- The search path if none is given. -/
def usualPlaces : List Char :=
  "/usr/local/sbin:/usr/local/bin:/usr/sbin:/usr/bin:/sbin:/bin".toList

/-- The variables that the shell has from the start. -/
def usualVariables (o : Own) : Named Variable :=
  let fixed : List (String × List Char) :=
    [("IFS", Field.usualSeparators), ("OPTIND", ['1']), ("PS1", ['#', ' ']), ("PS2", ['>', ' ']),
      ("PS4", ['+', ' ']), ("PPID", (Numeral.render (o.above.headD 1)).toList)]
  let given := o.scope.filter fun (name, _) => isName name.toList
  let withPlaces := if (given.lookup "PATH").isSome then given
    else Named.put "PATH" { value := some usualPlaces } given
  Named.put "PWD" { value := some (Octets.ofText o.directory), exported := true }
    (fixed.foldl (fun scope (name, value) => Named.put name { value := some value } scope)
      withPlaces)

def failAtStart {α : Type} (message : List Char) : Exec α := do
  modifyOwn fun o => { o with line := 0 }
  fail message

/-- Runs the shell: a script given as an argument, in a file, or as input. -/
def shell (perform : Perform) (arguments : List (List Char)) : Exec Unit := do
  modifyOwn fun o => { o with line := 0, scope := usualVariables o }
  let asked ← Builtin.takeSettings true arguments.length arguments
  modifyOwn fun o => { o with line := 1 }
  match asked.fromText, asked.words, (← own).hasOption 's' with
  | true, [], _ => failAtStart "-c requires an argument".toList
  | true, script :: rest, _ =>
    modifyOwn fun o => { o with name := rest.headD o.name, parameters := rest.drop 1 }
    runText perform false script
  | false, file :: parameters, false =>
    match ← lookUp file with
    | .file content =>
      modifyOwn fun o => { o with name := file, parameters }
      runText perform false (Octets.ofBytes content) true
    | .device _ | .directory | .stream _ => return ()
    | .vacant | .fault _ => failAtStart ("cannot open ".toList ++ file ++ ": No such file".toList)
  | false, parameters, _ =>
    modifyOwn fun o => { Builtin.switchOption o 's' true with parameters }
    runInput perform plenty { rest := [], closed := false, isFile := true }

/-! ## Programs that run others -/

section Runners

/-! They start programs by `launch`, in the place of the process at hand. -/

variable (launch : Start → Exec Unit)

/-- The search path of programs if there is none. -/
def barePlaces : List Char := "/bin:/usr/bin".toList

/-- Tells why a program cannot be started. -/
def refuse (explain : List Char → List Char → List Char) (name : List Char) (fault : StartFault) :
    Exec Unit := do
  let denied : Bool := fault != .missing && !name.isEmpty
  report (explain name
    (if denied then "Permission denied" else "No such file or directory").toList)
  setStatus (if denied then 126 else 127)

/-- Starts a program by name in the place of the process; if that cannot be done, a message tells
why. -/
def startNamed (explain : List Char → List Char → List Char) (name : List Char)
    (arguments : List (List Char)) : Exec Unit := do
  let found ← findCommand name barePlaces
  match startFound (← shared) (← own).directory found name arguments with
  | .ok start => launch start
  | .error fault => refuse explain name fault

def notFound (name why : List Char) : List Char :=
  Utility.curled name ++ ": ".toList ++ why

/-- Runs a program by its options, which stand in front of the command to run. -/
def withCommand (o : Utility.Options) (status : Nat) (arguments : List (List Char))
    (act : Utility.Given → Exec Unit) : Exec Unit := do
  match ({ o with ordered := true }).read arguments with
  | .ok g => act g
  | .error message =>
    report message
    complain ("Try '".toList ++ (← own).name ++ " --help' for more information.\n".toList)
    setStatus status

/-- Runs a program in a changed environment, or prints the environment. -/
def env (arguments : List (List Char)) : Exec Unit :=
  let options : Utility.Options := {
    letters := "iu:0C:S:v"
    long := [("ignore-environment", 'i'), ("unset", 'u'), ("null", '0'), ("chdir", 'C'),
      ("split-string", 'S'), ("debug", 'v')] }
  withCommand options 125 arguments fun g => do
    let words := ((g.argument? 'S').toList.flatMap
      fun s => (Text.pieces isSpace s).filter (!·.isEmpty)) ++ g.operands
    let (isBare, words) := match words with
      | ['-'] :: words => (true, words)
      | words => (g.has 'i', words)
    if isBare then modifyOwn fun o => { o with scope := [] }
    for (letter, name) in g.options do
      if letter = 'u' then
        modifyOwn fun o => { o with
          scope := o.scope.filter (·.1 != String.ofList name) }
      else if letter = 'C' then
        let path ← pathOf name
        modifyOwn fun o => { o with directory := path }
    let bindings := words.takeWhile (·.contains '=')
    for binding in bindings do
      let name := binding.takeWhile (· != '=')
      let value := some (binding.drop (name.length + 1))
      modifyOwn fun o => { o with
        scope := Named.put (String.ofList name) { value, exported := true } o.scope }
    match words.drop bindings.length with
    | [] =>
      let ending := if g.has '0' then '\x00' else '\n'
      let _ ← say ((Program.environment (← own)).flatMap (· ++ [ending]))
      setStatus 0
    | name :: rest => startNamed launch notFound name rest

/-- Runs a command for a program, on a text or on the input of the program: the status, to which that
of a signal is added, and what was printed if that is caught. -/
def commandFor (perform : Perform) (input : Option (List Char)) (caught : Bool) (text : List Char) :
    Exec (Nat × List Char) := do
  let inputs ← match input with
    | some s => do
      let pipe ← newPipe s none false
      pure [(0, ← openDescription { endpoint := .pipe pipe, writable := false })]
    | none => pure []
  let pipe ← newPipe [] none true
  let outputs ← if caught then
      do pure [(1, ← openDescription { endpoint := .pipe pipe, readable := false })]
    else pure []
  let streams := inputs ++ outputs
  let name := if streams.isEmpty then "sh" else "/bin/sh"
  let e ← apart perform
    (fun o => { o with
      streams := streams ++ o.streams.filter fun (n, _) => (streams.lookup n).isNone })
    (launch { program := "sh", name := name.toList, arguments := ["-c".toList, text] })
  match e.halt with
  | some halt => throw halt
  | none =>
    advanceTo e.clock
    let printed := match (← shared).pipes[pipe]? with
      | some p => (p.back.reverse.map (·.2)).flatten
      | none => []
    return (if e.signal = 0 then e.status else 256 + e.signal, printed)

def which (arguments : List (List Char)) : Exec Unit := do
  let mut status := if arguments.isEmpty then 1 else 0
  for name in arguments do
    match ← findCommand name with
    | .program path =>
      let _ ← say (path ++ ['\n'])
    | _ => status := 1
  setStatus status

/-- Runs the programs that are neither utilities nor shells. -/
def runOther (perform : Perform) (program : String) (arguments : List (List Char)) : Exec Unit := do
  match program with
  | "env" => env launch arguments
  | "which" => which arguments
  | "awk" | "mawk" => setStatus (← Awk.execute (commandFor launch perform) arguments)
  | "test" => setStatus (← Builtin.test arguments)
  | "[" => setStatus (← Builtin.bracket arguments)
  | "kill" => setStatus (← Builtin.kill arguments)
  | _ => setStatus 0

end Runners

/-- The status and the messages of a program that could not write its output, for a reason. -/
def outputFailure (program : String) (isClosed isFull : Bool) (why : String) : Nat × List String :=
  match program with
  | "cat" => (1, [(if isClosed then "standard output: " else "write error: ") ++ why])
  | "yes" => (1, ["standard output: " ++ why])
  | "tee" => (1, ["'standard output': " ++ why])
  | "sort" => (2, ["fflush failed: 'standard output': " ++ why, "write error"])
  | "sed" =>
    if isClosed then (4, ["couldn't close stdout: " ++ why])
    else if isFull then (4, ["couldn't flush stdout: " ++ why]) else (0, [])
  | "grep" | "egrep" | "fgrep" => if isClosed || isFull then (2, ["write error: " ++ why]) else (0, [])
  | "rev" => if isFull then (1, ["write error: " ++ why]) else (0, [])
  | "awk" | "mawk" => (2, ["close failed on file \"/dev/stdout\" (" ++ why ++ ")"])
  | "wc" => (1, [if isClosed then "write error: " ++ why else "write error"])
  | "ls" | "printenv" => (2, ["write error: " ++ why])
  | "expr" => (3, ["write error: " ++ why])
  | "env" => (125, ["write error: " ++ why])
  | _ => (1, ["write error: " ++ why])

/-- What a program says at its end if standard input, which it wanted to read, is closed. -/
def closingFailure? (program : String) : Option String :=
  match program with
  | "cat" => some "closing standard input"
  | "head" | "tail" | "wc" | "cut" | "tac" => some "-"
  | "tee" | "od" => some "standard input"
  | _ => none

/-- Says at the end of a program what it could not do with its input and output. -/
def closeStreams (program : String) : Exec Unit := do
  if (← own).unread && (← description? 0).isNone then
    match closingFailure? program with
    | some subject =>
      report (subject ++ ": " ++ ReadFault.closed.message).toList
      setStatus 1
    | none => pure ()
  if (← own).unwritten then
    let d := (← description? 1).map (·.2)
    let isFull := d.any (·.endpoint == .device .full)
    let why := if isFull then "No space left on device" else ReadFault.closed.message
    let (status, messages) := outputFailure program d.isNone isFull why
    for message in messages do
      report message.toList
    if status != 0 then setStatus status
  modifyOwn fun o => { o with unread := false, unwritten := false }

/-- Runs a program in the place of the process, with fuel for programs that run others. -/
def launch (perform : Perform) : Nat → Start → Exec Unit
  | 0, _ => throw .waiting
  | fuel + 1, start => do
    modifyOwn fun o => { o.enter start.name with unread := false, unwritten := false }
    match Program.utilities.lookup start.program with
    | some utility =>
      if start.program = "cat" ∧ (← description? 1).isNone then
        modifyOwn fun o => { o with unwritten := true }
      else setStatus (← utility start.arguments)
      closeStreams start.program
    | none =>
      if Program.shells.contains start.program then shell perform start.arguments
      else
        runOther (launch perform fuel) perform start.program start.arguments
        closeStreams start.program

/-- How often programs may run each other in the place of one process. -/
def launchLimit : Nat := 1000

end JuliaBlocks.Shell
