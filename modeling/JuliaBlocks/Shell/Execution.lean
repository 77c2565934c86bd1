import JuliaBlocks.Shell.Launch

/-!
Running commands. A command is run by a step that runs the commands within it by a step given to it;
tying the knot takes fuel, which bounds how deep commands may be nested.
-/

namespace JuliaBlocks.Shell

/-- The commands of the shell that run other commands and are special. -/
def specialRunners : List String := [".", "eval", "exec"]

/-- The other commands of the shell that look up commands. -/
def plainRunners : List String := ["command", "hash", "type"]

/-- Whether a name is that of a special command of the shell. -/
def isSpecial (name : List Char) : Bool :=
  let name := String.ofList name
  (Builtin.special.lookup name).isSome || specialRunners.contains name

/-- Whether a name is that of another command of the shell. -/
def isPlain (name : List Char) : Bool :=
  let name := String.ofList name
  (Builtin.plain.lookup name).isSome || plainRunners.contains name

/-- Has a stream stand for a description and no other. -/
def withStream (stream id : Nat) (o : Own) : Own :=
  { o with streams := (stream, id) :: o.streams.filter (·.1 != stream) }

section Steps

variable (perform : Perform)

/-- The fuel for expanding words, which their length bounds. -/
def wordFuel : Nat := 1000000

def fieldsOf (w : Word) : Exec (List (List Char)) :=
  expandFields (capture perform) wordFuel w

def textOf (use : Use) (w : Word) : Exec (List Char) :=
  expandText (capture perform) wordFuel use w

/-! ## Redirections -/

def openStream (stream : Nat) (d : Description) : Exec Bool := do
  setStream stream (← openDescription d)
  return true

/-- Has a stream stand for what another one stands for. -/
def copyStream (stream other : Nat) (missing : List Char) : Exec Bool := do
  match (← own).streams.lookup other with
  | some id =>
    setStream stream id
    return true
  | none =>
    warn missing
    return false

def openRead (stream : Nat) (name : List Char) : Exec Bool := do
  let refuse (why : String) : Exec Bool := do
    warn ("cannot open ".toList ++ name ++ ": ".toList ++ why.toList)
    return false
  match ← lookUp name with
  | .file _ => openStream stream { endpoint := .file (← pathOf name), writable := false }
  | .directory => openStream stream { endpoint := .directory (← pathOf name), writable := false }
  | .device .terminal => refuse "No such device or address"
  | .device d => openStream stream { endpoint := .device d }
  | .stream other => copyStream stream other ("cannot open ".toList ++ name ++ ": No such file".toList)
  | .fault .tooLong => refuse "File name too long"
  | .vacant | .fault _ => refuse "No such file"

/-- Opens a stream for writing; the content that a file has already may be kept, and the file may be
protected. -/
def openWrite (stream : Nat) (name : List Char) (kept isProtected : Bool)
    (mode : String → Description) : Exec Bool := do
  let refuse (why : String) : Exec Bool := do
    warn ("cannot create ".toList ++ name ++ ": ".toList ++ why.toList)
    return false
  match ← lookUpNew name with
  | .file _ =>
    if isProtected then refuse "File exists"
    else
      if !kept then writeFile (← pathOf name) []
      openStream stream (mode (← pathOf name))
  | .vacant =>
    writeFile (← pathOf name) []
    openStream stream (mode (← pathOf name))
  | .directory => refuse "Is a directory"
  | .device .terminal => refuse "No such device or address"
  | .device d => openStream stream { endpoint := .device d }
  | .stream other =>
    copyStream stream other ("cannot create ".toList ++ name ++ ": Directory nonexistent".toList)
  | .fault .tooLong => refuse "File name too long"
  | .fault _ => refuse "Directory nonexistent"

def target : Redirection → Exec (Nat × RedirectKind × List Char)
  | .mk stream (.document number) _ => do
    let w := ((← shared).documents.lookup number).getD []
    return (stream, .document number, ← textOf perform .text w)
  | .mk stream .duplicate w => do
    let name ← textOf perform .text w
    let isOne : Bool := match name with
      | [c] => c.isDigit || c == '-'
      | _ => false
    if !isOne then fail "Syntax error: Bad fd number".toList
    return (stream, .duplicate, name)
  | .mk stream kind w => do return (stream, kind, ← textOf perform .text w)

/-- Makes a redirection. The flag tells whether it could be made; if not, a message told why. -/
def redirect : Nat × RedirectKind × List Char → Exec Bool
  | (stream, .document _, text) => do
    openStream stream { endpoint := .pipe (← newPipe text none false), writable := false }
  | (stream, .read, name) => openRead stream name
  | (stream, .write, name) => do
    openWrite stream name false ((← own).hasOption 'C') fun path =>
      { endpoint := .file path, readable := false }
  | (stream, .replace, name) =>
    openWrite stream name false false fun path => { endpoint := .file path, readable := false }
  | (stream, .append, name) =>
    openWrite stream name true false fun path =>
      { endpoint := .file path, readable := false, appending := true }
  | (stream, .readWrite, name) => openWrite stream name true false fun path => { endpoint := .file path }
  | (stream, .duplicate, name) => do
    match Utility.natural? name with
    | some other => copyStream stream other (name ++ ": Bad file descriptor".toList)
    | none =>
      closeStream stream
      return true

/-- Runs a step under redirections, or another one if they cannot be made. -/
def underRedirections (redirections : List Redirection) (act refused : Exec Unit) : Exec Unit := do
  if redirections.isEmpty then act
  else
    let targets ← redirections.mapM (target perform)
    let streams := (← own).streams
    undoing (fun o => { o with streams }) do
      if ← targets.allM redirect then act else refused

/-! ## Calls -/

def callLimit : Nat := 1000

def callFunction (tested : Bool) (body : Command) (arguments : List (List Char)) : Exec Unit := do
  let before ← own
  if callLimit ≤ before.calls then
    fail "Maximum function recursion depth (1000) reached".toList
  modifyOwn fun o => { o with
    parameters := arguments, loops := 0, inFunction := true, calls := o.calls + 1
    locals := [] :: o.locals : Own }.startOptions
  let restore (scope : Named Variable) (frame : Named (Option Variable)) : Named Variable :=
    frame.foldl (fun scope (name, old) =>
      match old with
      | some v => Named.put name v scope
      | none => scope.filter (·.1 != name)) scope
  undoing (fun o => { o with
      parameters := before.parameters, loops := before.loops, inFunction := before.inFunction
      calls := before.calls, optionNext := before.optionNext, optionPlace := before.optionPlace
      scope := restore o.scope (o.locals.headD []), locals := o.locals.drop 1
      : Own }.heed ((o.locals.headD []).map (·.1))) do
    try perform tested body
    catch
      | .returned => return ()
      | halt => throw halt

/-- What a name leads to in the search path, which is kept in mind. -/
def track (name : List Char) : Exec Found := do
  let found ← findCommand name
  match found with
  | .program path =>
    if !name.contains '/' then
      modifyOwn fun o => { o with tracked := Named.put (String.ofList name) path o.tracked }
  | .denied | .missing => pure ()
  return found

/-- Runs a program as a process of its own. -/
def callProgram (name : List Char) (arguments : List (List Char)) : Exec Unit := do
  match startFound (← shared) (← own).directory (← track name) name arguments with
  | .ok start =>
    let e ← apart perform id (launch perform launchLimit start)
    e.conclude
  | .error .missing =>
    warn (name ++ ": not found".toList)
    setStatus 127
  | .error _ =>
    warn (name ++ ": Permission denied".toList)
    setStatus (if name.isEmpty then 127 else 126)

/-- Runs commands given as arguments. -/
def evaluate (tested : Bool) (arguments : List (List Char)) : Exec Unit := do
  let line := (← own).line
  runText perform tested (List.intercalate [' '] arguments)
  modifyOwn fun o => { o with line }

/-- Runs a program in the place of the shell. -/
def replace (arguments : List (List Char)) : Exec Unit := do
  match arguments with
  | [] => setStatus 0
  | name :: rest =>
    match startFound (← shared) (← own).directory (← findCommand name) name rest with
    | .ok start =>
      launch perform launchLimit start
      throw (.exited (← own).status)
    | .error .missing =>
      warn (name ++ ": not found".toList)
      throw (.exited 127)
    | .error _ =>
      warn (name ++ ": Permission denied".toList)
      throw (.exited 126)

/-- Runs the commands of a file in the shell itself. -/
def readScript (arguments : List (List Char)) : Exec Unit := do
  match (← Builtin.takeOptions "" arguments).operands with
  | [] => setStatus 0
  | name :: _ =>
    let path ← if name.contains '/' then pure name else do
      let o ← own
      let candidates := (Text.pieces (· == ':') ((o.value? "PATH").getD [])).map fun d =>
        if d.isEmpty then name else d ++ '/' :: name
      let found ← candidates.findM? fun candidate => do
        match ← lookUp candidate with
        | .file _ => return true
        | _ => return false
      match found with
      | some path => pure path
      | none => fail (name ++ ": not found".toList)
    match ← lookUp path with
    | .file content =>
      let line := (← own).line
      modifyOwn fun o => { o with command := some path }
      try runText perform false (Octets.ofBytes content) true
      catch
        | .returned => pure ()
        | halt => throw halt
      modifyOwn fun o => { o with line }
    | .device _ | .directory | .stream _ => setStatus 0
    | .vacant | .fault _ => fail ("cannot open ".toList ++ path ++ ": No such file".toList)

/-- Says what a name stands for as a command; the flag asks for words instead of the name alone. -/
def describe (inWords : Bool) (name : List Char) : Exec Nat := do
  let tell (text : String) (plain : List Char) : Exec Nat :=
    Builtin.output ((if inWords then name ++ text.toList else plain) ++ ['\n'])
  let o ← own
  if keywords.contains (String.ofList name) then tell " is a shell keyword" name
  else if let some text := o.aliases.lookup (String.ofList name) then
    tell (" is an alias for " ++ String.ofList text)
      ("alias ".toList ++ Builtin.aliasText (String.ofList name) text)
  else if (o.functions.lookup (String.ofList name)).isSome then tell " is a shell function" name
  else if isSpecial name then tell " is a special shell builtin" name
  else if isPlain name then tell " is a shell builtin" name
  else match ← track name with
    | .program path =>
      let known := (o.tracked.lookup (String.ofList name)).isSome
      tell ((if known then " is a tracked alias for " else " is ") ++ String.ofList path) path
    | .denied | .missing =>
      if inWords then
        let _ ← Builtin.output (name ++ ": not found\n".toList)
      return 127

/-- Keeps in mind where programs are, forgets all of that, or lists it. -/
def trackAll (arguments : List (List Char)) : Exec Nat := do
  let g ← Builtin.takeOptions "r" arguments
  if g.has 'r' then
    modifyOwn fun o => { o with tracked := [] }
    return 0
  if g.operands.isEmpty then
    Builtin.output (Utility.unlines ((Builtin.listed 31 (← own).tracked).map (·.2)))
  else g.operands.foldlM (fun status name => do
    let isOwn := ((← own).functions.lookup (String.ofList name)).isSome || isSpecial name || isPlain name
    match isOwn, ← if isOwn then pure .missing else track name with
    | false, .denied | false, .missing =>
      warn (name ++ ": not found".toList)
      return 1
    | _, _ => return status) 0

/-- Runs a command of the shell under its name. If it may fail, its failure is a status. -/
def callNamed (name : List Char) (mayFail : Bool) (act : Exec Unit) : Exec Unit := do
  let before := (← own).command
  modifyOwn fun o => { o with command := some name }
  undoing (fun o => { o with command := before }) do
    if mayFail then
      try act
      catch
        | .failed status => setStatus status
        | halt => throw halt
    else act

/-- Runs a command that is no function, with fuel for commands in front of commands. -/
def callCommand (tested : Bool) : Nat → (mayFail : Bool) → List Char → List (List Char) →
    Exec Unit
  | 0, _, _, _ => throw .waiting
  | fuel + 1, mayFail, name, arguments => do
    let key := String.ofList name
    match (Builtin.special.lookup key), (Builtin.plain.lookup key) with
    | some utility, _ => callNamed name mayFail do setStatus (← utility arguments)
    | none, some utility => callNamed name true do setStatus (← utility arguments)
    | none, none =>
      match key with
      | "eval" => callNamed name mayFail (evaluate perform tested arguments)
      | "exec" => callNamed name mayFail (replace perform arguments)
      | "." => callNamed name mayFail (readScript perform arguments)
      | "hash" => callNamed name true do setStatus (← trackAll arguments)
      | "type" => callNamed name true do
        setStatus (← arguments.foldlM (fun status name => do
          return max status (← describe true name)) 0)
      | "command" =>
        let options := Builtin.takeOptionsFrom { letters := "pvV" } arguments.length arguments
        setStatus 0
        callNamed name true (discard options)
        if (← own).status = 0 then
          let (given, rest) ← options
          match (given.filter (·.1 != 'p')).getLast?, rest with
          | _, [] => return ()
          | some (letter, _), other :: _ =>
            callNamed name true do setStatus (← describe (letter == 'V') other)
          | none, other :: rest => callCommand tested fuel true other rest
      | _ => callProgram perform name arguments

def call (tested : Bool) (name : List Char) (arguments : List (List Char)) : Exec Unit := do
  match (← own).functions.lookup (String.ofList name) with
  | some body => callFunction perform tested body arguments
  | none => callCommand perform tested (arguments.length + 1) false name arguments

/-! ## Simple commands -/

/-- The fields of the words of a command. Definitions that are arguments of commands for them are not
split. -/
def commandFields (words : List Word) : Exec (List (List Char)) :=
  words.foldlM (fun fields w => do
    let defines : Bool := match fields.dropWhile (· == "command".toList) with
      | name :: _ => ["export", "readonly", "local"].contains (String.ofList name)
      | [] => false
    match if defines then binding? w else none with
    | some (name, value) =>
      return fields ++ [name ++ '=' :: (← textOf perform .assignment value)]
    | none => return fields ++ (← fieldsOf perform w)) []

/-- Sets variables, which programs may get; gives them as texts. -/
def bind (bindings : List (List Char × Word)) (exported : Bool) : Exec (List (List Char)) :=
  bindings.mapM fun (name, w) => do
    let value ← textOf perform .assignment w
    setVariable name value
    if exported then modifyOwn fun o => o.export (String.ofList name)
    return name ++ '=' :: value

/-- Shows a command before it runs, if that is asked for. -/
def trace (streams : List (Nat × Nat)) (words : List (List Char)) : Exec Unit := do
  let o ← own
  if o.hasOption 'x' then
    modifyOwn fun o => { o with streams }
    complain (((o.value? "PS4").getD []) ++ List.intercalate [' '] words ++ ['\n'])
    modifyOwn fun p => { p with streams := o.streams }

/-- Runs a command under redirections, with variables bound in front of it. -/
def callBound (tested : Bool) (streams : List (Nat × Nat)) (bindings : List (List Char × Word))
    (name : List Char) (arguments : List (List Char)) : Exec Unit := do
  let isFunction := ((← own).functions.lookup (String.ofList name)).isSome
  -- What is bound in front of a special command stays bound after it.
  if isSpecial name && !isFunction then
    let shown ← bind perform bindings false
    trace streams (shown ++ name :: arguments)
    call perform tested name arguments
  else
    let before := (← own).scope
    let restore (o : Own) : Own :=
      let scope := bindings.foldl (fun scope (name, _) =>
        let key := String.ofList name
        match before.lookup key with
        | some v => Named.put key v scope
        | none => scope.filter (·.1 != key)) o.scope
      { o with scope : Own }.heed (bindings.map fun (name, _) => String.ofList name)
    let act : Exec Unit := do
      let shown ← bind perform bindings true
      trace streams (shown ++ name :: arguments)
      call perform tested name arguments
    if bindings.isEmpty then act
    else undoing restore act

def runSimple (tested : Bool) (bindings : List (List Char × Word)) (words : List Word)
    (redirections : List Redirection) : Exec Unit := do
  modifyOwn fun o => { o with substituted := 0 }
  let fields ← commandFields perform words
  let streams := (← own).streams
  match fields with
  | [] =>
    underRedirections perform redirections
      (do
        let shown ← bind perform bindings false
        if !shown.isEmpty then trace streams shown
        setStatus (← own).substituted)
      (setStatus 2)
  -- Without a program the redirections remain in force.
  | [['e', 'x', 'e', 'c']] =>
    let targets ← redirections.mapM (target perform)
    let _ ← bind perform bindings false
    if ← targets.allM redirect then setStatus 0 else throw (.failed 2)
  | name :: arguments =>
    underRedirections perform redirections (callBound perform tested streams bindings name arguments)
      (if isSpecial name then throw (.failed 2) else setStatus 2)

/-! ## Loops -/

/-- Runs rounds of a loop. A round is told the status of the one before it, and gives its own and
whether the loop goes on. -/
def rounds (round : Nat → Exec (Nat × Bool)) : Nat → Nat → Exec Unit
  | 0, _ => throw .waiting
  | fuel + 1, last => do
    let (status, goesOn) ← round last
    if goesOn then rounds round fuel status else setStatus status

def roundsOver (round : List Char → Exec (Nat × Bool)) : List (List Char) → Exec Unit
  | [] => return ()
  | value :: rest => do
    let (status, goesOn) ← round value
    if goesOn then roundsOver round rest else setStatus status

/-- Runs a round, which may leave loops. -/
def leaving (round : Exec (Nat × Bool)) : Exec (Nat × Bool) := do
  try round
  catch
    -- Each loop takes one off the levels that are left.
    | .left (levels + 2) again => throw (.left (levels + 1) again)
    | .left _ again => return ((← own).status, again)
    | halt => throw halt

def looping (act : Exec Unit) : Exec Unit := do
  let loops := (← own).loops
  modifyOwn fun o => { o with loops := loops + 1 }
  undoing (fun o => { o with loops }) act

/-! ## Pipelines -/

/-- The most that a pipe holds before the one that writes has to wait. -/
def pipeCapacity : Nat := 65536

/-- The most that a pipe holds in a pipeline that is run once more. -/
def wideCapacity : Nat := 4194304

/-- Keeps in mind where the program is that a stage names by a plain word. -/
def foresee : Command → Exec Unit
  | .simple _ _ ([.text name false] :: _) _ => do
    let isFunction := ((← own).functions.lookup (String.ofList name)).isSome
    if isName name && !isFunction && !isSpecial name && !isPlain name then
      let _ ← track name
  | _ => return ()

/-- Runs the stages of a pipeline one after another, each with its input and the pipe that it writes
to; gives their endings, the last one first. -/
def runStages (capacity : Nat) (last : Bool) : List Command → (input : Option Nat) →
    List Ending → Exec (List Ending)
  | [], _, endings => return endings
  | stage :: rest, input, endings => do
    foresee stage
    let start (o : Own) : Own := match input with
      | some id => withStream 0 id o
      | none => o
    let act : Exec Unit := do
      perform false stage
    if rest.isEmpty then
      return (← apart perform start act) :: endings
    else
      let pipe ← newPipe [] (some capacity) true
      let reading ← openDescription { endpoint := .pipe pipe, writable := false }
      let writing ← openDescription { endpoint := .pipe pipe, readable := false }
      let e ← apart perform (fun o => withStream 1 writing (start o)) act
      -- A stage that is over has closed its end of the pipe.
      if e.halt = none ∨ (last ∧ e.halt = some .blocked) then
        modifyShared fun s => { s with
          pipes := s.pipes.modify pipe fun p => { p with writing := false } }
      let endings ← runStages capacity last rest (some reading) (e :: endings)
      return endings

/-- Whether a pipeline is over: each stage has ended, or the one after it has, and nobody reads what
it writes. -/
def settled (endings : List Ending) : Bool :=
  match endings with
  | [] => true
  | final :: before =>
    final.halt.isNone && before.all fun e => e.halt.isNone || e.halt == some .blocked

def runPipe (stages : List Command) : Exec Unit := do
  let before ← get
  let first ← runStages perform pipeCapacity false stages none []
  let endings ←
    -- A pipe may be full although its reader is still to come: once more, with wider pipes.
    if first.any (·.halt == some .blocked) && !settled first then
      set before
      runStages perform wideCapacity true stages none []
    else pure first
  match endings with
  | [] => setStatus 0
  | final :: earlier =>
    if settled endings then
      for e in earlier do
        if e.halt.isNone then advanceTo e.clock
      final.conclude
    else throw .waiting

/-! ## Commands -/

/-- How long it takes a part to start beside the one that starts it, in microseconds. -/
def startDelay : Nat := 1000

/-- Starts a command beside the part. -/
def startBeside (command : Command) : Exec Unit := do
  let null ← openDescription { endpoint := .device .null }
  let number := (← shared).nextNumber
  let e ← apart perform
    (fun o => withStream 0 null { o with clock := o.clock + startDelay }) (perform false command)
  let next := (← shared).nextNumber
  modifyOwn fun o => { o with
    latest := some number
    backgrounds := o.backgrounds ++ [{
      number, next, status := e.status, signal := e.signal
      finish := if e.halt.isNone then some e.clock else none }] }
  setStatus 0

/-- Ends the part if a command has failed that nothing tests, and that is asked for. -/
def check (tested : Bool) : Exec Unit := do
  let o ← own
  if !tested && o.status != 0 && o.hasOption 'e' then throw (.exited o.status)

/-- Runs the commands of the first clause with a pattern that fits. -/
def runClauses (tested : Bool) (subject : List Char) :
    List (List Word × List Command) → Exec Unit
  | [] => setStatus 0
  | (patterns, body) :: rest => do
    let fits ← patterns.anyM fun w => do
      return Glob.fits (← expandPattern (capture perform) wordFuel w) subject
    if !fits then runClauses tested subject rest
    else if body.isEmpty then setStatus 0
    else sequence perform tested body

def runCommand (tested : Bool) : Command → Exec Unit
  | .simple line bindings words redirections => do
    modifyOwn fun o => { o with line }
    runSimple perform tested bindings words redirections
    attend perform
    check tested
  | .loop negated condition body =>
    looping do
      rounds (fun last => leaving do
        spend
        sequence perform true condition
        if ((← own).status == 0) != negated then
          sequence perform tested body
          return ((← own).status, true)
        else return (last, false)) plenty 0
  | .each line name words body => do
    modifyOwn fun o => { o with line }
    let values ← words.mapM (fieldsOf perform)
    if values.flatten.isEmpty then setStatus 0
    else looping do
      roundsOver (fun value => leaving do
        spend
        setVariable name value
        sequence perform tested body
        return ((← own).status, true)) values.flatten
  | .branch condition yes no => do
    sequence perform true condition
    if (← own).status = 0 then sequence perform tested yes
    else if no.isEmpty then setStatus 0
    else sequence perform tested no
  | .choose line subject clauses => do
    modifyOwn fun o => { o with line }
    let subject ← textOf perform .text subject
    runClauses perform tested subject clauses
  | .both first second => do
    perform true first
    if (← own).status = 0 then perform tested second
  | .either first second => do
    perform true first
    if (← own).status != 0 then perform tested second
  | .pipe stages => do
    runPipe perform stages
    attend perform
    check tested
  | .inverted command => do
    perform true command
    setStatus (if (← own).status = 0 then 1 else 0)
  | .group body => sequence perform tested body
  | .subshell line body => do
    modifyOwn fun o => { o with line }
    let e ← apart perform id (sequence perform tested body)
    e.conclude
    attend perform
    check tested
  | .background command => do
    startBeside perform command
    attend perform
  | .redirected line command redirections => do
    modifyOwn fun o => { o with line }
    underRedirections perform redirections (perform tested command) do
      setStatus 2
      check tested
  | .definition name body => do
    modifyOwn fun o => { o with functions := Named.put (String.ofList name) body o.functions }
    setStatus 0

end Steps

/-- Runs a command, with fuel for the commands within it; a script that is nested deeper ends by lack
of memory. -/
def run : Nat → Perform
  | 0, _, _ => throw (.killed 11)
  | fuel + 1, tested, command => do
    spend
    runCommand (run fuel) tested command

/-- How deep commands may be nested. -/
def depth : Nat := 12000

def execute (start : Start) : Exec Ending :=
  toEnd (run depth) (launch (run depth) launchLimit start)

end JuliaBlocks.Shell
