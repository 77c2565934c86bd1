import JuliaBlocks.Shell.Builtin

/-!
Running texts of scripts, and the parts of scripts that run by themselves. What a single command does
is a parameter here: a step that is told whether a failure of the command is tested, so that it ends
nothing.
-/

namespace JuliaBlocks.Shell

/-- Runs a command; the flag tells whether its failure is tested. -/
abbrev Perform := (tested : Bool) → Command → Exec Unit

/-- How a part that ran by itself came out: its status, the moment of its end, the signal that ended
it or zero, and why it goes no further if it has not ended. -/
structure Ending where
  status : Nat
  clock : Nat
  signal : Nat := 0
  halt : Option Halt := none

/-- Runs a step and changes the state after it, however it ends. -/
def undoing {α : Type} (undo : Own → Own) (act : Exec α) : Exec α := do
  try
    let a ← act
    modifyOwn undo
    return a
  catch
    | halt =>
      modifyOwn undo
      throw halt

/-- Runs a step to where it stops. -/
def endingOf (act : Exec Unit) : Exec Ending := do
  let current (signal : Nat) : Exec Ending := do
    let o ← own
    return { status := o.status, clock := o.clock, signal }
  try
    act
    current 0
  catch
    | .exited status | .failed status =>
      setStatus status
      current 0
    | .killed signal =>
      setStatus (128 + signal)
      current signal
    | .left _ _ | .returned => current 0
    | halt => return { status := 0, clock := (← own).clock, halt := some halt }

/-- The state that a part starts with: a copy in which only ignored signals are looked after. -/
def Own.branch (o : Own) (number : Nat) : Own :=
  { o with
    number, above := o.number :: o.above, backgrounds := [], loops := 0
    traps := o.traps.filter fun (signal, action) => signal != 0 && action.isEmpty }

section Texts

variable (perform : Perform)

def sequence (tested : Bool) (body : List Command) : Exec Unit :=
  body.forM (perform tested)

/-- Runs the commands that were read, if any; without commands there is no failure. -/
def runRead (tested : Bool) (commands : List Command) (reader : Reader) : Exec Unit := do
  modifyShared fun s => { s with
    documents := reader.documents ++ s.documents, nextDocument := reader.number }
  if !(← own).hasOption 'n' then sequence perform tested commands

/-- Shows the front of what is left to read, if the lines of files are to be shown. -/
def showRead (reader : Reader) (length : Nat) : Exec Unit := do
  if reader.isFile && (← own).hasOption 'v' then
    complain ((reader.rest.take length).drop reader.shown)

/-- The length of lines at the front of a text. -/
def lengthOfLines : Nat → List Char → Nat
  | 0, _ => 0
  | _, [] => 0
  | count + 1, s =>
    let line := (s.takeWhile (· != '\n')).length + 1
    min s.length line + lengthOfLines count (s.drop line)

/-- Reads the next command line with what is known by now. -/
def readNext (reader : Reader) : Exec (Except ReadStop (Option (List Command) × Reader)) := do
  let read := readCommands { reader with
    number := (← shared).nextDocument, documents := [], aliases := (← own).aliases }
  let all := reader.rest.length
  match read with
  | .ok (_, after) =>
    showRead reader (all - after.rest.length)
    return read.map fun (commands, after) => (commands, { after with shown := 0 })
  | .error .incomplete => showRead reader all
  | .error (.malformed line _) =>
    showRead reader (lengthOfLines (line + 1 - reader.line) reader.rest)
  return read

/-- Runs the rest of a text line by line. The flag tells whether a command has run before. -/
def runLines (tested : Bool) : Nat → Bool → Reader → Exec Unit
  | 0, _, _ => throw .waiting
  | fuel + 1, started, reader => do
    match ← readNext reader with
    | .error (.malformed line message) =>
      modifyOwn fun o => { o with line }
      fail message.toList
    | .error .incomplete | .ok (none, _) => if !started then setStatus 0
    | .ok (some commands, reader) =>
      runRead perform tested commands reader
      runLines tested fuel (started || !commands.isEmpty) reader

/-- Runs a text, which may be that of a file. -/
def runText (tested : Bool) (text : List Char) (isFile : Bool := false) : Exec Unit :=
  runLines perform tested plenty false { rest := text, isFile }

/-- Runs the commands on standard input, which is read as far as they need it. -/
def runInput : Nat → Reader → Exec Unit
  | 0, _ => throw .waiting
  | fuel + 1, reader => do
    match ← readNext reader with
    | .error (.malformed line message) =>
      modifyOwn fun o => { o with line }
      fail message.toList
    | .error .incomplete =>
      let reader := { reader with shown := reader.rest.length }
      match ← available 0 with
      | .error _ | .ok [] => runInput fuel { reader with closed := true }
      | .ok text =>
        let text := text.take blockSize
        consume 0 text.length
        runInput fuel { reader with rest := reader.rest ++ text }
    | .ok (none, _) => return ()
    | .ok (some commands, reader) =>
      runRead perform false commands reader
      runInput fuel reader

/-! ## Parts -/

/-- Runs a part to its end, which may be looked after. -/
def toEnd (act : Exec Unit) : Exec Ending := do
  let first ← endingOf act
  match first.halt, first.signal, (← own).traps.lookup 0 with
  | none, 0, some action =>
    modifyOwn fun o => { o with
      line := 1, inFunction := false, loops := 0, traps := o.traps.filter (·.1 != 0) }
    endingOf do
      runText perform false action
      setStatus first.status
  | _, _, _ => return first

/-- Runs a part by itself: it starts with a copy of the state, which is left as it is. -/
def apart (prepare : Own → Own) (act : Exec Unit) : Exec Ending := do
  let before ← own
  let number := (← shared).nextNumber
  modifyShared fun s => { s with nextNumber := number + 1 }
  modifyOwn fun o => prepare (o.branch number)
  let ending ← toEnd perform act
  modifyOwn fun _ => before
  return ending

/-- Goes on after a part that was waited for. -/
def Ending.conclude (e : Ending) : Exec Unit := do
  match e.halt with
  | some halt => throw halt
  | none =>
    advanceTo e.clock
    if e.signal != 0 && e.signal != 2 && e.signal != 13 then
      complain ((Signal.description e.signal) ++ "\n").toList
    setStatus e.status

/-- Ends the part if a signal has come that ends it at once. -/
def perish : Exec Unit := do
  let o ← own
  for (target, signal) in (← shared).signals do
    let isCaught := (o.traps.lookup signal).isSome && signal != 9 && signal != 19
    if target = o.number && !isCaught && !Signal.isHarmless signal then throw (.killed signal)

def capture (body : List Command) : Exec (List Char) := do
  let pipe ← newPipe [] none true
  let id ← openDescription { endpoint := .pipe pipe, readable := false }
  let e ← apart perform (fun o => { o with streams := (1, id) :: o.streams.filter (·.1 != 1) })
    (sequence perform false body)
  match e.halt with
  | some halt => throw halt
  | none =>
    advanceTo e.clock
    modifyOwn fun o => { o with substituted := e.status }
    perish
    match (← shared).pipes[pipe]? with
    | some p => return (p.back.reverse.map (·.2)).flatten
    | none => return []

/-- Attends to signals that were sent to the process. -/
def attend : Exec Unit := do
  let number := (← own).number
  let signals := (← shared).signals
  if signals.any (·.1 == number) then
    modifyShared fun s => { s with signals := s.signals.filter (·.1 != number) }
    for (target, signal) in signals do
      if target = number then
        match (← own).traps.lookup signal, signal == 9 || signal == 19 with
        | some [], false => pure ()
        | some action, false =>
          let status := (← own).status
          runText perform false action
          setStatus status
        | _, _ => if !Signal.isHarmless signal then throw (.killed signal)

end Texts

end JuliaBlocks.Shell
