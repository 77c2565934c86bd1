import JuliaBlocks.Shell.Awk.Record
import JuliaBlocks.Shell.Awk.Table
import JuliaBlocks.Shell.Utility.Basic

/-!
The state of a running program and its effects: names, the record and its fields, what is read and
what is printed.
-/

namespace JuliaBlocks.Shell.Awk

/-- What a name stands for: a value, or a table by its number. An unset name that is handed on stands
for a table that may come to be used. -/
inductive Binding
  | cell (c : Cell)
  | table (number : Nat)

/-- A text that records are read from: what is there of it, the stream that more comes from, and the
status of the command that printed it. -/
structure Source where
  stream : Option Nat := none
  rest : List Char := []
  status : Nat := 0
  /-- Why it cannot be read. -/
  fault : Option (List Char) := none

/-- Where text is printed to: a file, a stream, a command that gets it in the end, or nowhere. -/
inductive Target
  | file (path : String)
  | stream (number : Nat)
  | command
  | nowhere

/-- What was printed to a target and has not got there, the latest first. -/
structure Sink where
  target : Target
  text : List (List Char) := []

structure State where
  globals : Named Binding := []
  locals : Named Binding := []
  tables : Array Table := #[]
  record : List Char := []
  fields : Array Cell := #[]
  /-- What was printed to standard output and has not got there, the latest first. -/
  printed : List (List Char) := []
  sinks : List (List Char × Sink) := []
  sources : List (List Char × Source) := []
  /-- The main input that is open, the number of the next argument, and whether an argument was a
  file. -/
  main : Option Source := none
  argument : Nat := 1
  opened : Bool := false
  /-- The ranges whose first record was seen. -/
  ranges : List Nat := []
  status : Nat := 0
  /-- How many statements may still run, and how many calls are open. -/
  patience : Nat := 200000
  calls : Nat := 0
  seed : Nat := 0

/-- Why a part of a program is left. -/
inductive Jump
  | next
  | nextFile
  | leave
  | goOn
  | answer (c : Cell)
  | exit
  /-- The program fails; no rules apply any more. -/
  | fault

/-- A step of a program. -/
abbrev Run := ExceptT Jump (StateT State Exec)

def ofExec {α : Type} (act : Exec α) : Run α :=
  ExceptT.lift (StateT.lift act)

/-! ## Messages -/

/-- Writes a message, which names the program. -/
def complainOf (message : List Char) : Run Unit := do
  let name := (← ofExec own).name
  let base := (Text.pieces (· == '/') name).getLastD name
  ofExec (complain (base ++ ": ".toList ++ message ++ ['\n']))

def stopWith {α : Type} (message : List Char) : Run α := do
  complainOf message
  modify fun s => { s with status := 2 }
  throw .fault

/-! ## Names -/

def valueOf (name : String) : Run Cell := do
  let s ← get
  if name = "NF" then return .ofNat s.fields.size
  match (s.locals.lookup name).orElse fun _ => s.globals.lookup name with
  | some (.cell c) => return c
  | _ => return .unset

/-- Binds a name, in the function that runs if it is a name of that one. -/
def setBinding (name : String) (b : Binding) : Run Unit :=
  modify fun s =>
    if (s.locals.lookup name).isSome then { s with locals := Named.put name b s.locals }
    else { s with globals := Named.put name b s.globals }

def textOf (c : Cell) : Run (List Char) := do
  match c with
  | .number x =>
    match ← valueOf "CONVFMT" with
    | .text format | .either format _ => return numberText format x
    | _ => return numberText [] x
  | c => return c.toText []

def textOfName (name : String) : Run (List Char) := do
  textOf (← valueOf name)

/-- Ends the program with a message that tells where the input stands. -/
def failWith {α : Type} (message : List Char) : Run α := do
  let shown (name : String) : Run (List Char) := do
    return (name ++ "=").toList ++ (← textOfName name)
  stopWith ("run time error: ".toList ++ message ++ "\n\tFILENAME=\"".toList ++
    (← textOfName "FILENAME") ++ "\" ".toList ++ (← shown "FNR") ++ ' ' :: (← shown "NR"))

/-! ## The record -/

def setRecord (record : List Char) : Run Unit := do
  let separator := Separator.ofText (← textOfName "FS")
  let fields ← match separator, ← textOfName "RS" with
    | .blanks, _ | _, _ :: _ => pure (separator.split record)
    | separator, [] => pure ((Text.pieces (· == '\n') record).flatMap separator.split)
  modify fun s => { s with record, fields := (fields.map Cell.ofInput).toArray }

/-- Makes the fields the record. -/
def joinFields : Run Unit := do
  let texts ← (← get).fields.toList.mapM textOf
  let separator ← textOfName "OFS"
  modify fun s => { s with record := List.intercalate separator texts }

def setFieldCount (count : Nat) : Run Unit := do
  modify fun s => { s with
    fields := s.fields.take count ++ Array.replicate (count - s.fields.size) (.text []) }
  joinFields

def fieldNumber (c : Cell) : Run Nat := do
  match clamped c.toNumber with
  | .ofNat n => return n
  | n => failWith ("negative field index $".toList ++ wholeText n)

/-- The value of a field; number zero is the record. -/
def fieldOf (number : Nat) : Run Cell := do
  let s ← get
  if number = 0 then return .ofInput s.record
  else return (s.fields[number - 1]?).getD .unset

def setField (number : Nat) (c : Cell) : Run Unit := do
  if number = 0 then setRecord (← textOf c)
  else
    let s ← get
    if s.fields.size < number then setFieldCount number
    modify fun s => { s with fields := s.fields.setIfInBounds (number - 1) c }
    joinFields

def setName (name : String) (c : Cell) : Run Unit := do
  if name = "NF" ∧ ((← get).locals.lookup name).isNone then
    setFieldCount (clamped c.toNumber).toNat
  else setBinding name (.cell c)

/-! ## Tables -/

/-- The number of the table that a name stands for, which becomes one if it is unset. -/
def tableOf (name : String) : Run Nat := do
  let s ← get
  match (s.locals.lookup name).orElse fun _ => s.globals.lookup name with
  | some (.table number) => return number
  | _ =>
    let number := s.tables.size
    modify fun s => { s with tables := s.tables.push {} }
    setBinding name (.table number)
    return number

/-- The key that values are; several are joined by a separator. -/
def keyOf (cells : List Cell) : Run Key := do
  match cells with
  | [c] => return c.toKey (← textOfName "CONVFMT")
  | cells =>
    return .text (List.intercalate (← textOfName "SUBSEP") (← cells.mapM textOf))

/-- The value of a key in a table, which has the key from now on. -/
def entryOf (number : Nat) (key : Key) : Run Cell := do
  let t := ((← get).tables[number]?).getD {}
  let c := (t.get? key).getD .unset
  modify fun s => { s with tables := s.tables.setIfInBounds number (t.put key c) }
  return c

def modifyTable (number : Nat) (f : Table → Table) : Run Unit :=
  modify fun s => { s with tables := s.tables.modify number f }

/-! ## Printing -/

def flushPrinted : Run Unit := do
  let text := (← get).printed.reverse.flatten
  modify fun s => { s with printed := [] }
  let _ ← ofExec (say text)

/-- Prints text to standard output, which gets it later. -/
def put (text : List Char) : Run Unit :=
  modify fun s => { s with printed := text :: s.printed }

def flushSink (sink : Sink) : Run Sink := do
  let text := sink.text.reverse.flatten
  match sink.target with
  | .file path =>
    let before := ((← ofExec shared).files.read? path).getD []
    ofExec (writeFile path (before ++ Octets.toBytes text))
    return { sink with text := [] }
  | .stream number =>
    let _ ← ofExec (writeStream number text)
    return { sink with text := [] }
  | .nowhere => return { sink with text := [] }
  | .command => return sink

/-- Brings what was printed to where it belongs, as far as commands do not get it. -/
def flushAll : Run Unit := do
  flushPrinted
  let sinks ← (← get).sinks.mapM fun (name, sink) => do return (name, ← flushSink sink)
  modify fun s => { s with sinks }

/-- Opens a file for printing. -/
def openSink (name : List Char) (kept : Bool) : Run Sink := do
  let refuse (why : String) : Run Sink :=
    stopWith ("cannot open \"".toList ++ name ++ "\" for output (".toList ++ why.toList ++ [')'])
  match ← ofExec (lookUpNew name) with
  | .file _ | .vacant =>
    let path ← ofExec (pathOf name)
    let isThere := ((← ofExec shared).files.read? path).isSome
    if !kept || !isThere then ofExec (writeFile path [])
    return { target := .file path }
  | .device .null | .device .zero => return { target := .nowhere }
  | .device d => refuse (d.refusal?.getD "")
  | .stream number => return { target := .stream number }
  | .directory => refuse "Is a directory"
  | .fault fault => refuse (faultWords fault)

/-- Prints text to a sink by its name; the flag tells that it goes there at once. -/
def putSink (name text : List Char) (make : Run Sink) : Run Unit := do
  let sink ← match (← get).sinks.lookup name with
    | some sink => pure sink
    | none => make
  let sink := { sink with text := text :: sink.text }
  let sink ← match sink.target with
    | .stream _ => flushSink sink
    | _ => pure sink
  modify fun s => { s with sinks := (name, sink) :: s.sinks.filter (·.1 != name) }

def putFile (name text : List Char) (kept : Bool) : Run Unit := do
  if name = ['-'] ∨ name = "/dev/stdout".toList then put text
  else putSink name text (openSink name kept)

/-! ## Reading -/

/-- Ends the program if a source cannot be read. -/
def Source.check (source : Source) : Run Unit :=
  match source.fault with
  | some why => stopWith ("read error (".toList ++ why ++ [')'])
  | none => return ()

/-- Takes a record from a source; a source at its end has none. -/
def Source.take (separator : List Char) : Nat → Source → Exec (Option (List Char) × Source)
  | 0, source => return (none, source)
  | fuel + 1, source => do
    match takeRecord? separator source.stream.isNone source.rest, source.stream with
    | some (record, rest), _ => return (some record, { source with rest })
    | none, none => return (none, source)
    | none, some stream =>
      match ← readBlock stream with
      | .error fault => return (none, { source with fault := some fault.message.toList })
      | .ok [] => take separator fuel { source with stream := none }
      | .ok text => take separator fuel { source with rest := source.rest ++ text }

/-- Opens a file for reading, if that can be done. -/
def openSource? (name : List Char) : Run (Except (List Char) Source) := do
  if name = ['-'] then return .ok { stream := some 0 }
  match ← ofExec (lookUp name) with
  | .file content => return .ok { rest := Octets.ofBytes content }
  | .device d => return (d.content.map fun rest => { rest }).mapError (·.toList)
  | .stream number => return .ok { stream := some number }
  | .directory => return .error "Is a directory".toList
  | .vacant => return .error "No such file or directory".toList
  | .fault fault => return .error (faultWords fault).toList

/-- Takes an assignment that stands among the arguments, if it is one. -/
def assigned? (argument : List Char) : Option (String × List Char) :=
  let name := argument.takeWhile isNameRest
  match argument.drop name.length with
  | '=' :: value => if isName name then some (String.ofList name, value) else none
  | _ => none

/-- The text of an argument with its escapes replaced. -/
def unescapedArgument (s : List Char) : List Char :=
  match takeText (s.length + 2) (s ++ ['"']) with
  | some (text, []) => text
  | _ => s

/-- Opens the next file of the main input; without files standard input is read. The flag tells
whether there is one. -/
def openMain : Nat → Run Bool
  | 0 => return false
  | fuel + 1 => do
    let s ← get
    let count := (clamped (← valueOf "ARGC").toNumber).toNat
    if count ≤ s.argument then
      if s.opened then return false
      setName "FILENAME" (.text ['-'])
      modify fun s => { s with opened := true, main := some { stream := some 0 } }
      return true
    let table ← tableOf "ARGV"
    modify fun s => { s with argument := s.argument + 1 }
    let argument ← textOf ((((← get).tables[table]?).getD {}).get? (.whole s.argument) |>.getD .unset)
    match argument, assigned? argument with
    | [], _ => openMain fuel
    | _, some (name, value) =>
      setName name (.ofInput (unescapedArgument value))
      openMain fuel
    | argument, none =>
      match ← openSource? argument with
      | .error why =>
        flushPrinted
        stopWith ("cannot open \"".toList ++ argument ++ "\" (".toList ++ why ++ [')'])
      | .ok source =>
        setName "FILENAME" (.text argument)
        setName "FNR" (.ofNat 0)
        modify fun s => { s with opened := true, main := some source }
        return true

/-- Takes a record of the main input, if there is one. -/
def takeMain : Nat → Run (Option (List Char))
  | 0 => return none
  | fuel + 1 => do
    match (← get).main with
    | none => if ← openMain 10000 then takeMain fuel else return none
    | some source =>
      let separator ← textOfName "RS"
      let (record, source) ← ofExec (source.take separator blockLimit)
      source.check
      match record with
      | some record =>
        modify fun s => { s with main := some source }
        return some record
      | none =>
        modify fun s => { s with main := none }
        takeMain fuel

def countUp (name : String) : Run Unit := do
  setName name (.number ((← valueOf name).toNumber.add (.ofInt 1)))

def spendStep : Run Unit := do
  match (← get).patience with
  | 0 => ofExec (throw .waiting)
  | patience + 1 => modify fun s => { s with patience }

end JuliaBlocks.Shell.Awk
