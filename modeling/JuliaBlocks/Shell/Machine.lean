import JuliaBlocks.Files
import JuliaBlocks.Shell.Reader
import JuliaBlocks.Text.Order
import JuliaBlocks.Value

/-!
The state of running scripts and its basic effects. A process and the parts of it that run by
themselves share what is outside of them: the input and output of the process, files and pipes; each
part has its own variables, streams, directory and clock. A part that wants input that is not there,
or wants to sleep beyond the time there is, waits, and the state up to there stands.
-/

namespace JuliaBlocks.Shell

/-- The devices: the one that is always empty, the one of endless null characters, the one that is
also full, and the terminal, of which there is none. -/
inductive Device
  | null
  | zero
  | full
  | terminal
deriving DecidableEq

/-- Where a stream leads. -/
inductive Endpoint
  /-- The input and the output of the process. -/
  | input
  | output
  | device (d : Device)
  | file (path : String)
  | directory (path : String)
  | pipe (number : Nat)
deriving DecidableEq

/-- An open stream, which several stream numbers may share with its offset. -/
structure Description where
  endpoint : Endpoint
  offset : Nat := 0
  readable : Bool := true
  writable : Bool := true
  appending : Bool := false

/-- A pipe: what can be read from it, by the moments at which it was written, what was written since,
the latest first, and whether more may follow. -/
structure Pipe where
  front : List (Nat × List Char) := []
  back : List (Nat × List Char) := []
  size : Nat := 0
  /-- The most that may be written before it is read; none means any amount. -/
  capacity : Option Nat := none
  writing : Bool := true

/-- The value of a variable, if it has one, whether programs get it and whether it can be set. -/
structure Variable where
  value : Option (List Char) := none
  exported : Bool := false
  fixed : Bool := false

/-- A part that runs beside the one that started it: its process number, the first number after
those of its own parts, the moment it ends, if it does, and its status then, with the signal that
ended it or zero. -/
structure Background where
  number : Nat
  next : Nat
  finish : Option Nat
  status : Nat
  signal : Nat := 0

/-- A text that was printed: when, by which process number, and what. -/
structure Printed where
  moment : Nat
  number : Nat
  text : List Char

/-- What a part that runs by itself has a copy of. -/
structure Own where
  name : List Char
  parameters : List (List Char) := []
  scope : Named Variable := []
  functions : Named Command := []
  /-- The texts that names of commands stand for. -/
  aliases : Named (List Char) := []
  /-- The paths that names of commands were found at. -/
  tracked : Named (List Char) := []
  /-- The letters of the options that are on. -/
  options : List Char := []
  status : Nat := 0
  /-- The status of the last substitution in the command at hand. -/
  substituted : Nat := 0
  /-- The descriptions that stream numbers stand for. -/
  streams : List (Nat × Nat) := [(0, 0), (1, 1), (2, 1)]
  directory : String := "/"
  /-- What is done about signals by number, zero being the end. -/
  traps : List (Nat × List Char) := []
  /-- The moment, in microseconds. -/
  clock : Nat := 0
  line : Nat := 1
  /-- The command of the shell that is running, for messages. -/
  command : Option (List Char) := none
  /-- How many loops surround the command. -/
  loops : Nat := 0
  /-- Whether a function is running, and how many of them are. -/
  inFunction : Bool := false
  calls : Nat := 0
  /-- The variables that functions have made local, as they were, innermost function first. -/
  locals : List (Named (Option Variable)) := []
  /-- The number of the process, that of the shell it belongs to, and those of the processes that
  wait for it, the closest first. -/
  number : Nat
  shell : Nat
  above : List Nat := []
  backgrounds : List Background := []
  /-- The number of the latest part that was started to run beside. -/
  latest : Option Nat := none
  /-- The number of the argument where reading options goes on, and the place in the one before it,
  if that has letters left. -/
  optionNext : Nat := 1
  optionPlace : Nat := 0
  /-- The permissions that new files do not get. -/
  mask : Nat := 18
  /-- Whether a program could not write its output, and whether it could not read its input. -/
  unwritten : Bool := false
  unread : Bool := false

structure Shared where
  /-- The input not yet read, by the moments of its arrival. -/
  input : List (Nat × List Char) := []
  /-- The moment at which the input ends, if it does. -/
  ended : Option Nat := none
  /-- The moment up to which there is time. -/
  limit : Nat := 0
  /-- The first moment at which a sleep ends that lies beyond that. -/
  wake : Option Nat := none
  /-- What was printed, the latest first. -/
  printed : List Printed := []
  files : Files
  executables : List String := []
  /-- The paths that were changed. -/
  touched : List String := []
  descriptions : Array Description := #[⟨.input, 0, true, false, false⟩,
    ⟨.output, 0, false, true, false⟩]
  pipes : Array Pipe := #[]
  /-- The here documents that were read. -/
  documents : List (Nat × Word) := []
  /-- The number of the next here document. -/
  nextDocument : Nat := 0
  /-- The number of the next process. -/
  nextNumber : Nat
  /-- Signals that processes have sent others. -/
  signals : List (Nat × Nat) := []
  /-- How many more commands may run before the process counts as busy for good. -/
  patience : Nat := 100000

structure Machine where
  own : Own
  shared : Shared

/-- Why a part stops. -/
inductive Halt
  /-- It waits for input, or for time to pass. -/
  | waiting
  /-- It has filled a pipe that nobody reads meanwhile. -/
  | blocked
  | exited (status : Nat)
  /-- A command of the shell has failed for good, and with it the part, unless that command may
  fail. -/
  | failed (status : Nat)
  | killed (signal : Nat)
  /-- So many loops are left, the last of which may go on with its next round. -/
  | left (levels : Nat) (again : Bool)
  /-- A function, or a script that is read, is left. -/
  | returned
deriving DecidableEq

/-- A step of a script. -/
abbrev Exec := ExceptT Halt (StateM Machine)

/-- The state of the part that runs. -/
def own : Exec Own := do return (← get).own

/-- The state that all parts share. -/
def shared : Exec Shared := do return (← get).shared

def modifyOwn (f : Own → Own) : Exec Unit :=
  modify fun m => { m with own := f m.own }

def modifyShared (f : Shared → Shared) : Exec Unit :=
  modify fun m => { m with shared := f m.shared }

def setStatus (status : Nat) : Exec Unit :=
  modifyOwn fun o => { o with status }

/-- Moves the clock on to a moment, unless that is past. -/
def advanceTo (moment : Nat) : Exec Unit :=
  modifyOwn fun o => { o with clock := max o.clock moment }

def sleepFor (microseconds : Nat) : Exec Unit := do
  let wake := (← own).clock + microseconds
  if (← shared).limit < wake then
    modifyShared fun s => { s with wake := some (min wake (s.wake.getD wake)) }
    throw .waiting
  else advanceTo wake

/-- The fuel for loops that other limits end. -/
def plenty : Nat := 1000000000

def spend : Exec Unit := do
  match (← shared).patience with
  | 0 => throw .waiting
  | patience + 1 => modifyShared fun s => { s with patience }

/-! ## Variables -/

def Own.value? (o : Own) (name : String) : Option (List Char) :=
  (o.scope.lookup name).bind (·.value)

def Own.separators (o : Own) : List Char :=
  (o.value? "IFS").getD [' ', '\t', '\n']

def Own.hasOption (o : Own) (letter : Char) : Bool :=
  o.options.contains letter

/-- Has the reading of options start over at an argument, which is the first one unless a number
tells otherwise. -/
def Own.startOptions (o : Own) (number : List Char := []) : Own :=
  { o with
    optionNext := max 1 (Numeral.ofDigits (number.filterMap Numeral.asciiDigit?)), optionPlace := 0 }

/-- What follows from new values of variables: programs are looked for again in another search path,
and options are read from where the number for that says. -/
def Own.heed (o : Own) (names : List String) : Own :=
  let o := if names.contains "PATH" then { o with tracked := [] } else o
  if names.contains "OPTIND" then o.startOptions ((o.value? "OPTIND").getD []) else o

/-- Sets the value of a variable that can be set; while all variables are exported, so is this
one. -/
def Own.set (o : Own) (name : String) (value : List Char) : Own :=
  let v := (o.scope.lookup name).getD {}
  let exported := v.exported || o.hasOption 'a'
  let v := { v with value := some value, exported }
  { o with scope := Named.put name v o.scope : Own }.heed [name]

def Own.export (o : Own) (name : String) : Own :=
  let v := (o.scope.lookup name).getD {}
  { o with scope := Named.put name { v with exported := true } o.scope }

/-! ## Streams -/

def description? (stream : Nat) : Exec (Option (Nat × Description)) := do
  let m ← get
  return (m.own.streams.lookup stream).bind fun id =>
    m.shared.descriptions[id]?.map fun d => (id, d)

def openDescription (d : Description) : Exec Nat := do
  let id := (← shared).descriptions.size
  modifyShared fun s => { s with descriptions := s.descriptions.push d }
  return id

/-- Has a stream number stand for a description. -/
def setStream (stream id : Nat) : Exec Unit :=
  modifyOwn fun o => { o with
    streams := (stream, id) :: o.streams.filter (·.1 != stream) }

def closeStream (stream : Nat) : Exec Unit :=
  modifyOwn fun o => { o with streams := o.streams.filter (·.1 != stream) }

def newPipe (text : List Char) (capacity : Option Nat) (writing : Bool) : Exec Nat := do
  let number := (← shared).pipes.size
  let clock := (← own).clock
  let front := if text.isEmpty then [] else [(clock, text)]
  modifyShared fun s => { s with pipes := s.pipes.push { front, capacity, writing } }
  return number

/-- The bytes of a file with some replaced from an offset on; zeros fill a gap. -/
def overwrite (content : List UInt8) (offset : Nat) (text : List UInt8) : List UInt8 :=
  if offset = content.length then content ++ text
  else
    content.take offset ++ List.replicate (offset - content.length) 0 ++ text ++
      content.drop (offset + text.length)

def writeFile (path : String) (content : List UInt8) : Exec Unit :=
  modifyShared fun s => { s with
    files := s.files.write path content, touched := path :: s.touched }

def removeFile (path : String) : Exec Unit :=
  modifyShared fun s => { s with
    files := s.files.remove path, touched := path :: s.touched,
    executables := s.executables.filter (· != path) }

/-- Writes to a stream; the flag tells whether it is open for writing. -/
def writeStream (stream : Nat) (text : List Char) : Exec Bool := do
  match ← description? stream with
  | none => return false
  | some (id, d) =>
    if !d.writable then return false
    match d.endpoint with
    | .output =>
      let o ← own
      modifyShared fun s => { s with printed := ⟨o.clock, o.number, text⟩ :: s.printed }
      return true
    | .device d => return d != .full
    | .file path =>
      let content := ((← shared).files.read? path).getD []
      let offset := if d.appending then content.length else d.offset
      let bytes := Octets.toBytes text
      writeFile path (overwrite content offset bytes)
      modifyShared fun s => { s with
        descriptions := s.descriptions.setIfInBounds id { d with offset := offset + bytes.length } }
      return true
    | .pipe number =>
      let clock := (← own).clock
      modifyShared fun s => { s with
        pipes := s.pipes.modify number fun p =>
          { p with back := (clock, text) :: p.back, size := p.size + text.length } }
      match (← shared).pipes[number]? with
      | some p => if p.capacity.any (· < p.size) then throw .blocked else return true
      | none => return true
    | .input | .directory _ => return false

/-- How many octets an endless device gives at once. -/
def blockSize : Nat := 8192

/-- How many commands the reading of a block of an endless device counts as. -/
def blockCost : Nat := 1000

/-- The octets of an endless device that is read like a file, which are no more than this. -/
def deviceSize : Nat := 1048576

/-- What the content of a device is, or why it cannot be read. -/
def Device.content : Device → Except String (List Char)
  | null => .ok []
  | zero | full => .ok (List.replicate deviceSize '\x00')
  | terminal => .error "No such device or address"

/-- Why a device does not take anything, if it does not. -/
def Device.refusal? : Device → Option String
  | null | zero => none
  | full => some "No space left on device"
  | terminal => some "No such device or address"

inductive ReadFault
  | closed
  | directory
deriving DecidableEq

def ReadFault.message : ReadFault → String
  | closed => "Bad file descriptor"
  | directory => "Is a directory"

/-- What a stream has to read at once, without reading it: nothing at its end. A part waits for what
may still come. -/
def available (stream : Nat) : Exec (Except ReadFault (List Char)) := do
  match ← description? stream with
  | none => return .error .closed
  | some (_, d) =>
    if !d.readable then return .error .closed
    match d.endpoint with
    | .input =>
      let s ← shared
      match s.input.dropWhile (·.2.isEmpty), s.ended with
      | (moment, _) :: _, _ =>
        advanceTo moment
        let clock := (← own).clock
        return .ok ((s.input.takeWhile (·.1 ≤ clock)).flatMap (·.2))
      | [], some moment =>
        advanceTo moment
        return .ok []
      | [], none => throw .waiting
    | .device .zero | .device .full =>
      let patience := (← shared).patience
      if patience < blockCost then throw .waiting
      modifyShared fun s => { s with patience := patience - blockCost }
      return .ok (List.replicate blockSize '\x00')
    | .device _ => return .ok []
    | .output => return .error .closed
    | .directory _ => return .error .directory
    | .file path =>
      let content := ((← shared).files.read? path).getD []
      return .ok (Octets.ofBytes (content.drop d.offset))
    | .pipe number =>
      let turn (p : Pipe) : Pipe :=
        if p.front.isEmpty then { p with front := p.back.reverse, back := [] } else p
      modifyShared fun s => { s with pipes := s.pipes.modify number turn }
      match (← shared).pipes[number]? with
      | some { front := (moment, text) :: _, .. } =>
        advanceTo moment
        return .ok text
      | some { writing := true, .. } => throw .waiting
      | _ => return .ok []

def dropChunks (count : Nat) : List (Nat × List Char) → List (Nat × List Char)
  | [] => []
  | (moment, text) :: rest =>
    if text.length ≤ count then dropChunks (count - text.length) rest
    else (moment, text.drop count) :: rest

def consume (stream count : Nat) : Exec Unit := do
  match ← description? stream with
  | none => return ()
  | some (id, d) =>
    match d.endpoint with
    | .input => modifyShared fun s => { s with input := dropChunks count s.input }
    | .pipe number =>
      modifyShared fun s => { s with
        pipes := s.pipes.modify number fun p => { p with front := dropChunks count p.front } }
    | .file _ =>
      modifyShared fun s => { s with
        descriptions := s.descriptions.setIfInBounds id { d with offset := d.offset + count } }
    | _ => return ()

/-- Reads what a stream has at once. -/
def readBlock (stream : Nat) : Exec (Except ReadFault (List Char)) := do
  match ← available stream with
  | .error fault => return .error fault
  | .ok text =>
    consume stream text.length
    return .ok text

/-- The most blocks that are read in a row. -/
def blockLimit : Nat := 1000000

/-- Reads blocks up to the end of a stream, the latest first. -/
def readBlocks (stream : Nat) : Nat → List (List Char) → Exec (Except ReadFault (List (List Char)))
  | 0, blocks => return .ok blocks
  | fuel + 1, blocks => do
    match ← readBlock stream with
    | .error fault => return .error fault
    | .ok [] => return .ok blocks
    | .ok text => readBlocks stream fuel (text :: blocks)

def readAll (stream : Nat) : Exec (Except ReadFault (List Char)) := do
  return (← readBlocks stream blockLimit []).map fun blocks => blocks.reverse.flatten

/-- Reads pieces of a line up to its end; the flag tells whether it had one. -/
def readLineFrom (stream : Nat) : Nat → List (List Char) →
    Exec (Except ReadFault (List Char × Bool))
  | 0, pieces => return .ok (pieces.reverse.flatten, false)
  | fuel + 1, pieces => do
    match ← available stream with
    | .error fault => return .error fault
    | .ok [] => return .ok (pieces.reverse.flatten, false)
    | .ok text =>
      let line := text.takeWhile (· != '\n')
      if line.length < text.length then
        consume stream (line.length + 1)
        return .ok ((line :: pieces).reverse.flatten, true)
      else
        consume stream text.length
        readLineFrom stream fuel (text :: pieces)

/-- Reads one line without its line feed; the flag tells whether it had one. -/
def readLine (stream : Nat) : Exec (Except ReadFault (List Char × Bool)) :=
  readLineFrom stream blockLimit []

/-! ## Messages -/

/-- Writes to standard output; the flag tells whether it is open. -/
def say (text : List Char) : Exec Bool := do
  if text.isEmpty then return true
  let written ← writeStream 1 text
  if !written then modifyOwn fun o => { o with unwritten := true }
  return written

def complain (text : List Char) : Exec Unit := do
  let _ ← writeStream 2 text

/-- Writes a message of the shell, which names the script, the line and the command of the shell that
is running. -/
def warn (message : List Char) : Exec Unit := do
  let o ← own
  let command := match o.command with
    | some c => c ++ ": ".toList
    | none => []
  complain (o.name ++ ": ".toList ++ (Numeral.render o.line).toList ++ ": ".toList ++ command ++
    message ++ ['\n'])

/-- Fails with a message of the shell. -/
def fail {α : Type} (message : List Char) : Exec α := do
  warn message
  throw (.failed 2)

/-- Writes a message of a program, which names the program. -/
def report (message : List Char) : Exec Unit := do
  complain ((← own).name ++ ": ".toList ++ message ++ ['\n'])

/-! ## Files -/

/-- The path that a name means in the directory of a part. -/
def pathOf (name : List Char) : Exec String := do
  return Path.place (← own).directory (Octets.toText name)

/-- What a path leads to. -/
inductive Place
  | file (content : List UInt8)
  | directory
  | device (d : Device)
  /-- A stream of the part itself. -/
  | stream (number : Nat)
  /-- Nothing, in a directory that exists. -/
  | vacant
  | fault (fault : PathFault)

def deviceOf? (path : String) : Option Device :=
  match path with
  | "/dev/null" => some .null
  | "/dev/zero" | "/dev/random" | "/dev/urandom" => some .zero
  | "/dev/full" => some .full
  | "/dev/tty" => some .terminal
  | _ => none

/-- The names of streams as files. -/
def streamOf? (path : String) : Option Nat :=
  match path with
  | "/dev/stdin" => some 0
  | "/dev/stdout" => some 1
  | "/dev/stderr" => some 2
  | _ =>
    if path.startsWith "/dev/fd/" then (path.drop 8).toString.toNat? else none

/-- What a path leads to. A program that is not among the files is a file without content. -/
def placeOf (s : Shared) (path : String) : Place :=
  let files := s.files
  match deviceOf? path, streamOf? path with
    | some d, _ => .device d
    | none, some number => .stream number
    | none, none =>
      if files.hasDirectory path then .directory
      else match files.read? path with
        | some content => .file content
        | none =>
          if s.executables.contains path then .file []
          else
            let parts := Path.components path
            match files.creationFault? ("/" ++ String.intercalate "/" parts.dropLast)
                (parts.getLastD "") with
            | some fault => .fault fault
            | none => if Files.nameLimit < (parts.getLastD "").utf8ByteSize then .fault .tooLong
              else .vacant

/-- Why a row of parts cannot be followed from a directory; all but the last lead to directories. -/
def walkFault? (s : Shared) (directory : String) : List String → Option PathFault
  | part :: next :: rest =>
    let path := Path.place directory part
    match placeOf s path with
    | .directory => walkFault? s path (next :: rest)
    | .vacant => some .missing
    | .fault fault => some fault
    | _ => some .notDirectory
  | _ => none

/-- What a name leads to in a directory; a name that ends in a slash leads to a directory or
nowhere. -/
def placeNamed (s : Shared) (directory : String) (name : List Char) : Place :=
  let text := Octets.toText name
  let start := if Path.root text = "" then directory else "/"
  let parts := (Text.pieces (· == '/') text.toList).filter (!·.isEmpty)
  if name.isEmpty then .fault .missing
  else match walkFault? s start (parts.map String.ofList) with
    | some fault => .fault fault
    | none =>
      match placeOf s (Path.place directory text), name.getLast? with
      | .file _, some '/' | .device _, some '/' => .fault .notDirectory
      | place, _ => place

def lookUp (name : List Char) : Exec Place := do
  return placeNamed (← shared) (← own).directory name

/-- What stands where a file of a name is to be created; a name that ends in a slash is one of a
directory. -/
def lookUpNew (name : List Char) : Exec Place := do
  let front := (name.reverse.dropWhile (· == '/')).reverse
  if front.isEmpty || front.length = name.length then lookUp name
  else match ← lookUp front with
    | .fault fault => return .fault fault
    | _ => return .directory

def faultWords : PathFault → String
  | .nullCharacter | .missing => "No such file or directory"
  | .notDirectory => "Not a directory"
  | .tooLong => "File name too long"

/-- The names in a directory in increasing order. -/
def entries (files : Files) (directory : String) : List String :=
  let start := (if directory = "/" then "/" else directory ++ "/").toList
  Text.sortDistinct ((files.paths ++ files.directories).filterMap fun path =>
    if start.isPrefixOf path.toList then
      let rest := (path.toList.drop start.length).takeWhile (· != '/')
      if rest.isEmpty then none else some (String.ofList rest)
    else none)

end JuliaBlocks.Shell
