import JuliaBlocks.Shell.Condition
import JuliaBlocks.Shell.Field
import JuliaBlocks.Shell.Format
import JuliaBlocks.Shell.Expansion
import JuliaBlocks.Shell.Signal
import JuliaBlocks.Shell.Utility.Basic

/-!
The commands of the shell itself that run no other commands: those that print, those that change the
state of the shell, and those that leave a part of a script.
-/

namespace JuliaBlocks.Shell.Builtin

open Utility

/-! ## Arguments -/

/-- Takes the letters of one argument as options; one of them may take the rest of the argument or
the next one. -/
def takeLetters (o : Options) : List Char → List (List Char) →
    Exec (List (Char × List Char) × List (List Char))
  | [], rest => return ([], rest)
  | c :: cluster, rest => do
    match o.takes? c, cluster, rest with
    | none, _, _ => fail ("Illegal option -".toList ++ [c])
    | some .nothing, cluster, rest =>
      let (given, rest) ← takeLetters o cluster rest
      return ((c, []) :: given, rest)
    | some _, [], argument :: rest => return ([(c, argument)], rest)
    | some _, [], [] => fail ("No arg for -".toList ++ c :: " option".toList)
    | some _, cluster, rest => return ([(c, cluster)], rest)

/-- Takes options, with fuel for each argument. -/
def takeOptionsFrom (o : Options) : Nat → List (List Char) →
    Exec (List (Char × List Char) × List (List Char))
  | 0, rest => return ([], rest)
  | fuel + 1, arguments => do
    match arguments with
    | ['-', '-'] :: rest => return ([], rest)
    | ('-' :: c :: cluster) :: rest =>
      let (given, rest) ← takeLetters o (c :: cluster) rest
      let (others, rest) ← takeOptionsFrom o fuel rest
      return (given ++ others, rest)
    | rest => return ([], rest)

def takeOptions (letters : String) (arguments : List (List Char)) : Exec Given := do
  let (options, operands) ← takeOptionsFrom { letters } arguments.length arguments
  return { options, operands }

def numberOf (s : List Char) : Exec Nat :=
  match natural? s with
  | some n => if n < 2147483648 then return n else fail ("Illegal number: ".toList ++ s)
  | none => fail ("Illegal number: ".toList ++ s)

/-- A text between single quotes; single quotes in it stand between double ones. -/
def quotedFrom : Nat → List Char → List Char
  | 0, _ => []
  | fuel + 1, s =>
    let plain := s.takeWhile (· != '\'')
    let rest := s.drop plain.length
    let marks := rest.takeWhile (· == '\'')
    let rest := rest.drop marks.length
    '\'' :: plain ++ ['\''] ++
      (if marks.isEmpty then [] else '"' :: marks ++ ['"']) ++
      (if rest.isEmpty then [] else quotedFrom fuel rest)

/-- A text as a word of a script. -/
def asWord (s : List Char) : List Char :=
  quotedFrom (s.length + 1) s

/-! ## Output -/

/-- Prints a text; the status tells whether that could be done. -/
def output (text : List Char) : Exec Nat := do
  if ← say text then return 0
  else
    warn (((← own).command.getD []) ++ ": I/O error".toList)
    return 1

def echo : Utility := fun arguments => do
  let quiet := arguments.head? == some ['-', 'n']
  let text := List.intercalate [' '] (if quiet then arguments.drop 1 else arguments)
  let (text, closed) := Format.unescape (text.length + 1) text
  output (if closed || quiet then text else text ++ ['\n'])

def printFormat : Utility := fun arguments => do
  match (← takeOptions "" arguments).operands with
  | [] => fail "usage: printf format [arg ...]".toList
  | format :: rest =>
    let o := Format.all (rest.length + 2) format { arguments := rest }
    for warning in o.warnings do
      warn warning
    match o.fault with
    | some message =>
      warn message
      let _ ← output o.text
      throw (.failed 2)
    | none =>
      let status ← output o.text
      return if o.warnings.isEmpty then status else 1

/-! ## Conditions -/

/-- Whether a place is as an operator of a condition asks. -/
def placeIsSo (s : Shared) (path : String) (operator : String) (place : Place) : Bool :=
  match operator, place with
  | _, .vacant | _, .fault _ => false
  | "-d", .directory => true
  | "-d", _ | "-b", _ | "-p", _ | "-u", _ | "-g", _ | "-k", _ | "-h", _ | "-L", _ | "-S", _ => false
  | "-f", .file _ => true
  | "-f", _ => false
  | "-c", .device _ => true
  | "-c", _ => false
  | "-s", .file content => !content.isEmpty || (s.files.read? path).isNone
  | "-s", .directory => true
  | "-s", _ => false
  | "-x", .directory => true
  | "-x", .file _ => s.executables.contains path
  | "-x", _ => false
  | _, _ => true

/-- What can be asked about files now. -/
def facts : Exec Condition.Facts := do
  let m ← get
  let pathOf (name : List Char) : String := Path.place m.own.directory (Octets.toText name)
  let place (name : List Char) : Place := placeNamed m.shared m.own.directory name
  return {
    isSo := fun operator name =>
      if name.isEmpty || operator = "-t" then false
      else placeIsSo m.shared (pathOf name) operator (place name)
    related := fun operator a b =>
      let isThere (name : List Char) : Bool := match place name with
        | .vacant | .fault _ => false
        | _ => true
      operator = "-ef" && pathOf a == pathOf b && isThere a && isThere b }

def test : Utility := fun arguments => do
  match Condition.holds (← facts) (arguments.length + 1) arguments with
  | .ok answer => return if answer then 0 else 1
  | .error message => fail message

/-- Decides a condition that a bracket closes. -/
def bracket : Utility := fun arguments => do
  if arguments.getLast? = some [']'] then test arguments.dropLast
  else fail "missing ]".toList

/-! ## Directories -/

/-- The directories that a relative name is looked for in, with whether they are named. -/
def searchPlaces (o : Own) (name : List Char) : List (List Char × Bool) :=
  let dotted : Bool := match name.takeWhile (· != '/') with
    | ['.'] | ['.', '.'] => true
    | _ => false
  let listed := match o.value? "CDPATH" with
    | some path => Text.pieces (· == ':') path
    | none => []
  if name.head? = some '/' || dotted then [] else
    listed.map fun d => (if d.isEmpty then [] else d ++ ['/'], !d.isEmpty)

def changeDirectory : Utility := fun arguments => do
  let g ← takeOptions "LP" arguments
  let o ← own
  let (name, shown) := match g.operands with
    | ['-'] :: _ => ((o.value? "OLDPWD").getD [], true)
    | name :: _ => (name, false)
    | [] => ((o.value? "HOME").getD [], false)
  let files := (← shared).files
  let choices : List (String × Bool) := (searchPlaces o name ++ [([], false)]).map
    fun (start, named) => (Path.place o.directory (Octets.toText (start ++ name)), named)
  match choices.find? fun (path, _) => files.hasDirectory path with
  | none => fail ("can't cd to ".toList ++ name)
  | some (path, named) =>
    let current := Octets.ofText o.directory
    modifyOwn fun o => (o.set "OLDPWD" current).export "OLDPWD"
    modifyOwn fun o => { (o.set "PWD" (Octets.ofText path)).export "PWD" with directory := path }
    if shown || named then output (Octets.ofText path ++ ['\n']) else return 0

def workingDirectory : Utility := fun arguments => do
  let _ ← takeOptions "LP" arguments
  output (Octets.ofText (← own).directory ++ ['\n'])

/-! ## Variables -/

/-- Fails if a variable must not be set. -/
def checkName (name : List Char) : Exec Unit := do
  if !isName name then fail (name ++ ": bad variable name".toList)

def assign (name value : List Char) : Exec Unit := do
  checkName name
  setVariable name value

def sortedVariables (o : Own) : List (String × Variable) :=
  o.scope.mergeSort fun a b => Text.inOrder a.1.toList b.1.toList

/-- Variables as lines of a script. -/
def listing (front : String) (scope : List (String × Variable)) : List Char :=
  scope.flatMap fun (name, v) =>
    front.toList ++ Octets.ofText name ++ (match v.value with
      | some value => '=' :: asWord value
      | none => []) ++ ['\n']

/-- A definition in an argument: a name and a value, if there is one. -/
def definition (argument : List Char) : List Char × Option (List Char) :=
  let name := argument.takeWhile (· != '=')
  match argument.drop name.length with
  | _ :: value => (name, some value)
  | [] => (name, none)

/-- Gives variables a mark, and some of them values; without arguments it lists those that have the
mark. -/
def declare (front : String) (mark : Variable → Variable) (isMarked : Variable → Bool) : Utility :=
  fun arguments => do
    let g ← takeOptions "p" arguments
    if g.has 'p' || g.operands.isEmpty then
      output (listing front ((sortedVariables (← own)).filter fun (_, v) => isMarked v))
    else
      for argument in g.operands do
        let (name, value) := definition argument
        checkName name
        match value with
        | some value => setVariable name value
        | none => pure ()
        let key := String.ofList name
        modifyOwn fun o => { o with
          scope := Named.put key (mark ((o.scope.lookup key).getD {})) o.scope }
      return 0

def exportVariables : Utility :=
  declare "export " (fun v => { v with exported := true }) (·.exported)

def fixVariables : Utility :=
  declare "readonly " (fun v => { v with fixed := true }) (·.fixed)

def unset : Utility := fun arguments => do
  let g ← takeOptions "vf" arguments
  let functions := (g.options.getLast?.map (·.1)) == some 'f'
  for name in g.operands do
    let key := String.ofList name
    if functions then
      modifyOwn fun o => { o with functions := o.functions.filter (·.1 != key) }
    else
      checkName name
      if ((← own).scope.lookup key).any (·.fixed) then fail (name ++ ": is read only".toList)
      if key = "OPTIND" then fail "Illegal number: ".toList
      modifyOwn fun o => { o with scope := o.scope.filter (·.1 != key) : Own }.heed [key]
  return 0

def makeLocal : Utility := fun arguments => do
  if !(← own).inFunction then fail "not in a function".toList
  for argument in arguments do
    let (name, value) := definition argument
    checkName name
    let key := String.ofList name
    modifyOwn fun o =>
      match o.locals with
      | frame :: outer =>
        if (frame.lookup key).isSome then o
        else { o with locals := Named.put key (o.scope.lookup key) frame :: outer }
      | [] => o
    match value with
    | some value => setVariable name value
    | none => pure ()
  return 0

/-- Drops arguments from the front. -/
def shift : Utility := fun arguments => do
  let count ← match arguments with
    | n :: _ => numberOf n
    | [] => pure 1
  if (← own).parameters.length < count then fail "can't shift that many".toList
  modifyOwn fun o => { o with parameters := o.parameters.drop count : Own }.startOptions
  return 0

/-! ## Options of the shell -/

/-- The options by name; some have no letter. -/
def optionNames : List (String × Option Char) :=
  [("errexit", some 'e'), ("noglob", some 'f'), ("ignoreeof", some 'I'), ("interactive", some 'i'),
    ("monitor", some 'm'), ("noexec", some 'n'), ("stdin", some 's'), ("xtrace", some 'x'),
    ("verbose", some 'v'), ("vi", some 'V'), ("emacs", some 'E'), ("noclobber", some 'C'),
    ("allexport", some 'a'), ("notify", some 'b'), ("nounset", some 'u'), ("privileged", some 'p'),
    ("nolog", none), ("debug", none)]

def switchOption (o : Own) (letter : Char) (isOn : Bool) : Own :=
  let letters := optionNames.filterMap (·.2)
  { o with options := letters.filter fun c => if c = letter then isOn else o.hasOption c }

def optionListing (o : Own) (asScript : Bool) : List Char :=
  let lines := optionNames.map fun (name, letter) =>
    let isOn := letter.any o.hasOption
    if asScript then (if isOn then "set -o " else "set +o ") ++ name
    else name ++ String.ofList (List.replicate (16 - name.length) ' ') ++ (if isOn then "on" else "off")
  let lines := if asScript then lines else "Current option settings" :: lines
  Octets.ofText (String.join (lines.map (· ++ "\n")))

/-- What the options of the shell ask for beside being turned on and off. -/
structure Asked where
  /-- Whether the script is an argument. -/
  fromText : Bool := false
  /-- Whether the arguments are to be none. -/
  cleared : Bool := false
  /-- What follows the options. -/
  words : List (List Char) := []

def takeSettingLetters (starting isOn : Bool) : List Char → List (List Char) →
    Exec (Bool × List (List Char))
  | [], rest => return (false, rest)
  | c :: letters, rest => do
    if c = 'c' ∧ starting then
      let (_, rest) ← takeSettingLetters starting isOn letters rest
      return (true, rest)
    else if c = 'o' then
      match rest with
      | [] =>
        let _ ← say (optionListing (← own) !isOn)
        takeSettingLetters starting isOn letters []
      | name :: rest =>
        match optionNames.lookup (String.ofList name) with
        | some letter =>
          modifyOwn fun o => switchOption o (letter.getD ' ') isOn
          takeSettingLetters starting isOn letters rest
        | none => fail ("Illegal option -o ".toList ++ name)
    else if (optionNames.any fun (_, letter) => letter == some c) || (c = 'l' && starting) then
      modifyOwn fun o => switchOption o c isOn
      takeSettingLetters starting isOn letters rest
    else fail ("Illegal option -".toList ++ [c])

/-- Turns options on or off, with fuel for each argument. -/
def takeSettings (starting : Bool) : Nat → List (List Char) → Exec Asked
  | 0, words => return { words }
  | fuel + 1, words => do
    match words with
    | ['-'] :: rest =>
      if !starting then
        modifyOwn fun o => switchOption (switchOption o 'x' false) 'v' false
      return { words := rest }
    | ['-', '-'] :: rest => return { words := rest, cleared := rest.isEmpty }
    | (sign :: letters) :: rest =>
      if sign = '-' ∨ sign = '+' then
        let (fromText, rest) ← takeSettingLetters starting (sign = '-') letters rest
        let asked ← takeSettings starting fuel rest
        return { asked with fromText := fromText || asked.fromText }
      else return { words }
    | words => return { words }

/-- Sets options and arguments; without any it lists the variables. -/
def set : Utility := fun arguments => do
  if arguments.isEmpty then
    output (listing "" ((sortedVariables (← own)).filter fun (_, v) => v.value.isSome))
  else
    let asked ← takeSettings false arguments.length arguments
    if asked.cleared || !asked.words.isEmpty then
      modifyOwn fun o => { o with parameters := asked.words : Own }.startOptions
    return 0

/-! ## Reading -/

/-- The pieces of a line in which backslashes hide separators, and whether a backslash at its end
hides the end. -/
def hiddenPieces : List Char → List Piece × Bool
  | [] => ([], false)
  | ['\\'] => ([], true)
  | '\\' :: c :: rest =>
    let (pieces, open') := hiddenPieces rest
    (.char c .quoted :: pieces, open')
  | c :: rest =>
    let (pieces, open') := hiddenPieces rest
    (.char c .expanded :: pieces, open')

/-- Reads a line as pieces; the flag tells whether it had an end. -/
def readPieces (raw : Bool) : Nat → Exec (List Piece × Bool)
  | 0 => return ([], false)
  | fuel + 1 => do
    match ← readLine 0 with
    | .error _ => return ([], false)
    | .ok (line, ended) =>
      let line := line.filter (· != '\x00')
      if raw then return (line.map fun c => .char c .expanded, ended)
      else
        match hiddenPieces line, ended with
        | (pieces, true), true =>
          let (rest, ended) ← readPieces raw fuel
          return (pieces ++ rest, ended)
        | (pieces, _), ended => return (pieces, ended)

/-- Reads a line into variables. -/
def read : Utility := fun arguments => do
  let g ← takeOptions "p:r" arguments
  if g.operands.isEmpty then fail "arg count".toList
  let (pieces, ended) ← readPieces (g.has 'r') blockLimit
  let fields := (Field.split (← own).separators (some g.operands.length)
    (.opening false :: pieces)).map Glob.textOf
  let empty := List.replicate (g.operands.length - fields.length) []
  for (name, value) in g.operands.zip (fields ++ empty) do
    assign name value
  return if ended then 0 else 1

/-- What reading one option of the arguments of a script comes to: the letter, the argument of the
option if it is to be set, a message, and where reading goes on. -/
structure OptionRead where
  letter : Char
  argument : Option (List Char) := none
  message : List Char := []
  /-- The number of the next argument, and the place in the one before it, if it has letters left. -/
  next : Nat
  place : Nat := 0
  isOver : Bool := false

/-- The letters that are options from a letter on; a colon after another letter is none of them. -/
def optionFrom (c : Char) : Nat → List Char → List Char
  | 0, _ | _, [] => []
  | fuel + 1, d :: rest =>
    if d = c then d :: rest
    else match rest with
      | ':' :: rest => optionFrom c fuel rest
      | rest => optionFrom c fuel rest

/-- Reads an option, by the letters that are options, from the arguments of a script. -/
def readOption (letters : List Char) (arguments : List (List Char)) (next place : Nat) :
    OptionRead :=
  let silent := letters.head? == some ':'
  let left := if next ≤ 1 || place = 0 then [] else ((arguments[next - 2]?).getD []).drop place
  let closed : OptionRead := { letter := '?', next := next, isOver := true }
  let start : Option (List Char × Nat × Nat) :=
    if left.isEmpty then
      match arguments[next - 1]? with
      | some ('-' :: c :: rest) => some (c :: rest, next + 1, 1)
      | _ => none
    else some (left, next, place)
  match start with
  | none => closed
  | some (['-'], next, 1) => { closed with next := next }
  | some ([], _, _) => closed
  | some (c :: rest, next, place) =>
    let place := if rest.isEmpty then 0 else place + 1
    let known := optionFrom c letters.length letters
    if known.isEmpty then
      if silent then { letter := '?', argument := some [c], next, place }
      else { letter := '?', message := "Illegal option -".toList ++ [c, '\n'], next, place }
    else if known[1]? = some ':' then
      match rest, arguments[next - 1]? with
      | [], none =>
        if silent then { letter := ':', argument := some [c], next }
        else { letter := '?', message := "No arg for -".toList ++ c :: " option\n".toList, next }
      | [], some argument => { letter := c, argument := some argument, next := next + 1 }
      | rest, _ => { letter := c, argument := some rest, next }
    else { letter := c, argument := some [], next, place }

def getOptions : Utility := fun arguments => do
  match (← takeOptions "" arguments).operands with
  | letters :: name :: given =>
    let o ← own
    let words := if given.isEmpty then o.parameters else given
    let o := if words.length + 1 < o.optionNext then o.startOptions else o
    let r := readOption letters words o.optionNext o.optionPlace
    complain r.message
    if !r.isOver then
      match r.argument with
      | some argument => setVariable "OPTARG".toList argument
      | none =>
        modifyOwn fun o => { o with scope := o.scope.filter (·.1 != "OPTARG") }
    setVariable "OPTIND".toList (numeral r.next)
    modifyOwn fun o => { o with optionNext := r.next, optionPlace := r.place }
    assign name [r.letter]
    return if r.isOver then 1 else 0
  | _ => fail "Usage: getopts optstring var [arg...]".toList

/-! ## Signals and processes -/

/-- Sets what is done about signals, or lists it. -/
def trap : Utility := fun arguments => do
  let words := (← takeOptions "" arguments).operands
  match words with
  | [] =>
    let traps := (← own).traps.mergeSort fun a b => a.1 ≤ b.1
    output (traps.flatMap fun (signal, action) =>
      "trap -- ".toList ++ asWord action ++ ' ' :: (Signal.name signal).toList ++ ['\n'])
  | first :: rest =>
    let isNumber := first.all Char.isDigit && (Signal.ofText? first).isSome
    let (action, signals) := if rest.isEmpty || isNumber then (none, words) else
      (if first = ['-'] then none else some first, rest)
    for word in signals do
      match Signal.ofText? word with
      | none =>
        complain ("trap: ".toList ++ word ++ ": bad trap\n".toList)
        return 1
      | some signal =>
        modifyOwn fun o => { o with
          traps := (action.map fun a => (signal, a)).toList ++ o.traps.filter (·.1 != signal) }
    return 0

/-- Sends a signal to a process; the flag tells whether there is one of that number. -/
def send (signal target : Nat) : Exec Bool := do
  let o ← own
  let now := o.clock
  match o.backgrounds.find? (·.number == target) with
  | some b =>
    let isOver := b.finish.any (· ≤ now)
    if !isOver && signal != 0 && !Signal.isHarmless signal then
      modifyOwn fun o => { o with backgrounds := o.backgrounds.map fun b =>
        if b.number = target then { b with finish := some now, status := 128 + signal, signal }
        else b }
      modifyShared fun s => { s with printed := s.printed.filter fun p =>
        !(b.number ≤ p.number && p.number < b.next && now < p.moment) }
    return true
  | none =>
    if target = o.number || o.above.contains target then
      if signal != 0 then
        modifyShared fun s => { s with signals := s.signals ++ [(target, signal)] }
      return true
    else return false

/-- The signal that an argument with a hyphen names. -/
def signalOf? (argument : List Char) : Option Nat :=
  if argument.map Char.toUpper = "EXIT".toList then none else Signal.ofText? argument

def signalListing : List Char :=
  unlines (['0'] :: (List.range Signal.greatest).map fun n => (Signal.name (n + 1)).toList)

def kill : Utility := fun arguments => do
  let usage {α : Type} : Exec α :=
    fail ("Usage: kill [-s sigspec | -signum | -sigspec] [pid | job]... or\n" ++
      "kill -l [exitstatus]").toList
  let (signal, listed, targets) ← match arguments with
    | ('-' :: name) :: rest =>
      match signalOf? name with
      | some signal => pure (signal, false, rest)
      | none =>
        let g ← takeOptions "ls:" arguments
        match g.argument? 's' with
        | some name =>
          match signalOf? name with
          | some signal => pure (signal, g.has 'l', g.operands)
          | none => fail ("invalid signal number or name: ".toList ++ name)
        | none => pure (15, g.has 'l', g.operands)
    | targets => pure (15, false, targets)
  if listed then
    match targets with
    | [] => output signalListing
    | word :: _ =>
      let n ← numberOf word
      let n := if 128 < n then n - 128 else n
      if 0 < n ∧ n ≤ Signal.greatest then output ((Signal.name n).toList ++ ['\n'])
      else fail ("invalid signal number or exit status: ".toList ++ word)
  else if targets.isEmpty then usage
  else targets.foldlM (fun status word => do
    if ← send signal (← numberOf word) then return status
    else
      warn "No such process\n".toList
      return 1) 0

/-- Waits for parts that run beside. -/
def wait : Utility := fun arguments => do
  let await (b : Background) : Exec Unit :=
    match b.finish with
    | some moment => do
      if (← shared).limit < moment then throw .waiting
      advanceTo moment
    | none => throw .waiting
  let words := (← takeOptions "" arguments).operands
  if words.isEmpty then
    for b in (← own).backgrounds do
      await b
    return 0
  else words.foldlM (fun _ word => do
    if word.head? = some '%' then fail ("No such job: ".toList ++ word)
    let number ← numberOf word
    match (← own).backgrounds.find? (·.number == number) with
    | none => return 127
    | some b =>
      await b
      if b.signal != 0 then complain ((Signal.description b.signal) ++ "\n").toList
      return b.status) 0

/-- Prints the times that were used, none to speak of. -/
def times : Utility := fun _ =>
  output "0m0.000000s 0m0.000000s\n0m0.000000s 0m0.000000s\n".toList

/-! ## Names for texts -/

/-- Names in the order in which they are listed, by their places in a table of a size. -/
def listed {α : Type} (size : Nat) (names : Named α) : Named α :=
  let place (name : String) : Nat :=
    name.toList.foldl (fun sum c => sum + c.toNat) ((name.toList.headD '\x00').toNat * 16) % size
  (List.range size).flatMap fun i => names.filter fun (name, _) => place name = i

/-- What lists a name that stands for a text. -/
def aliasText (name : String) (text : List Char) : List Char :=
  name.toList ++ '=' :: asWord text

/-- Has names stand for texts, or lists those that do. -/
def setAliases : Utility := fun arguments => do
  if arguments.isEmpty then
    output (unlines ((listed 39 (← own).aliases).map fun (name, text) => aliasText name text))
  else arguments.foldlM (fun status argument => do
    let length := (argument.drop 1).takeWhile (· != '=') |>.length
    let name := String.ofList (argument.take (length + 1))
    match argument.drop (length + 1) with
    | _ :: text =>
      modifyOwn fun o => { o with aliases := Named.put name text o.aliases }
      return status
    | [] =>
      match (← own).aliases.lookup name with
      | some text =>
        let _ ← output (aliasText name text ++ ['\n'])
        return status
      | none =>
        complain ("alias: ".toList ++ argument ++ " not found\n".toList)
        return 1) 0

/-- Has names stand for themselves again. -/
def removeAliases : Utility := fun arguments => do
  let g ← takeOptions "a" arguments
  if g.has 'a' then
    modifyOwn fun o => { o with aliases := [] }
    return 0
  g.operands.foldlM (fun status operand => do
    let name := String.ofList operand
    if ((← own).aliases.lookup name).isSome then
      modifyOwn fun o => { o with aliases := o.aliases.filter (·.1 != name) }
      return status
    else
      complain ("unalias: ".toList ++ operand ++ " not found\n".toList)
      return 1) 0

/-! ## Permissions and limits -/

def permissionText (mask : Nat) : List Char :=
  let letters (n : Nat) : List Char :=
    [(4, 'r'), (2, 'w'), (1, 'x')].filterMap fun (bit, c) => if n &&& bit = 0 then some c else none
  "u=".toList ++ letters (mask / 64) ++ ",g=".toList ++ letters (mask / 8 % 8) ++ ",o=".toList ++
    letters (mask % 8)

/-- Changes permissions by clauses: whom they are for, a sign, and letters, which may stand for what
someone has. A clause may have several signs, and commas stand between clauses. What is left of the
text comes with the permissions. -/
def changePermissions (before : Nat) : Nat → (whom now : Nat) → List Char → Nat × List Char
  | 0, _, now, s => (now, s)
  | _, _, now, [] => (now, [])
  | fuel + 1, whom, now, s =>
    let who (c : Char) : Nat := match c with
      | 'a' => 73
      | 'u' => 64
      | 'g' => 8
      | _ => 1
    let names := s.takeWhile fun c => "augo".toList.contains c
    let whom := names.foldl (fun n c => n ||| who c) whom
    let whom := if whom = 0 then 73 else whom
    match s.drop names.length with
    | sign :: rest =>
      if !"=+-".toList.contains sign then (now, sign :: rest)
      else
        let letters := rest.takeWhile fun c => "rwxugoXs".toList.contains c
        let value := letters.foldl (fun n c => n ||| match c with
          | 'r' => 4
          | 'w' => 2
          | 'x' => 1
          | 'u' => before / 64
          | 'g' => before / 8
          | 'o' => before
          | 'X' => if before &&& 73 = 0 then 0 else 1
          | _ => 0) 0
        let value := value % 8 * whom
        let now := match sign with
          | '-' => now - (now &&& value)
          | '+' => now ||| value
          | _ => value ||| (now - (now &&& (whom * 7)))
        match rest.drop letters.length with
        | ',' :: rest => changePermissions before fuel 0 now rest
        | rest =>
          if (rest.head?).any "=+-".toList.contains then changePermissions before fuel whom now rest
          else (now, rest)
    | [] => (now, [])

def mask : Utility := fun arguments => do
  let g ← takeOptions "S" arguments
  let before := (← own).mask
  match g.operands with
  | [] =>
    if g.has 'S' then output (permissionText before ++ ['\n'])
    else
      let digits := Nat.toDigits 8 before
      output (List.replicate (4 - digits.length) '0' ++ digits ++ ['\n'])
  | word :: _ =>
    if (word.head?).any Char.isDigit then
      if !word.all fun c => '0' ≤ c && c ≤ '7' then fail ("Illegal number: ".toList ++ word)
      let mask := word.foldl (fun n c => n * 8 + (c.toNat - 48)) 0
      modifyOwn fun o => { o with mask := mask % 512 }
    else
      let (permissions, rest) := changePermissions (511 - before) (word.length + 1) 0 (511 - before) word
      if !rest.isEmpty then fail ("Illegal mode: ".toList ++ word)
      modifyOwn fun o => { o with mask := 511 - permissions % 512 }
    return 0

/-- Prints a limit, of which there are none. -/
def limit : Utility := fun _ => output "unlimited\n".toList

/-! ## Leaving -/

def exit : Utility := fun arguments => do
  match arguments with
  | [] => throw (.exited (← own).status)
  | n :: _ => throw (.exited ((← numberOf n) % 256))

/-- Leaves a function or a script. -/
def leave : Utility := fun arguments => do
  match arguments with
  | [] => throw .returned
  | n :: _ =>
    setStatus (← numberOf n)
    throw .returned

/-- Leaves loops, the last of which may go on with its next round. -/
def leaveLoop (again : Bool) : Utility := fun arguments => do
  let levels ← match arguments with
    | [] => pure 1
    | n :: _ =>
      match ← numberOf n with
      | 0 => fail ("Illegal number: ".toList ++ n)
      | levels => pure levels
  match min levels (← own).loops with
  | 0 => return 0
  | levels =>
    setStatus 0
    throw (.left levels again)

/-! ## All together -/

/-- The commands whose failure ends the shell, and that keep the variables bound in front of
them. -/
def special : List (String × Utility) :=
  [(":", fun _ => return 0), ("export", exportVariables), ("readonly", fixVariables),
    ("unset", unset), ("set", set), ("shift", shift), ("trap", trap), ("times", times),
    ("exit", exit), ("return", leave), ("break", leaveLoop false), ("continue", leaveLoop true),
    ("local", makeLocal)]

/-- The other commands of the shell. -/
def plain : List (String × Utility) :=
  [("true", fun _ => return 0), ("false", fun _ => return 1), ("echo", echo),
    ("printf", printFormat), ("test", test), ("[", bracket), ("cd", changeDirectory),
    ("chdir", changeDirectory), ("pwd", workingDirectory), ("read", read), ("getopts", getOptions),
    ("alias", setAliases), ("unalias", removeAliases), ("kill", kill), ("wait", wait),
    ("umask", mask), ("ulimit", limit), ("jobs", fun _ => return 0)]

end JuliaBlocks.Shell.Builtin
