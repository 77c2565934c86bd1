import JuliaBlocks.Shell.Machine

/-!
What utilities have in common: their options, and the reading of the files they are given. A utility
takes its arguments and comes to an exit status.
-/

namespace JuliaBlocks.Shell

/-- A utility, as a step that takes arguments and gives an exit status. -/
abbrev Utility := List (List Char) → Exec Nat

namespace Utility

/-- What an option takes: nothing, what is attached to it, or that or else the next argument. -/
inductive Taking
  | nothing
  | attached
  | argument
deriving DecidableEq

/-- The options of a utility: letters, those that take an argument followed by a colon, or two if it
has to be attached, and the long names of letters. Operands may stand among them unless they end
them. -/
structure Options where
  letters : String := ""
  long : List (String × Char) := []
  ordered : Bool := false

/-- Options as they were given, with the arguments they took, and the operands. -/
structure Given where
  options : List (Char × List Char) := []
  operands : List (List Char) := []

def Given.has (g : Given) (letter : Char) : Bool :=
  g.options.any (·.1 == letter)

/-- The argument of an option that was given, the last one if it was given often. -/
def Given.argument? (g : Given) (letter : Char) : Option (List Char) :=
  (g.options.filter (·.1 == letter)).getLast?.map (·.2)

/-- What a letter takes, if it is an option. -/
def Options.takes? (o : Options) (letter : Char) : Option Taking :=
  match o.letters.toList.dropWhile (· != letter) with
  | _ :: ':' :: ':' :: _ => some .attached
  | _ :: ':' :: _ => some .argument
  | _ :: _ => if letter = ':' then none else some .nothing
  | [] => none

def Given.addOption (g : Given) (letter : Char) (argument : List Char) : Given :=
  { g with options := (letter, argument) :: g.options }

/-- Reads a cluster of letters; the last one may take what follows it or the next argument. -/
def takeCluster (o : Options) : List Char → List (List Char) → Given →
    Except (List Char) (Given × List (List Char))
  | [], rest, g => .ok (g, rest)
  | c :: cluster, rest, g =>
    match o.takes? c with
    | none => .error ("invalid option -- '".toList ++ [c, '\''])
    | some .nothing => takeCluster o cluster rest (g.addOption c [])
    | some .attached => .ok (g.addOption c cluster, rest)
    | some .argument =>
      match cluster, rest with
      | [], argument :: rest => .ok (g.addOption c argument, rest)
      | [], [] => .error ("option requires an argument -- '".toList ++ [c, '\''])
      | cluster, rest => .ok (g.addOption c cluster, rest)

def takeLong (o : Options) (name : List Char) (rest : List (List Char)) (g : Given) :
    Except (List Char) (Given × List (List Char)) :=
  let word := name.takeWhile (· != '=')
  let attached := name.drop word.length
  let exact := o.long.filter fun (long, _) => long.toList == word
  let near := o.long.filter fun (long, _) => word.isPrefixOf long.toList
  match exact ++ near with
  | [] => .error ("unrecognized option '--".toList ++ name ++ ['\''])
  | (long, letter) :: _ =>
    if exact.isEmpty && 1 < near.length then
      .error ("option '--".toList ++ name ++ "' is ambiguous".toList)
    else match o.takes? letter, attached, rest with
      | some .attached, _ :: argument, rest => .ok (g.addOption letter argument, rest)
      | some .argument, _ :: argument, rest => .ok (g.addOption letter argument, rest)
      | some .argument, [], argument :: rest => .ok (g.addOption letter argument, rest)
      | some .argument, [], [] =>
        .error ("option '--".toList ++ long.toList ++ "' requires an argument".toList)
      | _, _, rest => .ok (g.addOption letter [], rest)

def takeOptions (o : Options) : Nat → List (List Char) → Given → Except (List Char) Given
  | 0, _, g => .ok g
  | _, [], g => .ok g
  | fuel + 1, word :: rest, g => do
    match word with
    | ['-', '-'] => return { g with operands := rest.reverse ++ g.operands }
    | '-' :: '-' :: name =>
      let (g, rest) ← takeLong o name rest g
      takeOptions o fuel rest g
    | '-' :: c :: cluster =>
      let (g, rest) ← takeCluster o (c :: cluster) rest g
      takeOptions o fuel rest g
    | operand =>
      if o.ordered then return { g with operands := (operand :: rest).reverse ++ g.operands }
      else takeOptions o fuel rest { g with operands := operand :: g.operands }

/-- The options and operands of arguments, in the order given. -/
def Options.read (o : Options) (arguments : List (List Char)) : Except (List Char) Given :=
  (takeOptions o (arguments.length + 1) arguments {}).map fun g =>
    { options := g.options.reverse, operands := g.operands.reverse }

/-- Runs a utility on its options; arguments that are none end it with a status. -/
def withOptions (o : Options) (status : Nat) (arguments : List (List Char))
    (act : Given → Exec Nat) : Exec Nat := do
  match o.read arguments with
  | .ok g => act g
  | .error message =>
    report message
    complain ("Try '".toList ++ (← own).name ++ " --help' for more information.\n".toList)
    return status

/-! ## Files -/

/-- A name of a file as messages quote it. -/
def quoted (name : List Char) : List Char :=
  let plain := name.all fun c => c != '\'' && c != '\n'
  if plain then '\'' :: name ++ ['\'']
  else if name.all fun c => c != '"' && c != '$' && c != '\x60' && c != '\\' && c != '\n' then
    '"' :: name ++ ['"']
  else
    '\'' :: (name.flatMap fun c =>
      if c = '\'' then "'\\''".toList else if c = '\n' then "'$'\\n''".toList else [c]) ++ ['\'']

/-- A name of a file between typographic quotes, as other messages show it. -/
def curled (name : List Char) : List Char :=
  Octets.ofText "‘" ++ name ++ Octets.ofText "’"

/-- The content of a file, or why it cannot be read; a hyphen is standard input. -/
def contentOf (name : List Char) : Exec (Except (List Char) (List Char)) := do
  let readStream (stream : Nat) : Exec (Except (List Char) (List Char)) := do
    match ← readAll stream with
    | .ok text => return .ok text
    | .error fault =>
      if stream = 0 then modifyOwn fun o => { o with unread := true }
      return .error fault.message.toList
  if name = ['-'] then readStream 0
  else match ← lookUp name with
    | .file content => return .ok (Octets.ofBytes content)
    | .device d => return d.content.mapError (·.toList)
    | .stream number => readStream number
    | .directory => return .error "Is a directory".toList
    | .vacant => return .error "No such file or directory".toList
    | .fault fault => return .error (faultWords fault).toList

/-- Reads files one after another; of those that cannot be read a message tells, and the status is
one. -/
def withContents (names : List (List Char)) (explain : List Char → List Char → List Char)
    (act : List Char → List Char → Exec Unit) : Exec Nat := do
  (if names.isEmpty then [['-']] else names).foldlM (fun status name => do
    match ← contentOf name with
    | .ok content =>
      act name content
      return status
    | .error why =>
      report (explain name why)
      return 1) 0

/-- Names a file and says why it cannot be read. -/
def plainly (name why : List Char) : List Char :=
  name ++ ": ".toList ++ why

/-- Names a file, or standard input in a way of its own, and says why it cannot be read. -/
def plainlyOr (input : String) (name why : List Char) : List Char :=
  plainly (if name = ['-'] then input.toList else name) why

/-- Says that standard input cannot be read, which is kept in mind. -/
def refuseInput (message : String) (fault : ReadFault) : Exec Unit := do
  modifyOwn fun o => { o with unread := true }
  report (plainly message.toList fault.message.toList)

/-- Says that a file cannot be opened, or read if it is open. -/
def openly (name why : List Char) : List Char :=
  if name = ['-'] then "error reading 'standard input': ".toList ++ why
  else if why = "Is a directory".toList then "error reading ".toList ++ quoted name ++ ": ".toList ++ why
  else "cannot open ".toList ++ quoted name ++ " for reading: ".toList ++ why

def joinedContents (names : List (List Char)) (explain : List Char → List Char → List Char) :
    Exec (List Char × Nat) := do
  (if names.isEmpty then [['-']] else names).foldlM (fun (text, status) name => do
    match ← contentOf name with
    | .ok content => return (text ++ content, status)
    | .error why =>
      report (explain name why)
      return (text, 1)) (([] : List Char), 0)

/-- Replaces the content of the file of a name, or says why that cannot be done. -/
def store (name content : List Char) : Exec (Option (List Char)) := do
  match ← lookUpNew name with
  | .file _ | .vacant =>
    writeFile (← pathOf name) (Octets.toBytes content)
    return none
  | .device d => return d.refusal?.map (·.toList)
  | .stream number =>
    let _ ← writeStream number content
    return none
  | .directory => return some "Is a directory".toList
  | .fault fault => return some (faultWords fault).toList

/-! ## Lines and numbers -/

/-- The lines of a text; the last one counts if it is not empty. -/
def linesOf (text : List Char) : List (List Char) :=
  let lines := Text.pieces (· == '\n') text
  if lines.getLast? = some [] then lines.dropLast else lines

/-- The lines of a text with their line feeds, which the last one may lack. -/
def linesWithEnds (text : List Char) : List (List Char) :=
  let lines := Text.pieces (· == '\n') text
  let ended := lines.dropLast.map (· ++ ['\n'])
  match lines.getLast? with
  | none | some [] => ended
  | some last => ended ++ [last]

def unlines (lines : List (List Char)) : List Char :=
  lines.flatMap (· ++ ['\n'])

def numeral (n : Int) : List Char :=
  (Numeral.render n).toList

/-- A number in a field of a width. -/
def padded (width : Nat) (n : Int) : List Char :=
  let s := numeral n
  List.replicate (width - s.length) ' ' ++ s

def natural? (s : List Char) : Option Nat :=
  if s.isEmpty || !s.all Char.isDigit then none
  else some (Numeral.ofDigits (s.filterMap Numeral.asciiDigit?))

/-- A count with a unit, such as `2k`. -/
def size? (s : List Char) : Option Nat :=
  let digits := s.takeWhile Char.isDigit
  (natural? digits).bind fun n =>
    match String.ofList (s.drop digits.length) with
    | "" => some n
    | "b" => some (n * 512)
    | "k" | "K" | "KiB" => some (n * 1024)
    | "kB" | "KB" => some (n * 1000)
    | "m" | "M" | "MiB" => some (n * 1048576)
    | "MB" => some (n * 1000000)
    | _ => none

end Utility

end JuliaBlocks.Shell
