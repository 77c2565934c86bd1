import JuliaBlocks.Shell.Awk.Run

/-!
The program that runs programs for text: its options, and the names that programs start with.
-/

namespace JuliaBlocks.Shell.Awk

/-- What arguments ask for: texts of programs in files, values for names, the separator of fields, and
what follows the options. -/
structure Asked where
  files : List (List Char) := []
  values : List (List Char) := []
  separator : Option (List Char) := none
  rest : List (List Char) := []

def Asked.add (a : Asked) (letter : Char) (argument : List Char) : Asked :=
  match letter with
  | 'F' => { a with separator := some argument }
  | 'v' => { a with values := a.values ++ [argument] }
  | 'f' => { a with files := a.files ++ [argument] }
  | _ => a

def takeAsked : Nat → Asked → List (List Char) → Except (List Char) Asked
  | 0, a, rest => .ok { a with rest }
  | fuel + 1, a, arguments =>
    match arguments with
    | ['-', '-'] :: rest => .ok { a with rest }
    | ('-' :: letter :: attached) :: rest =>
      if "FvfW".toList.contains letter then
        match attached, rest with
        | [], argument :: rest => takeAsked fuel (a.add letter argument) rest
        | [], [] => .error ("option -".toList ++ letter :: " lacks argument".toList)
        | argument, rest => takeAsked fuel (a.add letter argument) rest
      else .error ("not an option: -".toList ++ letter :: attached)
    | rest => .ok { a with rest }

def startingNames : Named Binding :=
  let text (s : String) : Binding := .cell (.text s.toList)
  [("NR", .cell (.ofNat 0)), ("FNR", .cell (.ofNat 0)), ("FS", text " "), ("OFS", text " "),
    ("ORS", text "\n"), ("RS", text "\n"), ("SUBSEP", text "\x1c"), ("CONVFMT", text "%.6g"),
    ("OFMT", text "%.6g"), ("RSTART", .cell .unset), ("RLENGTH", .cell .unset),
    ("FILENAME", .cell .unset)]

/-- The state that programs start with, which knows their arguments and their environment. -/
def startingState (o : Own) (arguments : List (List Char)) : State :=
  let base := (Text.pieces (· == '/') o.name).getLastD o.name
  let given := base :: arguments
  let listed : Table := { loose := (given.zipIdx.map fun (s, i) => ((i : Int), Cell.ofInput s)).reverse }
  let surroundings : Table := o.scope.foldl (fun t (name, v) =>
    match v.value with
    | some s => if v.exported then t.put (.text (Octets.ofText name)) (.ofInput s) else t
    | none => t) {}
  { globals := startingNames ++ [("ARGC", .cell (.ofNat given.length)), ("ARGV", .table 0),
      ("ENVIRON", .table 1)]
    tables := #[listed, surroundings] }

/-- The text of the program, from the arguments or from files. -/
def programText (a : Asked) : Run (List Char × List (List Char)) := do
  match a.files, a.rest with
  | [], text :: rest => return (text, rest)
  | [], [] => return ([], [])
  | files, rest =>
    let texts ← files.mapM fun name => do
      match ← openSource? name with
      | .ok source =>
        match source.stream with
        | some stream => return (← ofExec (readAll stream)).toOption.getD []
        | none => return source.rest
      | .error why => stopWith ("cannot open \"".toList ++ name ++ "\" (".toList ++ why ++ [')'])
    return (texts.flatMap (· ++ ['\n']), rest)

/-- Prepares the names, reads the program and runs it. -/
def runAsked (command : Option (List Char) → Bool → List Char → Exec (Nat × List Char))
    (arguments : List (List Char)) : Run Unit := do
  let a ← match takeAsked (arguments.length + 1) {} arguments with
    | .ok a => pure a
    | .error message => stopWith message
  let (text, arguments) ← programText a
  let o ← ofExec own
  set (startingState o arguments)
  for value in a.values do
    match assigned? value with
    | some (name, value) => setName name (.ofInput (unescapedArgument value))
    | none => stopWith ("improper assignment: -v ".toList ++ value)
  match a.separator with
  | some s => setName "FS" (.text (unescapedArgument s))
  | none => pure ()
  match readProgram text with
  | .error (line, message) =>
    stopWith ("line ".toList ++ wholeText line ++ ": ".toList ++ message.toList)
  | .ok program =>
    if program.rules.isEmpty then return ()
    let context : Context := { program, command }
    try runProgram context
    catch
      | .fault => pure ()
      | jump => throw jump
    finish context

/-- Runs the program on arguments; `command` runs commands. -/
def execute (command : Option (List Char) → Bool → List Char → Exec (Nat × List Char)) : Utility :=
  fun arguments => do
    let (_, s) ← (runAsked command arguments).run.run {}
    return s.status

end JuliaBlocks.Shell.Awk
