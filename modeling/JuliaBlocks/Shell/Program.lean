import JuliaBlocks.Shell.Utility.Calculation
import JuliaBlocks.Shell.Utility.Characters
import JuliaBlocks.Shell.Utility.Edit
import JuliaBlocks.Shell.Utility.Listing
import JuliaBlocks.Shell.Utility.Search
import JuliaBlocks.Shell.Utility.Sorting
import JuliaBlocks.Shell.Utility.Stream
import JuliaBlocks.Shell.Utility.Transfer

/-!
The programs of every system: the shell, the utilities, and those that run other programs.
-/

namespace JuliaBlocks.Shell.Program

open Utility

/-- Prints arguments, whose escapes count only if that is asked for. -/
def echo : Utility := fun arguments => do
  let isOption (a : List Char) : Bool :=
    match a with
    | '-' :: c :: rest => (c :: rest).all fun d => d == 'n' || d == 'e' || d == 'E'
    | _ => false
  let options := (arguments.takeWhile isOption).flatten
  let text := List.intercalate [' '] (arguments.dropWhile isOption)
  let last := (options.filter fun c => c == 'e' || c == 'E').getLast?
  let (text, closed) := if last = some 'e' then Format.unescape (text.length + 1) text
    else (text, false)
  let _ ← say (if closed || options.contains 'n' then text else text ++ ['\n'])
  return 0

def printFormat : Utility := fun arguments => do
  let arguments := match arguments with
    | ['-', '-'] :: rest => rest
    | arguments => arguments
  match arguments with
  | [] =>
    report "missing operand".toList
    complain ("Try '".toList ++ (← own).name ++ " --help' for more information.\n".toList)
    return 1
  | format :: rest =>
    let o := Format.all (rest.length + 2) format { arguments := rest }
    for warning in o.warnings do
      report warning
    let _ ← say o.text
    match o.fault with
    | some message =>
      report message
      return 1
    | none => return if o.warnings.isEmpty then 0 else 1

/-- The variables that programs get, each with its value. -/
def environment (o : Own) : List (List Char) :=
  o.scope.filterMap fun (name, v) =>
    if v.exported then v.value.map fun s => Octets.ofText name ++ '=' :: s else none

def printEnvironment : Utility := fun arguments => do
  let o ← own
  if arguments.isEmpty then
    let _ ← say (unlines (environment o))
    return 0
  let values := arguments.map fun name => o.value? (String.ofList name)
  let _ ← say (unlines (values.filterMap id))
  return if values.all Option.isSome then 0 else 1

def workingDirectory : Utility := fun _ => do
  let _ ← say (Octets.ofText (← own).directory ++ ['\n'])
  return 0

def utilities : List (String × Utility) :=
  [("cat", concatenate), ("tee", tee), ("head", head), ("tail", tail), ("tac", reverseLines),
    ("rev", reverseCharacters), ("wc", count), ("yes", affirm), ("sort", sort), ("uniq", unique),
    ("cut", cut), ("tr", translate), ("od", dump), ("sed", edit), ("grep", search false false),
    ("egrep", search true false), ("fgrep", search false true), ("touch", touch), ("rm", remove),
    ("mkdir", makeDirectories), ("rmdir", removeDirectories), ("cp", copyFiles), ("mv", moveFiles),
    ("chmod", changeMode), ("ls", list), ("basename", baseName), ("dirname", directoryName),
    ("realpath", realPath), ("readlink", realPath), ("expr", express), ("seq", numberSequence),
    ("sleep", sleep), ("true", fun _ => return 0), ("false", fun _ => return 1), ("echo", echo),
    ("printf", printFormat), ("pwd", workingDirectory), ("printenv", printEnvironment)]

def shells : List String := ["sh", "dash", "bash", "rbash"]

/-- Programs that are the shell's own commands too, that look up commands, that run programs for
text, and that run other programs. -/
def others : List String := ["test", "[", "kill", "which", "awk", "mawk", "env"]

def isInstalled (name : String) : Bool :=
  (utilities.lookup name).isSome || shells.contains name || others.contains name

/-- The directories that programs are in. -/
def directories : List String := ["/usr/bin", "/bin"]

def paths : List String :=
  directories.flatMap fun d =>
    (utilities.map (·.1) ++ shells ++ others).map fun name => d ++ "/" ++ name

/-- The name of the program that a path leads to, if it leads to one. -/
def ofPath? (path : String) : Option String :=
  directories.findSome? fun d =>
    let start := (d ++ "/").toList
    if start.isPrefixOf path.toList then
      let name := String.ofList (path.toList.drop start.length)
      if isInstalled name then some name else none
    else none

end JuliaBlocks.Shell.Program
