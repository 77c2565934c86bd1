import JuliaBlocks.Cli
import JuliaBlocks.Sessions
import JuliaBlocks.Shell.Host

/-!
The program: it gathers what surrounds a command line, runs it and prints the outcome. Sessions
run on the machine for shell scripts.
-/

namespace JuliaBlocks.Main

/-- The bindings of the environment, which are listed one after another with a null character
behind each. -/
def bindings (listing : String) : List (String × String) :=
  (Text.pieces (· == '\x00') listing.toList).filterMap fun entry =>
    match entry.dropWhile (· != '=') with
    | _ :: value => some (String.ofList (entry.takeWhile (· != '=')), String.ofList value)
    | [] => none

def readText? (path : String) : IO (Option String) := do
  try
    let content ← IO.FS.readBinFile path
    return some (String.ofList (Text.Utf8.decode content.toList))
  catch _ => return none

/-- Whether a directory exists. -/
def directoryExists (path : String) : IO Bool := do
  try
    let _ ← IO.FS.Handle.mk path .read
    return true
  catch _ => return false

/-- The standard input, read only if the body of a block is asked from there. -/
def readInput (line : List String) : IO String := do
  if line.contains Cli.Block.inputMark then
    let content ← (← IO.getStdin).readBinToEnd
    return String.ofList (Text.Utf8.decode content.toList)
  else return ""

/-- The directories that side files can be in: those of the working directory, of temporary files
and of the settings. -/
def directories (files : Files) (surroundings : Cli.Surroundings) : IO (List String) := do
  let chosen := match surroundings.settings with
    | .ok settings => [Transport.directory settings files]
    | .error _ => []
  ([files.working, files.temporary] ++ chosen).filterM directoryExists

end JuliaBlocks.Main

open JuliaBlocks in
def main (line : List String) : IO UInt32 := do
  let environment := Main.bindings ((← Main.readText? "/proc/self/environ").getD "")
  let working := (environment.lookup "PWD").getD "/"
  let files : Files := { working, temporary := (environment.lookup "TMPDIR").getD "/tmp" }
  let surroundings : Cli.Surroundings := {
    environment
    dotenv := ← Main.readText? ".env"
    input := ← Main.readInput line }
  let directories ← Main.directories files surroundings
  let host := Shell.host [] environment
  let venue : Cli.Venue (Sessions Shell.Child) := {
    sinks := Sessions.sink host
    initial := Sessions.initial []
    shut := Sessions.shut host }
  let (outcome, _) := Cli.runLine { surroundings with files := { files with directories } } venue line
  (← IO.getStdout).putStr outcome.standardOutput
  (← IO.getStderr).putStr outcome.standardError
  return UInt32.ofNat outcome.exitCode
