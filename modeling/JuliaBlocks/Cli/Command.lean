import JuliaBlocks.Cli.Arguments
import JuliaBlocks.Request
import JuliaBlocks.Settings.Field

/-!
The commands of the program and the blocks they are about.
-/

namespace JuliaBlocks.Cli

/-- A block as the command line describes it. -/
structure Block where
  body : String
  resultType : String := "value"
  session : Option String := none
  bindings : List String := []
  prologue : Option String := none
  epilogue : Option String := none
  results : List String := []
  graphicsFile : Option String := none
  width : Option Int := none
  height : Option Int := none
deriving DecidableEq

/-- A command: to show the snippet of a block, to show it wrapped, to evaluate it, with a trace
or without, or to list the plugins by hook. -/
inductive Command
  | expand (block : Block)
  | wrap (block : Block)
  | evaluate (block : Block) (debug : Bool)
  | hooks
deriving DecidableEq

inductive Verb
  | expand
  | wrap
  | evaluate
  | hooks
deriving DecidableEq, Repr

/-- Why a command line gives no command: it asks for help, or it is malformed. -/
inductive Misuse
  | help (verb : Option Verb)
  | malformed
deriving DecidableEq

namespace Verb

def name : Verb → String
  | expand => "expand"
  | wrap => "wrap"
  | evaluate => "eval"
  | hooks => "hooks"

def all : List Verb := [expand, wrap, evaluate, hooks]

def ofName? (s : String) : Option Verb :=
  all.find? (·.name == s)

def helpForm : OptionForm := { name := "help", takesValue := false }

def variableForm : OptionForm := { name := "var", letter := some 'v' }

def forms : Verb → List OptionForm
  | expand =>
    [variableForm, { name := "prologue" }, { name := "epilogue" },
      { name := "results", letter := some 'r' }, { name := "file" }, { name := "width" },
      { name := "height" }, helpForm]
  | wrap =>
    [{ name := "result-type", letter := some 't' }, { name := "session", letter := some 's' },
      variableForm, helpForm]
  | evaluate =>
    [{ name := "result-type", letter := some 't' }, { name := "session", letter := some 's' },
      variableForm, { name := "prologue" }, { name := "epilogue" },
      { name := "results", letter := some 'r' }, { name := "file" },
      { name := "debug", takesValue := false }, helpForm]
  | hooks => [helpForm]

def usage (verb : Verb) : String :=
  "Usage: babel-julia " ++ verb.name ++ " [OPTIONS]" ++
    (match verb with
      | hooks => ""
      | _ => " BODY")

end Verb

namespace Block

/-- Reads an integer option; there is none if it was not given. -/
def integer (arguments : Arguments) (name : String) : Except Misuse (Option Int) :=
  match arguments.value? name with
  | none => .ok none
  | some s =>
    match Field.intOfText s.toList with
    | .ok n => .ok (some n)
    | .error _ => .error .malformed

/-- The block of a command line, which has to have exactly one positional argument. -/
def ofArguments (arguments : Arguments) : Except Misuse Block := do
  let width ← integer arguments "width"
  let height ← integer arguments "height"
  match arguments.positional with
  | [body] =>
    return {
      body, width, height
      resultType := (arguments.value? "result-type").getD "value"
      session := arguments.value? "session"
      bindings := arguments.values "var"
      prologue := arguments.value? "prologue"
      epilogue := arguments.value? "epilogue"
      results := arguments.values "results"
      graphicsFile := arguments.value? "file" }
  | _ => throw .malformed

/-- A header argument for an option that was given. -/
def entry (name : String) (v : Option Value) : Named Value :=
  v.toList.map (name, ·)

/-- A header argument for an option that can be given several times. -/
def entries (name : String) : List String → Named Value
  | [] => []
  | items => [(name, .list (items.map .text))]

def params (block : Block) : Named Value :=
  entry "result-type" (some (.text block.resultType)) ++
    entry "session" (block.session.map .text) ++
    entries "var" block.bindings ++
    entry "prologue" (block.prologue.map .text) ++
    entry "epilogue" (block.epilogue.map .text) ++
    entries "result-params" block.results ++
    entry "file" (block.graphicsFile.map .text) ++
    entry "width" (block.width.map .int) ++
    entry "height" (block.height.map .int)

/-- The body that stands for the text of the standard input. -/
def inputMark : String := "-"

/-- The request for a block, whose body may be the standard input. -/
def request (block : Block) (input : String) : Except Failure Request :=
  Request.ofHeader (if block.body = inputMark then input else block.body) block.params

end Block

namespace Command

/-- The command of a verb with its arguments. -/
def ofArguments (verb : Verb) (arguments : Arguments) : Except Misuse Command :=
  if arguments.has Verb.helpForm.name then .error (.help verb)
  else
    match verb with
    | .expand => return .expand (← Block.ofArguments arguments)
    | .wrap => return .wrap (← Block.ofArguments arguments)
    | .evaluate => return .evaluate (← Block.ofArguments arguments) (arguments.has "debug")
    | .hooks => if arguments.positional = [] then return .hooks else throw .malformed

/-- Reads what follows the program's name: a verb and its arguments. A `--` may stand before
them. -/
def read (line : List String) : Except Misuse Command :=
  match line with
  | "--help" :: _ => .error (.help none)
  | _ =>
    match (if line.head? = some "--" then line.tail else line) with
    | [] => .error .malformed
    | word :: rest =>
      match Verb.ofName? word with
      | none => .error .malformed
      | some verb =>
        match Arguments.read? verb.forms rest with
        | none => .error .malformed
        | some arguments => ofArguments verb arguments

end Command

end JuliaBlocks.Cli
