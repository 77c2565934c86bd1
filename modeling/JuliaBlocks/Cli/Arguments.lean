/-!
The form of a command line: options by a long name or a letter, and positional arguments among
them. Letters may be joined, a value may be attached to its option, and after `--` everything is
positional.
-/

namespace JuliaBlocks.Cli

/-- An option: its long name, which its values are filed under, its letter, and whether it takes
a value. -/
structure OptionForm where
  name : String
  letter : Option Char := none
  takesValue : Bool := true
deriving DecidableEq

/-- The options given, in their order, a plain flag with an empty value, and the positional
arguments. -/
structure Arguments where
  given : List (String × String) := []
  positional : List String := []
deriving DecidableEq

namespace Arguments

def values (arguments : Arguments) (name : String) : List String :=
  (arguments.given.filter (·.1 == name)).map (·.2)

/-- The value of an option that counts, which is the last. -/
def value? (arguments : Arguments) (name : String) : Option String :=
  (arguments.values name).getLast?

def has (arguments : Arguments) (name : String) : Bool :=
  (arguments.value? name).isSome

/-- Puts options in front of the others. -/
def withOptions (given : List (String × String)) (arguments : Arguments) : Arguments :=
  { arguments with given := given ++ arguments.given }

def withPositional (text : String) (arguments : Arguments) : Arguments :=
  { arguments with positional := text :: arguments.positional }

end Arguments

/-- What one argument says: it is positional, it ends the options, or it holds options, the last
of which may still await its value. -/
inductive Item
  | positional (text : String)
  | divider
  | options (given : List (String × String)) (awaiting : Option String)
deriving DecidableEq

/-- Reads an option by its long name, with a value attached by an equals sign or none. -/
def readLong? (forms : List OptionForm) (s : List Char) : Option Item := do
  let name := s.takeWhile (· != '=')
  let attached := (s.dropWhile (· != '=')).tail?
  let form ← forms.find? (·.name.toList == name)
  match form.takesValue, attached with
  | true, some value => some (.options [(form.name, String.ofList value)] none)
  | true, none => some (.options [] (some form.name))
  | false, none => some (.options [(form.name, "")] none)
  | false, some _ => none

/-- Reads options by their letters. What follows the letter of one that takes a value is that
value. -/
def readLetters? (forms : List OptionForm) : List Char → Option Item
  | [] => some (.options [] none)
  | c :: rest => do
    let form ← forms.find? (·.letter == some c)
    if form.takesValue then
      if rest.isEmpty then some (.options [] (some form.name))
      else some (.options [(form.name, String.ofList rest)] none)
    else
      match ← readLetters? forms rest with
      | .options given awaiting => some (.options ((form.name, "") :: given) awaiting)
      | item => some item

/-- Reads one argument; there is nothing to it if it names an option that does not exist, or
attaches a value to a flag. A lone hyphen is positional. -/
def readItem? (forms : List OptionForm) (argument : String) : Option Item :=
  match argument.toList with
  | ['-', '-'] => some .divider
  | '-' :: '-' :: name => readLong? forms name
  | '-' :: c :: letters => readLetters? forms (c :: letters)
  | _ => some (.positional argument)

/-- Reads arguments of which the first, if an option awaits its value, is that value whatever it
looks like. -/
def readItems? (forms : List OptionForm) : Option String → List String → Option Arguments
  | none, [] => some {}
  | some _, [] => none
  | some name, argument :: rest =>
    (readItems? forms none rest).map (·.withOptions [(name, argument)])
  | none, argument :: rest =>
    match readItem? forms argument with
    | none => none
    | some .divider => some { positional := rest }
    | some (.positional text) => (readItems? forms none rest).map (·.withPositional text)
    | some (.options given awaiting) =>
      (readItems? forms awaiting rest).map (·.withOptions given)

/-- Reads the arguments of a command; there is no reading of a malformed line. -/
def Arguments.read? (forms : List OptionForm) (line : List String) : Option Arguments :=
  readItems? forms none line

end JuliaBlocks.Cli
