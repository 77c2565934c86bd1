import JuliaBlocks.Shell.Octets

/-!
The syntax of shell scripts: words, which are expanded before they are used, redirections, and
commands.
-/

namespace JuliaBlocks.Shell

/-- What is made of the value of a parameter. -/
inductive Operation
  | value
  | length
  /-- Another word in place of a missing value. -/
  | otherwise
  /-- Another word in place of a missing value, which becomes the value. -/
  | assign
  /-- A failure if there is no value. -/
  | require
  /-- Another word in place of a value that is there. -/
  | instead
  | dropFront (longest : Bool)
  | dropBack (longest : Bool)
  /-- An operation that does not exist. -/
  | unknown
deriving DecidableEq

inductive RedirectKind
  | read
  | write
  /-- Writes even if files are to be kept. -/
  | replace
  | append
  | readWrite
  | duplicate
  /-- The stream reads a text of the script, the here document with this number. -/
  | document (number : Nat)
deriving DecidableEq

mutual

/-- A part of a word. What is not quoted is split at blanks once it has been expanded. -/
inductive Part
  | text (s : List Char) (quoted : Bool)
  /-- The value of a parameter; for some operations an empty value counts as missing. -/
  | parameter (name : List Char) (operation : Operation) (orEmpty : Bool) (argument : List Part)
      (quoted : Bool)
  /-- What commands print. -/
  | substitution (body : List Command) (quoted : Bool)
  /-- The value of an expression. -/
  | arithmetic (expression : List Part) (quoted : Bool)

/-- A redirection of a stream to what a word names. -/
inductive Redirection
  | mk (stream : Nat) (kind : RedirectKind) (target : List Part)

/-- Commands. Some know the line they stand in, for messages. -/
inductive Command
  | simple (line : Nat) (bindings : List (List Char × List Part)) (words : List (List Part))
      (redirections : List Redirection)
  | loop (negated : Bool) (condition body : List Command)
  | each (line : Nat) (name : List Char) (words : List (List Part)) (body : List Command)
  | branch (condition yes no : List Command)
  | choose (line : Nat) (subject : List Part)
      (clauses : List (List (List Part) × List Command))
  | both (first second : Command)
  | either (first second : Command)
  | pipe (stages : List Command)
  | inverted (command : Command)
  | group (body : List Command)
  | subshell (line : Nat) (body : List Command)
  | background (command : Command)
  | redirected (line : Nat) (command : Command) (redirections : List Redirection)
  | definition (name : List Char) (body : Command)

end

instance : Inhabited Command := ⟨.group []⟩

/-- A word is the parts that stand next to each other. -/
abbrev Word := List Part

/-- The characters a parameter's name may start with. -/
def isNameStart (c : Char) : Bool := c.isAlpha || c == '_'

/-- The characters a parameter's name may go on with. -/
def isNameRest (c : Char) : Bool := c.isAlphanum || c == '_'

def isName : List Char → Bool
  | [] => false
  | c :: rest => isNameStart c && rest.all isNameRest

/-- The parameters with a name that is no letter or digit. -/
def isSpecialName (c : Char) : Bool :=
  c == '@' || c == '*' || c == '#' || c == '?' || c == '-' || c == '$' || c == '!'

def isSpace (c : Char) : Bool := c == ' ' || c == '\t'

/-- The text of a word in which nothing is quoted and nothing is expanded. -/
def plainText? (w : Word) : Option (List Char) :=
  (w.mapM fun (part : Part) => match part with
    | .text s false => some s
    | _ => none).map fun (pieces : List (List Char)) => pieces.flatten

end JuliaBlocks.Shell
