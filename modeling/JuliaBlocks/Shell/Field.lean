import JuliaBlocks.Shell.Glob

/-!
Fields. What a word expands to is a row of pieces: characters that know whether they were quoted,
and marks where quoted text stands, where an expansion starts and where an argument ends. The
characters of expansions are split at separators, of which blanks count as one if they stand
together.
-/

namespace JuliaBlocks.Shell

/-- Where a character of a word comes from: from the word itself, from quoted text, or from an
expansion that is not quoted. -/
inductive Mark
  | plain
  | quoted
  | expanded
deriving DecidableEq

/-- What a word expands to, piece by piece. -/
inductive Piece
  | char (c : Char) (mark : Mark)
  /-- Quoted text stands here, and be it empty. -/
  | present
  /-- An expansion starts here: one that is split, or the list of the arguments in quotes. -/
  | opening (arguments : Bool)
  /-- One argument ends here and the next one starts. -/
  | separator
deriving DecidableEq

namespace Field

/-- The separators if nothing else is said. -/
def usualSeparators : List Char := [' ', '\t', '\n']

/-- The state of splitting. The fields and the letters of the open one stand latest first. -/
structure Splitter where
  fields : List (List Glob.Letter) := []
  letters : List Glob.Letter := []
  /-- Whether the open field is there even if it is empty. -/
  present : Bool := false
  /-- Whether a field was just ended by blanks. -/
  spaced : Bool := false
  /-- Whether the expansion is the list of the arguments in quotes, and whether the one before it
  was. -/
  arguments : Bool := false
  afterArguments : Bool := false
  /-- How many more fields may be ended; none means any number. -/
  left : Option Nat := none
  /-- The length to which the last field is cut at the end. -/
  cut : Option Nat := none

namespace Splitter

def finish (s : Splitter) : Splitter :=
  { s with fields := s.letters.reverse :: s.fields, letters := [], present := false }

def add (s : Splitter) (letter : Glob.Letter) : Splitter :=
  { s with letters := letter :: s.letters }

/-- Takes a separator in the last field that may be, in which separators are kept, or another
letter. -/
def keep (s : Splitter) (isSeparator isBlank : Bool) (letter : Glob.Letter) : Splitter :=
  let length := s.letters.length
  let s := s.add letter
  if isBlank then { s with cut := some (s.cut.getD length) }
  else { s with cut := if isSeparator && s.spaced then s.cut else none, spaced := false }

/-- Takes a separator. After blanks that ended a field, further blanks and one other separator
belong to them. -/
def separate (s : Splitter) (isBlank : Bool) (letter : Option Glob.Letter) : Splitter :=
  if s.spaced then { s with spaced := isBlank }
  else
    let spaced := if s.afterArguments || s.arguments then s.spaced else isBlank
    if s.letters.isEmpty && !s.present && spaced then s
    else
      match s.left, letter with
      | some 1, some letter =>
        { s.add letter with left := some 0, cut := some s.letters.length, spaced }
      | left, _ => { s.finish with left := left.map (· - 1), spaced }

def take (separators : List Char) (s : Splitter) : Piece → Splitter
  | .present => { s with present := true }
  | .opening arguments =>
    { s with arguments, afterArguments := s.arguments, spaced := false }
  | .separator => s.separate true none
  | .char c .expanded =>
    let isSeparator := separators.contains c
    let isBlank := isSeparator && usualSeparators.contains c
    if s.left = some 0 then s.keep isSeparator isBlank (c, false)
    else if isSeparator then s.separate isBlank (some (c, false))
    else { s.add (c, false) with spaced := false }
  | .char c mark => { s.add (c, mark == .quoted) with spaced := false }

end Splitter

/-- The fields that pieces come to, at most so many if a limit is given; then the last one holds
what is left, separators included. -/
def split (separators : List Char) (limit : Option Nat) (pieces : List Piece) :
    List (List Glob.Letter) :=
  let s := pieces.foldl (Splitter.take separators) { left := limit }
  let letters := match s.cut with
    | some n => s.letters.drop (s.letters.length - n)
    | none => s.letters
  let s := { s with letters }
  let s := if s.arguments || s.present || !s.letters.isEmpty then s.finish else s
  s.fields.reverse

/-- The letters of pieces that are not split; arguments are joined by the first separator. -/
def join (separators : List Char) (pieces : List Piece) : List Glob.Letter :=
  pieces.flatMap fun
    | .char c mark => [(c, mark == .quoted)]
    | .separator => (separators.take 1).map fun c => (c, false)
    | _ => []

end Field

end JuliaBlocks.Shell
