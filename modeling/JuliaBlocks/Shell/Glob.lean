import JuliaBlocks.Shell.Syntax

/-!
Patterns for names: a star is any text, a question mark any character, and brackets hold the members
of a set. Characters that are quoted stand for themselves.
-/

namespace JuliaBlocks.Shell

/-- Whether a character belongs to a class of characters with a name; `none` if there is no such
class. Classes hold characters of ASCII alone. -/
def isOfClass? (name : String) (c : Char) : Option Bool :=
  let n := c.toNat
  match name with
  | "alnum" => some c.isAlphanum
  | "alpha" => some c.isAlpha
  | "blank" => some (c == ' ' || c == '\t')
  | "cntrl" => some (n < 32 || n == 127)
  | "digit" => some c.isDigit
  | "graph" => some (32 < n && n < 127)
  | "lower" => some c.isLower
  | "print" => some (32 ≤ n && n < 127)
  | "punct" => some (32 < n && n < 127 && !c.isAlphanum)
  | "space" => some (c == ' ' || (9 ≤ n && n ≤ 13))
  | "upper" => some c.isUpper
  | "xdigit" => some (c.isDigit || ('a' ≤ c && c ≤ 'f') || ('A' ≤ c && c ≤ 'F'))
  | _ => none

namespace Glob

/-- A character of a pattern, and whether it is quoted. -/
abbrev Letter := Char × Bool

inductive Member
  | range (first last : Char)
  | named (name : String)
deriving DecidableEq

inductive Step
  | char (c : Char)
  | any
  | many
  | set (negated : Bool) (members : List Member)
deriving DecidableEq

def Member.holds (c : Char) : Member → Bool
  | range first last => first ≤ c && c ≤ last
  | named name => (isOfClass? name c).getD false

/-- Letters in which an unquoted backslash quotes the one after it. -/
def unescape : List Letter → List Letter
  | ('\\', false) :: (c, _) :: rest => (c, true) :: unescape rest
  | letter :: rest => letter :: unescape rest
  | [] => []

/-- Reads the name of a class between colons and brackets, and what follows. -/
def takeClass? (s : List Letter) : Option (String × List Letter) :=
  match s with
  | ('[', false) :: (':', _) :: rest =>
    let name := (rest.takeWhile fun l => l.1 != ':').map (·.1)
    let text := String.ofList name
    match rest.drop name.length with
    | _ :: (']', _) :: after => if (isOfClass? text 'a').isSome then some (text, after) else none
    | _ => none
  | _ => none

/-- Reads the members of a set through the bracket that closes it, which may stand first as a
member; without that bracket there is no set. -/
def takeMembers? : Nat → (first : Bool) → List Letter → Option (List Member × List Letter)
  | 0, _, _ => none
  | _, _, [] => none
  | fuel + 1, first, (c, quoted) :: rest =>
    if c = ']' ∧ !quoted ∧ !first then some ([], rest)
    else
      match takeClass? ((c, quoted) :: rest) with
      | some (name, after) => do
        let (members, after) ← takeMembers? fuel false after
        return (.named name :: members, after)
      | none =>
        let (member, after) := match rest with
          | ('-', false) :: (d, closes) :: after =>
            if d = ']' ∧ !closes then (Member.range c c, rest) else (.range c d, after)
          | _ => (.range c c, rest)
        do
          let (members, after) ← takeMembers? fuel false after
          return (member :: members, after)

def takeSet? (s : List Letter) : Option (Step × List Letter) :=
  let (negated, body) := match s with
    | ('!', false) :: rest => (true, rest)
    | s => (false, s)
  (takeMembers? (s.length + 1) true body).map fun (members, after) => (.set negated members, after)

def steps : Nat → List Letter → List Step
  | 0, _ => []
  | _, [] => []
  | fuel + 1, (c, quoted) :: rest =>
    match quoted, c with
    | false, '*' => .many :: steps fuel rest
    | false, '?' => .any :: steps fuel rest
    | false, '[' =>
      match takeSet? rest with
      | some (step, after) => step :: steps fuel after
      | none => .char c :: steps fuel rest
    | _, c => .char c :: steps fuel rest

def ofLetters (letters : List Letter) : List Step :=
  steps (letters.length + 1) (unescape letters)

/-- Whether some text that a text ends with satisfies a condition. -/
def someSuffix (p : List Char → Bool) : List Char → Bool
  | [] => p []
  | c :: rest => p (c :: rest) || someSuffix p rest

/-- Whether a text as a whole matches. -/
def fits : List Step → List Char → Bool
  | [], s => s.isEmpty
  | .many :: rest, s => someSuffix (fits rest) s
  | _ :: _, [] => false
  | .char d :: rest, c :: s => c == d && fits rest s
  | .any :: rest, _ :: s => fits rest s
  | .set negated members :: rest, c :: s => (members.any (·.holds c)) != negated && fits rest s

/-- Whether letters hold a character that makes them a pattern. -/
def isPattern (letters : List Letter) : Bool :=
  letters.any fun (c, quoted) => !quoted && (c == '*' || c == '?' || c == '[')

/-- The text of letters, which a pattern without a match stands for. -/
def textOf (letters : List Letter) : List Char :=
  letters.map (·.1)

/-- The front of a text up to the first NUL, which is all that a pattern sees of it. -/
def seen (s : List Char) : List Char :=
  s.takeWhile (· != '\x00')

/-- The beginning that matches, as long or as short as can be, taken off a text. -/
def dropFront (longest : Bool) (pattern : List Step) (s : List Char) : List Char :=
  let lengths := (List.range (s.length + 1)).filter fun n => fits pattern (seen (s.take n))
  match if longest then lengths.getLast? else lengths.head? with
  | some n => s.drop n
  | none => s

/-- The end that matches, as long or as short as can be, taken off a text; the longest one starts in
what a pattern sees of the whole text. -/
def dropBack (longest : Bool) (pattern : List Step) (s : List Char) : List Char :=
  let most := if longest then (seen s).length else s.length
  let lengths := (List.range (most + 1)).filter fun n => fits pattern (seen (s.drop n))
  match if longest then lengths.head? else lengths.getLast? with
  | some n => s.take n
  | none => s

end Glob

end JuliaBlocks.Shell
