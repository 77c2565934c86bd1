import JuliaBlocks.Shell.Glob

/-!
Regular expressions, in their basic and their extended notation. A match is the leftmost one and the
longest of those; among the ways to match that much, repetitions take what they can from the left.
-/

namespace JuliaBlocks.Shell

inductive Single
  | char (c : Char)
  | any
  | set (negated : Bool) (members : List Glob.Member)
deriving DecidableEq

/-- Conditions on a place in a text. -/
inductive Edge
  | lineStart
  | lineEnd
  | wordStart
  | wordEnd
  | word
  | notWord
deriving DecidableEq

inductive Regex
  | empty
  | one (s : Single)
  | edge (e : Edge)
  | seq (a b : Regex)
  | either (a b : Regex)
  | many (r : Regex) (least : Nat) (most : Option Nat)
  | group (number : Nat) (r : Regex)
  /-- What a group holds. -/
  | held (number : Nat)
deriving DecidableEq

/-- Whether a character matches. What is no text matches no expression but itself. -/
def Single.holds (s : Single) (c : Char) : Bool :=
  match s with
  | char d => c == d
  | any => c.toNat < 0x10FE00
  | set negated members => (members.any (·.holds c)) != negated && c.toNat < 0x10FE00

namespace Regex

def isWordCharacter (c : Char) : Bool := c.isAlphanum || c == '_'

/-! ## Notation -/

/-- The dialects: extended or basic, whether case matters, and whether names of characters such as
`\n` are known. -/
structure Dialect where
  extended : Bool := false
  foldsCase : Bool := false
  named : Bool := false

/-- What matches a character, in either case if case does not matter. -/
def literal (dialect : Dialect) (c : Char) : Regex :=
  if dialect.foldsCase ∧ c.isAlpha then
    .one (.set false [.range c.toLower c.toLower, .range c.toUpper c.toUpper])
  else .one (.char c)

/-- Members in either case. -/
def foldMembers (members : List Glob.Member) : List Glob.Member :=
  members ++ members.flatMap fun
    | .range a b =>
      if a.isAlpha ∧ b.isAlpha then [.range a.toLower b.toLower, .range a.toUpper b.toUpper] else []
    | .named "upper" | .named "lower" => [.named "alpha"]
    | .named _ => []

/-- Reads the members of a set through the bracket that closes it, which may stand first as a
member. -/
def takeMembers? (dialect : Dialect) : Nat → (first : Bool) → List Char →
    Option (List Glob.Member × List Char)
  | 0, _, _ => none
  | _, _, [] => none
  | fuel + 1, first, c :: rest =>
    let goOn (member : Glob.Member) (after : List Char) :
        Option (List Glob.Member × List Char) := do
      let (members, after) ← takeMembers? dialect fuel false after
      return (member :: members, after)
    if c = ']' ∧ !first then some ([], rest)
    else
      match c, rest with
      | '[', ':' :: rest =>
        let name := rest.takeWhile (· != ':')
        match rest.drop name.length with
        | ':' :: ']' :: after =>
          if (isOfClass? (String.ofList name) 'a').isSome then
            goOn (.named (String.ofList name)) after
          else none
        | _ => none
      | '[', '.' :: d :: '.' :: ']' :: after => goOn (.range d d) after
      | '[', '=' :: d :: '=' :: ']' :: after => goOn (.range d d) after
      | c, rest =>
        let (c, rest) := match dialect.named, c, rest with
          | true, '\\', 'n' :: after => ('\n', after)
          | true, '\\', 't' :: after => ('\t', after)
          | true, '\\', ']' :: after => ('\\', ']' :: after)
          | _, c, rest => (c, rest)
        match rest with
        | '-' :: d :: after =>
          if d = ']' then goOn (.range c c) rest
          else goOn (.range c d) after
        | _ => goOn (.range c c) rest

def takeSet? (dialect : Dialect) (s : List Char) : Option (Single × List Char) :=
  let (negated, body) := match s with
    | '^' :: rest => (true, rest)
    | s => (false, s)
  (takeMembers? dialect (s.length + 1) true body).map fun (members, after) =>
    (.set negated (if dialect.foldsCase then foldMembers members else members), after)

def takeNumber (s : List Char) : Option Nat × List Char :=
  let digits := s.takeWhile Char.isDigit
  (if digits.isEmpty then none else some (digits.foldl (fun n d => n * 10 + (d.toNat - 48)) 0),
    s.drop digits.length)

def takeBounds? (dialect : Dialect) (s : List Char) : Option ((Nat × Option Nat) × List Char) :=
  let (least, rest) := takeNumber s
  let (most, rest) := match rest with
    | ',' :: rest =>
      let (most, rest) := takeNumber rest
      (most, rest)
    | rest => (least, rest)
  match dialect.extended, rest with
  | true, '\x7d' :: after => some ((least.getD 0, most), after)
  | false, '\\' :: '\x7d' :: after => some ((least.getD 0, most), after)
  | _, _ => none

inductive Token
  | char (c : Char)
  | single (s : Single)
  | edge (e : Edge)
  | held (n : Nat)
  | opening
  | closing
  | bar
  | repeated (least : Nat) (most : Option Nat)
deriving DecidableEq

/-- Why a notation cannot be read. -/
inductive Fault
  | set
  | group
  | closing
  | bounds
  | backslash
  | reference
deriving DecidableEq

def Fault.message : Fault → String
  | set => "unterminated address regex"
  | group => "Unmatched ( or \\("
  | closing => "Unmatched ) or \\)"
  | bounds => "Invalid preceding regular expression"
  | backslash => "Trailing backslash"
  | reference => "Invalid back reference"

def classOf? : Char → Option Single
  | 'w' => some (.set false [.named "alnum", .range '_' '_'])
  | 'W' => some (.set true [.named "alnum", .range '_' '_'])
  | 's' => some (.set false [.named "space"])
  | 'S' => some (.set true [.named "space"])
  | _ => none

def edgeOf? : Char → Option Edge
  | '<' => some .wordStart
  | '>' => some .wordEnd
  | 'b' => some .word
  | 'B' => some .notWord
  | '\x60' => some .lineStart
  | '\'' => some .lineEnd
  | _ => none

def nameOf? : Char → Option Char
  | 'n' => some '\n'
  | 't' => some '\t'
  | 'r' => some '\r'
  | 'f' => some '\x0c'
  | 'v' => some '\x0b'
  | 'a' => some '\x07'
  | _ => none

def takeEscaped (dialect : Dialect) (c : Char) (rest : List Char) :
    Except Fault (Token × List Char) :=
  let meaning (whenBasic : Bool) (token : Token) : Except Fault (Token × List Char) :=
    .ok (if whenBasic != dialect.extended then token else .char c, rest)
  match c with
  | '(' => meaning true .opening
  | ')' => meaning true .closing
  | '|' => meaning true .bar
  | '+' => meaning true (.repeated 1 none)
  | '?' => meaning true (.repeated 0 (some 1))
  | '\x7b' =>
    if dialect.extended then .ok (.char c, rest)
    else match takeBounds? dialect rest with
      | some ((least, most), after) => .ok (.repeated least most, after)
      | none => .error .bounds
  | c =>
    if '1' ≤ c ∧ c ≤ '9' then .ok (.held (c.toNat - 48), rest)
    else match classOf? c, edgeOf? c, nameOf? c with
      | some s, _, _ => .ok (.single s, rest)
      | _, some e, _ => .ok (.edge e, rest)
      | _, _, some d => .ok (.char (if dialect.named then d else c), rest)
      | _, _, _ => .ok (.char c, rest)

/-- Whether what follows ends an alternative, so that a dollar stands for the end of the line. -/
def endsHere (dialect : Dialect) (rest : List Char) : Bool :=
  dialect.extended ||
    match rest with
    | [] => true
    | '\\' :: ')' :: _ | '\\' :: '|' :: _ => true
    | _ => false

/-- Reads the tokens; `fresh` tells that an alternative starts, where some characters mean something
else. -/
def tokens (dialect : Dialect) : Nat → (fresh : Bool) → List Char → Except Fault (List Token)
  | 0, _, _ => return []
  | _, _, [] => return []
  | fuel + 1, fresh, c :: rest => do
    let plain (token : Token) : Except Fault (List Token) :=
      return token :: (← tokens dialect fuel false rest)
    match c with
    | '\\' =>
      match rest with
      | [] => throw .backslash
      | d :: rest =>
        let (token, after) ← takeEscaped dialect d rest
        let starts := token == .opening || token == .bar
        return token :: (← tokens dialect fuel starts after)
    | '[' =>
      match takeSet? dialect rest with
      | some (s, after) => return .single s :: (← tokens dialect fuel false after)
      | none => throw .set
    | '.' => plain (.single .any)
    | '*' => if fresh then plain (.char '*') else plain (.repeated 0 none)
    | '^' =>
      if dialect.extended || fresh then
        return .edge .lineStart :: (← tokens dialect fuel (!dialect.extended || fresh) rest)
      else plain (.char '^')
    | '$' => if endsHere dialect rest then plain (.edge .lineEnd) else plain (.char '$')
    | c =>
      if !dialect.extended then plain (.char c)
      else match c with
        | '(' => return .opening :: (← tokens dialect fuel true rest)
        | ')' => plain .closing
        | '|' => return .bar :: (← tokens dialect fuel true rest)
        | '+' => if fresh then plain (.char '+') else plain (.repeated 1 none)
        | '?' => if fresh then plain (.char '?') else plain (.repeated 0 (some 1))
        | '\x7b' =>
          match takeBounds? dialect rest with
          | some ((least, most), after) =>
            if fresh then throw .bounds
            return .repeated least most :: (← tokens dialect fuel false after)
          | none => plain (.char c)
        | c => plain (.char c)

def applyRepeats (r : Regex) : List Token → Regex × List Token
  | .repeated least most :: rest => applyRepeats (.many r least most) rest
  | rest => (r, rest)

mutual

/-- Reads alternatives; groups are numbered by their opening, `opened` of them so far. -/
def takeEither (dialect : Dialect) : Nat → (opened : Nat) → (nested : Bool) → List Token →
    Except Fault (Regex × Nat × List Token)
  | 0, opened, _, rest => return (.empty, opened, rest)
  | fuel + 1, opened, nested, s => do
    let (first, opened, rest) ← takeSeq dialect fuel opened nested s
    match rest with
    | .bar :: rest =>
      let (others, opened, rest) ← takeEither dialect fuel opened nested rest
      return (.either first others, opened, rest)
    | rest => return (first, opened, rest)

def takeSeq (dialect : Dialect) : Nat → (opened : Nat) → (nested : Bool) → List Token →
    Except Fault (Regex × Nat × List Token)
  | 0, opened, _, rest => return (.empty, opened, rest)
  | fuel + 1, opened, nested, s => do
    let joined (r : Regex) (opened : Nat) (rest : List Token) :
        Except Fault (Regex × Nat × List Token) := do
      let (r, rest) := applyRepeats r rest
      let (others, opened, rest) ← takeSeq dialect fuel opened nested rest
      return (if others = .empty then r else .seq r others, opened, rest)
    match s with
    | [] | .bar :: _ => return (.empty, opened, s)
    | .closing :: rest =>
      if nested then return (.empty, opened, s)
      else if dialect.extended then joined (.one (.char ')')) opened rest
      else throw .closing
    | .opening :: rest =>
      let number := opened + 1
      let (inside, opened, rest) ← takeEither dialect fuel number true rest
      match rest with
      | .closing :: rest => joined (.group number inside) opened rest
      | _ => throw .group
    | .char c :: rest => joined (literal dialect c) opened rest
    | .single s :: rest => joined (.one s) opened rest
    | .edge e :: rest => joined (.edge e) opened rest
    | .held n :: rest => if opened < n then throw .reference else joined (.held n) opened rest
    | .repeated .. :: rest => takeSeq dialect fuel opened nested rest

end

def read (dialect : Dialect) (s : List Char) : Except Fault Regex := do
  let tokens ← tokens dialect (s.length + 1) true s
  let (r, _, _) ← takeEither dialect (3 * tokens.length + 4) 0 false tokens
  return r

def groups : Regex → Nat
  | .seq a b | .either a b => max a.groups b.groups
  | .many r _ _ => r.groups
  | .group n r => max n r.groups
  | _ => 0

/-- The expression of a text that stands for itself. -/
def ofText (dialect : Dialect) (s : List Char) : Regex :=
  s.foldr (fun c r => .seq (literal dialect c) r) .empty

/-! ## Matching -/

def refers : Regex → Bool
  | .held _ => true
  | .seq a b | .either a b => a.refers || b.refers
  | .many r _ _ | .group _ r => r.refers
  | _ => false

def size : Regex → Nat
  | .seq a b | .either a b => a.size + b.size + 1
  | .many r least most => r.size * (max least (most.getD 0) + 1) + 1
  | .group _ r => r.size + 1
  | _ => 1

def Edge.holds (text : Array Char) (place : Nat) (e : Edge) : Bool :=
  let isWord (i : Nat) : Bool := (text[i]?).any isWordCharacter
  let before := 0 < place && isWord (place - 1)
  let after := isWord place
  match e with
  | .lineStart => place == 0
  | .lineEnd => place == text.size
  | .wordStart => !before && after
  | .wordEnd => before && !after
  | .word => before != after
  | .notWord => before == after

def merge : Nat → List Nat → List Nat → List Nat
  | 0, a, _ => a
  | _, [], b => b
  | _, a, [] => a
  | fuel + 1, x :: a, y :: b =>
    if x < y then x :: merge fuel a (y :: b)
    else if y < x then y :: merge fuel (x :: a) b
    else x :: merge fuel a b

/-- Adds places to places until no more come. -/
def closure (step : List Nat → List Nat) : Nat → List Nat → List Nat → List Nat
  | 0, seen, _ => seen
  | fuel + 1, seen, fresh =>
    if fresh.isEmpty then seen
    else
      let reached := (step fresh).filter fun i => !seen.contains i
      closure step fuel (merge (seen.length + reached.length) seen reached) reached

/-- Makes a step so many times, keeping what each may end with. -/
def closureUpTo (step : List Nat → List Nat) : Nat → List Nat → List Nat
  | 0, places => places
  | n + 1, places =>
    let others := closureUpTo step n (step places)
    merge (places.length + others.length) places others

def iterate (step : List Nat → List Nat) : Nat → List Nat → List Nat
  | 0, places => places
  | n + 1, places => iterate step n (step places)

/-- The places at which matches end that start at some places, without references. -/
def ends (text : Array Char) : Regex → List Nat → List Nat
  | .empty, places => places
  | .one s, places => places.filterMap fun i =>
    if (text[i]?).any s.holds then some (i + 1) else none
  | .edge e, places => places.filter fun i => Edge.holds text i e
  | .seq a b, places => ends text b (ends text a places)
  | .either a b, places =>
    let first := ends text a places
    let second := ends text b places
    merge (first.length + second.length) first second
  | .many r least most, places =>
    let start := iterate (ends text r) least places
    match most with
    | none => closure (ends text r) (text.size + 2) start start
    | some n => closureUpTo (ends text r) (n - least) start
  | .group _ r, places => ends text r places
  | .held _, places => places

/-- What groups hold, by their numbers: from a place to another. -/
abbrev Captures := List (Nat × Nat × Nat)

/-- What is still to be matched: an expression, the end of a group that started somewhere, or that
the place is beyond another. -/
inductive Goal
  | expression (r : Regex)
  | close (number start : Nat)
  | beyond (place : Nat)

/-- How many characters from a place on match, at most so many. -/
def runLength (text : Array Char) (s : Single) (place : Nat) : Nat → Nat
  | 0 => 0
  | n + 1 => if (text[place]?).any s.holds then runLength text s (place + 1) n + 1 else 0

/-- Whether a text has the same characters from two places on. -/
def sameFrom (text : Array Char) (a b : Nat) : Nat → Bool
  | 0 => true
  | n + 1 =>
    (match text[a]?, text[b]? with
      | some c, some d => c == d
      | _, _ => false) && sameFrom text (a + 1) (b + 1) n

/-- Matches goals from a place on, up to a given place if there is one: the place at the end, and
what groups hold. -/
def search (text : Array Char) (target : Option Nat) : Nat → List Goal → Nat → Captures →
    Option (Nat × Captures)
  | 0, _, _, _ => none
  | _ + 1, [], place, captures =>
    if target.all (· == place) then some (place, captures) else none
  | fuel + 1, .close number start :: goals, place, captures =>
    search text target fuel goals place ((number, start, place) :: captures)
  | fuel + 1, .beyond start :: goals, place, captures =>
    if start < place then search text target fuel goals place captures else none
  | fuel + 1, .expression r :: goals, place, captures =>
    match r with
    | .empty => search text target fuel goals place captures
    | .one s =>
      if (text[place]?).any s.holds then search text target fuel goals (place + 1) captures
      else none
    | .edge e =>
      if Edge.holds text place e then search text target fuel goals place captures else none
    | .seq a b => search text target fuel (.expression a :: .expression b :: goals) place captures
    | .either a b =>
      match search text target fuel (.expression a :: goals) place captures with
      | some found => some found
      | none => search text target fuel (.expression b :: goals) place captures
    | .group number r =>
      search text target fuel (.expression r :: .close number place :: goals) place captures
    | .held number =>
      match captures.lookup number with
      | some (start, stop) =>
        if sameFrom text start place (stop - start) then
          search text target fuel goals (place + (stop - start)) captures
        else none
      | none => none
    | .many (.one s) least most =>
      let limit := match most with
        | some n => min n (text.size - place)
        | none => text.size - place
      let longest := runLength text s place limit
      if longest < least then none
      else ((List.range (longest - least + 1)).reverse).findSome? fun n =>
        search text target fuel goals (place + least + n) captures
    | .many r (least + 1) most =>
      search text target fuel
        (.expression r :: .expression (.many r least (most.map (· - 1))) :: goals) place captures
    | .many _ 0 (some 0) => search text target fuel goals place captures
    | .many r 0 most =>
      match search text target fuel
          (.expression r :: .beyond place :: .expression (.many r 0 (most.map (· - 1))) :: goals)
          place captures with
      | some found => some found
      | none => search text target fuel goals place captures

/-- A match: the places it starts and stops at, and what groups hold. -/
structure Match where
  start : Nat
  stop : Nat
  captures : Captures

def matchAt? (r : Regex) (text : Array Char) (place : Nat) : Option Match :=
  let fuel := (r.size + 4) * (text.size + 4) * 2
  let found (target : Option Nat) : Option Match :=
    (search text target fuel [.expression r] place []).map fun (stop, captures) =>
      ⟨place, stop, captures⟩
  if r.refers then found none
  else match (ends text r [place]).getLast? with
    | none => none
    | some stop => if r.groups = 0 then some ⟨place, stop, []⟩ else found (some stop)

/-- The leftmost match from a place on, of at most so many places. -/
def matchFrom? (r : Regex) (text : Array Char) (place : Nat) : Nat → Option Match
  | 0 => none
  | n + 1 =>
    match r.matchAt? text place with
    | some m => some m
    | none => matchFrom? r text (place + 1) n

def find? (r : Regex) (text : Array Char) (place : Nat) : Option Match :=
  r.matchFrom? text place (text.size + 1 - place)

def between (text : Array Char) (start stop : Nat) : List Char :=
  (text.extract start stop).toList

/-- What a group holds in a match; group zero is the match. -/
def Match.held (text : Array Char) (m : Match) (number : Nat) : List Char :=
  if number = 0 then between text m.start m.stop
  else match m.captures.lookup number with
    | some (start, stop) => between text start stop
    | none => []

end Regex

end JuliaBlocks.Shell
