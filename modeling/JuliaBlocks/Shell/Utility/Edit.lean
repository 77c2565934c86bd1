import JuliaBlocks.Shell.Regex
import JuliaBlocks.Shell.Utility.Basic

/-!
The stream editor. Its script is read into numbered instructions, which are run for each line of the
input on a pattern space, beside which a hold space keeps text.
-/

namespace JuliaBlocks.Shell.Utility

namespace Editing

/-! ## Instructions -/

/-- Parts of a replacement: text, what a group holds, and changes of case for what follows: none, all
of it or its first character. -/
inductive ReplacementPart
  | text (s : List Char)
  | group (n : Nat)
  | lettering (upper : Option Bool)
  | first (upper : Bool)

/-- A substitution. An absent pattern is the one used last. -/
structure Substitution where
  pattern : Option Regex
  replacement : List ReplacementPart
  everywhere : Bool := false
  printed : Bool := false
  occurrence : Nat := 1
  target : Option (List Char) := none

/-- The lines an address means. -/
inductive Address
  | line (n : Nat)
  | step (first step : Nat)
  | last
  | pattern (r : Option Regex)

inductive RangeEnd
  | address (a : Address)
  | further (n : Nat)
  | multiple (n : Nat)

inductive Action
  /-- Instructions up to a number are run only for the addressed lines. -/
  | block (stop : Nat)
  | substitute (s : Substitution)
  | transliterate (table : List (Char × Char))
  | append (text : List Char)
  | insert (text : List Char)
  | change (text : List Char)
  | branch (label : List Char)
  | branchIf (made : Bool) (label : List Char)
  | label (name : List Char)
  | quit (silent : Bool) (status : Nat)
  | readIn (name : List Char)
  | writeOut (name : List Char)
  /-- One of the actions that are a letter alone. -/
  | plain (letter : Char)

structure Instruction where
  first : Option Address := none
  second : Option RangeEnd := none
  negated : Bool := false
  action : Action

/-! ## Reading scripts -/

/-- The state of reading: what is left, how long the text was, the notation of patterns, and the
instructions so far with the blocks that are open. -/
structure Script where
  rest : List Char
  total : Nat
  extended : Bool
  instructions : Array Instruction := #[]
  blocks : List Nat := []

/-- A step of reading; it may fail with a message and the place. -/
abbrev Read := StateT Script (Except (Nat × String))

def fail {α : Type} (message : String) : Read α := do
  let s ← get
  throw (s.total - s.rest.length, message)

def peek : Read (Option Char) := do
  return (← get).rest.head?

def drop (count : Nat) : Read Unit :=
  modify fun s => { s with rest := s.rest.drop count }

def takeWhile (p : Char → Bool) : Read (List Char) := do
  let taken := (← get).rest.takeWhile p
  drop taken.length
  return taken

/-- Takes text up to a delimiter that no backslash precedes, or `none` if there is no such. A
delimiter after a backslash stands for itself, and brackets hide it if they count. -/
def takeDelimited (delimiter : Char) (pattern : Bool) : Nat → Read (Option (List Char))
  | 0 => return none
  | fuel + 1 => do
    match (← get).rest with
    | [] => return none
    | '\\' :: c :: _ =>
      drop 2
      let inside ← takeDelimited delimiter pattern fuel
      return inside.map fun s =>
        if c = delimiter then (if pattern && c == '\n' then '\\' :: c :: s else c :: s)
        else '\\' :: c :: s
    | c :: _ =>
      drop 1
      if c = delimiter then return some []
      return (← takeDelimited delimiter pattern fuel).map (c :: ·)

/-- Reads a pattern; an empty one is absent. -/
def patternOf (foldsCase : Bool) (text : List Char) : Read (Option Regex) := do
  if text.isEmpty then return none
  let dialect : Regex.Dialect := { extended := (← get).extended, foldsCase, named := true }
  match Regex.read dialect (Octets.widen text) with
  | .ok r => return some r
  | .error .set => fail "unterminated address regex"
  | .error fault => fail fault.message

def takePattern (delimiter : Char) : Read Address := do
  match ← takeDelimited delimiter true ((← get).rest.length + 1) with
  | none => fail "unterminated address regex"
  | some text =>
    let flags ← takeWhile fun c => c == 'I' || c == 'M'
    return .pattern (← patternOf (flags.contains 'I') text)

def takeNumber : Read (Option Nat) := do
  return natural? (← takeWhile Char.isDigit)

def takeAddress : Read (Option Address) := do
  match ← peek with
  | some '$' =>
    drop 1
    return some .last
  | some '/' =>
    drop 1
    return some (← takePattern '/')
  | some '\\' =>
    drop 1
    match ← peek with
    | some c =>
      drop 1
      return some (← takePattern c)
    | none => fail "unexpected \x60,'"
  | _ =>
    match ← takeNumber with
    | none => return none
    | some n =>
      if (← peek) = some '~' then
        drop 1
        return some (.step n ((← takeNumber).getD 0))
      else return some (.line n)

def takeRangeEnd : Read RangeEnd := do
  match ← peek with
  | some '+' =>
    drop 1
    return .further ((← takeNumber).getD 0)
  | some '~' =>
    drop 1
    return .multiple ((← takeNumber).getD 0)
  | _ =>
    match ← takeAddress with
    | some a => return .address a
    | none => fail "unexpected \x60,'"

def replacementParts : Nat → List Char → List ReplacementPart
  | 0, _ => []
  | _, [] => []
  | fuel + 1, '\\' :: c :: rest =>
    let part : ReplacementPart :=
      if c.isDigit then .group (c.toNat - 48)
      else match c with
        | 'U' => .lettering (some true)
        | 'L' => .lettering (some false)
        | 'E' => .lettering none
        | 'u' => .first true
        | 'l' => .first false
        | c => .text [(Regex.nameOf? c).getD c]
    part :: replacementParts fuel rest
  | fuel + 1, '&' :: rest => .group 0 :: replacementParts fuel rest
  | fuel + 1, c :: rest =>
    match replacementParts fuel rest with
    | .text s :: others => .text (c :: s) :: others
    | parts => .text [c] :: parts

def takeFlags (s : Substitution) (foldsCase : Bool) : Nat → Read (Substitution × Bool)
  | 0 => return (s, foldsCase)
  | fuel + 1 => do
    match ← peek with
    | some 'g' =>
      drop 1
      takeFlags { s with everywhere := true } foldsCase fuel
    | some 'p' =>
      drop 1
      takeFlags { s with printed := true } foldsCase fuel
    | some 'i' | some 'I' =>
      drop 1
      takeFlags s true fuel
    | some 'm' | some 'M' | some 'e' =>
      drop 1
      takeFlags s foldsCase fuel
    | some 'w' =>
      drop 1
      let _ ← takeWhile isSpace
      let name ← takeWhile (· != '\n')
      return ({ s with target := some name }, foldsCase)
    | some c =>
      if c.isDigit then
        match (← takeNumber).getD 0 with
        | 0 => fail "number option to \x60s' command may not be zero"
        | n => takeFlags { s with occurrence := n } foldsCase fuel
      else return (s, foldsCase)
    | none => return (s, foldsCase)

def takeSubstitution : Read Action := do
  match ← peek with
  | none => fail "unterminated \x60s' command"
  | some delimiter =>
    drop 1
    let length := (← get).rest.length + 1
    match ← takeDelimited delimiter true length with
    | none => fail "unterminated \x60s' command"
    | some pattern =>
      match ← takeDelimited delimiter false length with
      | none => fail "unterminated \x60s' command"
      | some replacement =>
        let parts := replacementParts (replacement.length + 1) (Octets.widen replacement)
        let (s, foldsCase) ← takeFlags { pattern := none, replacement := parts } false length
        let r ← patternOf foldsCase pattern
        let referred := parts.foldl (fun n part =>
          match part with
          | .group m => max n m
          | _ => n) 0
        if r.any fun r => r.groups < referred then
          fail ("invalid reference \\" ++ Numeral.render referred ++ " on \x60s' command's RHS")
        return .substitute { s with pattern := r }

/-- Characters of a transliteration. -/
def unescaped : List Char → List Char
  | '\\' :: 'n' :: rest => '\n' :: unescaped rest
  | '\\' :: '\\' :: rest => '\\' :: unescaped rest
  | c :: rest => c :: unescaped rest
  | [] => []

def takeTransliteration : Read Action := do
  match ← peek with
  | none => fail "unterminated \x60y' command"
  | some delimiter =>
    drop 1
    let length := (← get).rest.length + 1
    match ← takeDelimited delimiter false length with
    | none => fail "unterminated \x60y' command"
    | some old =>
      match ← takeDelimited delimiter false length with
      | none => fail "unterminated \x60y' command"
      | some new =>
        let old := unescaped (Octets.widen old)
        let new := unescaped (Octets.widen new)
        if old.length != new.length then fail "strings for \x60y' command are different lengths"
        return .transliterate (old.zip new)

/-- The lines of a text argument: a backslash hides the end of a line and other characters. -/
def takeTextLines : Nat → Read (List Char)
  | 0 => return ['\n']
  | fuel + 1 => do
    match (← get).rest with
    | [] => return ['\n']
    | '\\' :: c :: _ =>
      drop 2
      return c :: (← takeTextLines fuel)
    | '\n' :: _ =>
      drop 1
      return ['\n']
    | c :: _ =>
      drop 1
      return c :: (← takeTextLines fuel)

def takeText : Read (List Char) := do
  let _ ← takeWhile isSpace
  match (← get).rest with
  | [] => fail "expected \\ after \x60a', \x60c' or \x60i'"
  | '\\' :: rest =>
    drop 1
    let blanks := rest.takeWhile isSpace
    match rest.drop blanks.length with
    | '\n' :: _ => drop (blanks.length + 1)
    | _ => drop blanks.length
    takeTextLines ((← get).rest.length + 1)
  | _ => takeTextLines ((← get).rest.length + 1)

/-- Reads a word up to the end of its line, or up to a semicolon for a label. -/
def takeArgument (label : Bool) : Read (List Char) := do
  let _ ← takeWhile isSpace
  let word ← takeWhile fun c => c != '\n' && !(label && (c == ';' || isSpace c))
  return word

/-- What has to follow an instruction. -/
def takeEnd : Read Unit := do
  let _ ← takeWhile isSpace
  match ← peek with
  | none | some '\x7d' | some '#' => return ()
  | some c => if c = ';' ∨ c = '\n' then drop 1 else do
      drop 1
      fail "extra characters after command"

def takeAction (letter : Char) : Read Action := do
  match letter with
  | 's' =>
    let action ← takeSubstitution
    match ← peek with
    | none => pure ()
    | some c =>
      if !(isSpace c || c == '\n' || c == ';' || c == '\x7d' || c == '#') then
        drop 1
        fail "unknown option to \x60s'"
    takeEnd
    return action
  | 'y' =>
    let action ← takeTransliteration
    takeEnd
    return action
  | 'a' => return .append (← takeText)
  | 'i' => return .insert (← takeText)
  | 'c' => return .change (← takeText)
  | ':' => return .label (← takeArgument true)
  | 'b' => return .branch (← takeArgument true)
  | 't' => return .branchIf true (← takeArgument true)
  | 'T' => return .branchIf false (← takeArgument true)
  | 'r' => return .readIn (← takeArgument false)
  | 'w' => return .writeOut (← takeArgument false)
  | 'q' | 'Q' =>
    let _ ← takeWhile isSpace
    let status ← takeNumber
    takeEnd
    return .quit (letter == 'Q') (status.getD 0)
  | _ =>
    if "dDgGhHlnNpPxz=F".toList.contains letter then
      takeEnd
      return .plain letter
    else fail ("unknown command: \x60" ++ String.singleton letter ++ "'")

def push (i : Instruction) : Read Unit :=
  modify fun s => { s with instructions := s.instructions.push i }

def takeInstructions : Nat → Read Unit
  | 0 => return ()
  | fuel + 1 => do
    let _ ← takeWhile fun c => isSpace c || c == '\n' || c == ';'
    match ← peek with
    | none =>
      if (← get).blocks.isEmpty then return () else throw (0, "unmatched \x60\x7b'")
    | some '#' =>
      let _ ← takeWhile (· != '\n')
      takeInstructions fuel
    | some '\x7d' =>
      drop 1
      match (← get).blocks with
      | [] => fail "unexpected \x60\x7d'"
      | start :: others =>
        modify fun s => { s with
          blocks := others
          instructions := s.instructions.modify start fun i =>
            { i with action := .block s.instructions.size } }
        takeEnd
        takeInstructions fuel
    | some _ =>
      let first ← takeAddress
      let _ ← takeWhile isSpace
      let second ← if first.isSome && (← peek) == some ',' then do
          drop 1
          let _ ← takeWhile isSpace
          pure (some (← takeRangeEnd))
        else pure none
      let marks ← takeWhile fun c => isSpace c || c == '!'
      match ← peek with
      | none => fail "missing command"
      | some letter =>
        drop 1
        let i : Instruction := { first, second, negated := marks.contains '!', action := .block 0 }
        if letter = '\x7b' then
          modify fun s => { s with blocks := s.instructions.size :: s.blocks }
          push i
        else
          let action ← takeAction letter
          push { i with action }
        takeInstructions fuel

def readScript (extended : Bool) (text : List Char) : Except (Nat × String) (Array Instruction) :=
  ((takeInstructions (text.length + 2)).run { rest := text, total := text.length, extended }).map
    fun (_, s) => s.instructions

/-! ## Editing -/

/-- The input of an editor: what was read of the current file, and the names of the others. -/
structure Input where
  buffer : List Char := []
  /-- Whether the buffer is the end of its file. -/
  complete : Bool := true
  names : List (List Char)
  status : Nat := 0

/-- Reads on until the buffer holds a whole line, or nothing is left. -/
def Input.fill : Nat → Input → Exec Input
  | 0, input => return input
  | fuel + 1, input => do
    if input.buffer.contains '\n' then return input
    if !input.complete then
      match ← readBlock 0 with
      | .ok [] | .error _ => Input.fill fuel { input with complete := true }
      | .ok text => Input.fill fuel { input with buffer := input.buffer ++ text }
    else if !input.buffer.isEmpty then return input
    else
      match input.names with
      | [] => return input
      | name :: names =>
        if name = ['-'] then
          match ← available 0 with
          | .ok _ => Input.fill fuel { input with complete := false, names }
          | .error fault =>
            report ("read error on stdin: ".toList ++ fault.message.toList)
            return { input with names, status := 4 }
        else
          match ← contentOf name with
          | .ok text => Input.fill fuel { input with buffer := text, names }
          | .error why =>
            if why = "Is a directory".toList then
              report ("couldn't edit ".toList ++ name ++ ": not a regular file".toList)
            else report ("can't read ".toList ++ name ++ ": ".toList ++ why)
            Input.fill fuel { input with names, status := 2 }

structure Editor where
  input : Input
  space : List Char := []
  /-- Whether the line in the pattern space had a line feed. -/
  ended : Bool := true
  hold : List Char := []
  number : Nat := 0
  output : List (List Char) := []
  /-- Whether the output lacks a line feed at its end. -/
  lacking : Bool := false
  /-- What is printed after the cycle. -/
  queue : List (List Char) := []
  /-- Whether a substitution was made since the last line or branch. -/
  made : Bool := false
  last : Option Regex := none
  /-- Whether the last pattern was asked for before there was one. -/
  isStuck : Bool := false
  /-- The ranges that are open, by instruction, with the line where they end if that is known. -/
  ranges : List (Nat × Option Nat) := []
  quiet : Bool
  /-- Whether text is printed at once. -/
  isDirect : Bool := false

abbrev Edit := StateT Editor Exec

/-- Prints text, after the line feed that the output lacks. -/
def print (text : List Char) (ended : Bool) : Edit Unit := do
  let e ← get
  let text := if e.lacking then '\n' :: text else text
  if e.isDirect then
    let _ ← say text
    set { e with lacking := !ended }
  else set { e with output := text :: e.output, lacking := !ended }

def printLine (line : List Char) : Edit Unit := do
  let e ← get
  let text := Octets.narrow line
  print (if e.ended then text ++ ['\n'] else text) e.ended

/-- Reads the next line into the pattern space, or after what is there; the flag tells whether there
is one. -/
def readNext (after : Bool) : Edit Bool := do
  let e ← get
  let input ← e.input.fill blockLimit
  if input.buffer.isEmpty then
    set { e with input }
    return false
  let line := input.buffer.takeWhile (· != '\n')
  let ended := line.length < input.buffer.length
  let wide := Octets.widen line
  set { e with
    input := { input with buffer := input.buffer.drop (line.length + 1) }
    space := if after then e.space ++ '\n' :: wide else wide
    ended, number := e.number + 1 }
  return true

def isLast : Edit Bool := do
  let e ← get
  let input ← e.input.fill blockLimit
  set { e with input }
  return input.buffer.isEmpty

/-- A pattern, which is the last one from now on; one that is left out is the one before it. -/
def resume (r : Option Regex) : Edit (Option Regex) :=
  modifyGet fun e =>
    let r := r.or e.last
    (r, { e with last := r, isStuck := r.isNone })

/-- Whether a pattern matches the pattern space. -/
def fits (r : Option Regex) : Edit Bool := do
  match ← resume r with
  | none => return false
  | some r => return (r.find? (← get).space.toArray 0).isSome

def Address.holds (a : Address) : Edit Bool := do
  let number := (← get).number
  match a with
  | .line n => return number == n
  | .step start every =>
    return if every = 0 then number == start else start ≤ number && (number - start) % every == 0
  | .last => isLast
  | .pattern r => fits r

/-- Whether an instruction is for the line. -/
def selects (index : Nat) (i : Instruction) : Edit Bool := do
  match i.first, i.second with
  | none, _ => return true
  | some a, none => a.holds
  | some a, some stop =>
    let close : Edit Unit := modify fun e => { e with ranges := e.ranges.filter (·.1 != index) }
    let number := (← get).number
    match (← get).ranges.lookup index with
    | some (some n) =>
      if n ≤ number then close
      return number ≤ n
    | some none =>
      match stop with
      | .address a => if ← a.holds then close
      | _ => close
      return true
    | none =>
      let openRange (n : Option Nat) : Edit Unit :=
        modify fun e => { e with ranges := (index, n) :: e.ranges }
      match a, stop with
      | .line 0, .address (.pattern r) =>
        if number != 1 then return false
        if !(← fits r) then openRange none
        return true
      | a, stop =>
        if !(← a.holds) then return false
        match stop with
        | .address (.line n) => if number < n then openRange (some n)
        | .address _ => openRange none
        | .further n => if n != 0 then openRange (some (number + n))
        | .multiple n =>
          let rest := if n = 0 then 0 else (n - number % n) % n
          if rest != 0 then openRange (some (number + rest))
        return true

/-- A text in a case. -/
def inCase (upper : Option Bool) (s : List Char) : List Char :=
  match upper with
  | some true => s.map Char.toUpper
  | some false => s.map Char.toLower
  | none => s

def replacementText (text : Array Char) (m : Regex.Match) :
    List ReplacementPart → (upper : Option Bool) → (first : Option Bool) → List Char
  | [], _, _ => []
  | .lettering upper :: rest, _, first => replacementText text m rest upper first
  | .first upper :: rest, lettering, _ => replacementText text m rest lettering (some upper)
  | part :: rest, upper, first =>
    let s := match part with
      | .text s => s
      | .group n => m.held text n
      | _ => []
    match inCase upper s, first with
    | c :: others, some _ => inCase first [c] ++ others ++ replacementText text m rest upper none
    | s, first => s ++ replacementText text m rest upper (if s.isEmpty then first else none)

/-- Makes a substitution from a place on: the text, and whether it was made. -/
def Substitution.apply (s : Substitution) (r : Regex) (text : Array Char) :
    Nat → (place : Nat) → (previous : Option Nat) → (seen : Nat) → List Char × Bool
  | 0, place, _, _ => (Regex.between text place text.size, false)
  | fuel + 1, place, previous, seen =>
    if text.size < place then ([], false)
    else match r.find? text place with
      | none => (Regex.between text place text.size, false)
      | some m =>
        let before := Regex.between text place m.start
        let next := Regex.between text m.stop (m.stop + 1)
        let empty := m.start == m.stop
        if empty && previous == some m.start then
          let (rest, made) := s.apply r text fuel (m.stop + 1) none seen
          (before ++ next ++ rest, made)
        else
          let seen := seen + 1
          let replaced := s.occurrence ≤ seen
          let middle := if replaced then replacementText text m s.replacement none none
            else Regex.between text m.start m.stop
          if replaced && !s.everywhere then
            (before ++ middle ++ Regex.between text m.stop text.size, true)
          else
            let (rest, made) :=
              if empty then s.apply r text fuel (m.stop + 1) none seen
              else s.apply r text fuel m.stop (some m.stop) seen
            (before ++ middle ++ (if empty then next else []) ++ rest, made || replaced)

/-- A line in a form that shows every character. -/
def spelledOut (s : List Char) : List Char :=
  (Octets.narrow s).flatMap fun c =>
    match c with
    | '\\' => ['\\', '\\']
    | '\x07' => ['\\', 'a']
    | '\x08' => ['\\', 'b']
    | '\x0c' => ['\\', 'f']
    | '\n' => ['\\', 'n']
    | '\r' => ['\\', 'r']
    | '\t' => ['\\', 't']
    | '\x0b' => ['\\', 'v']
    | c =>
      if 32 ≤ c.toNat ∧ c.toNat < 127 then [c]
      else
        let digits := Nat.toDigits 8 c.toNat
        '\\' :: List.replicate (3 - digits.length) '0' ++ digits

def wrapped (width : Nat) : Nat → List Char → List Char
  | 0, s => s
  | fuel + 1, s =>
    if s.length < width then s ++ ['$', '\n']
    else s.take (width - 1) ++ ['\\', '\n'] ++ wrapped width fuel (s.drop (width - 1))

def appendTo (name text : List Char) : Edit Unit := do
  if name = "/dev/stdout".toList then
    print text true
  else
    let before := (← (contentOf name : Exec _)).toOption.getD []
    let _ ← (store name (before ++ text) : Exec _)

/-- How a cycle goes on after an action. -/
inductive Next
  | go
  | jump (index : Nat)
  /-- The cycle ends, with or without printing the pattern space. -/
  | finish (silent : Bool)
  /-- The cycle starts again without reading a line. -/
  | again
  | quit (silent : Bool) (status : Nat)
  /-- The editing ends at once. -/
  | stop

/-- The place of a label; no label is the end. -/
def labelPlace (program : Array Instruction) (label : List Char) : Nat :=
  if label.isEmpty then program.size
  else
    (program.findIdx? fun i =>
      match i.action with
      | .label name => name == label
      | _ => false).getD program.size

/-- Does what an instruction says. -/
def act (program : Array Instruction) (i : Instruction) : Edit Next := do
  let e ← get
  match i.action with
  | .block _ | .label _ => return .go
  | .substitute s =>
    match ← resume s.pattern with
    | none => return .stop
    | some r =>
      let text := e.space.toArray
      let (space, made) := s.apply r text (text.size + 2) 0 none 0
      modify fun e => { e with space, made := e.made || made }
      if made then
        if s.printed then printLine space
        match s.target with
        | some name => appendTo name (Octets.narrow space ++ ['\n'])
        | none => pure ()
      return .go
  | .transliterate table =>
    set { e with space := e.space.map fun c => (table.lookup c).getD c }
    return .go
  | .append text =>
    set { e with queue := e.queue ++ [text] }
    return .go
  | .insert text =>
    print text true
    return .go
  | .change text =>
    let within ← match i.second with
      | some _ => do
        let e ← get
        let index := (program.findIdx? fun j => match j.action with
          | .change t => t == text
          | _ => false).getD 0
        pure (!i.negated && (e.ranges.lookup index).isSome && !(← isLast))
      | none => pure false
    if !within then print text true
    return .finish true
  | .branch label => return .jump (labelPlace program label)
  | .branchIf made label =>
    if e.made = made then
      set { e with made := false }
      return .jump (labelPlace program label)
    set { e with made := false }
    return .go
  | .quit silent status => return .quit silent status
  | .readIn name =>
    match ← (contentOf name : Exec _) with
    | .ok text => set { e with queue := e.queue ++ [text] }
    | .error _ => pure ()
    return .go
  | .writeOut name =>
    appendTo name (Octets.narrow e.space ++ ['\n'])
    return .go
  | .plain letter =>
    match letter with
    | 'd' => return .finish true
    | 'D' =>
      match e.space.dropWhile (· != '\n') with
      | _ :: rest =>
        set { e with space := rest }
        return .again
      | [] => return .finish true
    | 'g' => set { e with space := e.hold }
    | 'G' => set { e with space := e.space ++ '\n' :: e.hold }
    | 'h' => set { e with hold := e.space }
    | 'H' => set { e with hold := e.hold ++ '\n' :: e.space }
    | 'x' => set { e with space := e.hold, hold := e.space }
    | 'z' => set { e with space := [] }
    | 'p' => printLine e.space
    | 'P' => print (Octets.narrow (e.space.takeWhile (· != '\n')) ++ ['\n']) true
    | '=' => print (numeral e.number ++ ['\n']) true
    | 'l' => print (wrapped 70 (e.space.length * 4 + 1) (spelledOut e.space)) true
    | 'n' =>
      if ← isLast then return .quit e.quiet 0
      if !e.quiet then printLine e.space
      let queue := (← get).queue
      for text in queue do
        print text true
      modify fun e => { e with queue := [] }
      let _ ← readNext false
    | 'N' =>
      if ← isLast then return .quit false 0
      let queue := (← get).queue
      for text in queue do
        print text true
      modify fun e => { e with queue := [] }
      let _ ← readNext true
    | _ => pure ()
    return .go

/-- Runs the instructions from one on, with fuel for those that jump back. -/
def runFrom (program : Array Instruction) : Nat → Nat → Edit Next
  | 0, _ => return .finish false
  | fuel + 1, index => do
    match program[index]? with
    | none => return .finish false
    | some i =>
      let chosen := (← selects index i) != i.negated
      if (← get).isStuck then return .stop
      if !chosen then
        match i.action with
        | .block stop => runFrom program fuel stop
        | _ => runFrom program fuel (index + 1)
      else
        match ← act program i with
        | .go => runFrom program fuel (index + 1)
        | .jump place => runFrom program fuel place
        | next => return next

def flushQueue : Edit Unit := do
  for text in (← get).queue do
    print text (text.getLast? == some '\n' || text.isEmpty)
  modify fun e => { e with queue := [] }

/-- Runs cycles until the input or the script ends; the status. -/
def cycles (program : Array Instruction) : Nat → (kept : Bool) → Edit Nat
  | 0, _ => return 0
  | fuel + 1, kept => do
    if !kept then
      modify fun e => { e with made := false }
      if !(← readNext false) then return 0
    let finish (silent : Bool) : Edit Unit := do
      if !silent && !(← get).quiet then printLine (← get).space
      flushQueue
    match ← runFrom program 100000 0 with
    | .quit silent status =>
      finish silent
      return status
    | .stop => return 1
    | .again =>
      flushQueue
      cycles program fuel true
    | .finish silent =>
      finish silent
      cycles program fuel false
    | _ =>
      finish false
      cycles program fuel false

/-- Edits files as one input: the output and the status. -/
def editAll (program : Array Instruction) (quiet isDirect : Bool) (names : List (List Char)) :
    Exec (List Char × Nat) := do
  let (status, e) ← (cycles program blockLimit false).run { input := { names }, quiet, isDirect }
  if e.isStuck then
    report "-e expression #1, char 0: no previous regular expression".toList
  return (e.output.reverse.flatten, if status = 0 then e.input.status else status)

end Editing

open Editing in
/-- Edits standard input or files by a script. -/
def edit : Utility := fun arguments =>
  withOptions { letters := "bnrEe:f:l:szui::", long := [("quiet", 'n'), ("silent", 'n'),
    ("expression", 'e'), ("file", 'f'), ("regexp-extended", 'E'), ("in-place", 'i'),
    ("separate", 's'), ("unbuffered", 'u')] } 1 arguments fun g => do
    let given := g.options.filter fun o => o.1 == 'e' || o.1 == 'f'
    let (scripts, names) := if given.isEmpty then
        (g.operands.take 1 |>.map fun s => ('e', s), g.operands.drop 1)
      else (given, g.operands)
    if scripts.isEmpty then
      complain ("Usage: ".toList ++ (← own).name ++
        " [OPTION]... \x7bscript-only-if-no-other-script\x7d [input-file]...\n".toList)
      return 1
    let texts ← scripts.mapM fun (letter, s) => do
      if letter = 'e' then return s
      return (← contentOf s).toOption.getD []
    match readScript (g.has 'E' || g.has 'r') (List.intercalate ['\n'] texts) with
    | .error (place, message) =>
      report ("-e expression #1, char ".toList ++ numeral place ++ ": ".toList ++ message.toList)
      return 1
    | .ok program =>
      let missing := program.toList.findSome? fun i =>
        let wanted := match i.action with
          | .branch l | .branchIf _ l => l
          | _ => []
        if wanted.isEmpty || labelPlace program wanted < program.size then none else some wanted
      match missing with
      | some label =>
        report ("-e expression #1, char ".toList ++ numeral (texts.flatten.length : Nat) ++
          ": can't find label for jump to \x60".toList ++ label ++ ['\''])
        return 1
      | none =>
        for i in program do
          let target := match i.action with
            | .writeOut name => some name
            | .substitute s => s.target
            | _ => none
          match target with
          | some name => if name != "/dev/stdout".toList then
              let _ ← store name []
          | none => pure ()
        let names := if names.isEmpty then [['-']] else names
        let separate := g.has 'i' || g.has 's'
        let groups := if separate then names.map fun n => [n] else [names]
        groups.foldlM (fun status group => do
          let (text, own) ← editAll program (g.has 'n') (g.has 'u' && !g.has 'i') group
          if g.has 'i' then
            for name in group do
              if own = 0 then
                match (g.argument? 'i').getD [], ← contentOf name with
                | [], _ | _, .error _ => pure ()
                | suffix, .ok old =>
                  let _ ← store (name ++ suffix) old
                let _ ← store name text
          else
            let _ ← say text
          return if own = 0 then status else own) 0

end JuliaBlocks.Shell.Utility
