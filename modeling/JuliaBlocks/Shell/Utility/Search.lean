import JuliaBlocks.Shell.Regex
import JuliaBlocks.Shell.Utility.Basic

/-!
The search for lines that match patterns.
-/

namespace JuliaBlocks.Shell.Utility

namespace Search

structure Query where
  patterns : List Regex
  inverted : Bool
  whole : Bool
  words : Bool

/-- Whether a match in a line stands as asked: as the whole line, or as a whole word. -/
def Query.accepts (q : Query) (text : Array Char) (m : Regex.Match) : Bool :=
  let isWord (i : Nat) : Bool := (text[i]?).any Regex.isWordCharacter
  (!q.whole || (m.start == 0 && m.stop == text.size)) &&
    (!q.words || (!(0 < m.start && isWord (m.start - 1)) && !isWord m.stop))

/-- The matches of a pattern from a place on, the leftmost first. -/
def candidates (r : Regex) (text : Array Char) : Nat → Nat → List Regex.Match
  | 0, _ => []
  | n + 1, place =>
    match r.matchAt? text place with
    | some m => m :: candidates r text n (place + 1)
    | none => candidates r text n (place + 1)

/-- The first match as asked from a place on, the longest of those that start there. -/
def Query.find? (q : Query) (text : Array Char) (place : Nat) : Option Regex.Match :=
  let first (r : Regex) : Option Regex.Match :=
    if q.whole || q.words then
      (candidates r text (text.size + 1 - place) place).find? (q.accepts text)
    else r.find? text place
  (q.patterns.filterMap first).foldl (fun best m =>
    match best with
    | none => some m
    | some b => if m.start < b.start ∨ (m.start = b.start ∧ b.stop < m.stop) then some m else best)
    none

def Query.selects (q : Query) (line : List Char) : Bool :=
  (q.find? line.toArray 0).isSome != q.inverted

/-- The parts of a line that match and are not empty. -/
def Query.parts (q : Query) (text : Array Char) : Nat → Nat → List (List Char)
  | 0, _ => []
  | fuel + 1, place =>
    if text.size < place then []
    else match q.find? text place with
      | none => []
      | some m =>
        if m.start = m.stop then q.parts text fuel (m.stop + 1)
        else Regex.between text m.start m.stop :: q.parts text fuel m.stop

/-- Reads patterns, one on each line. -/
def readPatterns (dialect : Regex.Dialect) (fixed whole : Bool) (text : List Char) :
    Except Regex.Fault (List Regex) :=
  (Text.pieces (· == '\n') text).mapM fun line =>
    let line := Octets.widen line
    let r := if fixed then .ok (Regex.ofText dialect line) else Regex.read dialect line
    r.map fun r => if whole then .seq (.edge .lineStart) (.seq (.group 0 r) (.edge .lineEnd)) else r

/-- The message for a pattern that cannot be read. -/
def faultMessage : Regex.Fault → String
  | .set => "Unmatched [, [^, [:, [., or [="
  | .bounds => "Invalid preceding regular expression"
  | fault => fault.message

/-- Whether octets are no text. -/
def isBinary (text : List Char) : Bool :=
  text.contains '\x00' || (Octets.widen text).any fun c => Octets.strayBase ≤ c.toNat

/-- The labels of lines: the name of the file and the number. -/
def label (name : Option (List Char)) (number : Option Nat) (mark : Char) : List Char :=
  (match name with
    | some name => name ++ [mark]
    | none => []) ++
  (match number with
    | some n => numeral n ++ [mark]
    | none => [])

end Search

open Search in
/-- Copies the lines that match patterns. -/
def search (extended fixed : Bool) : Utility := fun arguments =>
  let options : Options := {
    letters := "EFGPA:B:C:bce:f:HhiIlLm:noqrRsvwxyzaU"
    long := [("extended-regexp", 'E'), ("fixed-strings", 'F'), ("basic-regexp", 'G'),
      ("ignore-case", 'i'), ("invert-match", 'v'), ("word-regexp", 'w'), ("line-regexp", 'x'),
      ("count", 'c'), ("files-with-matches", 'l'), ("files-without-match", 'L'),
      ("max-count", 'm'), ("only-matching", 'o'), ("quiet", 'q'), ("silent", 'q'),
      ("no-messages", 's'), ("line-number", 'n'), ("with-filename", 'H'), ("no-filename", 'h'),
      ("regexp", 'e'), ("file", 'f'), ("after-context", 'A'), ("before-context", 'B'),
      ("context", 'C'), ("text", 'a'), ("recursive", 'r')] }
  match options.read arguments with
  | .error message => do
    report message
    let name := (← own).name
    complain ("Usage: ".toList ++ name ++ " [OPTION]... PATTERNS [FILE]...\nTry '".toList ++ name ++
      " --help' for more information.\n".toList)
    return 2
  | .ok g => do
    let given ← (g.options.filter fun o => o.1 == 'e' || o.1 == 'f').mapM fun (letter, s) => do
      if letter = 'e' then return s
      let text := (← contentOf s).toOption.getD []
      return if text.getLast? = some '\n' then text.dropLast else text
    let (given, names) := if given.isEmpty then (g.operands.take 1, g.operands.drop 1)
      else (given, g.operands)
    if given.isEmpty then
      let name := (← own).name
      complain ("Usage: ".toList ++ name ++ " [OPTION]... PATTERNS [FILE]...\nTry '".toList ++
        name ++ " --help' for more information.\n".toList)
      return 2
    let dialect : Regex.Dialect := {
      extended := (extended || g.has 'E' || g.has 'P') && !g.has 'G'
      foldsCase := g.has 'i' || g.has 'y' }
    let read := given.mapM fun s =>
      readPatterns dialect ((fixed || g.has 'F') && !g.has 'E' && !g.has 'G') (g.has 'x') s
    match read with
    | .error fault =>
      report (faultMessage fault).toList
      return 2
    | .ok patterns =>
      let query : Query := {
        patterns := patterns.flatten, inverted := g.has 'v', whole := g.has 'x'
        words := g.has 'w' }
      let number (letter : Char) : Option Nat := (g.argument? letter).bind natural?
      let limit := number 'm'
      let after := ((number 'A').or (number 'C')).getD 0
      let before := ((number 'B').or (number 'C')).getD 0
      let titled := g.has 'H' || (1 < names.length && !g.has 'h')
      let mut found := false
      let mut failed := false
      for name in (if names.isEmpty then [['-']] else names) do
        match ← contentOf name with
        | .error why =>
          failed := true
          if !g.has 's' then report (plainlyOr "(standard input)" name why)
        | .ok text =>
          let lines := (linesOf text).zipIdx
          let chosen := lines.filter fun p => query.selects (Octets.widen p.1)
          let chosen := match limit with
            | some n => chosen.take n
            | none => chosen
          if !chosen.isEmpty then found := true
          let shown := if name = ['-'] then "(standard input)".toList else name
          let file := if titled then some shown else none
          if g.has 'q' then
            if found then return 0
          else if g.has 'c' then
            let _ ← say (label file none ':' ++ numeral chosen.length ++ ['\n'])
          else if g.has 'l' then
            if !chosen.isEmpty then
              let _ ← say (shown ++ ['\n'])
          else if g.has 'L' then
            if chosen.isEmpty then
              let _ ← say (shown ++ ['\n'])
          else if isBinary text && !g.has 'a' then
            if !chosen.isEmpty then report (shown ++ ": binary file matches".toList)
          else
            let place (i : Nat) : Option Nat := if g.has 'n' then some (i + 1) else none
            if g.has 'o' then
              if !g.has 'v' then
                for (line, i) in chosen do
                  let wide := (Octets.widen line).toArray
                  for part in query.parts wide (wide.size + 2) 0 do
                    let _ ← say (label file (place i) ':' ++ Octets.narrow part ++ ['\n'])
            else if after = 0 ∧ before = 0 then
              for (line, i) in chosen do
                let _ ← say (label file (place i) ':' ++ line ++ ['\n'])
            else
              let hits := chosen.map (·.2)
              let near := lines.filter fun p =>
                hits.any fun h => h ≤ p.2 + before && p.2 ≤ h + after
              let mut last : Option Nat := none
              for (line, i) in near do
                if last.any (· + 1 < i) then
                  let _ ← say "--\n".toList
                let mark := if hits.contains i then ':' else '-'
                let _ ← say (label file (place i) mark ++ line ++ ['\n'])
                last := some i
      let success := if g.has 'L' then !found else found
      return if failed && !(g.has 'q' && found) then 2 else if success then 0 else 1

end JuliaBlocks.Shell.Utility
