import JuliaBlocks.Shell.Awk.Cell
import JuliaBlocks.Shell.Awk.Reader
import JuliaBlocks.Text.Blank

/-!
Records and their fields: how separators cut text, and how matches are replaced.
-/

namespace JuliaBlocks.Shell.Awk

/-- What separates fields: runs of blanks, nothing at all, a character, or what a pattern matches. -/
inductive Separator
  | blanks
  | none
  | char (c : Char)
  | pattern (r : Regex)

def Separator.ofText : List Char → Separator
  | [' '] => blanks
  | [] => none
  | [c] => char c
  | s => pattern (patternOf s)

/-- The pieces of a text between matches that are not empty. -/
def piecesBetween (r : Regex) (text : Array Char) : Nat → (start place : Nat) → List (List Char)
  | 0, start, _ => [Regex.between text start text.size]
  | fuel + 1, start, place =>
    match r.find? text place with
    | Option.none => [Regex.between text start text.size]
    | some m =>
      if m.stop = m.start then
        if text.size ≤ m.stop then [Regex.between text start text.size]
        else piecesBetween r text fuel start (m.stop + 1)
      else Regex.between text start m.start :: piecesBetween r text fuel m.stop m.stop

/-- The fields of a text; a text without characters has none. -/
def Separator.split (separator : Separator) (s : List Char) : List (List Char) :=
  if s.isEmpty then []
  else match separator with
    | blanks => (Text.pieces isBlank s).filter (!·.isEmpty)
    | none => s.map fun c => [c]
    | char c => Text.pieces (· == c) s
    | pattern r => piecesBetween r s.toArray (s.length + 1) 0 0

/-- Takes a record from the front of a text, with what follows it; nothing if the text may go on and
the record with it. -/
def takeRecord? (separator : List Char) (ended : Bool) (s : List Char) :
    Option (List Char × List Char) :=
  let cut (p : Char → Bool) (s : List Char) : Option (List Char × List Char) :=
    let record := s.takeWhile p
    match s.drop record.length with
    | _ :: rest => some (record, rest)
    | [] => if ended && !s.isEmpty then some (record, []) else Option.none
  match separator with
  | [c] => cut (· != c) s
  | [] =>
    let s := s.dropWhile (· == '\n')
    match (patternOf "\n\n+".toList).find? s.toArray 0 with
    | some m =>
      if m.stop < s.length || ended then some (s.take m.start, s.drop m.stop) else Option.none
    | Option.none =>
      if ended && !s.isEmpty then
        some (if s.getLast? = some '\n' then s.dropLast else s, [])
      else Option.none
  | pattern =>
    match (patternOf pattern).find? s.toArray 0 with
    | some m =>
      if m.start < m.stop && (m.stop < s.length || ended) then
        some (s.take m.start, s.drop m.stop)
      else if ended && !s.isEmpty then some (s, []) else Option.none
    | Option.none => if ended && !s.isEmpty then some (s, []) else Option.none

/-- The text that replaces a match; an ampersand stands for the match unless a backslash is in front
of it. -/
def replacement (found : List Char) : List Char → List Char
  | '\\' :: '\\' :: '&' :: rest => '\\' :: found ++ replacement found rest
  | '\\' :: '&' :: rest => '&' :: replacement found rest
  | '&' :: rest => found ++ replacement found rest
  | c :: rest => c :: replacement found rest
  | [] => []

/-- Replaces one match or all of them from a place on: the text, and how many were replaced. After a
match that was not empty, none that is empty follows at once. -/
def substitute (r : Regex) (new : List Char) (everywhere : Bool) (text : Array Char) :
    Nat → (place : Nat) → (previous : Option Nat) → List Char × Nat
  | 0, place, _ => (Regex.between text place text.size, 0)
  | fuel + 1, place, previous =>
    if text.size < place then ([], 0)
    else match r.find? text place with
      | Option.none => (Regex.between text place text.size, 0)
      | some m =>
        let before := Regex.between text place m.start
        let found := Regex.between text m.start m.stop
        let following := if m.start = m.stop then Regex.between text m.stop (m.stop + 1) else []
        let next := m.stop + if m.start = m.stop then 1 else 0
        let last := if m.start = m.stop then Option.none else some m.stop
        if m.start = m.stop ∧ previous = some m.start then
          let (rest, count) := substitute r new everywhere text fuel next last
          (before ++ following ++ rest, count)
        else if !everywhere then
          (before ++ replacement found new ++ Regex.between text m.stop text.size, 1)
        else
          let (rest, count) := substitute r new everywhere text fuel next last
          (before ++ replacement found new ++ following ++ rest, count + 1)

end JuliaBlocks.Shell.Awk
