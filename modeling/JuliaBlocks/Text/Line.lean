import JuliaBlocks.Text.Blank

/-!
Lines of text under two rules: line feeds alone, once every line ending has been turned
into one, and the full set of line boundaries.
-/

namespace JuliaBlocks.Text

/-- Turns each of CR LF and CR into one line feed. -/
def universalNewlines : List Char → List Char
  | [] => []
  | '\r' :: '\n' :: rest => '\n' :: universalNewlines rest
  | c :: rest => (if c = '\r' then '\n' else c) :: universalNewlines rest

/-- The runs between line feeds, the last one included even if it is empty. -/
def lineRuns (s : List Char) : List (List Char) :=
  pieces (· == '\n') s

/-- The text without one line feed at its very end. -/
def dropFinalNewline (s : List Char) : List Char :=
  if s.getLast? = some '\n' then s.dropLast else s

/-- The characters that end a line: line feed, carriage return, vertical tab, form feed, the
separators U+001C to U+001E, next line, and the line and paragraph separators. -/
def isLineBoundary (c : Char) : Bool :=
  let n := c.toNat
  (10 ≤ n && n ≤ 13) || (0x1C ≤ n && n ≤ 0x1E) || n == 0x85 || n == 0x2028 || n == 0x2029

/-- The lines of a text, CR LF counting as one boundary. A boundary at the very end opens no
further line. -/
def splitLinesFrom (line : List Char) : List Char → List (List Char)
  | [] => if line.isEmpty then [] else [line.reverse]
  | '\r' :: '\n' :: rest => line.reverse :: splitLinesFrom [] rest
  | c :: rest =>
    if isLineBoundary c then line.reverse :: splitLinesFrom [] rest
    else splitLinesFrom (c :: line) rest

/-- The lines of a text without their boundaries. -/
def splitLines (s : String) : List String :=
  (splitLinesFrom [] s.toList).map String.ofList

end JuliaBlocks.Text
