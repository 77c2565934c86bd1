/-!
Julia string literals. Three characters are escaped by a backslash: the backslash itself, the
double quote that would end the literal, and the dollar that would start an interpolation. Every
other character stands for itself, line feeds included.
-/

namespace JuliaBlocks.Julia

/-- The characters that a backslash must precede inside a literal. -/
def isSpecial (c : Char) : Bool :=
  c == '\\' || c == '"' || c == '$'

/-- One character inside a string literal. -/
def escapeChar (c : Char) : List Char :=
  if isSpecial c then ['\\', c] else [c]

/-- The inside of the literal of a text. -/
def escape (s : List Char) : List Char :=
  s.flatMap escapeChar

/-- The string literal of a text. -/
def quote (s : String) : String :=
  String.ofList ('"' :: escape s.toList ++ ['"'])

/-- Reads a literal's inside up to the quote that closes it: the text it denotes, and what
follows. A dollar without a backslash would interpolate, so nothing is read then. -/
def readInside : List Char → Option (List Char × List Char)
  | [] => none
  | '"' :: rest => some ([], rest)
  | '$' :: _ => none
  | '\\' :: c :: rest => (readInside rest).map fun (text, after) => (c :: text, after)
  | ['\\'] => none
  | c :: rest => (readInside rest).map fun (text, after) => (c :: text, after)

/-- Reads one string literal: the text it denotes, and what follows. -/
def readString : List Char → Option (List Char × List Char)
  | '"' :: rest => readInside rest
  | _ => none

end JuliaBlocks.Julia
