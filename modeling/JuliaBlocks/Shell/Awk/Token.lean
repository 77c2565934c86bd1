import JuliaBlocks.Number.Shortest
import JuliaBlocks.Shell.Awk.Syntax
import JuliaBlocks.Shell.Format

/-!
The tokens of programs. Whether a slash starts a pattern or divides depends on the token before it.
-/

namespace JuliaBlocks.Shell.Awk

/-- Tokens. A name right before a parenthesis is that of a function. -/
inductive Token
  | number (x : Binary64)
  | text (s : List Char)
  | pattern (s : List Char)
  | name (s : String)
  | function (s : String)
  | builtin (s : String)
  | keyword (s : String)
  | mark (s : String)
  | newline
  | ending
deriving DecidableEq

def Token.shown : Token → String
  | number x => x.render
  | text s => "\"" ++ String.ofList s ++ "\""
  | pattern s => "/" ++ String.ofList s ++ "/"
  | name s | function s | builtin s | keyword s | mark s => s
  | newline => "end of line"
  | ending => "end of file"

def keywords : List String :=
  ["BEGIN", "END", "function", "func", "if", "else", "while", "for", "do", "break", "continue", "next",
    "nextfile", "exit", "return", "delete", "in", "getline", "print", "printf"]

def builtins : List String :=
  ["length", "substr", "index", "split", "sub", "gsub", "match", "sprintf", "sin", "cos", "atan2", "exp",
    "log", "sqrt", "int", "rand", "srand", "tolower", "toupper", "system", "close", "fflush"]

/-- The marks, longer ones first. -/
def marks : List String :=
  ["&&", "||", "==", "!=", "<=", ">=", ">>", "++", "--", "+=", "-=", "*=", "/=", "%=", "^=", "!~", "\x7b",
    "\x7d", "(", ")", "[", "]", ";", ",", "+", "-", "*", "/", "%", "^", "!", "<", ">", "|", "?", ":", "~",
    "$", "="]

/-- Whether a slash after a token divides. -/
def Token.endsOperand : Token → Bool
  | number _ | text _ | pattern _ | name _ | builtin _ => true
  | mark s => [")", "]", "$", "++", "--"].contains s
  | _ => false

/-- A decimal number at the front: its coefficient and the power of ten it is multiplied by, and what
follows. -/
def takeDecimal? (s : List Char) : Option (Nat × Int × List Char) :=
  let digitsOf (s : List Char) : List Nat := s.filterMap Numeral.asciiDigit?
  let whole := s.takeWhile Char.isDigit
  let (places, rest) := match s.drop whole.length with
    | '.' :: rest => (rest.takeWhile Char.isDigit, rest.dropWhile Char.isDigit)
    | rest => ([], rest)
  if whole.isEmpty && places.isEmpty then none
  else
    let coefficient := Numeral.ofDigits (digitsOf (whole ++ places))
    let shift : Int := -(places.length : Int)
    match rest with
    | mark :: after =>
      let (negative, digits) := Numeral.takeSign after
      let power := digits.takeWhile Char.isDigit
      if (mark = 'e' ∨ mark = 'E') ∧ !power.isEmpty then
        let n : Int := Numeral.ofDigits (digitsOf power)
        some (coefficient, shift + (if negative then -n else n), digits.drop power.length)
      else some (coefficient, shift, rest)
    | [] => some (coefficient, shift, [])

/-- Takes the text of a literal up to its closing quote. -/
def takeText : Nat → List Char → Option (List Char × List Char)
  | 0, _ => none
  | _, [] => none
  | fuel + 1, c :: rest =>
    if c = '"' then some ([], rest)
    else if c = '\n' then none
    else if c = '\\' then
      match rest with
      | [] => none
      | '\n' :: rest => takeText fuel rest
      | d :: after =>
        let (shown, after) :=
          if Format.isOctal d then
            let (c, after) := Format.takeEscape rest
            ([c], after)
          else if d = '"' then ([d], after)
          else match Format.named? d with
            | some c => if d = 'e' then (['\\', d], after) else ([c], after)
            | none => (['\\', d], after)
        (takeText fuel after).map fun (text, rest) => (shown ++ text, rest)
    else (takeText fuel rest).map fun (text, rest) => (c :: text, rest)

/-- Takes a pattern up to its closing slash. -/
def takePattern : List Char → Option (List Char × List Char)
  | [] => none
  | '\n' :: _ => none
  | '/' :: rest => some ([], rest)
  | '\\' :: '/' :: rest => (takePattern rest).map fun (text, rest) => ('/' :: text, rest)
  | '\\' :: c :: rest => (takePattern rest).map fun (text, rest) => ('\\' :: c :: text, rest)
  | c :: rest => (takePattern rest).map fun (text, rest) => (c :: text, rest)

def takeMark? (s : List Char) : Option (String × List Char) :=
  marks.findSome? fun mark =>
    if mark.toList.isPrefixOf s then some (mark, s.drop mark.length) else none

/-- The tokens of a text with the lines they stand in, or the line of an error and a message. -/
def tokensFrom : Nat → (line : Nat) → (before : Token) → List Char →
    Except (Nat × String) (List (Nat × Token))
  | 0, _, _, _ => .ok []
  | _, line, before, [] =>
    .ok (if before = .newline then [(line, .ending)] else [(line, .newline), (line + 1, .ending)])
  | fuel + 1, line, before, c :: rest => do
    let go (token : Token) (rest : List Char) : Except (Nat × String) (List (Nat × Token)) := do
      return (line, token) :: (← tokensFrom fuel line token rest)
    if c = ' ' ∨ c = '\t' ∨ c = '\r' then tokensFrom fuel line before rest
    else if c = '\n' then
      return (line, .newline) :: (← tokensFrom fuel (line + 1) .newline rest)
    else if c = '#' then tokensFrom fuel line before (rest.dropWhile (· != '\n'))
    else if c = '\\' ∧ rest.head? = some '\n' then tokensFrom fuel (line + 1) before (rest.drop 1)
    else if c = '"' then
      match takeText (rest.length + 1) rest with
      | some (text, rest) => go (.text text) rest
      | none => throw (line, "runaway string constant \"" ++ String.ofList (rest.take 40) ++ " ...")
    else if c = '/' ∧ !before.endsOperand then
      match takePattern rest with
      | some (text, rest) => go (.pattern text) rest
      | none =>
        throw (line, "runaway regular expression /" ++ String.ofList (rest.take 40) ++ " ...")
    else match takeDecimal? (c :: rest) with
      | some (coefficient, power, rest) => go (.number (.ofDecimal false coefficient power)) rest
      | none =>
        if isNameStart c then
          let word := (c :: rest).takeWhile isNameRest
          let rest := (c :: rest).drop word.length
          let name := String.ofList word
          if keywords.contains name then go (.keyword name) rest
          else if builtins.contains name then go (.builtin name) rest
          else if rest.head? = some '(' then go (.function name) rest
          else go (.name name) rest
        else match takeMark? (c :: rest) with
          | some (mark, rest) => go (.mark mark) rest
          | none => throw (line, "unexpected character '" ++ String.singleton c ++ "'")

def tokens (s : List Char) : Except (Nat × String) (List (Nat × Token)) :=
  tokensFrom (s.length + 1) 1 .newline s

end JuliaBlocks.Shell.Awk
