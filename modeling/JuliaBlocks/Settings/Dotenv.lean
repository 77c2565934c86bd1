import JuliaBlocks.Text.Line
import JuliaBlocks.Value

/-!
Environment files: lines of the form `NAME=value`, with optional `export`, quotes and comments,
and references to other variables in the values. A name without an equals sign is bound to
nothing; a line of no such form is passed over.
-/

namespace JuliaBlocks.Dotenv

/-- Blanks that do not end a line. -/
def isInline (c : Char) : Bool :=
  Text.isBlank c && c != '\n' && c != '\r'

def isEnd (c : Char) : Bool := c == '\n' || c == '\r'

/-- What follows the word `export` and a blank, or the same text. -/
def skipExport (s : List Char) : List Char :=
  if "export".toList.isPrefixOf s then
    let rest := s.drop 6
    let after := rest.dropWhile isInline
    if after.length < rest.length then after else s
  else s

/-- Splits quoted text at its closing quote. A backslash and the character after it stand
together, so that an escaped quote does not close it. -/
def splitQuoted (quote : Char) : List Char → Option (List Char × List Char)
  | [] => none
  | ['\\'] => none
  | '\\' :: c :: rest =>
    (splitQuoted quote rest).map fun (inside, after) => ('\\' :: c :: inside, after)
  | c :: rest =>
    if c = quote then some ([], rest)
    else (splitQuoted quote rest).map fun (inside, after) => (c :: inside, after)

/-- Replaces a backslash and a character by what `decode?` makes of that character. -/
def unescape (decode? : Char → Option Char) : List Char → List Char
  | [] => []
  | [c] => [c]
  | '\\' :: c :: rest =>
    match decode? c with
    | some d => d :: unescape decode? rest
    | none => '\\' :: unescape decode? (c :: rest)
  | c :: rest => c :: unescape decode? rest

/-- The escapes between single quotes. -/
def singleEscape? (c : Char) : Option Char :=
  if c = '\\' ∨ c = '\'' then some c else none

/-- The escapes between double quotes. -/
def doubleEscape? : Char → Option Char
  | '\\' => some '\\'
  | '\'' => some '\''
  | '"' => some '"'
  | 'a' => some '\x07'
  | 'b' => some '\x08'
  | 'f' => some '\x0c'
  | 'n' => some '\n'
  | 'r' => some '\r'
  | 't' => some '\t'
  | 'v' => some '\x0b'
  | _ => none

/-- The text before the first comment sign that a blank precedes. -/
def dropComment : List Char → List Char
  | [] => []
  | c :: rest =>
    if Text.isBlank c && (rest.dropWhile Text.isBlank).head? == some '#' then []
    else c :: dropComment rest

/-- Reads a value after the equals sign; nothing is read from quotes left open. A value without
quotes ends where a comment starts, which may be at once. -/
def readValue? (s : List Char) : Option (List Char × List Char) :=
  match s.dropWhile isInline with
  | '\'' :: rest => (splitQuoted '\'' rest).map fun (v, after) => (unescape singleEscape? v, after)
  | '"' :: rest => (splitQuoted '"' rest).map fun (v, after) => (unescape doubleEscape? v, after)
  | _ =>
    let line := s.takeWhile (!isEnd ·)
    some (Text.stripWhile Text.isBlank (dropComment line), s.dropWhile (!isEnd ·))

/-- The characters of a name that stands without quotes. -/
def isName (c : Char) : Bool :=
  c != '=' && c != '#' && !Text.isBlank c

/-- What a reading comes to: a result and the rest, or the place where it failed. -/
abbrev Reading (α : Type) := Except (List Char) (α × List Char)

/-- Reads a name; a comment has none. -/
def readName (s : List Char) : Reading (Option String) :=
  match s with
  | '#' :: _ => .ok (none, s)
  | '\'' :: rest =>
    let name := rest.takeWhile (· != '\'')
    match rest.dropWhile (· != '\'') with
    | _ :: after => if name.isEmpty then .error s else .ok (some (String.ofList name), after)
    | [] => .error s
  | s =>
    let name := s.takeWhile isName
    if name.isEmpty then .error s
    else .ok (some (String.ofList name), s.dropWhile isName)

/-- Goes over a comment and the end of the line. -/
def finishLine (s : List Char) : Reading Unit :=
  let s := match s.dropWhile isInline with
    | '#' :: rest => rest.dropWhile (!isEnd ·)
    | _ => s
  match s.dropWhile isInline with
  | [] => .ok ((), [])
  | '\r' :: '\n' :: rest => .ok ((), rest)
  | c :: rest => if isEnd c then .ok ((), rest) else .error s

/-- A name and what it is bound to, if there is a name. -/
abbrev Binding := Option (String × Option String)

/-- Reads one binding from text that starts with no blank. -/
def readBinding (s : List Char) : Except (List Char) (Binding × List Char) := do
  let (name, s) ← readName (skipExport s)
  let (value, s) ← match s.dropWhile isInline with
    | '=' :: rest =>
      match readValue? rest with
      | some (v, after) => Except.ok (some (String.ofList v), after)
      | none => .error rest
    | rest => .ok (none, rest)
  let ((), s) ← finishLine s
  return (name.map fun n => (n, value), s)

def skipLine (s : List Char) : List Char :=
  (s.dropWhile (!isEnd ·)).drop 1

/-- Reads all bindings; after a failure it goes on with the next line. -/
def readAll : Nat → List Char → List (String × Option String)
  | 0, _ => []
  | fuel + 1, s =>
    match s.dropWhile Text.isBlank with
    | [] => []
    | s =>
      match readBinding s with
      | .ok (some b, rest) => b :: readAll fuel rest
      | .ok (none, rest) => readAll fuel rest
      | .error rest => readAll fuel (skipLine rest)

/-- A reference `${NAME}` or `${NAME:-default}` after its opening brace: the name, the default,
and what follows. -/
def readReference? (s : List Char) : Option (List Char × List Char × List Char) :=
  let name := s.takeWhile fun c => c != '\x7d' && c != ':'
  match s.dropWhile fun c => c != '\x7d' && c != ':' with
  | '\x7d' :: rest => some (name, [], rest)
  | ':' :: '-' :: rest =>
    match rest.dropWhile (· != '\x7d') with
    | _ :: after => some (name, rest.takeWhile (· != '\x7d'), after)
    | [] => none
  | _ => none

/-- A value with its references replaced: by what the name is bound to, which is empty for a
name bound to nothing, or by the default for a name that is not bound. -/
def interpolate (bound : Named (Option String)) : Nat → List Char → List Char
  | 0, s => s
  | _, [] => []
  | fuel + 1, '$' :: '\x7b' :: rest =>
    match readReference? rest with
    | some (name, default, after) =>
      let value := match bound.lookup (String.ofList name) with
        | some (some v) => v.toList
        | some none => []
        | none => default
      value ++ interpolate bound fuel after
    | none => '$' :: interpolate bound fuel ('\x7b' :: rest)
  | fuel + 1, c :: rest => c :: interpolate bound fuel rest

/-- Resolves references in order, to the environment and to names bound before. -/
def resolve (environment : Named String) :
    List (String × Option String) → Named (Option String) → Named (Option String)
  | [], bound => bound
  | (name, value) :: rest, bound =>
    -- Names bound in the file prevail over those of the environment.
    let known : Named (Option String) :=
      bound.foldl (fun m e => Named.put e.1 e.2 m) (environment.map fun e => (e.1, some e.2))
    let value := value.map fun v =>
      String.ofList (interpolate known (v.toList.length + 1) v.toList)
    resolve environment rest (Named.put name value bound)

/-- The text without a byte order mark at its front. -/
def dropMark : List Char → List Char
  | '\ufeff' :: rest => rest
  | s => s

def read (environment : Named String) (s : String) : Named (Option String) :=
  let cs := Text.universalNewlines (dropMark s.toList)
  resolve environment (readAll (cs.length + 1) cs) []

end JuliaBlocks.Dotenv
