import JuliaBlocks.Number.Numeral
import JuliaBlocks.Shell.Syntax

/-!
Reading scripts. A script is read one command line at a time, each run before the next is read, so
that an error later in a script does not keep its beginning from running. Text that ends within a
command is incomplete as long as more may follow, and in error otherwise.
-/

namespace JuliaBlocks.Shell

inductive Token
  | word (w : Word)
  | keyword (s : String)
  | operator (s : String)
  /-- A redirection of a stream. -/
  | redirect (stream : Nat) (kind : RedirectKind)
  /-- A redirection from a text that follows; tabs at the start of its lines may be dropped. -/
  | document (stream : Nat) (stripped : Bool)
  | ending

/-- A here document that is still to be read: its number, the line that ends it, whether it is
taken literally and whether tabs at the start of its lines are dropped. -/
structure PendingDocument where
  number : Nat
  delimiter : List Char
  isLiteral : Bool
  stripped : Bool

structure Reader where
  rest : List Char
  line : Nat := 1
  /-- Whether no more text will follow. -/
  closed : Bool := true
  /-- Whether the text is that of a file, whose lines may be shown as they are read, and how much of
  the rest was shown. -/
  isFile : Bool := false
  shown : Nat := 0
  /-- A token that was read ahead. -/
  ahead : Option Token := none
  pending : List PendingDocument := []
  /-- The here documents read. -/
  documents : List (Nat × Word) := []
  /-- The number of the next here document. -/
  number : Nat := 0
  /-- The texts that names of commands stand for. -/
  aliases : List (String × List Char) := []
  /-- The names whose texts were put in place, with the length of what follows those. -/
  replaced : List (String × Nat) := []

/-- A bound on the length of what is to be read, texts in the place of names included. -/
def Reader.reach (r : Reader) : Nat :=
  (r.rest.length + 2) * (r.aliases.foldl (fun n (_, text) => n + text.length) 1)

/-- Why reading stops: more text is needed, or the text is in error at a line. -/
inductive ReadStop
  | incomplete
  | malformed (line : Nat) (message : String)

/-- A step of reading. -/
abbrev Read := StateT Reader (Except ReadStop)

namespace Read

def fail {α : Type} (message : String) : Read α := do
  throw (.malformed (← get).line ("Syntax error: " ++ message))

def peek : Read (Option Char) := do
  let r ← get
  match r.rest with
  | c :: _ => return some c
  | [] => if r.closed then return none else throw .incomplete

def drop : Read Unit :=
  modify fun r => match r.rest with
    | c :: rest => { r with rest, line := if c = '\n' then r.line + 1 else r.line }
    | [] => r

/-- Goes over line feeds that a backslash hides. -/
def skipHidden : Nat → Read Unit
  | 0 => return ()
  | fuel + 1 => do
    if (← peek) = some '\\' then
      match (← get).rest with
      | _ :: '\n' :: _ =>
        drop
        drop
        skipHidden fuel
      | [_] => if (← get).closed then return () else throw .incomplete
      | _ => return ()

/-- The next character that no backslash hides. -/
def peekShown : Read (Option Char) := do
  skipHidden ((← get).rest.length)
  peek

def takeWhile (p : Char → Bool) : Nat → Read (List Char)
  | 0 => return []
  | fuel + 1 => do
    match ← peekShown with
    | some c =>
      if p c then
        drop
        return c :: (← takeWhile p fuel)
      else return []
    | none => return []

end Read

/-- Where parts of a word stand: on their own, between double quotes, in a here document, or in an
expression. -/
inductive Style
  | bare
  | double
  | document
  | expression
deriving DecidableEq

/-- What ends the parts: the end of the word, a closing brace, a double quote, a closing
parenthesis, two of them, or the end of the text. -/
inductive Closing
  | word
  | brace
  | quote
  | parenthesis
  | parentheses
  | text
deriving DecidableEq

/-- Characters that end a word. -/
def isMeta (c : Char) : Bool :=
  isSpace c || c == '\n' || c == ';' || c == '&' || c == '|' || c == '<' || c == '>' ||
    c == '(' || c == ')'

/-- Whether a backslash before a character hides its meaning in a style; before any other
character the backslash is text. -/
def isHidden (style : Style) (closing : Closing) (c : Char) : Bool :=
  match style with
  | .bare => true
  | .document => c == '$' || c == '`' || c == '\\' || (c == '\x7d' && closing == .brace)
  | _ => c == '$' || c == '`' || c == '\\' || c == '"' || (c == '\x7d' && closing == .brace)

def unclosed : Closing → String
  | .brace => "Missing '\x7d'"
  | .parenthesis | .parentheses => "Missing '))'"
  | _ => "Unterminated quoted string"

/-- The text between backquotes, in which a backslash hides another, a dollar and a backquote. -/
def takeBackquoted (double : Bool) : Nat → Read (List Char)
  | 0 => return []
  | fuel + 1 => do
    match ← Read.peek with
    | none => Read.fail "EOF in backquote substitution"
    | some '`' =>
      Read.drop
      return []
    | some '\\' =>
      Read.drop
      match ← Read.peek with
      | none => Read.fail "EOF in backquote substitution"
      | some c =>
        Read.drop
        let rest ← takeBackquoted double fuel
        if c = '\n' then return rest
        else if c = '\\' ∨ c = '`' ∨ c = '$' ∨ (double ∧ c = '"') then return c :: rest
        else return '\\' :: c :: rest
    | some c =>
      Read.drop
      return c :: (← takeBackquoted double fuel)

/-- The words with a meaning of their own where a command starts. -/
def keywords : List String :=
  ["!", "case", "do", "done", "elif", "else", "esac", "fi", "for", "if", "in", "then", "until",
    "while", "\x7b", "\x7d"]

def Token.endsList : Token → Bool
  | .ending => true
  | .operator s => s == ")" || s == ";;"
  | .keyword s => ["do", "done", "elif", "else", "esac", "fi", "then", "\x7d"].contains s
  | _ => false

def Token.shown : Token → String
  | .word _ => "word"
  | .redirect .. | .document .. => "redirection"
  | .ending => "end of file"
  | .operator "\n" => "newline"
  | .operator s | .keyword s => "\"" ++ s ++ "\""

/-- A binding in front of a command: a name, an equals sign, and the rest of the word. -/
def binding? (w : Word) : Option (List Char × Word) :=
  match w with
  | .text s false :: parts =>
    let name := s.takeWhile isNameRest
    match s.drop name.length with
    | '=' :: rest =>
      if isName name then some (name, if rest.isEmpty then parts else .text rest false :: parts)
      else none
    | _ => none
  | _ => none

def consText (c : Char) (quoted : Bool) : List Part → List Part
  | .text s q :: rest =>
    if q = quoted ∧ !s.isEmpty then .text (c :: s) q :: rest
    else .text [c] quoted :: .text s q :: rest
  | rest => .text [c] quoted :: rest

/-- The letters after a parameter's name that stand for operations. -/
def operationOf? : Char → Option Operation
  | '\x7d' => some .value
  | '-' => some .otherwise
  | '=' => some .assign
  | '?' => some .require
  | '+' => some .instead
  | _ => none

/-- Reads text up to a single quote. -/
def takeSingle : Nat → Read (List Char)
  | 0 => return []
  | fuel + 1 => do
    match ← Read.peek with
    | none => Read.fail "Unterminated quoted string"
    | some c =>
      Read.drop
      if c = '\'' then return [] else return c :: (← takeSingle fuel)

/-- Reads the delimiter of a here document, in which nothing is expanded: its characters, and whether
any of it is quoted. -/
def takeDelimiter (double : Bool) : Nat → Read (List Char × Bool)
  | 0 => return ([], false)
  | fuel + 1 => do
    match ← Read.peekShown with
    | none => if double then Read.fail (unclosed .quote) else return ([], false)
    | some c =>
      if !double && isMeta c then return ([], false)
      Read.drop
      let text ← match c with
        | '\\' =>
          match ← Read.peek with
          | none => pure [c]
          | some d =>
            Read.drop
            pure (if double && !isHidden .double .quote d then [c, d] else [d])
        | '\'' => if double then pure [c] else takeSingle fuel
        | '"' => pure []
        | _ => pure [c]
      let (rest, quoted) ← takeDelimiter (double != (c == '"')) fuel
      let quotes := c == '\\' || c == '"' || (c == '\'' && !double)
      return (text ++ rest, quotes || quoted)

/-- Reads a separate text by a reader, the numbers of here documents going on. -/
def within {α : Type} (text : List Char) (line : Nat) (read : Read α) : Read α := do
  let outer ← get
  set { rest := text, line, number := outer.number : Reader }
  let result ← read
  let inner ← get
  set { outer with number := inner.number, documents := outer.documents ++ inner.documents }
  return result

/-- Reads a number, a name or a special character after a dollar and a brace. -/
def takeName (fuel : Nat) : Read (List Char) := do
  match ← Read.peekShown with
  | some c =>
    if isNameStart c then Read.takeWhile isNameRest fuel
    else if c.isDigit then Read.takeWhile Char.isDigit fuel
    else if isSpecialName c then
      Read.drop
      return [c]
    else return []
  | none => return []

/-- Reads the name of a parameter whose length is asked for, and the brace that closes it; without
that brace nothing is read. No name is given for a single character before the brace that is not
one. -/
def takeCounted (fuel : Nat) : Read (Option (List Char)) := do
  let before ← get
  let name ← takeName fuel
  let odd ← if name.isEmpty then Read.peekShown else pure none
  if odd.any (· != '\x7d') then Read.drop
  if (odd.isSome || !name.isEmpty) && (← Read.peekShown) == some '\x7d' && odd != some '\x7d' then
    Read.drop
    return some name
  else
    set before
    return none

section Words

/-! The parts of words. Substitutions are read by `list`, a reader for lists of commands. -/

variable (list : Read (List Command)) (close : Read Unit)

mutual

def takeParts (style : Style) (closing : Closing) : Nat → Read (List Part)
  | 0 => return []
  | fuel + 1 => do
    let quoted := style != .bare
    match ← Read.peek with
    | none =>
      if closing = .word ∨ closing = .text then return [] else Read.fail (unclosed closing)
    | some '\\' =>
      Read.drop
      match ← Read.peek with
      | none => return [.text ['\\'] true]
      | some '\n' =>
        Read.drop
        takeParts style closing fuel
      | some c =>
        Read.drop
        let rest ← takeParts style closing fuel
        if isHidden style closing c then return .text [c] true :: rest
        else return .text ['\\', c] true :: rest
    | some '$' =>
      Read.drop
      let part ← takeDollar style fuel
      let rest ← takeParts style closing fuel
      match part with
      | .parameter _ .value true _ _ => return [part]
      | part => return part :: rest
    | some '`' =>
      Read.drop
      let script ← takeBackquoted (style == .double) fuel
      let body ← within script 1 list
      return .substitution body quoted :: (← takeParts style closing fuel)
    | some c =>
      if c = '\x7d' ∧ closing = .brace then
        Read.drop
        return []
      else match style with
      | .bare =>
        if c = '\'' then
          Read.drop
          let s ← takeSingle fuel
          return .text s true :: (← takeParts style closing fuel)
        else if c = '"' then
          Read.drop
          let inside ← takeParts .double .quote fuel
          let rest ← takeParts style closing fuel
          match inside with
          | [.parameter ['@'] .value _ _ _] => return inside ++ rest
          | _ => return .text [] true :: inside ++ rest
        else if isMeta c ∧ closing = .word then return []
        else
          Read.drop
          return consText c false (← takeParts style closing fuel)
      | .double =>
        Read.drop
        if c = '"' then
          if closing = .quote then return [] else takeParts style closing fuel
        else return consText c true (← takeParts style closing fuel)
      | .document =>
        Read.drop
        return consText c true (← takeParts style closing fuel)
      | .expression =>
        Read.drop
        if c = '(' then
          let inside ← takeParts style .parenthesis fuel
          return consText c true inside ++ .text [')'] true :: (← takeParts style closing fuel)
        else if c = ')' then
          if closing = .parenthesis then return []
          else if closing = .parentheses ∧ (← Read.peek) = some ')' then
            Read.drop
            return []
          else return consText c true (← takeParts style closing fuel)
        else return consText c true (← takeParts style closing fuel)

/-- Reads a parameter or substitution after a dollar; a dollar before anything else is text. -/
def takeDollar (style : Style) : Nat → Read Part
  | 0 => return .text ['$'] true
  | fuel + 1 => do
    let quoted := style != .bare
    match ← Read.peekShown with
    | some '(' =>
      Read.drop
      if (← Read.peekShown) = some '(' then
        Read.drop
        return .arithmetic (← takeParts .expression .parentheses fuel) quoted
      else
        let outer ← get
        set { outer with pending := [] }
        let body ← list
        close
        modify fun r => { r with pending := outer.pending }
        return .substitution body quoted
    | some '\x7b' =>
      Read.drop
      takeBraced style fuel
    | some c =>
      if isNameStart c then
        return .parameter (← Read.takeWhile isNameRest fuel) .value false [] quoted
      else if c.isDigit || isSpecialName c then
        Read.drop
        return .parameter [c] .value false [] quoted
      else return .text ['$'] (style != .bare)
    | none => return .text ['$'] (style != .bare)

def takeBraced (style : Style) : Nat → Read Part
  | 0 => return .text [] true
  | fuel + 1 => do
    let quoted := style != .bare
    let inner := if style = .expression then Style.double else style
    let finish (name : List Char) (operation : Operation) (orEmpty : Bool) (style : Style) :
        Read Part := do
      return .parameter name operation orEmpty (← takeParts style .brace fuel) quoted
    match ← takeName fuel with
    | [] => finish [] .unknown false inner
    | name =>
      match ← if name = ['#'] then takeCounted fuel else pure none with
      | some [] => return .parameter [] .unknown false [] quoted
      | some counted => return .parameter counted .length false [] quoted
      | none =>
        match ← Read.peekShown with
        | none => Read.fail (unclosed .brace)
        | some ':' =>
          Read.drop
          match (← Read.peekShown).bind operationOf? with
          | none => finish [] .unknown false inner
          | some operation =>
            Read.drop
            finish name operation true inner
        | some c =>
          if c = '%' ∨ c = '#' then
            Read.drop
            let longest := (← Read.peekShown) == some c
            if longest then Read.drop
            finish name (if c = '#' then .dropFront longest else .dropBack longest) false .bare
          else
            match operationOf? c with
            | some .value =>
              Read.drop
              return .parameter name .value false [] quoted
            | some operation =>
              Read.drop
              finish name operation false inner
            | none => finish [] .unknown false inner

end

/-- Fuel for reading what is left. -/
def fuelLeft : Read Nat := do
  return 4 * (← get).rest.length + 8

end Words

def takeRedirect (stream : Nat) : Read Token := do
  let first ← Read.peek
  Read.drop
  let taking (token : Token) : Read Token := do
    Read.drop
    return token
  match first, ← Read.peekShown with
  | some '>', some '>' => taking (.redirect stream .append)
  | some '>', some '&' => taking (.redirect stream .duplicate)
  | some '>', some '|' => taking (.redirect stream .replace)
  | some '>', _ => return .redirect stream .write
  | _, some '<' =>
    Read.drop
    if (← Read.peekShown) = some '-' then taking (.document stream true)
    else return .document stream false
  | _, some '&' => taking (.redirect stream .duplicate)
  | _, some '>' => taking (.redirect stream .readWrite)
  | _, _ => return .redirect stream .read

def skipComment : Nat → Read Unit
  | 0 => return ()
  | fuel + 1 => do
    match ← Read.peek with
    | none | some '\n' => return ()
    | some _ =>
      Read.drop
      skipComment fuel

/-- Reads a line with its line feed. -/
def takeLine : Nat → Read (List Char)
  | 0 => return []
  | fuel + 1 => do
    match ← Read.peek with
    | none => return []
    | some c =>
      Read.drop
      if c = '\n' then return ['\n'] else return c :: (← takeLine fuel)

/-- Reads the lines of a here document up to its delimiter, or to the end of the text. -/
def takeDocumentLines (document : PendingDocument) : Nat → Read (List Char)
  | 0 => return []
  | fuel + 1 => do
    match ← Read.peek with
    | none => return []
    | some _ =>
      let line ← takeLine ((← get).rest.length + 1)
      let line := if document.stripped then line.dropWhile (· == '\t') else line
      if line.takeWhile (· != '\n') = document.delimiter then return []
      else return line ++ (← takeDocumentLines document fuel)

section Tokens

/-! Tokens and here documents, with a reader for lists of commands as before. -/

variable (list : Read (List Command)) (close : Read Unit)

/-- Reads an operator, or the longer one that a second character makes of it. -/
def takeOperator (s : String) (longer : List (Char × String)) : Read Token := do
  Read.drop
  match (← Read.peekShown).bind fun c => longer.lookup c with
  | some t =>
    Read.drop
    return .operator t
  | none => return .operator s

def rawToken : Nat → Read Token
  | 0 => return .ending
  | fuel + 1 => do
    match ← Read.peekShown with
    | none => return .ending
    | some ' ' | some '\t' =>
      Read.drop
      rawToken fuel
    | some '#' =>
      skipComment ((← get).rest.length + 1)
      rawToken fuel
    | some '\n' =>
      Read.drop
      return .operator "\n"
    | some '&' => takeOperator "&" [('&', "&&")]
    | some '|' => takeOperator "|" [('|', "||")]
    | some ';' => takeOperator ";" [(';', ";;")]
    | some '(' => takeOperator "(" []
    | some ')' => takeOperator ")" []
    | some '<' => takeRedirect 0
    | some '>' => takeRedirect 1
    | some c =>
      match c.isDigit, (← get).rest with
      | true, _ :: '<' :: _ | true, _ :: '>' :: _ =>
        Read.drop
        takeRedirect (c.toNat - 48)
      | _, _ => return .word (← takeParts list close .bare .word (← fuelLeft))

/-- Puts the text of a name in its place: where a command is named, or after a text in the place of
another name that ends in a blank. Within its own text a name stands for itself. The flag tells
whether there was such a text; `length` is that of the rest before the name. -/
def replaceName (names : Bool) (length : Nat) (name : String) : Read Bool := do
  let r ← get
  let endsBlank (other : String) : Bool :=
    ((r.aliases.lookup other).bind (·.getLast?)).any fun c => c == ' ' || c == '\t'
  let follows := r.replaced.any fun (other, after) =>
    after < length && r.rest.length < after && endsBlank other
  let inside := r.replaced.any fun (other, after) => other == name && after ≤ r.rest.length
  match r.aliases.lookup name with
  | some text =>
    if (names || follows) && !inside then
      let others := r.replaced.filter fun (other, after) => other != name && after ≤ r.rest.length
      set { r with rest := text ++ r.rest, replaced := (name, r.rest.length) :: others }
      return true
    else return false
  | none => return false

/-- The next token that was not read ahead: names of commands are replaced by their texts, and words
may be keywords. -/
def freshToken (names words : Bool) : Nat → Read Token
  | 0 => return .ending
  | fuel + 1 => do
    let r ← get
    let token ← rawToken list close (r.rest.length + 1)
    match token with
    | .word w =>
      match (plainText? w).map String.ofList with
      | some s =>
        if words && keywords.contains s then return .keyword s
        else if r.aliases.isEmpty then return token
        else if ← replaceName names r.rest.length s then freshToken true words fuel
        else return token
      | none => return token
    | token => return token

/-- The next token; words may be keywords, and names of commands may be replaced. -/
def readToken (names words : Bool) : Read Token := do
  let r ← get
  match r.ahead with
  | some token =>
    set { r with ahead := none }
    match token with
    | .word w =>
      match (plainText? w).map String.ofList with
      | some s => return if words && keywords.contains s then .keyword s else token
      | none => return token
    | token => return token
  | none => freshToken list close names words (r.aliases.length + 1)

/-- The next token; a word is a keyword where a command may start. -/
def nextToken (starts : Bool) : Read Token :=
  readToken list close starts starts

def unread (token : Token) : Read Unit :=
  modify fun r => { r with ahead := some token }

def takeDocuments : Nat → Read Unit
  | 0 => return ()
  | fuel + 1 => do
    match (← get).pending with
    | [] => return ()
    | document :: others =>
      modify fun r => { r with pending := others }
      let line := (← get).line
      let text ← takeDocumentLines document ((← get).rest.length + 1)
      let body ← if document.isLiteral then pure [Part.text text true]
        else within text line (do takeParts list close .document .text (← fuelLeft))
      modify fun r => { r with documents := r.documents ++ [(document.number, body)] }
      takeDocuments fuel

def takeAllDocuments : Read Unit := do
  takeDocuments list close ((← get).pending.length + 1)

/-- The next token after line ends, with the here documents that follow them. -/
def nextAfterLines (names : Bool) : Nat → Read Token
  | 0 => return .ending
  | fuel + 1 => do
    match ← readToken list close names true with
    | .operator "\n" =>
      takeAllDocuments list close
      nextAfterLines names fuel
    | token => return token

/-- The next token where a command starts, line ends not counting. -/
def startToken : Read Token := do
  nextAfterLines list close true ((← get).rest.length + 2)

/-- The next token where a pattern starts, line ends not counting. -/
def patternToken : Read Token := do
  nextAfterLines list close false ((← get).rest.length + 2)

def skipBlanks : Nat → Read Unit
  | 0 => return ()
  | fuel + 1 => do
    match ← Read.peekShown with
    | some ' ' | some '\t' =>
      Read.drop
      skipBlanks fuel
    | _ => return ()

/-- Whether a word starts here that is no number in front of a redirection. -/
def startsWord : Read Bool := do
  match ← Read.peekShown with
  | none => return false
  | some c =>
    match c.isDigit, (← get).rest with
    | true, _ :: '<' :: _ | true, _ :: '>' :: _ => return false
    | _, _ => return c != '#' && !isMeta c

/-- Reads what a redirection operator is followed by. -/
def finishRedirection (token : Token) : Read Redirection := do
  skipBlanks ((← get).rest.length + 1)
  match token, ← startsWord with
  | .document stream stripped, true =>
    let (delimiter, isLiteral) ← takeDelimiter false ((← get).rest.length + 1)
    let r ← get
    let document : PendingDocument := { number := r.number, delimiter, isLiteral, stripped }
    set { r with number := r.number + 1, pending := r.pending ++ [document] }
    return .mk stream (.document r.number) []
  | token, _ =>
    match token, ← nextToken list close false with
    | .redirect stream kind, .word w => return .mk stream kind w
    | _, .word w => return .mk 0 .read w
    | _, found => Read.fail (found.shown ++ " unexpected")

def Token.isRedirection : Token → Bool
  | .redirect .. | .document .. => true
  | _ => false

def takeRedirections : Nat → Read (List Redirection)
  | 0 => return []
  | fuel + 1 => do
    let token ← nextToken list close true
    if token.isRedirection then
      let r ← finishRedirection list close token
      return r :: (← takeRedirections fuel)
    else
      unread token
      return []

/-- Adds the redirections after a compound command. -/
def redirecting (line : Nat) (command : Command) : Read Command := do
  match ← takeRedirections list close ((← get).rest.length + 1) with
  | [] => return command
  | redirections => return .redirected line command redirections

/-- Reads a token that has to follow, by its word. -/
def expect (wanted : String) : Read Unit := do
  let token ← nextToken list close true
  let found := match token with
    | .keyword s | .operator s => s == wanted
    | _ => false
  if found then return ()
  else Read.fail (token.shown ++ " unexpected (expecting \"" ++ wanted ++ "\")")

/-- Reads words as long as there are any, and the token after them. -/
def takeWords : Nat → Read (List Word × Token)
  | 0 => return ([], .ending)
  | fuel + 1 => do
    match ← nextToken list close false with
    | .word w =>
      let (words, token) ← takeWords fuel
      return (w :: words, token)
    | token => return ([], token)

/-- Reads the patterns of a clause from the first on, through the parenthesis that closes them. -/
def takePatterns (first : Token) : Nat → Read (List Word)
  | 0 => return []
  | fuel + 1 => do
    let pattern : Word := match first with
      | .word w => w
      | .keyword s => [.text s.toList false]
      | _ => []
    match ← nextToken list close false with
    | .operator "|" =>
      let next ← nextToken list close false
      return pattern :: (← takePatterns next fuel)
    | .operator ")" => return [pattern]
    | token => Read.fail (token.shown ++ " unexpected (expecting \")\")")

/-- Reads the variable of a loop over words. -/
def takeVariable : Read (List Char) := do
  match ← nextToken list close false with
  | .word w =>
    match plainText? w with
    | some name => if isName name then return name else Read.fail "Bad for loop variable"
    | none => Read.fail "Bad for loop variable"
  | _ => Read.fail "Bad for loop variable"

/-- Reads the words of a loop over words; without a list of them they are the arguments. -/
def takeListed : Read (List Word) := do
  let arguments : List Word := [[Part.parameter ['@'] .value false [] true]]
  match ← startToken list close with
  | .keyword "in" =>
    let (words, token) ← takeWords list close ((← get).rest.length + 1)
    match token with
    | .operator "\n" =>
      takeAllDocuments list close
      return words
    | .operator ";" => return words
    | token => Read.fail (token.shown ++ " unexpected")
  | .operator ";" => return arguments
  | token =>
    unread token
    return arguments

structure Simple where
  line : Nat
  bindings : List (List Char × Word) := []
  words : List Word := []
  redirections : List Redirection := []

/-- Adds a word: a binding, if there are only bindings so far. -/
def Simple.addWord (simple : Simple) (w : Word) : Simple :=
  match simple.words, binding? w with
  | [], some b => { simple with bindings := simple.bindings ++ [b] }
  | words, _ => { simple with words := words ++ [w] }

def Simple.command (simple : Simple) : Command :=
  .simple simple.line simple.bindings simple.words simple.redirections

/-- The name of the function that a parenthesis after a simple command defines, if it can stand
there. -/
def Simple.functionName? (simple : Simple) : Option Word :=
  match simple.bindings, simple.words, simple.redirections with
  | [], [w], [] => some w
  | _, _, _ => none

/-- The commands that no function can have the name of. -/
def specialBuiltins : List String :=
  [".", ":", "break", "continue", "eval", "exec", "exit", "export", "readonly", "return", "set",
    "shift", "times", "trap", "unset"]

def functionName (w : Word) : Read (List Char) := do
  match plainText? w with
  | some name =>
    if isName name && !specialBuiltins.contains (String.ofList name) then return name
    else Read.fail "Bad function name"
  | none => Read.fail "Bad function name"

/-- Reads the words and redirections of a simple command, and the token after them. -/
def takeSimple (simple : Simple) : Nat → Read (Simple × Token)
  | 0 => return (simple, .ending)
  | fuel + 1 => do
    match ← readToken list close simple.words.isEmpty false with
    | .word w => takeSimple (simple.addWord w) fuel
    | token =>
      if token.isRedirection then
        let r ← finishRedirection list close token
        takeSimple { simple with redirections := simple.redirections ++ [r] } fuel
      else return (simple, token)

end Tokens

/-- What ends a list of commands: the end of its line, or a token that ends lists, which may or
may not come before any command. -/
inductive ListEnd
  | line
  | token
  | tokenAtOnce
deriving DecidableEq

mutual

def takeList : Nat → ListEnd → Read (List Command)
  | 0, _ => return []
  | fuel + 1, ending => do
    let inner := takeList fuel .tokenAtOnce
    let close := closeSubstitution fuel
    let token ← if ending = .line then nextToken inner close true else startToken inner close
    match token with
    | .operator "\n" =>
      takeAllDocuments inner close
      return []
    | .ending =>
      takeAllDocuments inner close
      unread .ending
      return []
    | token =>
      unread token
      if ending = .tokenAtOnce && token.endsList then return [] else takeListRest fuel ending

/-- Reads the parenthesis that closes a substitution. -/
def closeSubstitution : Nat → Read Unit
  | 0 => return ()
  | fuel + 1 => do
    let inner := takeList fuel .tokenAtOnce
    let close := closeSubstitution fuel
    expect inner close ")"
    takeAllDocuments inner close

/-- Reads a list of commands from its first command on. -/
def takeListRest : Nat → ListEnd → Read (List Command)
  | 0, _ => return []
  | fuel + 1, ending => do
    let inner := takeList fuel .tokenAtOnce
    let close := closeSubstitution fuel
    let first ← takeAndOr fuel
    let token ← nextToken inner close false
    let first := match token with
      | .operator "&" => Command.background first
      | _ => first
    let stop : Read (List Command) := do
      takeAllDocuments inner close
      unread .ending
      return [first]
    let goOn : Read (List Command) := do
      match ← if ending = .line then nextToken inner close true else startToken inner close with
      | .operator "\n" =>
        takeAllDocuments inner close
        return [first]
      | .ending => stop
      | next =>
        unread next
        if ending != .line && next.endsList then return [first]
        else return first :: (← takeListRest fuel ending)
    match token with
    | .ending => stop
    | .operator "\n" =>
      unread token
      goOn
    | .operator "&" | .operator ";" => goOn
    | token =>
      if ending = .line then Read.fail (token.shown ++ " unexpected")
      else
        unread token
        return [first]

def takeAndOr : Nat → Read Command
  | 0 => return default
  | fuel + 1 => do
    let first ← takePipeline fuel
    takeAndOrRest fuel first

/-- Reads on after the first of some joined commands; they are grouped from the left. -/
def takeAndOrRest : Nat → Command → Read Command
  | 0, first => return first
  | fuel + 1, first => do
    let inner := takeList fuel .tokenAtOnce
    let close := closeSubstitution fuel
    match ← nextToken inner close false with
    | .operator "&&" =>
      unread (← startToken inner close)
      takeAndOrRest fuel (.both first (← takePipeline fuel))
    | .operator "||" =>
      unread (← startToken inner close)
      takeAndOrRest fuel (.either first (← takePipeline fuel))
    | token =>
      unread token
      return first

def takePipeline : Nat → Read Command
  | 0 => return default
  | fuel + 1 => do
    let joined : List Command → Command
      | [command] => command
      | stages => .pipe stages
    match ← nextToken (takeList fuel .tokenAtOnce) (closeSubstitution fuel) true with
    | .keyword "!" => return .inverted (joined (← takeStages fuel))
    | token =>
      unread token
      return joined (← takeStages fuel)

/-- Reads the commands of a pipeline. -/
def takeStages : Nat → Read (List Command)
  | 0 => return []
  | fuel + 1 => do
    let inner := takeList fuel .tokenAtOnce
    let close := closeSubstitution fuel
    let first ← takeCommand fuel
    match ← nextToken inner close false with
    | .operator "|" =>
      unread (← startToken inner close)
      return first :: (← takeStages fuel)
    | token =>
      unread token
      return [first]

def takeCommand : Nat → Read Command
  | 0 => return default
  | fuel + 1 => do
    let inner := takeList fuel .tokenAtOnce
    let close := closeSubstitution fuel
    let line := (← get).line
    match ← nextToken inner close true with
    | .keyword "if" => redirecting inner close line (← takeBranch fuel)
    | .keyword "while" => redirecting inner close line (← takeLoop fuel false)
    | .keyword "until" => redirecting inner close line (← takeLoop fuel true)
    | .keyword "for" =>
      let name ← takeVariable inner close
      let line := (← get).line
      let words ← takeListed inner close
      unread (← startToken inner close)
      expect inner close "do"
      let body ← takeList fuel .token
      expect inner close "done"
      redirecting inner close line (.each line name words body)
    | .keyword "case" =>
      match ← nextToken inner close false with
      | .word subject =>
        match ← startToken inner close with
        | .keyword "in" => redirecting inner close line (.choose line subject (← takeClauses fuel))
        | token => Read.fail (token.shown ++ " unexpected (expecting \"in\")")
      | token => Read.fail (token.shown ++ " unexpected (expecting word)")
    | .keyword "\x7b" =>
      let body ← takeList fuel .token
      expect inner close "\x7d"
      redirecting inner close line (.group body)
    | .operator "(" =>
      let body ← takeList fuel .token
      expect inner close ")"
      redirecting inner close line (.subshell line body)
    | .keyword s => Read.fail ((Token.keyword s).shown ++ " unexpected")
    | .operator s => Read.fail ((Token.operator s).shown ++ " unexpected")
    | .ending => Read.fail (Token.ending.shown ++ " unexpected")
    | token =>
      unread token
      let (simple, token) ← takeSimple inner close { line := (← get).line } (← get).reach
      match token, simple.functionName? with
      | .operator "(", some w =>
        expect inner close ")"
        let name ← functionName w
        unread (← startToken inner close)
        return .definition name (← takeCommand fuel)
      | token, _ =>
        unread token
        return simple.command

def takeBranch : Nat → Read Command
  | 0 => return default
  | fuel + 1 => do
    let inner := takeList fuel .tokenAtOnce
    let close := closeSubstitution fuel
    let condition ← takeList fuel .token
    expect inner close "then"
    let yes ← takeList fuel .token
    match ← nextToken inner close true with
    | .keyword "elif" => return .branch condition yes [← takeBranch fuel]
    | .keyword "else" =>
      let no ← takeList fuel .token
      expect inner close "fi"
      return .branch condition yes no
    | token =>
      unread token
      expect inner close "fi"
      return .branch condition yes []

/-- Reads a loop with a condition. -/
def takeLoop : Nat → (negated : Bool) → Read Command
  | 0, _ => return default
  | fuel + 1, negated => do
    let inner := takeList fuel .tokenAtOnce
    let close := closeSubstitution fuel
    let condition ← takeList fuel .token
    expect inner close "do"
    let body ← takeList fuel .token
    expect inner close "done"
    return .loop negated condition body

def takeClauses : Nat → Read (List (List Word × List Command))
  | 0 => return []
  | fuel + 1 => do
    let inner := takeList fuel .tokenAtOnce
    let close := closeSubstitution fuel
    match ← patternToken inner close with
    | .keyword "esac" => return []
    | token =>
      let first ← match token with
        | .operator "(" => nextToken inner close false
        | token => pure token
      let patterns ← takePatterns inner close first ((← get).rest.length + 1)
      let body ← takeList fuel .tokenAtOnce
      match ← startToken inner close with
      | .keyword "esac" => return [(patterns, body)]
      | .operator ";;" => return (patterns, body) :: (← takeClauses fuel)
      | token => Read.fail (token.shown ++ " unexpected (expecting \";;\")")

end

/-- Reads the next command line: its commands, or nothing at the end of the text. -/
def readCommands (reader : Reader) : Except ReadStop (Option (List Command) × Reader) := do
  let fuel := 8 * reader.reach + 16
  let (commands, after) ← (takeList fuel .line).run { reader with replaced := [] }
  match after.ahead with
  | some .ending =>
    let after := { after with ahead := none }
    return (if commands.isEmpty && after.rest.isEmpty then none else some commands, after)
  | _ => return (some commands, after)

end JuliaBlocks.Shell
