import JuliaBlocks.Shell.Arithmetic
import JuliaBlocks.Shell.Field
import JuliaBlocks.Shell.Machine
import JuliaBlocks.Text.Order

/-!
What words expand to: the values of parameters, what commands print, the values of expressions, and
the names of files that match patterns.
-/

namespace JuliaBlocks.Shell

/-! ## Parameters -/

/-- The value of a parameter, if it has one; the arguments as a whole are not among them. -/
def Own.parameter? (o : Own) (name : List Char) : Option (List Char) :=
  match name with
  | ['?'] => some (Numeral.render o.status).toList
  | ['#'] => some (Numeral.render o.parameters.length).toList
  | ['$'] => some (Numeral.render o.shell).toList
  | ['-'] => some o.options
  | ['!'] => o.latest.map fun n => (Numeral.render n).toList
  | ['0'] => some o.name
  | name =>
    if name.all Char.isDigit then
      match Numeral.ofDigits (name.filterMap Numeral.asciiDigit?) with
      | 0 => some o.name
      | n + 1 => o.parameters[n]?
    else o.value? (String.ofList name)

def Own.joinedParameters (o : Own) : List Char :=
  List.intercalate (o.separators.take 1) o.parameters

/-- Sets a variable, which must not be fixed. -/
def setVariable (name : List Char) (value : List Char) : Exec Unit := do
  let key := String.ofList name
  if ((← own).scope.lookup key).any (·.fixed) then fail (name ++ ": is read only".toList)
  if key = "OPTIND" && (value.isEmpty || !value.all Char.isDigit) then
    fail ("Illegal number: ".toList ++ value)
  modifyOwn fun o => o.set key value

/-! ## Names of files -/

/-- Letters cut at slashes. -/
def cutLetters : List Glob.Letter → List (List Glob.Letter)
  | [] => [[]]
  | (c, quoted) :: rest =>
    if c = '/' then [] :: cutLetters rest
    else match cutLetters rest with
      | first :: others => ((c, quoted) :: first) :: others
      | [] => [[(c, quoted)]]

/-- The names of files that a row of parts matches: what was matched so far, and the directory it
leads to. -/
def matchParts (s : Shared) : (shown : List Char) → (directory : String) →
    List (List Glob.Letter) → List (List Char)
  | shown, _, [] => [shown]
  | shown, directory, part :: rest =>
    let under (name : List Char) : List Char :=
      if rest.isEmpty then shown ++ name else shown ++ name ++ ['/']
    if Glob.isPattern part then
      let steps := Glob.ofLetters part
      let hidden := (part.head?.map (·.1)) == some '.'
      let names := (if hidden then [".", ".."] else []) ++ entries s.files directory
      names.flatMap fun name =>
        let text := Octets.ofText name
        let path := Path.place directory name
        let visible := text.head? != some '.' || hidden
        if visible && Glob.fits steps text && (rest.isEmpty || s.files.hasDirectory path) then
          matchParts s (under text) path rest
        else []
    else
      let name := Glob.textOf part
      let path := Path.place directory (Octets.toText name)
      if rest.isEmpty then
        if name.isEmpty then [shown]
        else match placeOf s path with
          | .vacant | .fault _ => []
          | _ => [under name]
      else if name.isEmpty || s.files.hasDirectory path then
        matchParts s (under name) (if shown.isEmpty && name.isEmpty then "/" else path) rest
      else []

/-- Puts texts in increasing order, octet by octet. -/
def sortTexts (texts : List (List Char)) : List (List Char) :=
  texts.mergeSort Text.inOrder

/-- The names of files that a field matches; one that matches none is itself. -/
def matchNames (letters : List Glob.Letter) : Exec (List (List Char)) := do
  let o ← own
  let plain := Glob.unescape letters
  if o.hasOption 'f' || !Glob.isPattern plain then return [Glob.textOf letters]
  match sortTexts (matchParts (← shared) [] o.directory (cutLetters plain)) with
  | [] => return [Glob.textOf letters]
  | names => return names

/-! ## Words -/

def marked (mark : Mark) (s : List Char) : List Piece :=
  s.map fun c => .char c mark

/-- A value as pieces: quoted text, or an expansion that is split. -/
def valuePieces (quoted : Bool) (s : List Char) : List Piece :=
  if quoted then marked .quoted s else .opening false :: marked .expanded s

/-- The arguments as pieces: each by itself between quotes for `$@`, joined for `$*`, and split
without quotes. -/
def argumentPieces (o : Own) (each quoted : Bool) : List Piece :=
  let rows := List.intersperse [Piece.separator] (o.parameters.map
    (marked (if quoted then .quoted else .expanded)))
  if quoted && !each then marked .quoted o.joinedParameters
  else if o.parameters.isEmpty then []
  else .opening quoted :: rows.flatten

/-- A row of arguments as pieces, between which NULs stand. -/
def rowPieces (quoted : Bool) (row : List Char) : List Piece :=
  .opening quoted :: row.map fun c =>
    if c = '\x00' then .separator else .char c (if quoted then .quoted else .expanded)

/-- The home directory that a name after a tilde means. -/
def homeOf? (o : Own) (name : List Char) : Option (List Char) :=
  if name.isEmpty then o.value? "HOME"
  else if name = "root".toList then some "/root".toList
  else none

/-- The pieces of a tilde at the front of a text, and the text after them. -/
def takeTilde (o : Own) (closed : Char → Bool) (last : Bool) (s : List Char) :
    List Piece × List Char :=
  match s with
  | '~' :: rest =>
    let name := rest.takeWhile (!closed ·)
    if name.length < rest.length || last then
      match homeOf? o name with
      | some home => (marked .quoted home, rest.drop name.length)
      | none => ([], s)
    else ([], s)
  | s => ([], s)

/-- Text of a value that is assigned, in which a tilde counts after each colon. -/
def assignedText (o : Own) (last : Bool) : Nat → List Char → List Piece
  | 0, s => marked .plain s
  | fuel + 1, s =>
    let (front, s) := takeTilde o (fun c => c == '/' || c == ':') last s
    let plain := s.takeWhile (· != ':')
    match s.drop plain.length with
    | ':' :: rest =>
      front ++ marked .plain plain ++ .char ':' .plain :: assignedText o last fuel rest
    | _ => front ++ marked .plain plain

/-- How a word is used: as fields, as the text of an assignment, or as text. -/
inductive Use
  | fields
  | assignment
  | text
deriving DecidableEq

/-- The text of pieces that are not split. -/
def joinedText (o : Own) (pieces : List Piece) : List Char :=
  Glob.textOf (Field.join o.separators pieces)

/-- Whether a parameter has a value, an empty one not counting if so asked. -/
def hasValue (orEmpty : Bool) (value : Option (List Char)) : Bool :=
  match value with
  | some s => !(orEmpty && s.isEmpty)
  | none => false

section Expansion

/-! Commands in words are run by `capture`, which gives what they print. -/

variable (capture : List Command → Exec (List Char))

mutual

/-- The pieces that parts of a word expand to. -/
def expandParts : Nat → Use → List Part → Exec (List Piece)
  | 0, _, _ => throw .waiting
  | _ + 1, _, [] => return []
  | fuel + 1, use, part :: rest => do
    let first ← match part with
      | .text s false => do
        let o ← own
        if use = .assignment then pure (assignedText o rest.isEmpty (s.length + 1) s)
        else
          let (front, s) := takeTilde o (· == '/') rest.isEmpty s
          pure (front ++ marked .plain s)
      | part => expandPart fuel use part
    let others ← expandRest fuel use rest
    return first ++ others

/-- The pieces of the parts after the first one, in which no tilde counts. -/
def expandRest : Nat → Use → List Part → Exec (List Piece)
  | 0, _, _ => throw .waiting
  | _ + 1, _, [] => return []
  | fuel + 1, use, part :: rest => do
    let first ← expandPart fuel use part
    let others ← expandRest fuel use rest
    return first ++ others

def expandPart : Nat → Use → Part → Exec (List Piece)
  | 0, _, _ => throw .waiting
  | fuel + 1, use, part => do
    match part with
    | .text s quoted =>
      return if quoted then (if s.isEmpty then [.present] else marked .quoted s)
        else marked .plain s
    | .substitution body quoted =>
      let text ← capture body
      let text := (text.filter (· != '\x00')).reverse.dropWhile (· == '\n')
      return valuePieces quoted text.reverse
    | .arithmetic expression quoted =>
      let written := joinedText (← own) (← expandRest fuel .text expression)
      let o ← own
      let textOf (name : List Char) : List Char := (o.parameter? name).getD []
      match Arithmetic.evaluate textOf written with
      | .ok (value, assigned) =>
        for (name, n) in assigned do
          setVariable name (Numeral.render n).toList
        return valuePieces quoted (Numeral.render value).toList
      | .error (.malformed problem) =>
        fail ("arithmetic expression: ".toList ++ problem.toList ++ ": \"".toList ++ written ++ ['"'])
      | .error (.illegalNumber text) => fail ("Illegal number: ".toList ++ text)
    | .parameter name operation orEmpty argument quoted =>
      expandParameter fuel use name operation orEmpty argument quoted

def expandParameter : Nat → Use → List Char → Operation → Bool → List Part → Bool →
    Exec (List Piece)
  | 0, _, _, _, _, _, _ => throw .waiting
  | fuel + 1, use, name, operation, orEmpty, argument, quoted => do
    let o ← own
    let arguments := name = ['@'] ∨ name = ['*']
    let apart := arguments && use == .fields && (name == ['@'] || !quoted)
    let value := if apart then some (List.intercalate ['\x00'] o.parameters)
      else if arguments then some o.joinedParameters
      else o.parameter? name
    let trimmed (s : List Char) : List Piece :=
      if apart && !o.parameters.isEmpty then rowPieces quoted s else valuePieces quoted s
    let plain : List Piece :=
      if arguments then argumentPieces o (name == ['@']) quoted
      else match value with
        | some s => valuePieces quoted s
        | none => []
    let missing {α : Type} (message : List Char) : Exec α := fail (name ++ ": ".toList ++ message)
    let unset : Bool := value.isNone && o.hasOption 'u'
    let word : Exec (List Piece) := do
      let pieces ← expandParts fuel use argument
      if quoted then return pieces
      else return .opening false :: pieces.map fun
        | .char c .plain => .char c .expanded
        | piece => piece
    match operation with
    | .unknown => fail "Bad substitution".toList
    | .value =>
      if unset then missing "parameter not set".toList
      else return plain ++ (← expandRest fuel use argument)
    | .length =>
      if unset then missing "parameter not set".toList
      else
        let size := (value.getD []).length
        return valuePieces quoted (Numeral.render size).toList
    | .otherwise => if hasValue orEmpty value then return plain else word
    | .instead => if hasValue orEmpty value then word else return []
    | .assign =>
      if hasValue orEmpty value then return plain
      else
        if !isName name then missing "bad variable name".toList
        let text := joinedText o (← expandParts fuel .text argument)
        setVariable name text
        return valuePieces quoted text
    | .require =>
      if hasValue orEmpty value then return plain
      else
        let text := joinedText o (← expandParts fuel .text argument)
        missing (if argument.isEmpty then
          (if orEmpty then "parameter not set or null" else "parameter not set").toList else text)
    | .dropFront longest =>
      if unset then missing "parameter not set".toList
      else
        let pieces ← expandParts fuel .text argument
        let pattern := Glob.ofLetters (Field.join o.separators pieces)
        return trimmed (Glob.dropFront longest pattern (value.getD []))
    | .dropBack longest =>
      if unset then missing "parameter not set".toList
      else
        let pieces ← expandParts fuel .text argument
        let pattern := Glob.ofLetters (Field.join o.separators pieces)
        return trimmed (Glob.dropBack longest pattern (value.getD []))

end

/-- The fields that a word expands to, names of files put in for patterns. -/
def expandFields (fuel : Nat) (w : Word) : Exec (List (List Char)) := do
  let pieces ← expandParts capture fuel .fields w
  let fields := Field.split (← own).separators none pieces
  return (← fields.mapM matchNames).flatten

/-- The text that a word expands to, without splitting. -/
def expandText (fuel : Nat) (use : Use) (w : Word) : Exec (List Char) := do
  let pieces ← expandParts capture fuel use w
  return joinedText (← own) pieces

def expandPattern (fuel : Nat) (w : Word) : Exec (List Glob.Step) := do
  let pieces ← expandParts capture fuel .text w
  return Glob.ofLetters (Field.join (← own).separators pieces)

end Expansion

end JuliaBlocks.Shell
