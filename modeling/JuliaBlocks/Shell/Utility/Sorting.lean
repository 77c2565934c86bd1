import JuliaBlocks.Shell.Utility.Basic

/-!
Utilities on lines as items: sorting them, telling apart those that repeat, and cutting them by
fields.
-/

namespace JuliaBlocks.Shell.Utility

/-! ## Order -/

/-- How texts are compared. -/
structure Collation where
  numeric : Bool := false
  folded : Bool := false
  reversed : Bool := false
  blanksSkipped : Bool := false
  versions : Bool := false
  dictionary : Bool := false

/-- A key of a line: from a character of a field up to another, compared in its own way if it has
one. -/
structure SortKey where
  firstField : Nat
  firstPlace : Nat
  lastField : Option Nat
  lastPlace : Nat
  collation : Collation

def isBlank (c : Char) : Bool := c == ' ' || c == '\t'

/-- The number at the front of a text, as an integer and the power of ten it is divided by. -/
def leadingNumber (s : List Char) : Int × Nat :=
  let s := s.dropWhile isBlank
  let (negative, s) := match s with
    | '-' :: rest => (true, rest)
    | s => (false, s)
  let whole := s.takeWhile Char.isDigit
  let places := match s.drop whole.length with
    | '.' :: rest => rest.takeWhile Char.isDigit
    | _ => []
  let n : Int := Numeral.ofDigits ((whole ++ places).filterMap Numeral.asciiDigit?)
  (if negative then -n else n, places.length)

/-- Compares two numbers in such form. -/
def compareNumbers (a b : Int × Nat) : Ordering :=
  compare (a.1 * (Nat.pow 10 b.2 : Nat)) (b.1 * (Nat.pow 10 a.2 : Nat))

/-- Compares two texts octet by octet. -/
def compareTexts (a b : List Char) : Ordering :=
  if a < b then .lt else if b < a then .gt else .eq

/-- Compares texts with runs of digits as numbers. -/
def compareVersions : Nat → List Char → List Char → Ordering
  | 0, _, _ => .eq
  | _, [], [] => .eq
  | _, [], _ => .lt
  | _, _, [] => .gt
  | fuel + 1, a :: as, b :: bs =>
    if a.isDigit ∧ b.isDigit then
      let m := (a :: as).takeWhile Char.isDigit
      let n := (b :: bs).takeWhile Char.isDigit
      match compareNumbers (leadingNumber m) (leadingNumber n) with
      | .eq => compareVersions fuel ((a :: as).drop m.length) ((b :: bs).drop n.length)
      | o => o
    else if a = b then compareVersions fuel as bs
    else compareTexts [a] [b]

def Collation.compare (c : Collation) (a b : List Char) : Ordering :=
  if c.numeric then compareNumbers (leadingNumber a) (leadingNumber b)
  else
    let shape (s : List Char) : List Char :=
      let s := if c.blanksSkipped then s.dropWhile isBlank else s
      let s := if c.dictionary then s.filter fun d => d.isAlphanum || isBlank d else s
      if c.folded then s.map Char.toUpper else s
    if c.versions then compareVersions (a.length + b.length + 2) (shape a) (shape b)
    else compareTexts (shape a) (shape b)

/-- An ordering the other way round if so asked. -/
def directed (reversed : Bool) (o : Ordering) : Ordering :=
  if reversed then o.swap else o

/-- The rest of a line from a field on: fields are what a separator parts, or blanks with what
follows them. -/
def fromField (separator : Option Char) : Nat → List Char → List Char
  | 0, s => s
  | n + 1, s =>
    match separator with
    | some c =>
      match s.dropWhile (· != c) with
      | _ :: rest => fromField separator n rest
      | [] => []
    | none => fromField separator n ((s.dropWhile isBlank).dropWhile fun c => !isBlank c)

def SortKey.of (key : SortKey) (separator : Option Char) (line : List Char) : List Char :=
  let skip (s : List Char) : List Char :=
    if key.collation.blanksSkipped then s.dropWhile isBlank else s
  let start := (skip (fromField separator (key.firstField - 1) line)).drop (key.firstPlace - 1)
  match key.lastField with
  | none => start
  | some field =>
    let beyond :=
      if key.lastPlace = 0 then
        let rest := fromField separator field line
        let closed := match separator with
          | some c =>
            let left := fromField separator (field - 1) line
            if left.contains c then rest.length + 1 else 0
          | none => rest.length
        closed
      else
        ((skip (fromField separator (field - 1) line)).drop key.lastPlace).length
    start.take (start.length - beyond)

structure LineOrder where
  keys : List SortKey := []
  collation : Collation := {}
  separator : Option Char := none
  stable : Bool := false

def LineOrder.compareKeys (order : LineOrder) (a b : List Char) : Ordering :=
  if order.keys.isEmpty then
    directed order.collation.reversed (order.collation.compare a b)
  else order.keys.foldl (fun o key =>
    if o = .eq then
      directed key.collation.reversed
        (key.collation.compare (key.of order.separator a) (key.of order.separator b))
    else o) .eq

def LineOrder.compare (order : LineOrder) (a b : List Char) : Ordering :=
  match order.compareKeys a b with
  | .eq => if order.stable then .eq else directed order.collation.reversed (compareTexts a b)
  | o => o

def Collation.with (c : Collation) (letters : List Char) : Collation :=
  letters.foldl (fun c letter =>
    match letter with
    | 'n' | 'g' | 'h' => { c with numeric := true }
    | 'f' => { c with folded := true }
    | 'r' => { c with reversed := true }
    | 'b' => { c with blanksSkipped := true }
    | 'V' => { c with versions := true }
    | 'd' => { c with dictionary := true }
    | _ => c) c

/-- Reads a key, such as `2,3n`. -/
def takeKey? (usual : Collation) (s : List Char) : Option SortKey := do
  let place (s : List Char) : Option (Nat × Nat × List Char) :=
    let digits := s.takeWhile Char.isDigit
    (natural? digits).map fun field =>
      match s.drop digits.length with
      | '.' :: rest =>
        let digits := rest.takeWhile Char.isDigit
        (field, (natural? digits).getD 0, rest.drop digits.length)
      | rest => (field, 0, rest)
  let (firstField, firstPlace, rest) ← place s
  let letters := rest.takeWhile Char.isAlpha
  let (last, letters) ← match rest.drop letters.length with
    | ',' :: rest => do
      let (field, offset, rest) ← place rest
      pure (some (field, offset), letters ++ rest)
    | _ => pure (none, letters)
  return {
    firstField, firstPlace := max firstPlace 1
    lastField := last.map (·.1), lastPlace := (last.map (·.2)).getD 0
    collation := if letters.isEmpty then usual else ({} : Collation).with letters }

/-- Lines without those that are equal to the one before by an order. -/
def dropEqual (same : List Char → List Char → Bool) : List (List Char) → List (List Char)
  | a :: b :: rest =>
    if same a b then
      match dropEqual same (b :: rest) with
      | _ :: others => a :: others
      | [] => [a]
    else a :: dropEqual same (b :: rest)
  | lines => lines

def sort : Utility := fun arguments =>
  withOptions { letters := "bcCdfghik:mno:rst:uVz", long := [("reverse", 'r'), ("unique", 'u'),
    ("numeric-sort", 'n'), ("key", 'k'), ("field-separator", 't'), ("ignore-case", 'f'),
    ("stable", 's'), ("output", 'o'), ("check", 'c')] } 2 arguments fun g => do
    let usual := ({} : Collation).with (g.options.map (·.1))
    let order : LineOrder := {
      keys := (g.options.filter (·.1 == 'k')).filterMap fun o => takeKey? usual o.2
      collation := usual
      separator := (g.argument? 't').bind (·.head?)
      stable := g.has 's' || g.has 'u' }
    let explain (name why : List Char) : List Char :=
      if name = ['-'] ∧ why = ReadFault.closed.message.toList then "stat failed: -: ".toList ++ why
      else if why = "Is a directory".toList then "read failed: ".toList ++ name ++ ": ".toList ++ why
      else "cannot read: ".toList ++ name ++ ": ".toList ++ why
    let (text, status) ← joinedContents g.operands explain
    if status != 0 then return 2
    let lines := linesOf text
    if g.has 'c' || g.has 'C' then
      let bad := (lines.zip (lines.drop 1)).zipIdx.find? fun ((a, b), _) =>
        order.compare a b == .gt || (g.has 'u' && order.compareKeys a b == .eq)
      match bad with
      | some ((_, b), i) =>
        if g.has 'c' then
          report ((g.operands.headD ['-']) ++ ":".toList ++ numeral (i + 2 : Nat) ++
            ": disorder: ".toList ++ b)
        return 1
      | none => return 0
    let sorted := lines.mergeSort fun a b => order.compare a b != .gt
    let sorted := if g.has 'u' then dropEqual (fun a b => order.compareKeys a b == .eq) sorted
      else sorted
    match g.argument? 'o' with
    | some name =>
      let _ ← store name (unlines sorted)
    | none =>
      let _ ← say (unlines sorted)
    return 0

/-! ## Repetition -/

/-- Groups equal neighbours: each with how often it stands there. -/
def runs (same : List Char → List Char → Bool) : List (List Char) → List (List Char × Nat)
  | [] => []
  | line :: rest =>
    match runs same rest with
    | (next, n) :: others =>
      if same line next then (line, n + 1) :: others else (line, 1) :: (next, n) :: others
    | [] => [(line, 1)]

/-- Copies lines that differ from the one before. -/
def unique : Utility := fun arguments =>
  withOptions { letters := "cdDuif:s:w:", long := [("count", 'c'), ("repeated", 'd'),
    ("unique", 'u'), ("ignore-case", 'i'), ("skip-fields", 'f'), ("skip-chars", 's')] } 1 arguments
    fun g => do
      match ← contentOf (g.operands.headD ['-']) with
      | .error why =>
        report (plainlyOr "error reading '-'" (g.operands.headD ['-']) why)
        return 1
      | .ok text =>
        let number (letter : Char) : Option Nat := (g.argument? letter).bind natural?
        let shape (line : List Char) : List Char :=
          let line := fromField none ((number 'f').getD 0) line
          let line := line.drop ((number 's').getD 0)
          let line := match number 'w' with
            | some n => line.take n
            | none => line
          if g.has 'i' then line.map Char.toLower else line
        let groups := runs (fun a b => shape a == shape b) (linesOf text)
        let groups := groups.filter fun (_, n) =>
          (!(g.has 'd' || g.has 'D') || 1 < n) && (!g.has 'u' || n = 1)
        let lines := groups.map fun (line, n) =>
          if g.has 'c' then padded 7 n ++ ' ' :: line else line
        let _ ← match g.operands with
          | _ :: output :: _ => do
            let _ ← store output (unlines lines)
            pure true
          | _ => say (unlines lines)
        return 0

/-- Merges two sorted lists of lines into columns: those of the first alone, of the second alone, and
of both. -/
def columns : Nat → List (List Char) → List (List Char) → List (Nat × List Char)
  | 0, _, _ => []
  | _, [], b => b.map fun line => (2, line)
  | _, a, [] => a.map fun line => (1, line)
  | fuel + 1, x :: a, y :: b =>
    match compareTexts x y with
    | .lt => (1, x) :: columns fuel a (y :: b)
    | .gt => (2, y) :: columns fuel (x :: a) b
    | .eq => (3, x) :: columns fuel a b

/-! ## Fields -/

/-- The ranges of a list such as `1,3-5,7-`. -/
def ranges? (s : List Char) : Option (List (Nat × Option Nat)) :=
  (Text.pieces (fun c => c == ',' || c == ' ') s).mapM fun part =>
    match Text.pieces (· == '-') part with
    | [n] => (natural? n).map fun n => (n, some n)
    | [first, last] =>
      if first.isEmpty && last.isEmpty then none
      else
        let low := if first.isEmpty then some 1 else natural? first
        let high := if last.isEmpty then some none else (natural? last).map some
        low.bind fun low => high.map fun high => (low, high)
    | _ => none

def inRanges (ranges : List (Nat × Option Nat)) (n : Nat) : Bool :=
  ranges.any fun (low, high) => low ≤ n && high.all (n ≤ ·)

/-- Copies fields or octets of lines. -/
def cut : Utility := fun arguments =>
  withOptions { letters := "b:c:d:f:snzO:C", long := [("bytes", 'b'), ("characters", 'c'),
    ("delimiter", 'd'), ("fields", 'f'), ("only-delimited", 's'), ("complement", 'C'),
    ("output-delimiter", 'O')] } 1 arguments fun g => do
    let refuse (message : String) : Exec Nat := do
      report message.toList
      complain ("Try '".toList ++ (← own).name ++ " --help' for more information.\n".toList)
      return 1
    let list := (g.argument? 'b').or ((g.argument? 'c').or (g.argument? 'f'))
    match list with
    | none => refuse "you must specify a list of bytes, characters, or fields"
    | some list =>
      match ranges? list with
      | none => refuse (if g.has 'f' then "invalid field range" else "invalid byte or character range")
      | some ranges =>
        if ranges.any fun r => r.1 = 0 then
          return ← refuse (if g.has 'f' then "fields are numbered from 1"
            else "byte/character positions are numbered from 1")
        let wanted (n : Nat) : Bool := inRanges ranges n != g.has 'C'
        let chosen {α : Type} (items : List α) : List α :=
          items.zipIdx.filterMap fun (item, i) => if wanted (i + 1) then some item else none
        let delimiter := ((g.argument? 'd').bind (·.head?)).getD '\t'
        let line (s : List Char) : Option (List Char) :=
          if g.has 'f' then
            if s.contains delimiter then
              some (List.intercalate ((g.argument? 'O').getD [delimiter])
                (chosen (Text.pieces (· == delimiter) s)))
            else if g.has 's' then none
            else some s
          else some (chosen s)
        withContents g.operands plainly fun _ text => do
          let _ ← say (unlines ((linesOf text).filterMap line))

end JuliaBlocks.Shell.Utility
