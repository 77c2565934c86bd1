import JuliaBlocks.Shell.Format
import JuliaBlocks.Shell.Regex
import JuliaBlocks.Shell.Utility.Basic

/-!
Utilities that calculate: expressions, sequences of numbers and spans of time.
-/

namespace JuliaBlocks.Shell.Utility

/-! ## Expressions -/

namespace Expression

/-- Why an expression has no value. -/
inductive Fault
  | missing (after : List Char)
  | unexpected (word : List Char)
  | unclosed (after : List Char)
  | notInteger
  | division
  | pattern (message : String)

def Fault.message : Fault → List Char
  | missing after => "syntax error: missing argument after ".toList ++ curled after
  | unexpected word => "syntax error: unexpected argument ".toList ++ curled word
  | unclosed after => "syntax error: expecting ')' after ".toList ++ curled after
  | notInteger => "non-integer argument".toList
  | division => "division by zero".toList
  | pattern message => message.toList

/-- The words left, and the one before them. -/
structure State where
  words : List (List Char)
  before : List Char := []

abbrev Evaluate := StateT State (Except Fault)

def integer? (s : List Char) : Option Int :=
  match s with
  | '-' :: digits => (natural? digits).map fun n => -(n : Int)
  | digits => (natural? digits).map fun n => (n : Int)

def isNull (s : List Char) : Bool :=
  s.isEmpty || integer? s == some 0

/-- Takes a word if it is one of some operators. -/
def operator? (operators : List String) : Evaluate (Option String) := do
  match (← get).words with
  | w :: rest =>
    let s := String.ofList w
    if operators.contains s then
      set { words := rest, before := w : State }
      return some s
    else return none
  | [] => return none

def next : Evaluate (List Char) := do
  let s ← get
  match s.words with
  | w :: rest =>
    set { words := rest, before := w : State }
    return w
  | [] => throw (.missing s.before)

/-- What a pattern matches at the front of a text: what its group holds, or how many characters. -/
def matchFront (s pattern : List Char) : Evaluate (List Char) := do
  match Regex.read {} (Octets.widen pattern) with
  | .error fault => throw (.pattern fault.message)
  | .ok r =>
    let text := (Octets.widen s).toArray
    match r.matchAt? text 0 with
    | some m =>
      if 0 < r.groups then return Octets.narrow (m.held text 1) else return numeral (m.stop : Nat)
    | none => return if 0 < r.groups then [] else ['0']

def calculate (operator : String) (a b : List Char) : Evaluate (List Char) := do
  match integer? a, integer? b with
  | some m, some n =>
    match operator with
    | "+" => return numeral (m + n)
    | "-" => return numeral (m - n)
    | "*" => return numeral (m * n)
    | _ =>
      if n = 0 then throw .division
      return numeral (if operator = "/" then m.tdiv n else m.tmod n)
  | _, _ => throw .notInteger

/-- A comparison, of integers if both are such. -/
def compareValues (operator : String) (a b : List Char) : List Char :=
  let o : Ordering := match integer? a, integer? b with
    | some m, some n => compare m n
    | _, _ => if a < b then .lt else if b < a then .gt else .eq
  let holds : Bool := match operator with
    | "<" => o == .lt
    | "<=" => o != .gt
    | ">" => o == .gt
    | ">=" => o != .lt
    | "!=" => o != .eq
    | _ => o == .eq
  if holds then ['1'] else ['0']

/-- The ranks of binary operators, looser ones first. -/
def ranks : List (List String) :=
  [["|"], ["&"], ["<", "<=", "=", "==", "!=", ">=", ">"], ["+", "-"], ["*", "/", "%"], [":"]]

mutual

/-- Evaluates operands joined by operators of a rank or tighter. -/
def joined : Nat → Nat → Evaluate (List Char)
  | 0, _ => return []
  | fuel + 1, rank => do
    match ranks[rank]? with
    | none => operand fuel
    | some operators =>
      let first ← joined fuel (rank + 1)
      joinedRest fuel rank operators first

/-- Evaluates on after a left operand. -/
def joinedRest : Nat → Nat → List String → List Char → Evaluate (List Char)
  | 0, _, _, left => return left
  | fuel + 1, rank, operators, left => do
    match ← operator? operators with
    | none => return left
    | some o =>
      let right ← joined fuel (rank + 1)
      let value ← match rank with
        | 0 => pure (if !isNull left then left else if isNull right then ['0'] else right)
        | 1 => pure (if isNull left || isNull right then ['0'] else left)
        | 2 => pure (compareValues o left right)
        | 5 => matchFront left right
        | _ => calculate o left right
      joinedRest fuel rank operators value

def operand : Nat → Evaluate (List Char)
  | 0 => return []
  | fuel + 1 => do
    let many := 1 < (← get).words.length
    let word ← next
    match String.ofList word with
    | "(" =>
      let value ← joined fuel 0
      match ← operator? [")"] with
      | some _ => return value
      | none =>
        match (← get).words with
        | w :: _ => throw (.unexpected w)
        | [] => throw (.unclosed (← get).before)
    | ")" => throw (.unexpected word)
    | "+" => if many then next else return word
    | "length" =>
      if !many then return word
      return numeral ((Octets.widen (← operand fuel)).length : Nat)
    | "match" =>
      if !many then return word
      let s ← operand fuel
      matchFront s (← operand fuel)
    | "index" =>
      if !many then return word
      let s := Octets.widen (← operand fuel)
      let set := Octets.widen (← operand fuel)
      return numeral (match s.findIdx? fun c => set.contains c with
        | some i => i + 1
        | none => 0 : Nat)
    | "substr" =>
      if !many then return word
      let s := Octets.widen (← operand fuel)
      let start := integer? (← operand fuel)
      let length := integer? (← operand fuel)
      match start, length with
      | some a, some n =>
        if a < 1 ∨ n < 1 then return []
        return Octets.narrow ((s.drop (a.toNat - 1)).take n.toNat)
      | _, _ => return []
    | _ => return word

end

def evaluate (words : List (List Char)) : Except Fault (List Char) := do
  let (value, s) ← (joined (12 * words.length + 20) 0).run { words }
  match s.words with
  | [] => return value
  | w :: _ => throw (.unexpected w)

end Expression

def express : Utility := fun arguments => do
  let words := match arguments with
    | ['-', '-'] :: rest => rest
    | words => words
  if words.isEmpty then
    report "missing operand".toList
    complain ("Try '".toList ++ (← own).name ++ " --help' for more information.\n".toList)
    return 2
  match Expression.evaluate words with
  | .ok value =>
    let _ ← say (value ++ ['\n'])
    return if Expression.isNull value then 1 else 0
  | .error fault =>
    report fault.message
    return 2

/-! ## Sequences -/

/-- A decimal number as an integer and the number of its places. -/
def decimal? (s : List Char) : Option (Int × Nat) :=
  let (negative, body) := match s with
    | '-' :: rest => (true, rest)
    | '+' :: rest => (false, rest)
    | s => (false, s)
  let whole := body.takeWhile Char.isDigit
  let places := match body.drop whole.length with
    | [] => some []
    | '.' :: rest => if rest.all Char.isDigit then some rest else none
    | _ => none
  places.bind fun places =>
    (natural? (whole ++ places)).map fun n =>
      (if negative then -(n : Int) else n, places.length)

/-- A number of so many places as text. -/
def placesText (places : Nat) (n : Int) : List Char :=
  (if n < 0 then ['-'] else []) ++ Binary64.withPoint places false n.natAbs

/-- The numbers from one to another in steps. -/
def steps (last step : Int) : Nat → Int → List Int
  | 0, _ => []
  | fuel + 1, n =>
    if (0 ≤ step ∧ last < n) ∨ (step < 0 ∧ n < last) then [] else n :: steps last step fuel (n + step)

def numberSequence : Utility := fun arguments => do
  let isNumber (a : List Char) : Bool := (decimal? a).isSome
  let (options, operands) := (arguments.takeWhile fun a => !isNumber a,
    arguments.dropWhile fun a => !isNumber a)
  let (options, operands) :=
    match options.getLast?, operands with
    | some ['-', 's'], a :: rest => (options ++ [a], rest)
    | _, operands => (options, operands)
  withOptions { letters := "f:s:w", long := [("separator", 's'), ("equal-width", 'w'),
    ("format", 'f')], ordered := true } 1 options fun g => do
    let operands := g.operands ++ operands
    let refuse (message : List Char) : Exec Nat := do
      report message
      complain ("Try '".toList ++ (← own).name ++ " --help' for more information.\n".toList)
      return 1
    match operands.find? fun a => !isNumber a with
    | some a => refuse ("invalid floating point argument: ".toList ++ curled a)
    | none =>
      let numbers := operands.filterMap decimal?
      let row ← match numbers with
        | [last] => pure (some ((1, 0), (1, 0), last))
        | [first, last] => pure (some (first, (1, 0), last))
        | [first, step, last] => pure (some (first, step, last))
        | _ => pure none
      match row with
      | none =>
        if numbers.isEmpty then refuse "missing operand".toList
        else refuse ("extra operand ".toList ++ curled ((operands.drop 3).headD []))
      | some (first, step, last) =>
        if step.1 = 0 then
          return ← refuse ("invalid Zero increment value: ".toList ++
            curled ((operands.drop 1).headD []))
        let places := max first.2 step.2
        let scale (n : Int × Nat) (places : Nat) : Int := n.1 * (Nat.pow 10 (places - n.2) : Nat)
        let fine := max places last.2
        let count := ((scale last fine - scale first fine) / scale step fine).toNat + 1
        let items := (steps (scale last fine) (scale step fine) (count + 1) (scale first fine)).map
          fun (n : Int) => n / ((Nat.pow 10 (fine - places) : Nat) : Int)
        let texts := items.map (placesText places)
        let width := ([items.headD 0, items.getLastD 0].map
          fun n => (placesText places n).length).foldl max 0
        let texts :=
          if g.has 'w' then texts.map fun s =>
            match s with
            | '-' :: rest => '-' :: List.replicate (width - s.length) '0' ++ rest
            | rest => List.replicate (width - rest.length) '0' ++ rest
          else match g.argument? 'f' with
            | some format => texts.map fun s => (Format.once (format.length + 1) format
                { arguments := [s] }).text
            | none => texts
        if texts.isEmpty then return 0
        let _ ← say (List.intercalate ((g.argument? 's').getD ['\n']) texts ++ ['\n'])
        return 0

/-! ## Time -/

/-- The microseconds of a span of time such as `0.5` or `2m`. -/
def microseconds? (s : List Char) : Option Nat :=
  let (body, factor) := match s.getLast? with
    | some 's' => (s.dropLast, 1)
    | some 'm' => (s.dropLast, 60)
    | some 'h' => (s.dropLast, 3600)
    | some 'd' => (s.dropLast, 86400)
    | _ => (s, 1)
  match decimal? body with
  | some (n, places) =>
    if n < 0 then none else some (n.toNat * factor * 1000000 / Nat.pow 10 places)
  | none => if body = "inf".toList ∨ body = "infinity".toList then some (Nat.pow 10 18) else none

def sleep : Utility := fun arguments =>
  withOptions {} 1 arguments fun g => do
    let help : Exec Nat := do
      complain ("Try '".toList ++ (← own).name ++ " --help' for more information.\n".toList)
      return 1
    if g.operands.isEmpty then
      report "missing operand".toList
      return ← help
    match g.operands.filter fun a => (microseconds? a).isNone with
    | [] =>
      sleepFor ((g.operands.filterMap microseconds?).foldl (· + ·) 0)
      return 0
    | wrong =>
      for a in wrong do
        report ("invalid time interval ".toList ++ curled a)
      help

end JuliaBlocks.Shell.Utility
