import JuliaBlocks.Shell.Arithmetic

/-!
The conditions of `test`: operands, operators on one or two of them, negation, and parentheses.
-/

namespace JuliaBlocks.Shell.Condition

/-- The operators of `test`: on one operand, between two, and between conditions. -/
inductive Kind
  | unary
  | binary
  | logical
deriving DecidableEq

/-- The kind of the operator that a text is, if it is one. -/
def kindOf? (s : List Char) : Option Kind :=
  let text := String.ofList s
  if ["-r", "-w", "-x", "-e", "-f", "-d", "-c", "-b", "-p", "-u", "-g", "-k", "-s", "-t", "-z", "-n",
      "-h", "-L", "-S", "-O", "-G"].contains text then some .unary
  else if ["=", "!=", "<", ">", "-eq", "-ne", "-ge", "-gt", "-le", "-lt", "-nt", "-ot",
      "-ef"].contains text then some .binary
  else if ["!", "-a", "-o", "(", ")"].contains text then some .logical
  else none

/-- What can be asked about files. -/
structure Facts where
  /-- Whether a file is as an operator asks. -/
  isSo : String → List Char → Bool
  /-- Whether two files are related as an operator asks. -/
  related : String → List Char → List Char → Bool

/-- A condition may be malformed, for a reason given in words. -/
abbrev Check := Except (List Char)

/-- The operator at the front of the words, if it stands as one: an operator on one operand that has
none, or stands before an operator itself, is an operand. -/
def operator? (words : List (List Char)) : Option (String × Kind) :=
  match words with
  | [] => none
  | s :: rest =>
    (kindOf? s).bind fun kind =>
      let isOperand : Bool := match kind, rest with
        | .unary, [] => true
        | .unary, t :: _ :: _ => kindOf? t == some .binary
        | .logical, [] => s == ['(']
        | _, _ => false
      if isOperand then none else some (String.ofList s, kind)

def complaint (word : List Char) (message : String) : List Char :=
  if word.isEmpty then message.toList else word ++ ": ".toList ++ message.toList

def numberOf (s : List Char) : Check Int :=
  match Integer.ofText? true s with
  | some n => .ok n
  | none => .error ("Illegal number: ".toList ++ s)

def compare (facts : Facts) (operator : String) (a b : List Char) : Check Bool :=
  let numbers (p : Int → Int → Bool) : Check Bool := do
    let m ← numberOf a
    return p m (← numberOf b)
  match operator with
  | "=" => return a == b
  | "!=" => return a != b
  | "<" => return decide (a < b)
  | ">" => return decide (b < a)
  | "-eq" => numbers (· == ·)
  | "-ne" => numbers (· != ·)
  | "-lt" => numbers (· < ·)
  | "-le" => numbers (· ≤ ·)
  | "-gt" => numbers fun m n => n < m
  | "-ge" => numbers fun m n => n ≤ m
  | operator => return facts.related operator a b

mutual

/-- Decides alternatives: the answer, and the words from the last one of them on. -/
def alternatives (facts : Facts) : Nat → List (List Char) → Check (Bool × List (List Char))
  | 0, words => return (false, words)
  | fuel + 1, words => do
    let (first, at') ← conjuncts facts fuel words
    match operator? (at'.drop 1) with
    | some ("-o", _) =>
      let (others, at') ← alternatives facts fuel (at'.drop 2)
      return (first || others, at')
    | _ => return (first, at')

def conjuncts (facts : Facts) : Nat → List (List Char) → Check (Bool × List (List Char))
  | 0, words => return (false, words)
  | fuel + 1, words => do
    let (first, at') ← negated facts fuel words
    match operator? (at'.drop 1) with
    | some ("-a", _) =>
      let (others, at') ← conjuncts facts fuel (at'.drop 2)
      return (first && others, at')
    | _ => return (first, at')

def negated (facts : Facts) : Nat → List (List Char) → Check (Bool × List (List Char))
  | 0, words => return (false, words)
  | fuel + 1, words => do
    match operator? words with
    | some ("!", _) =>
      if words.length < 2 then return (true, words)
      let (holds, at') ← negated facts fuel (words.drop 1)
      return (!holds, at')
    | _ => primary facts fuel words

/-- Decides a condition without operators between conditions. -/
def primary (facts : Facts) : Nat → List (List Char) → Check (Bool × List (List Char))
  | 0, words => return (false, words)
  | fuel + 1, words => do
    match words, operator? words with
    | [], _ => return (false, [])
    | _ :: rest, some ("(", _) =>
      if (operator? rest).map (·.1) = some ")" then return (false, rest)
      let (holds, at') ← alternatives facts fuel rest
      if (operator? (at'.drop 1)).map (·.1) = some ")" then return (holds, at'.drop 1)
      throw "closing paren expected".toList
    | s :: rest, some (operator, .unary) =>
      match rest with
      | [] => throw (complaint s "argument expected")
      | operand :: _ =>
        match operator with
        | "-z" => return (operand.isEmpty, rest)
        | "-n" => return (!operand.isEmpty, rest)
        | "-t" =>
          let _ ← numberOf operand
          return (facts.isSo operator operand, rest)
        | _ => return (facts.isSo operator operand, rest)
    | s :: rest, _ =>
      match operator? rest with
      | some (operator, .binary) =>
        match rest.drop 1 with
        | [] => throw (complaint operator.toList "argument expected")
        | operand :: more =>
          return (← compare facts operator s operand, operand :: more)
      | _ => return (!s.isEmpty, words)

end

/-- Decides the condition that words make up. -/
def holds (facts : Facts) : Nat → List (List Char) → Check Bool
  | 0, _ => return false
  | fuel + 1, words => do
    let whole (words : List (List Char)) : Check Bool := do
      let (answer, at') ← alternatives facts (4 * words.length + 8) words
      match at' with
      | s :: _ :: _ => throw (complaint s "unexpected operator")
      | _ => return answer
    let short := words.length == 3 || words.length == 4
    match words with
    | [] => return false
    | [a, operator, b] =>
      if kindOf? operator = some .binary then return ← compare facts (String.ofList operator) a b
      if a = ['('] ∧ b = [')'] then whole [operator]
      else if a = ['!'] then do return !(← holds facts fuel [operator, b])
      else whole words
    | first :: rest =>
      if short ∧ first = ['('] ∧ rest.getLast? = some [')'] then whole rest.dropLast
      else if short ∧ first = ['!'] then do return !(← holds facts fuel rest)
      else whole words

end JuliaBlocks.Shell.Condition
