import JuliaBlocks.Number.Numeral
import JuliaBlocks.Shell.Syntax

/-!
Arithmetic in scripts: integers of 64 bits that wrap around, names, assignments, and operators by
rank. What a short circuit leaves out is read but neither looked up nor assigned.
-/

namespace JuliaBlocks.Shell

namespace Integer

/-- The integer of 64 bits that an integer comes to. -/
def wrap (n : Int) : Int :=
  n.bmod 18446744073709551616

def greatest : Int := 9223372036854775807

def least : Int := -9223372036854775808

def isWhite (c : Char) : Bool :=
  c == ' ' || ('\t' ≤ c && c ≤ '\r')

def digit? (base : Nat) (c : Char) : Option Nat :=
  let value :=
    if c.isDigit then c.toNat - 48
    else if 'a' ≤ c ∧ c ≤ 'f' then c.toNat - 87
    else if 'A' ≤ c ∧ c ≤ 'F' then c.toNat - 55
    else 16
  if value < base then some value else none

/-- The digits of a base at the front of a text, as a number, and what follows them. -/
def takeDigits (base : Nat) (s : List Char) : Nat × List Char :=
  let digits := s.takeWhile fun c => (digit? base c).isSome
  ((digits.filterMap (digit? base)).foldl (fun n d => n * base + d) 0, s.drop digits.length)

/-- Reads a number without a sign: hexadecimal after `0x`, octal after another zero, and decimal
otherwise. -/
def takeUnsigned (s : List Char) : Nat × List Char :=
  match s with
  | '0' :: x :: rest =>
    if (x = 'x' ∨ x = 'X') ∧ (rest.head?.bind (digit? 16)).isSome then takeDigits 16 rest
    else takeDigits 8 s
  | s => takeDigits 10 s

/-- What reading a number comes to: the number, the nearest there is if it is out of range, whether
it is, and what follows; without any digits nothing is read. -/
structure Reading where
  value : Int
  inRange : Bool
  rest : List Char

/-- Reads a number at the front of a text, by a reader of its digits. -/
def readWith (take : List Char → Nat × List Char) (s : List Char) : Reading :=
  let (negative, body) := Numeral.takeSign (s.dropWhile isWhite)
  let (size, rest) := take body
  if rest.length = body.length then ⟨0, true, s⟩
  else
    let n : Int := if negative then -(size : Int) else size
    ⟨max least (min greatest n), least ≤ n && n ≤ greatest, rest⟩

/-- The number that a whole text is, white space around it aside; in a decimal text there have to
be digits. -/
def ofText? (decimal : Bool) (s : List Char) : Option Int :=
  let r := readWith (if decimal then takeDigits 10 else takeUnsigned) s
  if !r.inRange || (decimal && r.rest.length == s.length) then none
  else if (r.rest.dropWhile isWhite).isEmpty then some r.value
  else none

end Integer

namespace Arithmetic

/-- Why an expression has no value. -/
inductive Fault
  /-- The expression cannot be read, or divides by zero. -/
  | malformed (problem : String)
  | illegalNumber (text : List Char)
deriving DecidableEq

inductive Token
  | number (n : Int)
  | name (s : List Char)
  | operator (s : String)
  | bad
  | ending
deriving DecidableEq

/-- The operators, longer ones before those they start with. -/
def operators : List String :=
  ["<<=", ">>=", "<<", ">>", "<=", ">=", "==", "!=", "&&", "||", "*=", "/=", "%=", "+=", "-=",
    "&=", "^=", "|=", "(", ")", "?", ":", "!", "~", "*", "/", "%", "+", "-", "<", ">", "=", "&",
    "^", "|"]

/-- The binary operators with their ranks; one of higher rank binds tighter. -/
def ranks : List (String × Nat) :=
  [("|", 1), ("^", 2), ("&", 3), ("==", 4), ("!=", 4), ("<=", 5), (">=", 5), ("<", 5), (">", 5),
    ("<<", 6), (">>", 6), ("+", 7), ("-", 7), ("*", 8), ("/", 8), ("%", 8)]

/-- The operators that assign what a binary operator gives. -/
def assignments : List (String × String) :=
  [("*=", "*"), ("/=", "/"), ("%=", "%"), ("+=", "+"), ("-=", "-"), ("<<=", "<<"), (">>=", ">>"),
    ("&=", "&"), ("^=", "^"), ("|=", "|")]

def takeToken (s : List Char) : Token × List Char :=
  match s.dropWhile fun c => c == ' ' || c == '\t' || c == '\n' with
  | [] => (.ending, [])
  | c :: rest =>
    let s := c :: rest
    if c.isDigit then
      let (n, after) := Integer.takeUnsigned s
      (.number (min Integer.greatest n), after)
    else if isNameStart c then (.name (s.takeWhile isNameRest), s.dropWhile isNameRest)
    else
      match operators.find? fun o => o.toList.isPrefixOf s with
      | some o => (.operator o, s.drop o.length)
      | none => (.bad, s)

/-- The state of an evaluation: the token at hand and what follows it, the texts of variables, and
the assignments made, the latest first. -/
structure State where
  token : Token
  rest : List Char
  textOf : List Char → List Char
  assigned : List (List Char × Int) := []

abbrev Evaluate := StateT State (Except Fault)

def advance : Evaluate Unit :=
  modify fun s =>
    let (token, rest) := takeToken s.rest
    { s with token, rest }

def next : Evaluate Token := do
  let token := (← get).token
  advance
  return token

def valueOf (name : List Char) : Evaluate Int := do
  let s ← get
  match s.assigned.lookup name with
  | some n => return n
  | none =>
    let text := s.textOf name
    match Integer.ofText? false text with
    | some n => return n
    | none => throw (.illegalNumber text)

/-- One for what holds and zero for what does not. -/
def truth (holds : Bool) : Int := if holds then 1 else 0

def bitwise (operation : Nat → Nat → Nat) (a b : Int) : Int :=
  Integer.wrap (operation (a.emod 18446744073709551616).toNat (b.emod 18446744073709551616).toNat)

def apply (operator : String) (a b : Int) : Evaluate Int :=
  match operator with
  | "|" => return bitwise Nat.lor a b
  | "^" => return bitwise Nat.xor a b
  | "&" => return bitwise Nat.land a b
  | "==" => return truth (a == b)
  | "!=" => return truth (a != b)
  | "<=" => return truth (a ≤ b)
  | ">=" => return truth (b ≤ a)
  | "<" => return truth (a < b)
  | ">" => return truth (b < a)
  | "<<" => return Integer.wrap (a * ((1 <<< (b.emod 64).toNat : Nat) : Int))
  | ">>" => return a >>> (b.emod 64).toNat
  | "+" => return Integer.wrap (a + b)
  | "-" => return Integer.wrap (a - b)
  | "*" => return Integer.wrap (a * b)
  | "/" => if b = 0 then throw (.malformed "division by zero") else return Integer.wrap (a.tdiv b)
  | _ => if b = 0 then throw (.malformed "division by zero") else return a.tmod b

mutual

/-- Evaluates an assignment, or a choice; `idle` says that its value does not matter. -/
def assignment : Nat → (idle : Bool) → Evaluate Int
  | 0, _ => throw (.malformed "expecting primary")
  | fuel + 1, idle => do
    let s ← get
    match s.token, (takeToken s.rest).1 with
    | .name name, .operator o =>
      if o = "=" ∨ (assignments.lookup o).isSome then
        advance
        advance
        let given ← assignment fuel idle
        if idle then return given
        let value ← match assignments.lookup o with
          | some operator => do apply operator (← valueOf name) given
          | none => pure given
        modify fun s => { s with assigned := (name, value) :: s.assigned }
        return value
      else choice fuel idle
    | _, _ => choice fuel idle

/-- Evaluates a choice between two values by a condition. -/
def choice : Nat → (idle : Bool) → Evaluate Int
  | 0, _ => throw (.malformed "expecting primary")
  | fuel + 1, idle => do
    let condition ← either fuel idle
    if (← get).token != .operator "?" then return condition
    advance
    let yes ← assignment fuel (idle || condition == 0)
    if (← get).token != .operator ":" then throw (.malformed "expecting ':'")
    advance
    let no ← choice fuel (idle || condition != 0)
    return if condition = 0 then no else yes

def either : Nat → (idle : Bool) → Evaluate Int
  | 0, _ => throw (.malformed "expecting primary")
  | fuel + 1, idle => do
    let first ← both fuel idle
    if (← get).token != .operator "||" then return first
    advance
    let others ← either fuel (idle || first != 0)
    return truth (first != 0 || others != 0)

def both : Nat → (idle : Bool) → Evaluate Int
  | 0, _ => throw (.malformed "expecting primary")
  | fuel + 1, idle => do
    let first ← joined fuel idle 0
    if (← get).token != .operator "&&" then return first
    advance
    let others ← both fuel (idle || first == 0)
    return truth (first != 0 && others != 0)

/-- Evaluates operands joined by binary operators of more than a rank. -/
def joined : Nat → (idle : Bool) → Nat → Evaluate Int
  | 0, _, _ => throw (.malformed "expecting primary")
  | fuel + 1, idle, rank => do
    let first ← operand fuel idle
    joinedRest fuel idle rank first

/-- Evaluates on after a left operand; operators of one rank are taken from the left. -/
def joinedRest : Nat → (idle : Bool) → Nat → Int → Evaluate Int
  | 0, _, _, _ => throw (.malformed "expecting primary")
  | fuel + 1, idle, rank, left => do
    match (← get).token with
    | .operator o =>
      match ranks.lookup o with
      | some own =>
        if own ≤ rank then return left
        advance
        let right ← joined fuel idle own
        let value ← if idle then pure right else apply o left right
        joinedRest fuel idle rank value
      | none => return left
    | _ => return left

/-- Evaluates an operand: a number, a name, a sign or negation before another, or what stands in
parentheses. -/
def operand : Nat → (idle : Bool) → Evaluate Int
  | 0, _ => throw (.malformed "expecting primary")
  | fuel + 1, idle => do
    match ← next with
    | .number n => return n
    | .name name => if idle then return 0 else valueOf name
    | .operator "(" =>
      let value ← assignment fuel idle
      if (← get).token != .operator ")" then throw (.malformed "expecting ')'")
      advance
      return value
    | .operator "+" => operand fuel idle
    | .operator "-" => do return Integer.wrap (-(← operand fuel idle))
    | .operator "!" => do return truth ((← operand fuel idle) == 0)
    | .operator "~" => do return -(← operand fuel idle) - 1
    | _ => throw (.malformed "expecting primary")

end

/-- Evaluates an expression, given the texts of variables: its value, and the assignments it makes
in order. -/
def evaluate (textOf : List Char → List Char) (expression : List Char) :
    Except Fault (Int × List (List Char × Int)) := do
  let (token, rest) := takeToken expression
  let (value, s) ← (assignment (8 * expression.length + 16) false).run { token, rest, textOf }
  if s.token = .ending then return (value, s.assigned.reverse)
  else throw (.malformed "expecting EOF")

end Arithmetic

end JuliaBlocks.Shell
