import JuliaBlocks.Shell.Awk.Token

/-!
Reading programs from their tokens.
-/

namespace JuliaBlocks.Shell.Awk

/-- What is left to read, how many parentheses and loops are open, the number of the next range, and
whether a function or a rule without a record is read. -/
structure Reader where
  rest : List (Nat × Token)
  depth : Nat := 0
  loops : Nat := 0
  ranges : Nat := 0
  inFunction : Bool := false
  isEdge : Bool := false

/-- A step of reading, which may fail at a line with a message. -/
abbrev Read := StateT Reader (Except (Nat × String))

namespace Read

def peek : Read Token := do
  match (← get).rest with
  | (_, token) :: _ => return token
  | [] => return .ending

def peekSecond : Read Token := do
  match (← get).rest with
  | _ :: (_, token) :: _ => return token
  | _ => return .ending

/-- Goes over one token; the end stays. -/
def drop : Read Unit :=
  modify fun r => match r.rest with
    | [last] => { r with rest := [last] }
    | (_, .mark "(") :: rest => { r with rest, depth := r.depth + 1 }
    | (_, .mark ")") :: rest => { r with rest, depth := r.depth - 1 }
    | _ :: rest => { r with rest }
    | [] => r

/-- Fails at the next token. -/
def fail {α : Type} : Read α := do
  let r ← get
  match r.rest with
  | (line, .ending) :: _ => throw (line, "missing \x7d near end of file")
  | (line, .mark "\x7d") :: _ =>
    throw (line, if r.depth = 0 then "syntax error at or near \x7d" else "missing ) near \x7d")
  | (line, token) :: _ => throw (line, "syntax error at or near " ++ token.shown)
  | [] => throw (1, "syntax error")

/-- Fails at the next token with a message, unless a condition holds. -/
def check (holds : Reader → Bool) (message : String) : Read Unit := do
  let r ← get
  if !holds r then throw ((r.rest.head?.map (·.1)).getD 1, message)

/-- Goes over a token if it is the next one; the flag tells whether it was. -/
def accept (token : Token) : Read Bool := do
  if (← peek) = token then
    drop
    return true
  else return false

/-- Goes over a token that has to be the next one. -/
def expect (token : Token) : Read Unit := do
  if !(← accept token) then fail

def skipLines : Nat → Read Unit
  | 0 => return ()
  | fuel + 1 => do if ← accept .newline then skipLines fuel

def skipEnds : Nat → Read Unit
  | 0 => return ()
  | fuel + 1 => do
    if ← accept .newline then skipEnds fuel
    else if ← accept (.mark ";") then skipEnds fuel

def takeName : Read String := do
  match ← peek with
  | .name s =>
    drop
    return s
  | _ => fail

end Read

/-- What an expression may hold at its top: the operator `in`, and `>` as a comparison. -/
structure Scope where
  allowsIn : Bool := true
  allowsGreater : Bool := true

/-- Whether an expression stands for a place that can be set. -/
def Expr.isPlace : Expr → Bool
  | .name _ | .field _ | .element .. => true
  | _ => false

def assignment? : String → Option (Option Operator)
  | "=" => some none
  | "+=" => some (some .add)
  | "-=" => some (some .sub)
  | "*=" => some (some .mul)
  | "/=" => some (some .div)
  | "%=" => some (some .mod)
  | "^=" => some (some .pow)
  | _ => none

def comparison? (scope : Scope) : String → Option Operator
  | "<" => some .less
  | "<=" => some .lessEqual
  | "==" => some .equal
  | "!=" => some .notEqual
  | ">" => if scope.allowsGreater then some .greater else none
  | ">=" => if scope.allowsGreater then some .greaterEqual else none
  | _ => none

/-- Whether a token starts an operand that is joined to the one before it. -/
def Token.startsJoined : Token → Bool
  | number _ | text _ | name _ | function _ | builtin _ => true
  | mark s => ["$", "(", "!", "++", "--"].contains s
  | _ => false

/-- The least and the greatest number of arguments of a function that is there. -/
def arity : String → Nat × Nat
  | "index" | "atan2" => (2, 2)
  | "substr" | "sub" | "gsub" => (2, 3)
  | "split" => (2, 4)
  | "match" => (2, 3)
  | "sprintf" => (1, 1000)
  | "length" | "srand" | "fflush" => (0, 1)
  | "rand" => (0, 0)
  | _ => (1, 1)

def checkArity (name : String) (arguments : List Expr) : Read Unit := do
  let (least, most) := arity name
  Read.check (fun _ => least ≤ arguments.length && arguments.length ≤ most)
    ("wrong number of arguments in call to " ++ name)

def patternOf (s : List Char) : Regex :=
  match Regex.read { extended := true, named := true } s with
  | .ok r => r
  | .error _ => .ofText {} s

mutual

def takeExpr : Nat → Scope → Read Expr
  | 0, _ => Read.fail
  | fuel + 1, scope => do
    let condition ← takeEither fuel scope
    match ← Read.peek with
    | .mark "?" =>
      Read.drop
      Read.skipLines fuel
      let yes ← takeExpr fuel scope
      Read.skipLines fuel
      Read.expect (.mark ":")
      Read.skipLines fuel
      return .choose condition yes (← takeExpr fuel scope)
    | .mark s =>
      match assignment? s with
      | some operator =>
        if condition.isPlace then
          Read.drop
          Read.skipLines fuel
          return .assign operator condition (← takeExpr fuel scope)
        else return condition
      | none => return condition
    | _ => return condition

def takeEither : Nat → Scope → Read Expr
  | 0, _ => Read.fail
  | fuel + 1, scope => do takeEitherRest fuel scope (← takeBoth fuel scope)

def takeEitherRest : Nat → Scope → Expr → Read Expr
  | 0, _, left => return left
  | fuel + 1, scope, left => do
    if ← Read.accept (.mark "||") then
      Read.skipLines fuel
      takeEitherRest fuel scope (.binary .or left (← takeBoth fuel scope))
    else return left

def takeBoth : Nat → Scope → Read Expr
  | 0, _ => Read.fail
  | fuel + 1, scope => do takeBothRest fuel scope (← takeMember fuel scope)

def takeBothRest : Nat → Scope → Expr → Read Expr
  | 0, _, left => return left
  | fuel + 1, scope, left => do
    if ← Read.accept (.mark "&&") then
      Read.skipLines fuel
      takeBothRest fuel scope (.binary .and left (← takeMember fuel scope))
    else return left

/-- Reads whether something is in an array, or matches. -/
def takeMember : Nat → Scope → Read Expr
  | 0, _ => Read.fail
  | fuel + 1, scope => do takeMemberRest fuel scope (← takeComparison fuel scope)

/-- Reads what follows a comparison. -/
def takeMemberRest : Nat → Scope → Expr → Read Expr
  | 0, _, left => return left
  | fuel + 1, scope, left => do
    match ← Read.peek with
    | .keyword "in" =>
      if scope.allowsIn then
        Read.drop
        let name ← Read.takeName
        let key := match left with
          | .grouped items => items
          | e => [e]
        takeMemberRest fuel scope (.member key name)
      else return left
    | .mark "~" =>
      Read.drop
      takeMemberRest fuel scope (.fits false left (← takeComparison fuel scope))
    | .mark "!~" =>
      Read.drop
      takeMemberRest fuel scope (.fits true left (← takeComparison fuel scope))
    | _ => return left

def takeComparison : Nat → Scope → Read Expr
  | 0, _ => Read.fail
  | fuel + 1, scope => do
    let left ← takePiped fuel (← takeJoined fuel)
    match ← Read.peek with
    | .mark s =>
      match comparison? scope s with
      | some operator =>
        Read.drop
        return .binary operator left (← takePiped fuel (← takeJoined fuel))
      | none => return left
    | _ => return left

/-- Reads records that are taken from a command. -/
def takePiped : Nat → Expr → Read Expr
  | 0, left => return left
  | fuel + 1, left => do
    match ← Read.peek, ← Read.peekSecond with
    | .mark "|", .keyword "getline" =>
      Read.drop
      Read.drop
      takePiped fuel (.readCommand (← takeTarget fuel) left)
    | _, _ => return left

def takeTarget : Nat → Read (Option Expr)
  | 0 => return none
  | fuel + 1 => do
    match ← Read.peek with
    | .name _ | .mark "$" => return some (← takePrimary fuel)
    | _ => return none

def takeJoined : Nat → Read Expr
  | 0 => Read.fail
  | fuel + 1 => do takeJoinedRest fuel (← takeSum fuel)

def takeJoinedRest : Nat → Expr → Read Expr
  | 0, left => return left
  | fuel + 1, left => do
    if (← Read.peek).startsJoined then
      takeJoinedRest fuel (.binary .join left (← takeSum fuel))
    else return left

def takeSum : Nat → Read Expr
  | 0 => Read.fail
  | fuel + 1 => do takeSumRest fuel (← takeProduct fuel)

def takeSumRest : Nat → Expr → Read Expr
  | 0, left => return left
  | fuel + 1, left => do
    if ← Read.accept (.mark "+") then takeSumRest fuel (.binary .add left (← takeProduct fuel))
    else if ← Read.accept (.mark "-") then
      takeSumRest fuel (.binary .sub left (← takeProduct fuel))
    else return left

def takeProduct : Nat → Read Expr
  | 0 => Read.fail
  | fuel + 1 => do takeProductRest fuel (← takeSigned fuel)

def takeProductRest : Nat → Expr → Read Expr
  | 0, left => return left
  | fuel + 1, left => do
    if ← Read.accept (.mark "*") then takeProductRest fuel (.binary .mul left (← takeSigned fuel))
    else if ← Read.accept (.mark "/") then
      takeProductRest fuel (.binary .div left (← takeSigned fuel))
    else if ← Read.accept (.mark "%") then
      takeProductRest fuel (.binary .mod left (← takeSigned fuel))
    else return left

def takeSigned : Nat → Read Expr
  | 0 => Read.fail
  | fuel + 1 => do
    if ← Read.accept (.mark "!") then return .not (← takeSigned fuel)
    else if ← Read.accept (.mark "-") then return .negate (← takeSigned fuel)
    else if ← Read.accept (.mark "+") then return .plus (← takeSigned fuel)
    else takePower fuel

def takePower : Nat → Read Expr
  | 0 => Read.fail
  | fuel + 1 => do
    let base ← takeStepped fuel
    if ← Read.accept (.mark "^") then return .binary .pow base (← takeExponent fuel)
    else return base

def takeExponent : Nat → Read Expr
  | 0 => Read.fail
  | fuel + 1 => do
    if ← Read.accept (.mark "-") then return .negate (← takeExponent fuel)
    else if ← Read.accept (.mark "+") then return .plus (← takeExponent fuel)
    else if ← Read.accept (.mark "!") then return .not (← takeExponent fuel)
    else takePower fuel

/-- Reads an operand that may be stepped up or down after its value is taken. -/
def takeStepped : Nat → Read Expr
  | 0 => Read.fail
  | fuel + 1 => do
    let e ← takePrimary fuel
    if e.isPlace then
      if ← Read.accept (.mark "++") then return .step true false e
      else if ← Read.accept (.mark "--") then return .step false false e
      else return e
    else return e

def takeList : Nat → (closing : String) → Read (List Expr)
  | 0, _ => Read.fail
  | fuel + 1, closing => do
    Read.skipLines fuel
    if ← Read.accept (.mark closing) then return []
    let first ← takeExpr fuel {}
    Read.skipLines fuel
    if ← Read.accept (.mark ",") then return first :: (← takeList fuel closing)
    Read.expect (.mark closing)
    return [first]

def takePrimary : Nat → Read Expr
  | 0 => Read.fail
  | fuel + 1 => do
    match ← Read.peek with
    | .number x =>
      Read.drop
      return .number x
    | .text s =>
      Read.drop
      return .text s
    | .pattern s =>
      Read.drop
      return .pattern (patternOf s)
    | .mark "(" =>
      Read.drop
      match ← takeList fuel ")" with
      | [] => Read.fail
      | items => return .grouped items
    | .mark "$" =>
      Read.drop
      if ← Read.accept (.mark "++") then return .field (.step true true (← takePrimary fuel))
      else if ← Read.accept (.mark "--") then return .field (.step false true (← takePrimary fuel))
      else if ← Read.accept (.mark "-") then return .field (.negate (← takePrimary fuel))
      else return .field (← takePrimary fuel)
    | .mark "++" =>
      Read.drop
      return .step true true (← takePrimary fuel)
    | .mark "--" =>
      Read.drop
      return .step false true (← takePrimary fuel)
    | .mark "-" =>
      Read.drop
      return .negate (← takeSigned fuel)
    | .name s =>
      Read.drop
      if ← Read.accept (.mark "[") then return .element s (← takeList fuel "]")
      else return .name s
    | .function s =>
      Read.drop
      Read.expect (.mark "(")
      return .call s (← takeList fuel ")")
    | .builtin s =>
      Read.drop
      if ← Read.accept (.mark "(") then
        let arguments ← takeList fuel ")"
        checkArity s arguments
        return .builtin s arguments
      else if s = "length" then return .builtin s []
      else Read.fail
    | .keyword "getline" =>
      Read.drop
      let target ← takeTarget fuel
      if ← Read.accept (.mark "<") then return .readFile target (← takePrimary fuel)
      else return .readLine target
    | _ => Read.fail

end

def takeEnd : Read Unit := do
  match ← Read.peek with
  | .mark ";" | .newline => Read.drop
  | .mark "\x7d" | .ending => return ()
  | _ => Read.fail

mutual

def takeStatement : Nat → Read Statement
  | 0 => Read.fail
  | fuel + 1 => do
    match ← Read.peek with
    | .mark "\x7b" => return .block (← takeBlock fuel)
    | .mark ";" =>
      Read.drop
      return .block []
    | .mark "\x7d" => return .block []
    | .keyword "if" =>
      Read.drop
      let condition ← takeCondition fuel
      let yes ← takeStatement fuel
      let before ← get
      Read.skipEnds fuel
      if ← Read.accept (.keyword "else") then
        Read.skipLines fuel
        return .branch condition [yes] [← takeStatement fuel]
      else
        set before
        return .branch condition [yes] []
    | .keyword "while" =>
      Read.drop
      let condition ← takeCondition fuel
      return .loop condition [← takeBody fuel]
    | .keyword "do" =>
      Read.drop
      Read.skipLines fuel
      let body ← takeBody fuel
      Read.skipEnds fuel
      Read.expect (.keyword "while")
      Read.expect (.mark "(")
      let condition ← takeExpr fuel {}
      Read.expect (.mark ")")
      takeEnd
      return .repeatLoop [body] condition
    | .keyword "for" =>
      Read.drop
      Read.expect (.mark "(")
      match (← get).rest with
      | (_, .name s) :: (_, .keyword "in") :: (_, .name array) :: (_, .mark ")") :: _ =>
        Read.drop
        Read.drop
        Read.drop
        Read.drop
        Read.skipLines fuel
        return .each s array [← takeBody fuel]
      | _ =>
        let start ← takePart fuel ";"
        Read.skipLines fuel
        let condition ← if (← Read.peek) = .mark ";" then pure none
          else some <$> takeExpr fuel {}
        Read.expect (.mark ";")
        Read.skipLines fuel
        let next ← takePart fuel ")"
        Read.skipLines fuel
        return .count start condition next [← takeBody fuel]
    | _ =>
      let statement ← takeSimple fuel
      takeEnd
      return statement

def takeBody : Nat → Read Statement
  | 0 => Read.fail
  | fuel + 1 => do
    modify fun r => { r with loops := r.loops + 1 }
    let body ← takeStatement fuel
    modify fun r => { r with loops := r.loops - 1 }
    return body

def takeCondition : Nat → Read Expr
  | 0 => Read.fail
  | fuel + 1 => do
    Read.expect (.mark "(")
    let condition ← takeExpr fuel {}
    Read.skipLines fuel
    Read.expect (.mark ")")
    Read.skipLines fuel
    return condition

def takePart : Nat → (closing : String) → Read (List Statement)
  | 0, _ => Read.fail
  | fuel + 1, closing => do
    if ← Read.accept (.mark closing) then return []
    let statement ← takeSimple fuel
    Read.expect (.mark closing)
    return [statement]

def takeSimple : Nat → Read Statement
  | 0 => Read.fail
  | fuel + 1 => do
    let ends : Bool := match ← Read.peekSecond with
      | .mark ";" | .mark "\x7d" | .newline | .ending => true
      | _ => false
    match ← Read.peek with
    | .keyword "print" =>
      Read.drop
      let (items, output) ← takePrint fuel
      return .print items output
    | .keyword "printf" =>
      Read.drop
      let (items, output) ← takePrint fuel
      return .format items output
    | .keyword "next" =>
      Read.check (!·.isEdge) "improper use of next"
      Read.drop
      return .next
    | .keyword "nextfile" =>
      Read.check (!·.isEdge) "improper use of nextfile"
      Read.drop
      return .nextFile
    | .keyword "break" =>
      Read.check (0 < ·.loops) "break statement outside of loop"
      Read.drop
      return .leave
    | .keyword "continue" =>
      Read.check (0 < ·.loops) "continue statement outside of loop"
      Read.drop
      return .goOn
    | .keyword "exit" =>
      Read.drop
      return .exit (← if ends then pure none else some <$> takeExpr fuel {})
    | .keyword "return" =>
      Read.check (·.inFunction) "return outside function body"
      Read.drop
      return .answer (← if ends then pure none else some <$> takeExpr fuel {})
    | .keyword "delete" =>
      Read.drop
      let name ← Read.takeName
      if ← Read.accept (.mark "[") then return .delete name (← takeList fuel "]")
      else return .delete name []
    | _ => return .expression (← takeExpr fuel {})

def takePrint : Nat → Read (List Expr × Output)
  | 0 => Read.fail
  | fuel + 1 => do
    let items ← match ← Read.peek with
      | .mark ";" | .mark "\x7d" | .mark ">" | .mark ">>" | .mark "|" | .newline | .ending => pure []
      | _ => takeItems fuel
    let items := match items with
      | [.grouped inner] => inner
      | items => items
    Read.check (fun r => r.rest.head?.map (·.2) != some (.mark ">=")) "syntax error at or near ="
    match ← Read.peek with
    | .mark ">" =>
      Read.drop
      return (items, .file false (← takeJoined fuel))
    | .mark ">>" =>
      Read.drop
      return (items, .file true (← takeJoined fuel))
    | .mark "|" =>
      Read.drop
      return (items, .command (← takeJoined fuel))
    | _ => return (items, .standard)

def takeItems : Nat → Read (List Expr)
  | 0 => Read.fail
  | fuel + 1 => do
    let first ← takeExpr fuel { allowsGreater := false }
    if ← Read.accept (.mark ",") then
      Read.skipLines fuel
      return first :: (← takeItems fuel)
    else return [first]

def takeBlock : Nat → Read (List Statement)
  | 0 => Read.fail
  | fuel + 1 => do
    Read.expect (.mark "\x7b")
    takeStatements fuel

def takeStatements : Nat → Read (List Statement)
  | 0 => Read.fail
  | fuel + 1 => do
    Read.skipEnds fuel
    if ← Read.accept (.mark "\x7d") then return []
    let statement ← takeStatement fuel
    return statement :: (← takeStatements fuel)

end

def takeParameters : Nat → Read (List String)
  | 0 => Read.fail
  | fuel + 1 => do
    Read.skipLines fuel
    if ← Read.accept (.mark ")") then return []
    let name ← Read.takeName
    Read.skipLines fuel
    if ← Read.accept (.mark ",") then return name :: (← takeParameters fuel)
    Read.expect (.mark ")")
    return [name]

def takeAction (fuel : Nat) : Read (Option (List Statement)) := do
  if (← Read.peek) = .mark "\x7b" then some <$> takeBlock fuel else return none

/-- Reads the action of a rule that applies to no record. -/
def takeEdge (fuel : Nat) : Read (List Statement) := do
  Read.drop
  modify fun r => { r with isEdge := true }
  let body ← takeBlock fuel
  modify fun r => { r with isEdge := false }
  return body

/-- Reads a rule whose pattern is an expression, or a range of them. -/
def takeRule (fuel : Nat) : Read Rule := do
  let first ← takeExpr fuel {}
  let pattern ← if ← Read.accept (.mark ",") then do
      Read.skipLines fuel
      let last ← takeExpr fuel {}
      let number := (← get).ranges
      modify fun r => { r with ranges := number + 1 }
      pure (Pattern.range number first last)
    else pure (Pattern.holds first)
  let action ← takeAction fuel
  if action.isNone then
    match ← Read.peek with
    | .newline | .mark ";" | .ending => pure ()
    | _ => Read.fail
  return { pattern, action }

def takeFunction (fuel : Nat) : Read (String × Function) := do
  let name ← match ← Read.peek with
    | .name s | .function s => do
      Read.drop
      pure s
    | _ => Read.fail
  Read.expect (.mark "(")
  let parameters ← takeParameters fuel
  Read.skipLines fuel
  modify fun r => { r with inFunction := true }
  let body ← takeBlock fuel
  modify fun r => { r with inFunction := false }
  return (name, { parameters, body })

def takeProgram : Nat → Program → Read Program
  | 0, program => return program
  | fuel + 1, program => do
    Read.skipEnds fuel
    let addRule (rule : Rule) : Program := { program with rules := program.rules ++ [rule] }
    match ← Read.peek with
    | .ending => return program
    | .keyword "BEGIN" =>
      let body ← takeEdge fuel
      takeProgram fuel (addRule ⟨.start, some body⟩)
    | .keyword "END" =>
      let body ← takeEdge fuel
      takeProgram fuel (addRule ⟨.stop, some body⟩)
    | .keyword "function" | .keyword "func" =>
      Read.drop
      let function ← takeFunction fuel
      takeProgram fuel { program with functions := program.functions ++ [function] }
    | .mark "\x7b" =>
      let body ← takeBlock fuel
      takeProgram fuel (addRule ⟨.always, some body⟩)
    | _ =>
      let rule ← takeRule fuel
      takeProgram fuel (addRule rule)

/-- The functions that tokens call and that are not there. -/
def missingFunctions (tokens : List (Nat × Token)) (program : Program) : List String :=
  tokens.filterMap fun
    | (_, .function s) => if (program.functions.lookup s).isSome then none else some s
    | _ => none

/-- The program that a text is, or the line of an error and a message. -/
def readProgram (s : List Char) : Except (Nat × String) Program := do
  let tokens ← tokens s
  let (program, _) ← (takeProgram (20 * tokens.length + 64) {}).run { rest := tokens }
  match missingFunctions tokens program, tokens.getLast? with
  | name :: _, some (line, _) => throw (line, "function " ++ name ++ " never defined")
  | _, _ => return program

end JuliaBlocks.Shell.Awk
