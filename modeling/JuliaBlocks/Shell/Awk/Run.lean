import JuliaBlocks.Shell.Awk.State

/-!
Running programs: what expressions come to, what statements do, and the rules applied to record after
record.
-/

namespace JuliaBlocks.Shell.Awk

/-- What a program runs in: itself, and a way to run commands on a text or on standard input, which
gives the status and what was printed if that is caught. -/
structure Context where
  program : Program
  command : (input : Option (List Char)) → (caught : Bool) → List Char → Exec (Nat × List Char)

def callLimit : Nat := 500

/-! ## Values -/

def Operator.apply (operator : Operator) (a b : Binary64) : Binary64 :=
  match operator with
  | sub => a.sub b
  | mul => a.mul b
  | div => a.div b
  | mod => a.mod b
  | pow => a.pow b
  | _ => a.add b

def Operator.holds (operator : Operator) (o : Option Ordering) : Bool :=
  match operator, o with
  | less, some .lt | lessEqual, some .lt | lessEqual, some .eq | equal, some .eq
  | greaterEqual, some .eq | greaterEqual, some .gt | greater, some .gt => true
  | notEqual, o => o != some .eq
  | _, _ => false

/-- The part of a text from a place on, of a length; places count from one and are rounded. -/
def partOf (s : List Char) (start : Binary64) (length : Option Binary64) : List Char :=
  let rounded (x : Binary64) : Int := clamped ((x.add (.ofFraction false 1 2)).toWhole)
  let first := rounded start
  let stop := match length with
    | some n => rounded (start.add n)
    | none => s.length + 1
  let from1 := max first 1
  (s.drop (from1 - 1).toNat).take (stop - from1).toNat

/-- The place of a text in another one, counted from one, or zero. -/
def placeIn (part : List Char) : Nat → List Char → Nat
  | place, s =>
    if part.isPrefixOf s then place
    else match s with
      | [] => 0
      | _ :: rest => placeIn part (place + 1) rest

/-- The result of a function that takes numbers or texts alone. -/
def plainCall (name : String) (cells : List Cell) : Run Cell := do
  let number (i : Nat) : Binary64 := (cells[i]?.getD .unset).toNumber
  let text (i : Nat) : Run (List Char) := textOf (cells[i]?.getD .unset)
  let real (f : Float → Float) : Run Cell := return .number (.ofFloat (f (number 0).toFloat))
  match name with
  | "substr" =>
    let length := if cells.length < 3 then none else some (number 2)
    return .text (partOf (← text 0) (number 1) length)
  | "index" => return .ofNat (placeIn (← text 1) 1 (← text 0))
  | "tolower" => return .text ((← text 0).map Char.toLower)
  | "toupper" => return .text ((← text 0).map Char.toUpper)
  | "int" => return .number (number 0).toWhole
  | "sqrt" => return .number (number 0).sqrt
  | "exp" => real Float.exp
  | "log" => real Float.log
  | "sin" => real Float.sin
  | "cos" => real Float.cos
  | "atan2" => return .number (.ofFloat (Float.atan2 (number 0).toFloat (number 1).toFloat))
  | "rand" =>
    let seed := ((← get).seed * 1103515245 + 12345) % 2147483648
    modify fun s => { s with seed }
    return .number (.ofFraction false seed 2147483648)
  | "srand" =>
    let before := (← get).seed
    modify fun s => { s with seed := (clamped (number 0)).natAbs }
    return .ofNat before
  | _ => return .unset

def formatted (name : String) (cells : List Cell) : Run (List Char) := do
  let format ← textOf (cells.headD .unset)
  let reals ← textOfName "CONVFMT"
  let f : Formatter := { arguments := cells.drop 1, textOf := Cell.toText reals }
  match f.format (format.length + 1) format with
  | (s, none) => return s
  | (s, some fault) =>
    if name = "printf" then put s
    let place := (" " ++ name ++ "(\"").toList ++ format ++ "\")".toList
    match fault with
    | .arguments => failWith ("not enough arguments passed to".toList ++ place)
    | .directive n =>
      failWith ("improper conversion(number ".toList ++ wholeText n ++ ") in".toList ++ place)

section Context

variable (x : Context)

/-- Runs a command; what was printed so far gets to its place first. -/
def runCommand (input : Option (List Char)) (caught : Bool) (text : List Char) :
    Run (Nat × List Char) := do
  flushAll
  ofExec (x.command input caught text)

/-- Closes what has a name: the status, or minus one if there is nothing. -/
def close (name : List Char) : Run Cell := do
  let s ← get
  match s.sinks.lookup name, s.sources.lookup name with
  | some sink, _ =>
    let sink ← flushSink sink
    modify fun s => { s with sinks := s.sinks.filter (·.1 != name) }
    match sink.target with
    | .command =>
      let (status, _) ← ofExec (x.command (some sink.text.reverse.flatten) false name)
      return .ofNat status
    | _ => return .ofNat 0
  | none, some source =>
    modify fun s => { s with sources := s.sources.filter (·.1 != name) }
    return .ofNat source.status
  | none, none => return .number (.ofInt (-1))

/-- Takes a record from the source of a name, which is opened if it is not: whether there was one, or
nothing if the source cannot be opened. -/
def takeFrom (name : List Char) (make : Run (Option Source)) : Run (Option (Option (List Char))) := do
  let source? ← match (← get).sources.lookup name with
    | some source => pure (some source)
    | none => make
  match source? with
  | none => return none
  | some source =>
    let (record, source) ← ofExec (source.take (← textOfName "RS") blockLimit)
    source.check
    modify fun s => { s with sources := (name, source) :: s.sources.filter (·.1 != name) }
    return some record

mutual

def value : Nat → Expr → Run Cell
  | 0, _ => ofExec (throw .waiting)
  | fuel + 1, e => do
    match e with
    | .number n => return .number n
    | .text s => return .text s
    | .pattern r => return .ofBool (r.find? (← get).record.toArray 0).isSome
    | .name s => valueOf s
    | .field place => do fieldOf (← fieldNumber (← value fuel place))
    | .element name key => do entryOf (← tableOf name) (← keyOf (← values fuel key))
    | .assign operator target e =>
      let c ← value fuel e
      let c ← match operator with
        | none => pure c
        | some operator =>
          pure (.number (operator.apply (← value fuel target).toNumber c.toNumber))
      assign fuel target c
      return c
    | .step up first target =>
      let before := (← value fuel target).toNumber
      let after := before.add (.ofInt (if up then 1 else -1))
      assign fuel target (.number after)
      return .number (if first then after else before)
    | .binary operator a b =>
      let first ← value fuel a
      match operator with
      | .and => if first.isTrue then return .ofBool (← value fuel b).isTrue else return .ofBool false
      | .or => if first.isTrue then return .ofBool true else return .ofBool (← value fuel b).isTrue
      | operator =>
        let second ← value fuel b
        match operator with
        | .join => return .text ((← textOf first) ++ (← textOf second))
        | .less | .lessEqual | .equal | .notEqual | .greater | .greaterEqual =>
          return .ofBool (operator.holds (first.compare? (← textOfName "CONVFMT") second))
        | operator => return .number (operator.apply first.toNumber second.toNumber)
    | .negate e => return .number (← value fuel e).toNumber.neg
    | .plus e => return .number (← value fuel e).toNumber
    | .not e => return .ofBool !(← value fuel e).isTrue
    | .choose condition yes no =>
      if (← value fuel condition).isTrue then value fuel yes else value fuel no
    | .fits negated e pattern =>
      let s ← textOf (← value fuel e)
      let r ← patternOfExpr fuel pattern
      return .ofBool ((r.find? s.toArray 0).isSome != negated)
    | .member key name =>
      let number ← tableOf name
      let key ← keyOf (← values fuel key)
      return .ofBool ((((← get).tables[number]?).getD {}).get? key).isSome
    | .call name arguments => call fuel name arguments
    | .builtin name arguments => callBuiltin fuel name arguments
    | .readLine target =>
      match ← takeMain 10000 with
      | none => return .ofNat 0
      | some record =>
        countUp "NR"
        countUp "FNR"
        receive fuel target record
        return .ofNat 1
    | .readFile target name =>
      let name ← textOf (← value fuel name)
      match ← takeFrom name (do return (← openSource? name).toOption) with
      | none => return .number (.ofInt (-1))
      | some none => return .ofNat 0
      | some (some record) =>
        receive fuel target record
        return .ofNat 1
    | .readCommand target text =>
      let text ← textOf (← value fuel text)
      let make : Run (Option Source) := do
        let (status, rest) ← runCommand x none true text
        return some { rest, status }
      match ← takeFrom text make with
      | some (some record) =>
        if target.isNone then countUp "NR"
        receive fuel target record
        return .ofNat 1
      | _ => return .ofNat 0
    | .grouped [e] => value fuel e
    | .grouped items => return .text (match ← keyOf (← values fuel items) with
      | .text s => s
      | .whole n => wholeText n)

def values : Nat → List Expr → Run (List Cell)
  | 0, _ => ofExec (throw .waiting)
  | _ + 1, [] => return []
  | fuel + 1, e :: rest => do
    let c ← value fuel e
    return c :: (← values fuel rest)

/-- Gives a record to a place, or makes it the record at hand. -/
def receive : Nat → Option Expr → List Char → Run Unit
  | 0, _, _ => ofExec (throw .waiting)
  | _ + 1, none, record => setRecord record
  | fuel + 1, some target, record => assign fuel target (.ofInput record)

def assign : Nat → Expr → Cell → Run Unit
  | 0, _, _ => ofExec (throw .waiting)
  | fuel + 1, target, c => do
    match target with
    | .name s => setName s c
    | .field place => do setField (← fieldNumber (← value fuel place)) c
    | .element name key =>
      let number ← tableOf name
      let key ← keyOf (← values fuel key)
      modifyTable number (·.put key c)
    | .grouped [e] => assign fuel e c
    | _ => return ()

/-- The pattern that an expression is, or that its text stands for. -/
def patternOfExpr : Nat → Expr → Run Regex
  | 0, _ => ofExec (throw .waiting)
  | fuel + 1, e => do
    match e with
    | .pattern r => return r
    | e => return patternOf (← textOf (← value fuel e))

/-- What a parameter stands for: a table goes over as it is. -/
def handOver : Nat → Option Expr → Run Binding
  | 0, _ => ofExec (throw .waiting)
  | _ + 1, none => return .cell .unset
  | fuel + 1, some e => do
    match e with
    | .name s =>
      match ← valueOf s with
      | .unset => return .table (← tableOf s)
      | c => return .cell c
    | e => return .cell (← value fuel e)

def call : Nat → String → List Expr → Run Cell
  | 0, _, _ => ofExec (throw .waiting)
  | fuel + 1, name, arguments => do
    match x.program.functions.lookup name with
    | none => return .unset
    | some f =>
      if callLimit ≤ (← get).calls then
        stopWith "program limit exceeded: eval stack size=1024".toList
      let given ← bindings fuel f.parameters arguments
      let before := (← get).locals
      modify fun s => { s with locals := given, calls := s.calls + 1 }
      let answer ← try
          run fuel f.body
          pure Cell.unset
        catch
          | .answer c => pure c
          | jump => throw jump
      modify fun s => { s with locals := before, calls := s.calls - 1 }
      return answer

/-- What parameters stand for in a call. -/
def bindings : Nat → List String → List Expr → Run (Named Binding)
  | 0, _, _ => ofExec (throw .waiting)
  | _ + 1, [], _ => return []
  | fuel + 1, name :: names, arguments => do
    let b ← handOver fuel arguments.head?
    return (name, b) :: (← bindings fuel names arguments.tail)

def callBuiltin : Nat → String → List Expr → Run Cell
  | 0, _, _ => ofExec (throw .waiting)
  | fuel + 1, name, arguments => do
    match name, arguments with
    | "length", [] => return .ofNat (← get).record.length
    | "length", [.name s] =>
      match ← valueOf s with
      | .unset => return .ofNat (((← get).tables[(← tableOf s)]?).getD {}).size
      | c => return .ofNat (← textOf c).length
    | "length", e :: _ => return .ofNat (← textOf (← value fuel e)).length
    | "split", e :: .name s :: rest =>
      let text ← textOf (← value fuel e)
      let separator ← match rest with
        | [] => pure (Separator.ofText (← textOfName "FS"))
        | .pattern r :: _ => pure (.pattern r)
        | e :: _ => pure (Separator.ofText (← textOf (← value fuel e)))
      let pieces := separator.split text
      modifyTable (← tableOf s) fun _ => .ofList (pieces.map Cell.ofInput)
      return .ofNat pieces.length
    | "match", e :: pattern :: _ =>
      let text ← textOf (← value fuel e)
      let r ← patternOfExpr fuel pattern
      let (start, length) := match r.find? text.toArray 0 with
        | some m => ((m.start : Int) + 1, (m.stop - m.start : Int))
        | none => (0, -1)
      setName "RSTART" (.number (.ofInt start))
      setName "RLENGTH" (.number (.ofInt length))
      return .number (.ofInt start)
    | "sub", pattern :: new :: rest | "gsub", pattern :: new :: rest =>
      let target := rest.headD (.field (.number (.ofInt 0)))
      let r ← patternOfExpr fuel pattern
      let new ← textOf (← value fuel new)
      let text ← textOf (← value fuel target)
      let (text, count) := substitute r new (name = "gsub") text.toArray (2 * text.length + 2) 0 none
      if count != 0 then assign fuel target (.text text)
      return .ofNat count
    | "sprintf", arguments => return .text (← formatted "sprintf" (← values fuel arguments))
    | "system", e :: _ =>
      let (status, _) ← runCommand x none false (← textOf (← value fuel e))
      return .ofNat status
    | "close", e :: _ => do close x (← textOf (← value fuel e))
    | "fflush", arguments =>
      let _ ← values fuel arguments
      flushAll
      return .ofNat 0
    | name, arguments => plainCall name (← values fuel arguments)

def run : Nat → List Statement → Run Unit
  | 0, _ => ofExec (throw .waiting)
  | _ + 1, [] => return ()
  | fuel + 1, statement :: rest => do
    perform fuel statement
    run fuel rest

def perform : Nat → Statement → Run Unit
  | 0, _ => ofExec (throw .waiting)
  | fuel + 1, statement => do
    spendStep
    match statement with
    | .expression e =>
      let _ ← value fuel e
    | .print items output =>
      let text ← match items with
        | [] => pure (← get).record
        | items =>
          let format ← textOfName "OFMT"
          let texts := (← values fuel items).map (Cell.toText format)
          pure (List.intercalate (← textOfName "OFS") texts)
      emit fuel output (text ++ (← textOfName "ORS"))
    | .format items output =>
      let text ← formatted "printf" (← values fuel items)
      emit fuel output text
    | .branch condition yes no =>
      if (← value fuel condition).isTrue then run fuel yes else run fuel no
    | .loop condition body => repeatWhile fuel (some condition) [] body
    | .repeatLoop body condition =>
      if ← around fuel body then repeatWhile fuel (some condition) [] body
    | .count start condition next body =>
      run fuel start
      repeatWhile fuel condition next body
    | .each name array body =>
      let number ← tableOf array
      let keys := (((← get).tables[number]?).getD {}).keys
      forEach fuel name keys body
    | .block body => run fuel body
    | .next => throw .next
    | .nextFile => throw .nextFile
    | .exit status =>
      match status with
      | some e =>
        let c ← value fuel e
        modify fun s => { s with status := ((clamped c.toNumber).emod 256).toNat }
      | none => pure ()
      throw .exit
    | .answer e =>
      match e with
      | some e => throw (.answer (← value fuel e))
      | none => throw (.answer .unset)
    | .leave => throw .leave
    | .goOn => throw .goOn
    | .delete name key =>
      let number ← tableOf name
      match key with
      | [] => modifyTable number fun _ => {}
      | key =>
        let key ← keyOf (← values fuel key)
        modifyTable number (·.erase key)

/-- Runs the body of a loop once; the flag tells whether the loop goes on. -/
def around : Nat → List Statement → Run Bool
  | 0, _ => ofExec (throw .waiting)
  | fuel + 1, body => do
    try
      run fuel body
      return true
    catch
      | .leave => return false
      | .goOn => return true
      | jump => throw jump

def repeatWhile : Nat → Option Expr → (next body : List Statement) → Run Unit
  | 0, _, _, _ => ofExec (throw .waiting)
  | fuel + 1, condition, next, body => do
    spendStep
    let holds ← match condition with
      | some e => do pure (← value fuel e).isTrue
      | none => pure true
    if holds then
      if ← around fuel body then
        run fuel next
        repeatWhile fuel condition next body

def forEach : Nat → String → List (List Char) → List Statement → Run Unit
  | 0, _, _, _ => ofExec (throw .waiting)
  | _ + 1, _, [], _ => return ()
  | fuel + 1, name, key :: keys, body => do
    setName name (.ofInput key)
    if ← around fuel body then forEach fuel name keys body

/-- Prints text to where it belongs. -/
def emit : Nat → Output → List Char → Run Unit
  | 0, _, _ => ofExec (throw .waiting)
  | fuel + 1, output, text => do
    match output with
    | .standard => put text
    | .file kept name => do putFile (← textOf (← value fuel name)) text kept
    | .command e =>
      let make : Run Sink := do
        flushAll
        return { target := .command }
      putSink (← textOf (← value fuel e)) text make

end

/-! ## Rules -/

/-- Runs the action of a rule; without one the record is printed. -/
def act (action : Option (List Statement)) : Run Unit := do
  match action with
  | some body => run x plenty body
  | none => do put ((← get).record ++ (← textOfName "ORS"))

def applyRule (rule : Rule) : Run Unit := do
  match rule.pattern with
  | .start | .stop => return ()
  | .always => act x rule.action
  | .holds e => if (← value x plenty e).isTrue then act x rule.action
  | .range number first last =>
    let inside := (← get).ranges.contains number
    let starts ← if inside then pure true else do pure (← value x plenty first).isTrue
    if starts then
      let ends := (← value x plenty last).isTrue
      let others := (← get).ranges.filter (· != number)
      modify fun s => { s with ranges := if ends then others else number :: others }
      act x rule.action

def applyAll : Nat → Run Unit
  | 0 => return ()
  | fuel + 1 => do
    match ← takeMain 10000 with
    | none => return ()
    | some record =>
      countUp "NR"
      countUp "FNR"
      setRecord record
      try
        x.program.rules.forM (applyRule x)
      catch
        | .next => pure ()
        | .nextFile => modify fun s => { s with main := none }
        | jump => throw jump
      applyAll fuel

def runEdge (isEdge : Pattern → Bool) : Run Unit :=
  x.program.rules.forM fun rule =>
    if isEdge rule.pattern then run x plenty (rule.action.getD []) else return ()

def Pattern.isStart : Pattern → Bool
  | .start => true
  | _ => false

def Pattern.isStop : Pattern → Bool
  | .stop => true
  | _ => false

/-- Goes on after a part that is left, unless it has failed. -/
def untilExit (part : Run Unit) : Run Unit := do
  try part
  catch
    | .fault => throw .fault
    | _ => return ()

def runProgram : Run Unit := do
  untilExit do
    runEdge x Pattern.isStart
    if x.program.rules.any fun rule => !rule.pattern.isStart then applyAll x plenty
  untilExit (runEdge x Pattern.isStop)

/-- Brings everything that was printed to its place in the end. -/
def finish : Run Unit := do
  let sinks := (← get).sinks
  for (name, sink) in sinks.reverse do
    match sink.target with
    | .command => let _ ← close x name
    | _ => pure ()
  flushAll

end Context

end JuliaBlocks.Shell.Awk
