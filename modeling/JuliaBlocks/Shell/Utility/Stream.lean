import JuliaBlocks.Shell.Utility.Basic

/-!
Utilities that copy streams: whole, their beginning or their end, or in other orders.
-/

namespace JuliaBlocks.Shell.Utility

/-! ## Copies -/

/-- Copies standard input block by block, as it comes. -/
def copyInput : Nat → Exec (Option (List Char))
  | 0 => return none
  | fuel + 1 => do
    match ← readBlock 0 with
    | .error fault =>
      modifyOwn fun o => { o with unread := true }
      return some fault.message.toList
    | .ok [] => return none
    | .ok text =>
      let _ ← say text
      copyInput fuel

/-- A character in visible notation. -/
def visible (tabs : Bool) (c : Char) : List Char :=
  let below (n : Nat) : List Char :=
    if n < 32 then ['^', Char.ofNat (n + 64)]
    else if n = 127 then ['^', '?']
    else [Char.ofNat n]
  if c = '\n' then [c]
  else if c = '\t' then if tabs then ['^', 'I'] else [c]
  else if c.toNat < 128 then below c.toNat
  else 'M' :: '-' :: below (c.toNat - 128)

/-- How lines are shown when they are copied. -/
structure LineStyle where
  numbers : Bool := false
  numbersFull : Bool := false
  squeezes : Bool := false
  marksEnds : Bool := false
  marksTabs : Bool := false
  marksOthers : Bool := false

/-- Lines in a style, numbered from a number on; `blank` tells that the line before was empty. -/
def LineStyle.render (style : LineStyle) : (number : Nat) → (blank : Bool) → List (List Char) →
    List Char
  | _, _, [] => []
  | number, blank, line :: rest =>
    let empty := line == ['\n']
    if style.squeezes && blank && empty then style.render number true rest
    else
      let counted := if style.numbersFull then !empty else style.numbers
      let front := if counted then padded 6 number ++ ['\t'] else []
      let body := line.flatMap fun c =>
        if c = '\n' then (if style.marksEnds then ['$', '\n'] else ['\n'])
        else if style.marksOthers then visible style.marksTabs c
        else if c = '\t' ∧ style.marksTabs then ['^', 'I'] else [c]
      front ++ body ++ style.render (if counted then number + 1 else number) empty rest

/-- Copies standard input or files to the output. -/
def concatenate : Utility := fun arguments =>
  withOptions { letters := "AbeEnstTuv", long := [("number", 'n'), ("show-all", 'A'),
    ("number-nonblank", 'b'), ("show-ends", 'E'), ("squeeze-blank", 's'), ("show-tabs", 'T'),
    ("show-nonprinting", 'v')] } 1 arguments fun g => do
    let style : LineStyle := {
      numbers := g.has 'n', numbersFull := g.has 'b', squeezes := g.has 's'
      marksEnds := g.has 'E' || g.has 'e' || g.has 'A'
      marksTabs := g.has 'T' || g.has 't' || g.has 'A'
      marksOthers := g.has 'v' || g.has 'e' || g.has 't' || g.has 'A' }
    let styled := g.options.any (·.1 != 'u')
    if styled then
      let (text, status) ← joinedContents g.operands plainly
      let _ ← say (style.render 1 false (linesWithEnds text))
      return status
    (if g.operands.isEmpty then [['-']] else g.operands).foldlM (fun status name => do
      let problem ← if name = ['-'] then copyInput blockLimit
        else match ← contentOf name with
          | .ok text =>
            let _ ← say text
            pure none
          | .error why => pure (some why)
      match problem with
      | some why =>
        report (plainly name why)
        return 1
      | none => return status) 0

/-- Copies standard input to the output and to files, as it comes. -/
def tee : Utility := fun arguments =>
  withOptions { letters := "aip", long := [("append", 'a'), ("ignore-interrupts", 'i')] } 1 arguments
    fun g => do
      let mut names : List (List Char) := []
      let mut status := 0
      for name in g.operands do
        let kept ← if g.has 'a' then contentOf name else pure (.ok [])
        match ← store name (kept.toOption.getD []) with
        | none => names := names ++ [name]
        | some why =>
          report (plainly name why)
          status := 1
      return max status (← copy names blockLimit)
where
  copy (names : List (List Char)) : Nat → Exec Nat
    | 0 => return 0
    | fuel + 1 => do
      match ← readBlock 0 with
      | .error fault =>
        refuseInput "read error" fault
        return 1
      | .ok [] => return 0
      | .ok text =>
        let _ ← say text
        for name in names do
          let before := (← contentOf name).toOption.getD []
          let _ ← store name (before ++ text)
        copy names fuel

/-! ## Beginnings and ends -/

/-- How much is meant: lines or octets, counted from the other end if so marked. -/
structure Amount where
  count : Nat := 10
  octets : Bool := false
  marked : Bool := false

/-- Reads an amount; a mark in front is a minus or a plus sign, as the utility has it. -/
def amount? (mark : Char) (octets : Bool) (s : List Char) : Option Amount :=
  match s with
  | c :: rest =>
    if c = mark then (size? rest).map fun count => { count, octets, marked := true }
    else (size? (if c = '-' ∨ c = '+' then rest else s)).map fun count => { count, octets }
  | [] => none

/-- Old options such as `-5` in their present form. -/
def modernCount : List (List Char) → List (List Char)
  | ('-' :: digits) :: rest =>
    if (natural? digits).isSome then ['-', 'n'] :: digits :: rest else ('-' :: digits) :: rest
  | arguments => arguments

/-- The amount that options give, or the text that is none. -/
def amountOf (mark : Char) (g : Given) : Except (List Char) Amount :=
  match g.options.filter (fun o => o.1 == 'n' || o.1 == 'c') |>.getLast? with
  | none => .ok {}
  | some (letter, text) =>
    match amount? mark (letter == 'c') text with
    | some amount => .ok amount
    | none =>
      .error ((if letter = 'c' then "invalid number of bytes: " else "invalid number of lines: ").toList
        ++ curled text)

/-- Titles between the parts of several files. -/
def title (first : Bool) (name : List Char) : List Char :=
  (if first then [] else ['\n']) ++ "==> ".toList ++
    (if name = ['-'] then "standard input".toList else name) ++ " <==\n".toList

/-- Copies the first lines of standard input, reading no more than is needed for them. -/
def headLines : Nat → Nat → Exec Nat
  | 0, _ => return 0
  | _, 0 => return 0
  | fuel + 1, count => do
    match ← readBlock 0 with
    | .error fault =>
      refuseInput "error reading 'standard input'" fault
      return 1
    | .ok [] => return 0
    | .ok text =>
      let lines := linesWithEnds text
      let _ ← say (lines.take count).flatten
      headLines fuel (count - (lines.filter fun l => l.getLast? == some '\n').length)

/-- Copies the first octets of standard input. -/
def headOctets : Nat → Nat → Exec Nat
  | 0, _ => return 0
  | _, 0 => return 0
  | fuel + 1, count => do
    match ← available 0 with
    | .error fault =>
      refuseInput "error reading 'standard input'" fault
      return 1
    | .ok [] => return 0
    | .ok text =>
      let taken := text.take count
      consume 0 taken.length
      let _ ← say taken
      headOctets fuel (count - taken.length)

def Amount.front (a : Amount) (text : List Char) : List Char :=
  if a.octets then text.take (if a.marked then text.length - a.count else a.count)
  else
    let lines := linesWithEnds text
    (lines.take (if a.marked then lines.length - a.count else a.count)).flatten

/-- The end of a text; a marked amount says where it starts. -/
def Amount.back (a : Amount) (text : List Char) : List Char :=
  if a.octets then text.drop (if a.marked then a.count - 1 else text.length - a.count)
  else
    let lines := linesWithEnds text
    (lines.drop (if a.marked then a.count - 1 else lines.length - a.count)).flatten

/-- Copies parts of files, under titles if there are several. -/
def copyParts (g : Given) (explain : List Char → List Char → List Char)
    (part : List Char → List Char) : Exec Nat := do
  let titled := (1 < g.operands.length && !g.has 'q') || g.has 'v'
  let names := if g.operands.isEmpty then [['-']] else g.operands
  let (status, _) ← names.foldlM (fun (status, first) name => do
    match ← contentOf name with
    | .ok text =>
      if titled then
        let _ ← say (title first name)
      let _ ← say (part text)
      return (status, false)
    | .error why =>
      report (explain name why)
      return (1, first)) (0, true)
  return status

def partOptions : Options :=
  { letters := "c:fn:qvs:F", long := [("lines", 'n'), ("bytes", 'c'), ("quiet", 'q'),
    ("silent", 'q'), ("verbose", 'v'), ("follow", 'f')] }

def head : Utility := fun arguments =>
  withOptions partOptions 1 (modernCount arguments) fun g => do
    match amountOf '-' g with
    | .error message =>
      report message
      return 1
    | .ok amount =>
      if g.operands.isEmpty && !amount.marked && !g.has 'v' then
        return ← if amount.octets then headOctets blockLimit amount.count
          else headLines blockLimit amount.count
      copyParts g openly amount.front

def tail : Utility := fun arguments =>
  let arguments := match arguments with
    | ('+' :: digits) :: rest =>
      if (natural? digits).isSome then ['-', 'n'] :: ('+' :: digits) :: rest
      else ('+' :: digits) :: rest
    | arguments => arguments
  withOptions partOptions 1 (modernCount arguments) fun g => do
    match amountOf '+' g with
    | .error message =>
      report message
      return 1
    | .ok amount =>
      let explain (name why : List Char) : List Char :=
        if name = ['-'] ∧ why = ReadFault.closed.message.toList then
          "cannot fstat 'standard input': ".toList ++ why
        else openly name why
      let status ← copyParts g explain amount.back
      if g.has 'f' || g.has 'F' then throw .waiting
      return status

/-! ## Orders and counts -/

/-- Copies lines from the last to the first. -/
def reverseLines : Utility := fun arguments =>
  withOptions { letters := "brs:" } 1 arguments fun g => do
    let explain (name why : List Char) : List Char :=
      let shown := if name = ['-'] then "'standard input'".toList else name
      if why = "Is a directory".toList then shown ++ ": read error: Invalid argument".toList
      else if name = ['-'] then shown ++ ": read error: ".toList ++ why
      else "failed to open ".toList ++ quoted name ++ " for reading: ".toList ++ why
    withContents g.operands explain fun _ text => do
      let _ ← say (linesWithEnds text).reverse.flatten

/-- Copies lines with their characters from the last to the first. -/
def reverseCharacters : Utility := fun arguments =>
  withOptions {} 1 arguments fun g => do
    let explain (name why : List Char) : List Char :=
      "cannot open ".toList ++ name ++ ": ".toList ++ why
    withContents g.operands explain fun _ text => do
      let turned := (linesWithEnds text).map fun line =>
        let ends := line.getLast? == some '\n'
        let body := if ends then line.dropLast else line
        Octets.narrow (Octets.widen body).reverse ++ (if ends then ['\n'] else [])
      let _ ← say turned.flatten

/-- The counts of a text: line feeds, words, characters, octets and the longest line. -/
def countsOf (text : List Char) : List Nat :=
  let isWhite (c : Char) : Bool := c == ' ' || ('\t' ≤ c && c ≤ '\r')
  let words := ((Text.pieces isWhite text).filter (!·.isEmpty)).length
  let wide := Octets.widen text
  let longest := ((Text.pieces (· == '\n') wide).map (·.length)).foldl max 0
  [text.count '\n', words, (wide.filter (·.toNat < Octets.strayBase)).length, text.length, longest]

/-- Counts lines, words, characters or octets. -/
def count : Utility := fun arguments =>
  withOptions { letters := "clmwL", long := [("bytes", 'c'), ("chars", 'm'), ("lines", 'l'),
    ("words", 'w'), ("max-line-length", 'L')] } 1 arguments fun g => do
    let chosen := [g.has 'l', g.has 'w', g.has 'm', g.has 'c', g.has 'L']
    let chosen := if chosen.any id then chosen else [true, true, false, true, false]
    let select (counts : List Nat) : List Nat := (counts.zip chosen).filterMap fun (n, wanted) =>
      if wanted then some n else none
    let names := if g.operands.isEmpty then [['-']] else g.operands
    let (rows, status) ← names.foldlM (fun (rows, status) name => do
      match ← contentOf name with
      | .ok text => return (rows ++ [(countsOf text, some name)], status)
      | .error why =>
        report (plainlyOr "'standard input'" name why)
        if why = "Is a directory".toList ∨ name = ['-'] then return (rows ++ [([0, 0, 0, 0, 0], some name)], 1)
        return (rows, 1)) (([] : List (List Nat × Option (List Char))), 0)
    let total := rows.foldl (fun sums row => List.zipWith (· + ·) sums row.1) [0, 0, 0, 0, 0]
    let longest := rows.foldl (fun n row => max n (row.1.getLastD 0)) 0
    let rows := if 1 < names.length then
        rows ++ [(total.dropLast ++ [longest], some "total".toList)]
      else rows
    let input := match ← description? 0 with
      | none | some (_, { endpoint := .file _, .. }) => 1
      | _ => 7
    let least := if names.contains ['-'] then input else 1
    let width :=
      if (chosen.filter id).length = 1 ∧ names.length = 1 then 1
      else max least (numeral (total.getD 3 0 : Nat)).length
    for (counts, name) in rows do
      let label := if g.operands.isEmpty then [] else match name with
        | some name => ' ' :: name
        | none => []
      let _ ← say (List.intercalate [' '] ((select counts).map fun (n : Nat) => padded width n) ++ label ++
        ['\n'])
    return status

/-- Prints a line over and over. -/
def affirm : Utility := fun arguments => do
  let line := List.intercalate [' '] (if arguments.isEmpty then [['y']] else arguments) ++ ['\n']
  let block := (List.replicate (8192 / line.length + 1) line).flatten
  go block 1000
where
  go (block : List Char) : Nat → Exec Nat
    | 0 => throw .waiting
    | fuel + 1 => do
      if ← say block then go block fuel else return 1

end JuliaBlocks.Shell.Utility
