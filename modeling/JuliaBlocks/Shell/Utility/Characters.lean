import JuliaBlocks.Shell.Format
import JuliaBlocks.Shell.Glob
import JuliaBlocks.Shell.Utility.Basic

/-!
Utilities on characters and octets: replacing them, and showing octets as numbers.
-/

namespace JuliaBlocks.Shell.Utility

/-! ## Sets of characters -/

/-- An item of a set of characters: some characters, or one that fills the set up to a length, or up
to the length of the other set. -/
inductive SetItem
  | characters (cs : List Char)
  | filling (c : Char) (count : Option Nat)

def classCharacters (name : String) : List Char :=
  ((List.range 256).map Char.ofNat).filter fun c => (isOfClass? name c).getD false

/-- The character at the front of a set, escapes replaced, and what follows it. -/
def takeSetCharacter (s : List Char) : Option (Char × List Char) :=
  match s with
  | [] => none
  | ['\\'] => some ('\\', [])
  | '\\' :: c :: rest =>
    if Format.isOctal c then some (Format.takeEscape (c :: rest))
    else some ((Format.named? c).getD c, rest)
  | c :: rest => some (c, rest)

def takeItems : Nat → List Char → List SetItem
  | 0, _ => []
  | fuel + 1, s =>
    let plain : List SetItem :=
      match takeSetCharacter s with
      | none => []
      | some (c, '-' :: rest) =>
        match takeSetCharacter rest with
        | some (d, after) =>
          .characters ((List.range (d.toNat + 1 - c.toNat)).map fun i => Char.ofNat (c.toNat + i)) ::
            takeItems fuel after
        | none => [.characters [c, '-']]
      | some (c, rest) => .characters [c] :: takeItems fuel rest
    match s with
    | '[' :: ':' :: rest =>
      let name := rest.takeWhile (· != ':')
      match rest.drop name.length with
      | ':' :: ']' :: after => .characters (classCharacters (String.ofList name)) :: takeItems fuel after
      | _ => plain
    | '[' :: '=' :: c :: '=' :: ']' :: after => .characters [c] :: takeItems fuel after
    | '[' :: c :: '*' :: rest =>
      let digits := rest.takeWhile Char.isDigit
      match rest.drop digits.length with
      | ']' :: after =>
        let count := if digits.head? = some '0' then
            some (digits.foldl (fun n d => n * 8 + (d.toNat - 48)) 0)
          else natural? digits
        .filling c (if count = some 0 then none else count) :: takeItems fuel after
      | _ => plain
    | _ => plain

/-- The characters of items; the open one fills up to a length. -/
def expandItems (length : Nat) (items : List SetItem) : List Char :=
  let fixed := items.foldl (fun n item =>
    match item with
    | .characters cs => n + cs.length
    | .filling _ count => n + count.getD 0) 0
  items.flatMap fun
    | .characters cs => cs
    | .filling c count => List.replicate (count.getD (length - fixed)) c

/-- Replaces or drops characters. -/
def translate : Utility := fun arguments =>
  withOptions { letters := "cCdst", long := [("complement", 'c'), ("delete", 'd'),
    ("squeeze-repeats", 's'), ("truncate-set1", 't')], ordered := true } 1 arguments fun g => do
    let help : Exec Nat := do
      complain ("Try '".toList ++ (← own).name ++ " --help' for more information.\n".toList)
      return 1
    let complemented := g.has 'c' || g.has 'C'
    match g.operands with
    | [] =>
      report "missing operand".toList
      help
    | _ :: _ :: extra :: _ =>
      report ("extra operand ".toList ++ curled extra)
      help
    | first :: others =>
      if others.isEmpty && !g.has 'd' && !g.has 's' then
        report ("missing operand after ".toList ++ curled first)
        complain "Two strings must be given when translating.\n".toList
        return ← help
      if others.isEmpty && g.has 'd' && g.has 's' then
        report ("missing operand after ".toList ++ curled first)
        complain "Two strings must be given when both deleting and squeezing repeats.\n".toList
        return ← help
      let given := expandItems 0 (takeItems (first.length + 1) first)
      let old := if complemented then
          ((List.range 256).map Char.ofNat).filter fun c => !given.contains c
        else given
      let second := others.headD []
      let new := expandItems old.length (takeItems (second.length + 1) second)
      let new := if g.has 't' then new
        else new ++ List.replicate (old.length - new.length) (new.getLastD 'x')
      if !others.isEmpty && !g.has 'd' && new.isEmpty && !old.isEmpty then
        report "when not truncating set1, string2 must be non-empty".toList
        return 1
      let text ← match ← readAll 0 with
        | .ok text => pure text
        | .error fault =>
          refuseInput "read error" fault
          return 1
      let table := (old.zip new).reverse
      let translating := !others.isEmpty && !g.has 'd'
      let text :=
        if g.has 'd' then text.filter fun c => !old.contains c
        else if translating then text.map fun c => (table.lookup c).getD c
        else text
      let squeezed := if others.isEmpty then old else new
      let _ ← say (if g.has 's' then squeeze squeezed text else text)
      return 0
where
  /-- A text with each run of a character of a set as one. -/
  squeeze (set : List Char) : List Char → List Char
    | a :: b :: rest =>
      if a = b ∧ set.contains a then squeeze set (b :: rest) else a :: squeeze set (b :: rest)
    | s => s

/-! ## Octets as numbers -/

/-- How octets are shown: as characters, as names, or as numbers of a base and of so many octets. -/
inductive DumpFormat
  | characters
  | names
  | number (base size : Nat) (signed : Bool)
deriving DecidableEq

/-- Digits of a number in a base, with zeros in front. -/
def digitsIn (base width n : Nat) : List Char :=
  let digits := Nat.toDigits base n
  List.replicate (width - digits.length) '0' ++ digits

/-- The most digits of a number of so many octets in a base. -/
def digitsOf (base size : Nat) : Nat :=
  (Nat.toDigits base ((1 <<< (8 * size)) - 1)).length

def dumpCharacter (c : Char) : List Char :=
  match c with
  | '\x00' => ['\\', '0']
  | '\x07' => ['\\', 'a']
  | '\x08' => ['\\', 'b']
  | '\t' => ['\\', 't']
  | '\n' => ['\\', 'n']
  | '\x0b' => ['\\', 'v']
  | '\x0c' => ['\\', 'f']
  | '\r' => ['\\', 'r']
  | c => if 32 ≤ c.toNat ∧ c.toNat < 127 then [c] else digitsIn 8 3 c.toNat

def controlNames : List String :=
  ["nul", "soh", "stx", "etx", "eot", "enq", "ack", "bel", "bs", "ht", "nl", "vt", "ff", "cr", "so",
    "si", "dle", "dc1", "dc2", "dc3", "dc4", "nak", "syn", "etb", "can", "em", "sub", "esc", "fs",
    "gs", "rs", "us", "sp"]

/-- The width of an item in a format, the blank before it included. -/
def DumpFormat.width : DumpFormat → Nat
  | characters | names => 4
  | number base size signed => 1 + digitsOf base size + (if signed then 1 else 0)

def DumpFormat.size : DumpFormat → Nat
  | characters | names => 1
  | number _ size _ => size

/-- The octets of a line as items of a format. -/
def DumpFormat.items (f : DumpFormat) : Nat → List Char → List (List Char)
  | 0, _ => []
  | _, [] => []
  | fuel + 1, s =>
    let front := s.take f.size
    let n := front.reverse.foldl (fun n c => n * 256 + c.toNat) 0
    let item := match f with
      | characters => dumpCharacter (front.headD ' ')
      | names =>
        let n := n % 128
        if n = 127 then "del".toList else ((controlNames[n]?).map String.toList).getD [Char.ofNat n]
      | number base size signed =>
        if signed then
          let top := 1 <<< (8 * size - 1)
          numeral (if n < top then (n : Int) else (n : Int) - 2 * top)
        else if base = 10 then numeral n
        else digitsIn base (digitsOf base size) n
    item :: f.items fuel (s.drop f.size)

/-- Reads types such as `x1c`. -/
def dumpFormats : Nat → List Char → List DumpFormat
  | 0, _ => []
  | _, [] => []
  | fuel + 1, c :: rest =>
    let sized (base : Nat) (signed : Bool) : List DumpFormat :=
      let size := match rest.head? with
        | some d => if d.isDigit then d.toNat - 48 else
            match d with
            | 'C' => 1
            | 'S' => 2
            | 'L' => 8
            | _ => 4
        | none => 4
      let after := rest.dropWhile fun d => d.isDigit || d == 'C' || d == 'S' || d == 'I' || d == 'L'
      .number base (if size = 0 then 4 else size) signed :: dumpFormats fuel after
    match c with
    | 'c' => .characters :: dumpFormats fuel rest
    | 'a' => .names :: dumpFormats fuel rest
    | 'x' => sized 16 false
    | 'o' => sized 8 false
    | 'u' => sized 10 false
    | 'd' => sized 10 true
    | _ => dumpFormats fuel rest

/-- Octets in blocks of sixteen. -/
def blocksOf : Nat → List Char → List (List Char)
  | 0, _ => []
  | _, [] => []
  | fuel + 1, s => s.take 16 :: blocksOf fuel (s.drop 16)

def dump : Utility := fun arguments =>
  withOptions { letters := "A:t:cxbdosvN:j:w:i", long := [("address-radix", 'A'), ("format", 't'),
    ("read-bytes", 'N'), ("skip-bytes", 'j')] } 1 arguments fun g => do
    let (text, status) ← joinedContents g.operands (plainlyOr "'standard input'")
    let text := text.drop (((g.argument? 'j').bind size?).getD 0)
    let text := match (g.argument? 'N').bind size? with
      | some n => text.take n
      | none => text
    let formats := g.options.flatMap fun (letter, argument) =>
      match letter with
      | 't' => dumpFormats (argument.length + 1) argument
      | 'c' => [.characters]
      | 'x' => [.number 16 2 false]
      | 'b' => [.number 8 1 false]
      | 'd' => [.number 10 2 false]
      | 'o' => [.number 8 2 false]
      | 's' => [.number 10 2 true]
      | 'i' => [.number 10 4 true]
      | _ => []
    let formats := if formats.isEmpty then [.number 8 2 false] else formats
    let perOctet := formats.foldl (fun w f => max w ((f.width + f.size - 1) / f.size)) 0
    let address (n : Nat) : List Char :=
      match g.argument? 'A' with
      | some ['n'] => []
      | some ['d'] => digitsIn 10 7 n
      | some ['x'] => digitsIn 16 6 n
      | _ => digitsIn 8 7 n
    let blank := List.replicate (address 0).length ' '
    let row (at' : Nat) (block : List Char) : List Char :=
      (formats.zipIdx.flatMap fun (f, i) =>
        let field := if formats.length = 1 then f.width else perOctet * f.size
        (if i = 0 then address at' else blank) ++
          ((f.items (block.length + 1) block).flatMap fun item =>
            List.replicate (field - item.length) ' ' ++ item) ++ ['\n'])
    let (shown, _, _, _) := (blocksOf (text.length + 1) text).foldl
      (fun (done, at', before, starred) block =>
        if before = some block ∧ block.length = 16 ∧ !g.has 'v' then
          (if starred then done else ['*', '\n'] :: done, at' + 16, before, true)
        else (row at' block :: done, at' + block.length, some block, false))
      (([] : List (List Char)), 0, (none : Option (List Char)), false)
    let last := address text.length
    let _ ← say (shown.reverse.flatten ++ (if last.isEmpty then [] else last ++ ['\n']))
    return status

end JuliaBlocks.Shell.Utility
