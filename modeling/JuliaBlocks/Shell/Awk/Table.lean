import JuliaBlocks.Shell.Awk.Cell

/-!
Arrays from texts to values. A table is gone through shelf by shelf; a text has its shelf by a sum
over its octets, and within a shelf the text that was looked up last stands first. Whole numbers that
serve as keys are put on shelves no sooner than that matters.
-/

namespace JuliaBlocks.Shell.Awk

/-- A key: a text, or a whole number that stands for the text of it. -/
inductive Key
  | text (s : List Char)
  | whole (n : Int)
deriving DecidableEq

/-- A table: the entries on shelves, and those whose keys are known as numbers alone, each with what
was looked up last in front. -/
structure Table where
  shelved : List (List Char × Cell) := []
  loose : List (Int × Cell) := []
deriving Inhabited

def shelfCount : Nat := 64

/-- The shelf of a text: its octets are mixed into a number of 32 bits. -/
def shelf (s : List Char) : Nat :=
  s.foldl (fun n c => (n ^^^ c.toNat) * 16777619 % 4294967296) 2166136261 % shelfCount

def wholeText (n : Int) : List Char :=
  (Numeral.render n).toList

namespace Table

def size (t : Table) : Nat :=
  t.shelved.length + t.loose.length

def putAway (t : Table) : Table :=
  let order := (List.range shelfCount).flatMap fun i =>
    t.loose.filter fun (n, _) => (n.emod shelfCount).toNat == i
  { shelved := order.foldl (fun shelved (n, c) => (wholeText n, c) :: shelved) t.shelved }

def get? (t : Table) : Key → Option Cell
  | .text s => t.putAway.shelved.lookup s
  | .whole n => (t.loose.lookup n).orElse fun _ => t.shelved.lookup (wholeText n)

def put (t : Table) (key : Key) (c : Cell) : Table :=
  match key with
  | .text s =>
    let t := t.putAway
    { t with shelved := (s, c) :: t.shelved.filter (·.1 != s) }
  | .whole n =>
    let s := wholeText n
    if (t.shelved.lookup s).isSome then
      { t with shelved := t.shelved.map fun (k, old) => if k == s then (k, c) else (k, old) }
    else { t with loose := (n, c) :: t.loose.filter (·.1 != n) }

def erase (t : Table) (key : Key) : Table :=
  match key with
  | .text s =>
    let t := t.putAway
    { t with shelved := t.shelved.filter (·.1 != s) }
  | .whole n =>
    { shelved := t.shelved.filter (·.1 != wholeText n), loose := t.loose.filter (·.1 != n) }

/-- The keys in the order in which a table is gone through. -/
def keys (t : Table) : List (List Char) :=
  let shelved := t.putAway.shelved.map fun (s, _) => (shelf s, s)
  (List.range shelfCount).flatMap fun i =>
    shelved.filterMap fun (j, s) => if i = j then some s else none

/-- The table of a list, from one on. -/
def ofList (cells : List Cell) : Table :=
  { loose := (cells.zipIdx.map fun (c, i) => ((i : Int) + 1, c)).reverse }

end Table

def Cell.toKey (format : List Char) : Cell → Key
  | .number x =>
    match x.toInt? with
    | some n => if n.natAbs < 2147483648 then .whole n else .text (numberText format x)
    | none => .text (numberText format x)
  | c => .text (c.toText format)

end JuliaBlocks.Shell.Awk
