import JuliaBlocks.Number.Arithmetic
import JuliaBlocks.Number.Shortest
import JuliaBlocks.Text.Quoted

/-!
The values that header arguments and variables may have, and the two texts of a value: its
quoted form, which shows texts between quotes at any depth, and its display form, which shows a
text as it is.
-/

namespace JuliaBlocks

/-- An object of any other kind, of which no more is known than how its kind is called and its two
texts: the one that it displays as and the quoted one. -/
structure Foreign where
  kind : String
  shown : String
  quoted : String

/-- A value. A map keeps its entries in order. -/
inductive Value
  | null
  | bool (b : Bool)
  | int (n : Int)
  | float (x : Binary64)
  | text (s : String)
  | list (items : List Value)
  | tuple (items : List Value)
  | set (items : List Value)
  | octets (bytes : List UInt8)
  | map (entries : List (Value × Value))
  | foreign (object : Foreign)
deriving Inhabited

namespace Value

/-- The name of a value's kind in messages. -/
def kindName : Value → String
  | null => "NoneType"
  | bool _ => "bool"
  | int _ => "int"
  | float _ => "float"
  | text _ => "str"
  | list _ => "list"
  | tuple _ => "tuple"
  | set _ => "set"
  | octets _ => "bytes"
  | map _ => "dict"
  | foreign object => object.kind

mutual

/-- The quoted form of a value; there is none when an integer in it has too many digits. -/
def quoted? : Value → Option String
  | null => some "None"
  | bool b => some (if b then "True" else "False")
  | int n => Numeral.render? n
  | float x => some x.render
  | text s => some (Text.quoted s)
  | list items => do return "[" ++ String.intercalate ", " (← quotedItems? items) ++ "]"
  | tuple items => do
    match ← quotedItems? items with
    | [item] => return "(" ++ item ++ ",)"
    | shown => return "(" ++ String.intercalate ", " shown ++ ")"
  | set items => do
    match ← quotedItems? items with
    | [] => return "set()"
    | shown => return "\x7b" ++ String.intercalate ", " shown ++ "\x7d"
  | octets bytes => some (Text.quotedOctets bytes)
  | map entries => do
    return "\x7b" ++ String.intercalate ", " (← quotedEntries? entries) ++ "\x7d"
  | foreign object => some object.quoted

def quotedItems? : List Value → Option (List String)
  | [] => some []
  | v :: rest => do
    let shown ← v.quoted?
    return shown :: (← quotedItems? rest)

def quotedEntries? : List (Value × Value) → Option (List String)
  | [] => some []
  | (k, v) :: rest => do
    let key ← k.quoted?
    let value ← v.quoted?
    return (key ++ ": " ++ value) :: (← quotedEntries? rest)

end

/-- The display form of a value: a text is itself, a foreign value has its own, and any other value
has its quoted form. -/
def display? : Value → Option String
  | text s => some s
  | foreign object => some object.shown
  | v => v.quoted?

/-- The values that a value yields one by one, if it is a collection: the characters of a text,
the numbers of octets, the keys of a map. -/
def items? : Value → Option (List Value)
  | text s => some (s.toList.map fun c => .text c.toString)
  | list items => some items
  | tuple items => some items
  | set items => some items
  | octets bytes => some (bytes.map fun b => .int b.toNat)
  | map entries => some (entries.map (·.1))
  | _ => none

/-- Whether a value counts as nothing given: null, false, a zero, or a collection without
items. -/
def isVoid : Value → Bool
  | null => true
  | bool b => !b
  | int n => n == 0
  | float x => x.isZero
  | text s => s.isEmpty
  | list items => items.isEmpty
  | tuple items => items.isEmpty
  | set items => items.isEmpty
  | octets bytes => bytes.isEmpty
  | map entries => entries.isEmpty
  | foreign _ => false

/-- The text that is there, or null. -/
def ofText? : Option String → Value
  | some s => text s
  | none => null

mutual

/-- The name of the kind that keeps a value from being a key: its own, or that of what a tuple
holds. -/
def unfitKey? : Value → Option String
  | list _ => some "list"
  | set _ => some "set"
  | map _ => some "dict"
  | tuple items => unfitKeys? items
  | _ => none

/-- The first kind among values that keeps them from being keys. -/
def unfitKeys? : List Value → Option String
  | [] => none
  | v :: rest => unfitKey? v <|> unfitKeys? rest

end

/-- The number that a truth value, an integer or a float stands for as a key: exact integers on
the left, all other floats on the right. What is no number stands for none. -/
def keyNumber? : Value → Option (Int ⊕ Binary64)
  | bool b => some (.inl (if b then 1 else 0))
  | int n => some (.inl n)
  | float .nan => none
  | float x => some (match x.toInt? with | some n => .inl n | none => .inr x)
  | _ => none

mutual

/-- Whether two values are one key of a map: equal numbers are, whatever their kinds; a value
that is no number, and a foreign value, is a key of its own. -/
def sameKey : Value → Value → Bool
  | null, null => true
  | text s, text t => s == t
  | octets a, octets b => a == b
  | tuple xs, tuple ys => sameKeys xs ys
  | x, y =>
    match x.keyNumber?, y.keyNumber? with
    | some m, some n => decide (m = n)
    | _, _ => false

/-- Whether two lists of values are pairwise one key. -/
def sameKeys : List Value → List Value → Bool
  | [], [] => true
  | x :: xs, y :: ys => sameKey x y && sameKeys xs ys
  | _, _ => false

end

/-- Sets a key: an entry with the same key keeps its place and its own spelling of the key and
takes the new value; a new key comes last. -/
def putEntry (key value : Value) : List (Value × Value) → List (Value × Value)
  | [] => [(key, value)]
  | (k, v) :: rest =>
    if sameKey k key then (k, value) :: rest else (k, v) :: putEntry key value rest

/-- The map of a list of settings of keys, later ones prevailing. -/
def ofEntries (entries : List (Value × Value)) : Value :=
  .map (entries.foldl (fun m e => putEntry e.1 e.2 m) [])

end Value

/-- Named values in order, each name at most once. -/
abbrev Named (α : Type) := List (String × α)

/-- Sets a name: one that is there keeps its place and takes the new value, a new one comes
last. -/
def Named.put {α : Type} (name : String) (value : α) : Named α → Named α
  | [] => [(name, value)]
  | (n, v) :: rest => if n = name then (n, value) :: rest else (n, v) :: Named.put name value rest

/-- The named values of a list of settings, later ones prevailing. -/
def Named.ofList {α : Type} (settings : List (String × α)) : Named α :=
  settings.foldl (fun m e => Named.put e.1 e.2 m) []

end JuliaBlocks
