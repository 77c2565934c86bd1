import JuliaBlocks.Text.Utf8

/-!
Octets as characters. Shell scripts and the data they handle are octets; here each octet is the
character with its number, so that scripts can be read by character. Where characters count, octets
are widened to the characters they are the UTF-8 form of.
-/

namespace JuliaBlocks.Octets

/-- Octets as characters. -/
def ofBytes (bytes : List UInt8) : List Char :=
  bytes.map fun b => Char.ofNat b.toNat

/-- The octets that characters stand for. -/
def toBytes (cs : List Char) : List UInt8 :=
  cs.map fun c => UInt8.ofNat c.toNat

def ofText (s : String) : List Char :=
  ofBytes (Text.Utf8.encode s)

def toText (cs : List Char) : String :=
  String.ofList (Text.Utf8.decode (toBytes cs))

/-- Octets that belong to no character are characters from this one on. -/
def strayBase : Nat := 0x10FE00

/-- Whether an octet continues a character. -/
def continues (c : Char) : Bool := 0x80 ≤ c.toNat && c.toNat < 0xC0

/-- The number in the low six bits of continuing octets after a beginning. -/
def combine (start : Nat) (rest : List Char) : Nat :=
  rest.foldl (fun n c => n * 64 + (c.toNat - 0x80)) start

/-- The character at the front with the number of its octets, if octets are one there. -/
def front? (s : List Char) : Option (Char × Nat) :=
  let take (count start least : Nat) : Option (Char × Nat) :=
    let rest := (s.drop 1).take count
    let n := combine start rest
    if rest.length = count && rest.all continues && least ≤ n && n < strayBase &&
        !(0xD800 ≤ n && n < 0xE000) then some (Char.ofNat n, count + 1)
    else none
  match s with
  | [] => none
  | c :: _ =>
    let n := c.toNat
    if n < 0x80 then some (c, 1)
    else if n < 0xC0 then none
    else if n < 0xE0 then take 1 (n - 0xC0) 0x80
    else if n < 0xF0 then take 2 (n - 0xE0) 0x800
    else if n < 0xF8 then take 3 (n - 0xF0) 0x10000
    else none

/-- Widens octets, with fuel for each. -/
def widenFrom : Nat → List Char → List Char
  | 0, _ => []
  | _, [] => []
  | fuel + 1, c :: rest =>
    match front? (c :: rest) with
    | some (d, count) => d :: widenFrom fuel (rest.drop (count - 1))
    | none => Char.ofNat (strayBase + c.toNat) :: widenFrom fuel rest

/-- The characters that octets are the form of; an octet that belongs to none is a character of its
own. -/
def widen (s : List Char) : List Char :=
  if s.all (·.toNat < 0x80) then s else widenFrom s.length s

def narrow (s : List Char) : List Char :=
  if s.all (·.toNat < 0x80) then s
  else s.flatMap fun c =>
    if strayBase ≤ c.toNat ∧ c.toNat < strayBase + 256 then [Char.ofNat (c.toNat - strayBase)]
    else ofText (String.singleton c)

end JuliaBlocks.Octets
