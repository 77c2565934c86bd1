/-!
UTF-8, read without failing. Octets that are no UTF-8 become U+FFFD, one for each maximal
subpart: a lead octet with the continuation octets that could still follow it.
-/

namespace JuliaBlocks.Text.Utf8

def encode (s : String) : List UInt8 :=
  s.toUTF8.toList

/-- A started sequence: how many octets are owed, the least and greatest value the next one may
have, and the bits read so far. -/
structure Pending where
  owed : Nat
  low : Nat
  high : Nat
  bits : Nat
deriving Repr, DecidableEq

/-- What a first octet starts: a character of its own, a sequence, or nothing. -/
inductive Lead
  | character (c : Char)
  | sequence (p : Pending)
  | invalid

/-- The bounds on the second octet rule out overlong forms, surrogates and values beyond
U+10FFFF. -/
def lead (octet : UInt8) : Lead :=
  let b := octet.toNat
  if b < 0x80 then .character (Char.ofNat b)
  else if b < 0xC2 then .invalid
  else if b < 0xE0 then .sequence ⟨1, 0x80, 0xBF, b - 0xC0⟩
  else if b = 0xE0 then .sequence ⟨2, 0xA0, 0xBF, 0⟩
  else if b = 0xED then .sequence ⟨2, 0x80, 0x9F, 0xD⟩
  else if b < 0xF0 then .sequence ⟨2, 0x80, 0xBF, b - 0xE0⟩
  else if b = 0xF0 then .sequence ⟨3, 0x90, 0xBF, 0⟩
  else if b < 0xF4 then .sequence ⟨3, 0x80, 0xBF, b - 0xF0⟩
  else if b = 0xF4 then .sequence ⟨3, 0x80, 0x8F, 4⟩
  else .invalid

def replacement : Char := Char.ofNat 0xFFFD

/-- Starts afresh at an octet: what it yields at once, and what it leaves pending. -/
def start (octet : UInt8) : List Char × Option Pending :=
  match lead octet with
  | .character c => ([c], none)
  | .sequence p => ([], some p)
  | .invalid => ([replacement], none)

/-- Takes one octet after a pending sequence: it continues the sequence, completes it, or
breaks it and starts afresh. -/
def advance (p : Pending) (octet : UInt8) : List Char × Option Pending :=
  let b := octet.toNat
  if p.low ≤ b ∧ b ≤ p.high then
    let bits := p.bits * 64 + (b - 0x80)
    if p.owed = 1 then ([Char.ofNat bits], none)
    else ([], some ⟨p.owed - 1, 0x80, 0xBF, bits⟩)
  else
    let (made, next) := start octet
    (replacement :: made, next)

/-- Reads octets after what is pending; a sequence that the end cuts short is replaced. -/
def decodeFrom : Option Pending → List UInt8 → List Char
  | none, [] => []
  | some _, [] => [replacement]
  | none, b :: rest =>
    let (made, next) := start b
    made ++ decodeFrom next rest
  | some p, b :: rest =>
    let (made, next) := advance p b
    made ++ decodeFrom next rest

/-- The text of any octets. -/
def decode (octets : List UInt8) : List Char :=
  decodeFrom none octets

def validFrom : Option Pending → List UInt8 → Bool
  | pending, [] => pending.isNone
  | none, b :: rest =>
    match lead b with
    | .character _ => validFrom none rest
    | .sequence p => validFrom (some p) rest
    | .invalid => false
  | some p, b :: rest =>
    decide (p.low ≤ b.toNat ∧ b.toNat ≤ p.high) &&
      validFrom (if p.owed = 1 then none else (advance p b).2) rest

/-- The text of octets that are UTF-8 throughout. -/
def decode? (octets : List UInt8) : Option String :=
  if validFrom none octets then some (String.ofList (decode octets)) else none

end JuliaBlocks.Text.Utf8
