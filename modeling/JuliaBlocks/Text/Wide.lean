import JuliaBlocks.Text.Utf8

/-!
Texts that may hold halves of surrogate pairs, as escapes in JSON can write them. They are lists of
code points; without halves they are plain texts.
-/

namespace JuliaBlocks

/-- The code points of a text, halves of surrogate pairs among them. -/
abbrev WideText := List Nat

namespace WideText

def isHighHalf (n : Nat) : Bool := 0xD800 ≤ n && n < 0xDC00

def isLowHalf (n : Nat) : Bool := 0xDC00 ≤ n && n < 0xE000

def isHalf (n : Nat) : Bool := isHighHalf n || isLowHalf n

def ofString (s : String) : WideText :=
  s.toList.map Char.toNat

/-- The plain text that a text without halves is. -/
def toString? (s : WideText) : Option String :=
  if s.any isHalf then none else some (String.ofList (s.map Char.ofNat))

end WideText

end JuliaBlocks
