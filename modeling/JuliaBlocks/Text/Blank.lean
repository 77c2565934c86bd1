/-!
Blank characters and the cutting of text around them. White space is the Unicode
property; blank text also admits the four information separators U+001C to U+001F.
Texts are lists of characters here, so that each function is one recursion on its input.
-/

namespace JuliaBlocks.Text

/-- The characters with the Unicode property `White_Space`. -/
def isSpace (c : Char) : Bool :=
  let n := c.toNat
  (9 ≤ n && n ≤ 13) || n == 0x20 || n == 0x85 || n == 0xA0 || n == 0x1680 ||
    (0x2000 ≤ n && n ≤ 0x200A) || n == 0x2028 || n == 0x2029 || n == 0x202F ||
    n == 0x205F || n == 0x3000

/-- White space, or an information separator. -/
def isBlank (c : Char) : Bool :=
  isSpace c || (0x1C ≤ c.toNat && c.toNat ≤ 0x1F)

/-- The text without the characters of class `p` at its end. -/
def dropEndWhile (p : Char → Bool) (s : List Char) : List Char :=
  s.foldr (fun c rest => if p c && rest.isEmpty then [] else c :: rest) []

/-- The text without the characters of class `p` at either end. -/
def stripWhile (p : Char → Bool) (s : List Char) : List Char :=
  dropEndWhile p (s.dropWhile p)

def trim (s : String) : String :=
  String.ofList (stripWhile isBlank s.toList)

/-- Octets without ASCII white space at either end. -/
def trimOctets (octets : List UInt8) : List UInt8 :=
  let isSpace (b : UInt8) : Bool := b == 32 || (9 ≤ b && b ≤ 13)
  ((octets.dropWhile isSpace).reverse.dropWhile isSpace).reverse

def isBlankText (s : String) : Bool :=
  s.toList.all isBlank

/-- The pieces between the characters of class `p`; there is one more piece than separators. -/
def pieces (p : Char → Bool) : List Char → List (List Char)
  | [] => [[]]
  | c :: rest =>
    if p c then [] :: pieces p rest
    else match pieces p rest with
      | [] => [[c]]
      | first :: others => (c :: first) :: others

/-- The maximal runs of characters that are not blank. -/
def words (s : String) : List String :=
  ((pieces isBlank s.toList).filter (!·.isEmpty)).map String.ofList

def lowerAscii (s : String) : String :=
  String.ofList (s.toList.map Char.toLower)

end JuliaBlocks.Text
