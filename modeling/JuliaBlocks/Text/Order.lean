/-!
The order of texts by code points, and sets of texts as lists in this order, each text once.
-/

namespace JuliaBlocks.Text

def insertDistinct (s : String) : List String → List String
  | [] => [s]
  | t :: rest =>
    if s = t then t :: rest
    else if s < t then s :: t :: rest
    else t :: insertDistinct s rest

def sortDistinct (texts : List String) : List String :=
  texts.foldr insertDistinct []

/-- Whether a text equals another or stands before it in the order of code points. -/
def inOrder : List Char → List Char → Bool
  | [], _ => true
  | _ :: _, [] => false
  | c :: s, d :: t => decide (c.toNat < d.toNat) || (c == d && inOrder s t)

end JuliaBlocks.Text
