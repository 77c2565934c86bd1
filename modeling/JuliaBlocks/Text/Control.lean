/-!
Control sequences of terminals: an escape, an opening bracket, parameters and a letter. They are
left out of text that does not go to a terminal.
-/

namespace JuliaBlocks.Text

/-- The character that opens a control sequence. -/
def escape : Char := '\x1b'

/-- The characters that may stand between the bracket and the letter. -/
def isControlParameter (c : Char) : Bool :=
  c.isDigit || c == ';' || c == '?'

/-- The rest of a text behind the parameters and the letter of a control sequence, if they are
there. -/
def controlRest? (s : List Char) : Option (List Char) :=
  match s.dropWhile isControlParameter with
  | c :: rest => if c.isAlpha then some rest else none
  | [] => none

/-- What follows a control sequence at the front of a text, if there is one. -/
def afterControl? : List Char → Option (List Char)
  | c :: '[' :: rest => if c = escape then controlRest? rest else none
  | _ => none

theorem length_dropWhile_le (p : Char → Bool) (s : List Char) :
    (s.dropWhile p).length ≤ s.length := by
  induction s with
  | nil => simp
  | cons c rest ih =>
    rw [List.dropWhile_cons]
    split
    · exact Nat.le_succ_of_le ih
    · exact Nat.le_refl _

theorem length_of_afterControl? {s rest : List Char} (h : afterControl? s = some rest) :
    rest.length < s.length := by
  unfold afterControl? at h
  split at h
  · next c tail =>
    split at h
    · unfold controlRest? at h
      have shorter := length_dropWhile_le isControlParameter tail
      split at h
      · next letter more found =>
        split at h
        · cases h
          rw [found] at shorter
          simp only [List.length_cons] at shorter ⊢
          omega
        · cases h
      · cases h
    · cases h
  · cases h

def dropControls (s : List Char) : List Char :=
  match _h : afterControl? s with
  | some rest => dropControls rest
  | none =>
    match s with
    | [] => []
    | c :: rest => c :: dropControls rest
termination_by s.length
decreasing_by
  · exact length_of_afterControl? ‹_›
  · simp

end JuliaBlocks.Text
