import JuliaBlocks.Files
import JuliaBlocks.Text.Line

/-!
What an evaluation left in its output file. Any octets give a text; a text with a line longer
than the limit is replaced by a notice as a whole.
-/

namespace JuliaBlocks.Output

/-- The notice in place of output with a line that is too long. -/
def suppressed : String := "Output suppressed (line too long)"

/-- The text of an output file: UTF-8, with every line ending turned into a line feed. -/
def decode (content : List UInt8) : List Char :=
  Text.universalNewlines (Text.Utf8.decode content)

/-- Whether every line has at most `limit` characters. -/
def fits (limit : Int) (text : List Char) : Bool :=
  (Text.lineRuns text).all fun line => (line.length : Int) ≤ limit

/-- The result that an output file holds; a file that does not exist holds the empty one. -/
def read (content : Option (List UInt8)) (limit : Int) : String :=
  match content with
  | none => ""
  | some content =>
    let text := decode content
    if fits limit text then String.ofList text else suppressed

/-- Whether something has been written to an output file. -/
def arrived (content : Option (List UInt8)) : Bool :=
  match content with
  | some (_ :: _) => true
  | _ => false

end JuliaBlocks.Output
