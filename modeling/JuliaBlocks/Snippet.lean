import JuliaBlocks.Julia.Literal
import JuliaBlocks.Request

/-!
The snippet that a block expands to: prologue, assignments of the variables, body, plot
directives and epilogue, one after another on lines of their own. Absent parts leave no line.
-/

namespace JuliaBlocks.Snippet

/-- The directives that resize the current plot and save it to a file. -/
def plotDirectives (file width height : Value) : Except Failure (List String) := do
  return ["plot!(size = (" ++ (← width.display) ++ ", " ++ (← height.display) ++ "))",
    "savefig(" ++ (← Julia.quoteValue file) ++ ")"]

/-- A part that is there and not empty. -/
def part (v : Value) : List Value :=
  if v.isVoid then [] else [v]

/-- The file plots are saved to: the one given here, or else the request's own. -/
def plotTarget (given own : Value) : Option Value :=
  (part given).head? <|> (part own).head?

/-- The plot directives of a request; there are none unless it asks for graphics and some file
is known. -/
def plotPart (request : Request) (file : Option String) : Except Failure (List String) :=
  match request.wantsGraphics, plotTarget (.ofText? file) request.graphicsFile with
  | true, some target => plotDirectives target request.width request.height
  | _, _ => .ok []

/-- Expands a body with the other parts of a request. Lines given in place of the request's
assignments are taken as they are. -/
def expandBody (body : String) (request : Request) (lines : Option (List String) := none)
    (file : Option String := none) : Except Failure String := do
  let lines ← match lines with
    | some lines => pure lines
    | none => Julia.assignments request.bindings
  let plot ← plotPart request file
  return String.intercalate "\n" (← Value.texts (part request.prologue ++
    (lines ++ [body] ++ plot).map .text ++ part request.epilogue))

/-- Expands a request's own body. -/
def expand (request : Request) : Except Failure String :=
  expandBody request.body request

end JuliaBlocks.Snippet
