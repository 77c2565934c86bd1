import JuliaBlocks.Failure
import JuliaBlocks.Text.Line

/-!
The commented trace of an evaluation that a session is shown when debugging.
-/

namespace JuliaBlocks.Trace

/-- The line for one header argument. -/
def paramLine (name : String) (value : Value) : Except Failure String := do
  return "#   " ++ name ++ " = " ++ (← value.quoted)

def paramLines : Named Value → Except Failure (List String)
  | [] => .ok []
  | (name, value) :: rest => do
    let line ← paramLine name value
    return line :: (← paramLines rest)

/-- The lines for the wrapped source. -/
def sourceLines (wrapped : String) : List String :=
  (Text.splitLines wrapped).map ("#   " ++ ·)

def render (params : Named Value) (wrapped : String) : Except Failure String := do
  return String.intercalate "\n"
    (["# babel-julia debug", "# params:"] ++ (← paramLines params) ++ ["# source:"] ++
      sourceLines wrapped)

end JuliaBlocks.Trace
