import JuliaBlocks.Julia.Quote
import JuliaBlocks.Request

/-!
Templates that wrap a snippet so that its result ends up in one variable of the session.
-/

namespace JuliaBlocks

/-- Text before and after a snippet. With an inner template the snippet goes through that first
and its outcome is put in place as a string literal. -/
inductive Template
  | mk (preamble postamble : String) (inner : Option Template)

namespace Template

def render : Template → String → String
  | .mk preamble postamble none, body => preamble ++ body ++ postamble
  | .mk preamble postamble (some inner), body =>
    preamble ++ Julia.quote (inner.render body) ++ postamble

/-- The variable that holds the result of an evaluation. -/
def resultVariable : String := "_babel_julia_result"

/-- Captures what a snippet prints. -/
def captureBlock : Template := .mk "@capture_out begin\n" "\nend" none

/-- The template for a result kind. A session that persists has to see the source text of a
capture, so there it is parsed from a string and evaluated. -/
def forKind : ResultKind → (persistent : Bool) → Except Failure Template
  | .output, true =>
    .ok (.mk (resultVariable ++ " = begin eval(Meta.parse(") ")) end" (some captureBlock))
  | .output, false => .ok (.mk (resultVariable ++ " = @capture_out begin\n") "\nend" none)
  | .value, true => .ok (.mk (resultVariable ++ " = begin\n") "\nend" none)
  | .value, false => .ok (.mk (resultVariable ++ " = let\n") "\nend" none)
  | .other given, _ => ResultKind.refusal given

def wrap (body : String) (kind : ResultKind) (persistent : Bool) : Except Failure String := do
  return (← forKind kind persistent).render body

end Template

/-- The one line that makes a session include a source file and print the result into an output
file. -/
def trampoline (source output : String) (kind : ResultKind) : Except Failure String := do
  let uses ← match kind with
    | .output => pure "using Suppressor; "
    | .value => pure ""
    | .other given => ResultKind.refusal given
  return uses ++ "include(" ++ Julia.quote source ++ "); open(" ++ Julia.quote output ++
    ", \"w\") do io; print(io, " ++ Template.resultVariable ++ "); end"

end JuliaBlocks
