import JuliaBlocks.Text.Blank

/-!
Which session a block's text goes to. A key names a persistent session; `none` stands for an
evaluation that leaves no state behind, in the default session.
-/

namespace JuliaBlocks

/-- A resolved session key: what the block asked for, the session its text is routed to, and
whether what it binds survives. -/
structure SessionRef where
  key : String
  name : String
  persistent : Bool
deriving DecidableEq, Repr, Inhabited

namespace SessionRef

/-- The session used when a block and the settings name none. -/
def usualDefault : String := "main"

/-- The key of evaluations that keep no state. -/
def ephemeralKey : String := "none"

/-- Resolves a key, blanks around it aside. A missing or blank key means the default session. -/
def resolve (key : Option String) (default : String := usualDefault) : SessionRef :=
  match key with
  | none => ⟨default, default, true⟩
  | some key =>
    let key := Text.trim key
    if key = "" then ⟨default, default, true⟩
    else if key = ephemeralKey then ⟨key, default, false⟩
    else ⟨key, key, true⟩

end SessionRef

end JuliaBlocks
