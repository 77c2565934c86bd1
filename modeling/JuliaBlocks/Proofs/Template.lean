import JuliaBlocks.Proofs.Except
import JuliaBlocks.Proofs.Julia.Quote
import JuliaBlocks.Template
import Mathlib.Data.List.Infix

/-!
What templates make of a snippet. One that is put in place as a string literal is read back from it
whole, whatever it holds, so that a capture runs the same program whether the session sees it as
source or parses it from a string, and no snippet is lost in any template. Main statements:
`capture_same_program` and `wrap_lossless`.
-/

namespace JuliaBlocks

theorem ResultKind.refusal_ne_ok {α : Type} (given : Value) (a : α) : refusal given ≠ .ok a := by
  intro haccepted
  obtain ⟨shown, _, hthrown⟩ := exists_of_bind_ok haccepted
  cases hthrown

namespace Template

/-- A template with an inner one leaves, between its own two texts, a literal that is read as what
the inner one makes of the snippet, whatever follows. -/
theorem render_quoted (preamble postamble : String) (inner : Template) (body : String) :
    ∃ literal : String,
      (mk preamble postamble (some inner)).render body = preamble ++ literal ++ postamble ∧
      ∀ rest, Julia.readString (literal.toList ++ rest) = some ((inner.render body).toList, rest) :=
  ⟨Julia.quote (inner.render body), rfl, Julia.readString_quote (inner.render body)⟩

/-- Whether a source, for a session that persists, runs a snippet: between two lines, or captured
within a string literal that the session parses. -/
def Runs (kind : ResultKind) (source snippet : String) : Prop :=
  match kind with
  | .value => source = "_babel_julia_result = begin\n" ++ snippet ++ "\nend"
  | .output => ∃ literal : String,
    source = "_babel_julia_result = begin eval(Meta.parse(" ++ literal ++ ")) end" ∧
    ∀ rest, Julia.readString (literal.toList ++ rest) =
      some (("@capture_out begin\n" ++ snippet ++ "\nend").toList, rest)
  | .other _ => False

theorem runs_of_wrap {snippet source : String} {kind : ResultKind}
    (hwrapped : wrap snippet kind true = .ok source) : Runs kind source snippet := by
  obtain ⟨template, htemplate, hwrapped⟩ := exists_of_bind_ok hwrapped
  obtain rfl := Except.ok.inj hwrapped
  cases kind with
  | value =>
      obtain rfl := Except.ok.inj htemplate
      rfl
  | output =>
      obtain rfl := Except.ok.inj htemplate
      exact render_quoted _ _ captureBlock snippet
  | other given => exact absurd htemplate (ResultKind.refusal_ne_ok given template)

/-- A source runs one snippet only. -/
theorem Runs.snippet_unique {kind : ResultKind} {source snippet other : String}
    (hruns : Runs kind source snippet) (hother : Runs kind source other) : other = snippet := by
  cases kind with
  | value =>
      have hsame := hother.symm.trans hruns
      rwa [String.append_left_inj, String.append_right_inj] at hsame
  | output =>
      obtain ⟨literal, hsource, hread⟩ := hruns
      obtain ⟨again, hagain, hreadAgain⟩ := hother
      rw [hsource, String.append_left_inj, String.append_right_inj] at hagain
      subst hagain
      have hsame := (hreadAgain []).symm.trans (hread [])
      simp only [Option.some.injEq, Prod.mk.injEq, and_true, String.toList_inj,
        String.append_left_inj, String.append_right_inj] at hsame
      exact hsame
  | other given => exact hruns.elim

/-- A capture runs the same program in a session that persists as in one that does not. The source
for the one parses a single string literal, which closes just before the text behind it and meets no
interpolation; what it denotes is the source that the other one sees. -/
theorem capture_same_program (body : String) :
    ∃ literal captured : String,
      wrap body .output true =
        .ok ("_babel_julia_result = begin eval(Meta.parse(" ++ literal ++ ")) end") ∧
      Julia.readString (literal ++ ")) end").toList = some (captured.toList, ")) end".toList) ∧
      wrap body .output false = .ok ("_babel_julia_result = " ++ captured) := by
  obtain ⟨literal, hrendered, hread⟩ :=
    render_quoted (resultVariable ++ " = begin eval(Meta.parse(") ")) end" captureBlock body
  refine ⟨literal, captureBlock.render body, congrArg Except.ok hrendered, ?_, ?_⟩
  · rw [String.toList_append]
    exact hread ")) end".toList
  · have hdirect : resultVariable ++ " = @capture_out begin\n" ++ body ++ "\nend" =
        "_babel_julia_result = " ++ captureBlock.render body := by
      simp only [captureBlock, render, resultVariable, ← String.append_assoc]
      rfl
    exact congrArg Except.ok hdirect

/-! How a snippet is taken out of a source again. -/

/-- The text between two others. -/
def between? (before after s : List Char) : Option (List Char) := do
  (← s.dropPrefix? before).dropSuffix? after

/-- The text of a literal, if there is nothing behind it. -/
def readLiteral? (s : List Char) : Option (List Char) :=
  match Julia.readString s with
  | some (text, []) => some text
  | _ => none

/-- Takes a snippet out of its source: the texts around it are stripped, and where there is an inner
template, they have left a literal, from whose text the snippet is taken likewise. -/
def recover : Template → List Char → Option (List Char)
  | .mk preamble postamble none, source => between? preamble.toList postamble.toList source
  | .mk preamble postamble (some inner), source => do
    inner.recover (← readLiteral? (← between? preamble.toList postamble.toList source))

theorem between?_append (before after s : List Char) :
    between? before after (before ++ s ++ after) = some s := by
  have hafter : (s ++ after).dropSuffix? after = some s :=
    List.dropSuffix?_eq_some_iff.mpr ⟨after, rfl, BEq.refl after⟩
  rw [between?, List.append_assoc, List.dropPrefix?_append_of_beq _ (BEq.refl before)]
  exact hafter

theorem readLiteral?_quote (s : String) : readLiteral? (Julia.quote s).toList = some s.toList := by
  have hread := Julia.readString_quote s []
  rw [List.append_nil] at hread
  rw [readLiteral?, hread]

theorem recover_render (template : Template) (body : String) :
    template.recover (template.render body).toList = some body.toList := by
  fun_induction render template body with
  | case1 preamble postamble body =>
      rw [recover, String.toList_append, String.toList_append, between?_append]
  | case2 preamble postamble inner body ih =>
      rw [recover, String.toList_append, String.toList_append, between?_append]
      simp only [Option.bind_eq_bind, Option.bind_some, readLiteral?_quote]
      exact ih

theorem render_injective (template : Template) : Function.Injective template.render := by
  intro body other hsame
  have hrecovered := recover_render template body
  rw [hsame, recover_render, Option.some.injEq, String.toList_inj] at hrecovered
  exact hrecovered.symm

/-- The text that a template puts before a snippet. -/
def opening : Template → String
  | .mk preamble _ _ => preamble

theorem opening_before_render (template : Template) (body : String) :
    template.opening.toList <+: (template.render body).toList := by
  obtain ⟨preamble, postamble, inner⟩ := template
  cases inner with
  | none => simp [render, opening]
  | some inner => simp [render, opening]

theorem forKind_returns_iff (kind : ResultKind) (persistent : Bool) :
    (∃ template, forKind kind persistent = .ok template) ↔ kind = .value ∨ kind = .output := by
  constructor
  · rintro ⟨template, htemplate⟩
    cases kind with
    | value => exact Or.inl rfl
    | output => exact Or.inr rfl
    | other given => exact absurd htemplate (ResultKind.refusal_ne_ok given template)
  · rintro (rfl | rfl)
    · cases persistent with
      | true => exact ⟨_, rfl⟩
      | false => exact ⟨_, rfl⟩
    · cases persistent with
      | true => exact ⟨_, rfl⟩
      | false => exact ⟨_, rfl⟩

/-- What a source starts with tells for which kind of result and which sessions it is made: of the
four openings none starts with another. -/
theorem eq_of_opening {kind other : ResultKind} {persistent lasting : Bool}
    {template second : Template} (htemplate : forKind kind persistent = .ok template)
    (hsecond : forKind other lasting = .ok second)
    (hstarts : template.opening.toList <+: second.opening.toList) :
    kind = other ∧ persistent = lasting := by
  have hkind := (forKind_returns_iff kind persistent).mp ⟨template, htemplate⟩
  have hother := (forKind_returns_iff other lasting).mp ⟨second, hsecond⟩
  -- Sixteen pairs: one opening twice, or two of which the first does not start the second.
  rcases hkind with rfl | rfl <;> rcases hother with rfl | rfl <;>
    cases persistent <;> cases lasting <;> cases htemplate <;> cases hsecond
  all_goals first
    | exact ⟨rfl, rfl⟩
    | exact absurd hstarts (by decide)

/-- Wrapping loses nothing. From what a template makes of a snippet, with inner templates to any
depth, the snippet is taken out again, so no two of them are rendered alike; and two wrapped sources
are the same just if they are made of one snippet, for one kind of result and alike for sessions
that persist or not. -/
theorem wrap_lossless :
    (∀ (template : Template) (body : String),
      template.recover (template.render body).toList = some body.toList) ∧
    (∀ template : Template, Function.Injective template.render) ∧
    (∀ (body other : String) (kind second : ResultKind) (persistent lasting : Bool),
      (∃ source, wrap body kind persistent = .ok source ∧
        wrap other second lasting = .ok source) ↔
      (kind = .value ∨ kind = .output) ∧ body = other ∧ kind = second ∧ persistent = lasting) := by
  refine ⟨recover_render, render_injective, ?_⟩
  intro body other kind second persistent lasting
  constructor
  · rintro ⟨source, hwrapped, hagain⟩
    obtain ⟨template, htemplate, hwrapped⟩ := exists_of_bind_ok hwrapped
    obtain ⟨alike, halike, hagain⟩ := exists_of_bind_ok hagain
    obtain rfl := Except.ok.inj hwrapped
    have hsame : alike.render other = template.render body := Except.ok.inj hagain
    have hkind := (forKind_returns_iff kind persistent).mp ⟨template, htemplate⟩
    have hopening := opening_before_render template body
    have hbefore := hsame ▸ opening_before_render alike other
    obtain ⟨rfl, rfl⟩ : kind = second ∧ persistent = lasting := by
      rcases List.prefix_or_prefix_of_prefix hopening hbefore with hstarts | hstarts
      · exact eq_of_opening htemplate halike hstarts
      · obtain ⟨hkind, hlasting⟩ := eq_of_opening halike htemplate hstarts
        exact ⟨hkind.symm, hlasting.symm⟩
    obtain rfl := Except.ok.inj (htemplate.symm.trans halike)
    exact ⟨hkind, (render_injective template hsame).symm, rfl, rfl⟩
  · rintro ⟨hkind, rfl, rfl, rfl⟩
    obtain ⟨template, htemplate⟩ := (forKind_returns_iff kind persistent).mpr hkind
    have hwrapped : wrap body kind persistent = .ok (template.render body) := by
      rw [wrap, htemplate]
      rfl
    exact ⟨_, hwrapped, hwrapped⟩

end Template

end JuliaBlocks
