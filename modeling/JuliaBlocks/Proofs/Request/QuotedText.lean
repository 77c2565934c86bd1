import JuliaBlocks.Proofs.Julia.Quote
import JuliaBlocks.Proofs.Request.Header
import JuliaBlocks.Proofs.Snippet.Assignments

/-!
Text between quotes on its way from a header argument to the snippet. Blanks around it and around
the name are dropped, the quotes are taken off, and what stood between them is written as a string
literal that denotes just this text. Main statement: `quotedText_arrives`.
-/

namespace JuliaBlocks

/-- Only the quotes at the two ends count, so the text may hold quotes of either kind itself. -/
theorem unquote?_enclosed {mark : Char} (hmark : mark = '"' ∨ mark = '\'') (s : List Char) :
    unquote? (mark :: (s ++ [mark])) = some s := by
  cases s with
  | nil => simp [unquote?, hmark]
  | cons c s => simp [unquote?, hmark, List.getLast?_cons, List.dropLast_cons_of_ne_nil]

/-- A text between quotes of one kind. -/
def enclose (mark : Char) (s : String) : String :=
  String.ofList (mark :: (s.toList ++ [mark]))

theorem toList_enclose (mark : Char) (s : String) :
    (enclose mark s).toList = mark :: (s.toList ++ [mark]) := by
  rw [enclose, String.toList_ofList]

theorem ofWritten_enclose {mark : Char} (hmark : mark = '"' ∨ mark = '\'') (s : String) :
    Value.ofWritten (enclose mark s) = .ok (.text s) := by
  rw [Value.ofWritten, toList_enclose, unquote?_enclosed hmark]
  dsimp only
  rw [String.ofList_toList]

theorem stripped_enclose {mark : Char} (hmark : mark = '"' ∨ mark = '\'') (s : String) :
    Text.Stripped Text.isBlank (enclose mark s).toList := by
  have hseen : Text.isBlank mark = false := by
    rcases hmark with rfl | rfl <;> decide
  rw [toList_enclose]
  constructor
  · intro c hc
    cases hc
    exact hseen
  · intro c hc
    rw [← List.cons_append, List.getLast?_concat, Option.some.injEq] at hc
    exact hc ▸ hseen

/-- Whether an item writes a variable whose value is a text between quotes: the name and the quoted
text are joined by an equals sign, and there may be blanks around both. -/
inductive WritesQuoted (name s : String) : String → Prop
  | joined {mark : Char} {before after front back : String} (hmark : mark = '"' ∨ mark = '\'')
      (hblank : ∀ t ∈ [before, after, front, back], Text.isBlankText t = true) :
      WritesQuoted name s (before ++ name ++ after ++ "=" ++ (front ++ enclose mark s ++ back))

theorem equals_not_mem_of_blank {t : String} (ht : Text.isBlankText t = true) :
    '=' ∉ t.toList := by
  intro hmem
  rw [Text.isBlankText, List.all_eq_true] at ht
  exact absurd (ht '=' hmem) (by decide)

theorem Julia.IsWholeIdentifier.trim_eq {name : String} (hname : IsWholeIdentifier name) :
    Text.trim name = name :=
  Text.trim_eq_self <| .of_none fun c hc => not_isBlank_of_isIdentifierRest (hname.all_rest c hc)

/-- Neither the name nor the blanks around it have an equals sign, so what is written starts behind
the one that joins the two, whatever the text between the quotes holds. -/
theorem readBinding_of_writesQuoted {name s item : String} (hname : Julia.IsWholeIdentifier name)
    (hitem : WritesQuoted name s item) : readBinding item = .ok (some (name, .text s)) := by
  obtain @⟨mark, before, after, front, back, hmark, hblank⟩ := hitem
  simp only [List.forall_mem_cons] at hblank
  obtain ⟨hbefore, hafter, hfront, hback, _⟩ := hblank
  have hequals : '=' ∉ (before ++ name ++ after).toList := by
    simp only [String.toList_append, List.mem_append, not_or]
    refine ⟨⟨equals_not_mem_of_blank hbefore, ?_⟩, equals_not_mem_of_blank hafter⟩
    exact fun hmem => absurd (hname.all_rest '=' hmem) (by decide)
  have hwritten : Text.trim (front ++ enclose mark s ++ back) = enclose mark s :=
    (Text.trim_append hfront hback).trans (Text.trim_eq_self (stripped_enclose hmark s))
  have hjoined : (before ++ name ++ after ++ "=" ++ (front ++ enclose mark s ++ back)).toList =
      (before ++ name ++ after).toList ++ '=' :: (front ++ enclose mark s ++ back).toList := by
    simp
  rw [readBinding_of_append hjoined hequals, hwritten, ofWritten_enclose hmark,
    Text.trim_append hbefore hafter, hname.trim_eq]
  rfl

/-- A request with variables and nothing else has just these. -/
theorem Request.ofHeader_of_variables {v : Value} {bindings : List (String × Value)}
    (hread : readVariables v = .ok bindings) (body : String) :
    ofHeader body [("var", v)] = .ok { body, bindings, params := [("var", v)] } :=
  ofHeader_of_taken {
    sameBody := rfl
    sameParams := rfl
    kind := rfl
    session := rfl
    prologue := rfl
    epilogue := rfl
    width := ⟨600, rfl, rfl⟩
    height := ⟨400, rfl, rfl⟩
    results := rfl
    file := rfl
    bindings := hread }

/-- The block of a request that binds a text and nothing else is the assignment of its literal, and
then the body. -/
theorem Snippet.expand_of_text {name : String} (hname : Julia.IsWholeIdentifier name)
    (s body : String) (params : Named Value) :
    expand { body, bindings := [(name, .text s)], params } =
      .ok (name ++ " = " ++ Julia.quote s ++ "\n" ++ body) := by
  have hassigned : Julia.assignment name (.text s) = .ok (name ++ " = " ++ Julia.quote s) := by
    rw [Julia.assignment, if_pos hname.isIdentifier]
    rfl
  have hlines : Julia.assignments [(name, .text s)] = .ok [name ++ " = " ++ Julia.quote s] := by
    simp only [Julia.assignments, List.mapM_cons, hassigned]
    rfl
  exact expandBody_eq hlines body none none { body, params } none

/-- A text between quotes reaches the session as it is. An item that writes it for an identifier
gives one variable of this name and just this text, in a list or alone. The block of a request with
this variable and nothing else expands to its assignment and the body, and the assignment ends with
a string literal that is read as the text, whatever follows. -/
theorem quotedText_arrives {name s item : String} (hname : Julia.IsWholeIdentifier name)
    (hitem : WritesQuoted name s item) :
    ∀ v ∈ [Value.text item, .list [.text item]],
      readVariables v = .ok [(name, .text s)] ∧
      ∀ body : String, ∃ request literal,
        Request.ofHeader body [("var", v)] = .ok request ∧
        Snippet.expand request = .ok (name ++ " = " ++ literal ++ "\n" ++ body) ∧
        Julia.IsStringLiteral literal ∧
        ∀ rest, Julia.readString (literal.toList ++ rest) = some (s.toList, rest) := by
  have hread : readItems [.text item] = .ok [(name, .text s)] := by
    have hvariable : readVariable (.text item) = .ok (some (name, .text s)) :=
      readBinding_of_writesQuoted hname hitem
    rw [readItems, hvariable]
    rfl
  intro v hv
  have hv : readVariables v = .ok [(name, .text s)] := by
    simp only [List.mem_cons, List.not_mem_nil, or_false] at hv
    rcases hv with rfl | rfl <;> exact hread
  refine ⟨hv, fun body => ⟨_, Julia.quote s, Request.ofHeader_of_variables hv body, ?_, ?_, ?_⟩⟩
  · exact Snippet.expand_of_text hname s body _
  · exact (Julia.isStringLiteral_iff _).mpr ⟨s, rfl⟩
  · exact Julia.readString_quote s

/-- A text that has quotes at its own ends, an equals sign, digits and whatever is escaped. -/
def hostileText : String := "'=\"12\n$\\ '"

theorem quotedText_arrives_hostile :
    Julia.IsWholeIdentifier "x!" ∧
    WritesQuoted "x!" hostileText "\t x! =\n ''=\"12\n$\\ ''\x1f" ∧
    ∃ request, Request.ofHeader "x!" [("var", .text "\t x! =\n ''=\"12\n$\\ ''\x1f")] =
        .ok request ∧
      request.bindings = [("x!", .text hostileText)] ∧
      Snippet.expand request = .ok "x! = \"'=\\\"12\n\\$\\\\ '\"\nx!" := by
  have hname : Julia.IsWholeIdentifier "x!" := ⟨by decide, by decide⟩
  have hitem : WritesQuoted "x!" hostileText "\t x! =\n ''=\"12\n$\\ ''\x1f" :=
    @WritesQuoted.joined "x!" hostileText '\'' "\t " " " "\n " "\x1f" (.inr rfl) (by decide)
  obtain ⟨hread, harrives⟩ := quotedText_arrives hname hitem _ List.mem_cons_self
  obtain ⟨request, literal, hrequest, hexpanded, hliteral, hdenotes⟩ := harrives "x!"
  have hsame : literal = Julia.quote hostileText := by
    obtain ⟨t, rfl⟩ := (Julia.isStringLiteral_iff literal).mp hliteral
    have hboth := (Julia.readString_quote t []).symm.trans (hdenotes [])
    simp only [Option.some.injEq, Prod.mk.injEq, String.toList_inj, and_true] at hboth
    rw [hboth]
  refine ⟨hname, hitem, request, hrequest, ?_, ?_⟩
  · rw [Request.ofHeader_of_variables hread] at hrequest
    cases hrequest
    rfl
  · rw [hexpanded, hsame]
    rfl

end JuliaBlocks
