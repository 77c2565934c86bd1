import JuliaBlocks.Proofs.Except
import JuliaBlocks.Proofs.Text.Line
import JuliaBlocks.Proofs.Value
import JuliaBlocks.Trace
import Mathlib.Data.List.TakeWhile

/-!
What the trace of an evaluation can make a session do. The lines for the wrapped source, and those
for header arguments that stand on one line, are comments; what follows a line feed in the name of an
argument, or in the quoted text of a foreign value, is a comment only if it starts as one. Main
statement: `trace_onlyComments_iff`.
-/

namespace JuliaBlocks

namespace Text

/-- Whether each line of a text is a comment. -/
def OnlyComments (text : List Char) : Prop :=
  ∀ line, IsLine text line → line.head? = some '#'

/-- Whether a comment starts behind each line feed of a text. -/
def KeepsCommenting (text : List Char) : Prop :=
  ∀ before after, text = before ++ '\n' :: after → after.head? = some '#'

theorem keepsCommenting_of_free {text : List Char} (hfree : '\n' ∉ text) :
    KeepsCommenting text := by
  rintro before after rfl
  simp at hfree

theorem keepsCommenting_cons_iff {c : Char} (hc : c ≠ '\n') (text : List Char) :
    KeepsCommenting (c :: text) ↔ KeepsCommenting text := by
  constructor
  · rintro hkeeps before after rfl
    exact hkeeps (c :: before) after rfl
  · intro hkeeps before after htext
    cases before with
    | nil =>
        cases htext
        exact absurd rfl hc
    | cons d before =>
        cases htext
        exact hkeeps before after rfl

/-- A line starts at the start of a text and behind each of its line feeds. -/
theorem exists_isLine_of_start {text before start : List Char} (htext : text = before ++ start)
    (hbefore : before = [] ∨ before.getLast? = some '\n') :
    ∃ line, IsLine text line ∧ line <+: start := by
  have hparts : start.takeWhile (· != '\n') ++ start.dropWhile (· != '\n') = start :=
    List.takeWhile_append_dropWhile
  refine ⟨start.takeWhile (· != '\n'), ⟨?_, before, start.dropWhile (· != '\n'), ?_, hbefore, ?_⟩,
    List.takeWhile_prefix _⟩
  · intro hmem
    simpa using List.mem_takeWhile_imp hmem
  · rw [List.append_assoc, hparts, htext]
  · cases hrest : start.dropWhile (· != '\n') with
    | nil => exact Or.inl rfl
    | cons c rest =>
        have hstop := List.head?_dropWhile_not (· != '\n') start
        rw [hrest] at hstop
        exact Or.inr (by simpa using hstop)

/-- A text is all comments if it starts as one and goes on so behind each line feed. -/
theorem onlyComments_iff (text : List Char) :
    OnlyComments text ↔ text.head? = some '#' ∧ KeepsCommenting text := by
  constructor
  · intro hcomments
    have hstart (before : List Char) {start : List Char} (htext : text = before ++ start)
        (hbefore : before = [] ∨ before.getLast? = some '\n') : start.head? = some '#' := by
      obtain ⟨line, hline, rest, rfl⟩ := exists_isLine_of_start htext hbefore
      rw [List.head?_append, hcomments line hline]
      rfl
    refine ⟨hstart [] rfl (Or.inl rfl), ?_⟩
    intro before after htext
    apply hstart (before ++ ['\n'])
    · rw [htext, List.append_assoc]
      rfl
    · exact Or.inr List.getLast?_concat
  · rintro ⟨hfirst, hkeeps⟩ line ⟨_, before, after, rfl, hbefore, hafter⟩
    have hstart : (line ++ after).head? = some '#' := by
      rcases hbefore with rfl | hbefore
      · simpa using hfirst
      · obtain ⟨others, rfl⟩ := List.getLast?_eq_some_iff.mp hbefore
        exact hkeeps others (line ++ after) (by simp)
    cases line with
    | cons c line => exact hstart
    | nil =>
        rcases hafter with rfl | hafter
        · cases hstart
        · rw [List.nil_append, hafter] at hstart
          cases hstart

theorem onlyComments_of_free {text : List Char} (hfirst : text.head? = some '#')
    (hfree : '\n' ∉ text) : OnlyComments text :=
  (onlyComments_iff text).mpr ⟨hfirst, keepsCommenting_of_free hfree⟩

/-- Texts joined by line feeds are all comments just if each of them is. -/
theorem onlyComments_intercalate_iff {texts : List String} (hsome : texts ≠ []) :
    OnlyComments (String.intercalate "\n" texts).toList ↔
      ∀ text ∈ texts, OnlyComments text.toList := by
  simp only [OnlyComments, ← mem_lineRuns_iff, lineRuns_intercalate hsome, List.mem_flatMap]
  constructor
  · intro hall text htext line hline
    exact hall line ⟨text, htext, hline⟩
  · rintro hall line ⟨text, htext, hline⟩
    exact hall text htext line hline

end Text

theorem Value.quoted_eq_ok_iff {v : Value} {s : String} : v.quoted = .ok s ↔ v.quoted? = some s := by
  unfold quoted
  cases v.quoted? with
  | none => simp
  | some t => simp

namespace Trace

open Text

/-- The line of an argument is comments just if its name and its value's text keep commenting. -/
theorem paramLine_onlyComments_iff {name line : String} {value : Value}
    (hline : paramLine name value = .ok line) :
    ∃ shown, value.quoted? = some shown ∧
      (OnlyComments line.toList ↔ KeepsCommenting (name ++ " = " ++ shown).toList) := by
  obtain ⟨shown, hshown, hline⟩ := exists_of_bind_ok hline
  cases hline
  have htext : ("#   " ++ name ++ " = " ++ shown).toList =
      '#' :: ' ' :: ' ' :: ' ' :: (name ++ " = " ++ shown).toList := by
    simp
  refine ⟨shown, Value.quoted_eq_ok_iff.mp hshown, ?_⟩
  rw [htext, onlyComments_iff]
  simp only [List.head?_cons, true_and]
  rw [keepsCommenting_cons_iff (by decide), keepsCommenting_cons_iff (by decide),
    keepsCommenting_cons_iff (by decide), keepsCommenting_cons_iff (by decide)]

/-- The lines for the wrapped source are comments, whatever the source. -/
theorem onlyComments_of_mem_sourceLines {wrapped line : String}
    (hline : line ∈ sourceLines wrapped) : OnlyComments line.toList := by
  obtain ⟨run, hrun, rfl⟩ := List.mem_map.mp hline
  have hfree := newline_not_mem_splitLines hrun
  apply onlyComments_of_free
  · simp
  · simp [hfree]

/-- The lines of the arguments are comments just if each name with its value's text keeps
commenting. -/
theorem paramLines_onlyComments_iff {params : Named Value} {lines : List String}
    (hlines : paramLines params = .ok lines) :
    (∀ line ∈ lines, OnlyComments line.toList) ↔
      ∀ e ∈ params, ∀ shown, e.2.quoted? = some shown →
        KeepsCommenting (e.1 ++ " = " ++ shown).toList := by
  induction params generalizing lines with
  | nil =>
      cases hlines
      simp
  | cons e params ih =>
      obtain ⟨line, hline, hlines⟩ := exists_of_bind_ok hlines
      obtain ⟨others, hothers, hlines⟩ := exists_of_bind_ok hlines
      cases hlines
      obtain ⟨shown, hshown, hfirst⟩ := paramLine_onlyComments_iff hline
      rw [List.forall_mem_cons, List.forall_mem_cons, hfirst, ih hothers]
      simp [hshown]

theorem printable_of_paramLines {params : Named Value} {lines : List String}
    (hlines : paramLines params = .ok lines) : ∀ e ∈ params, e.2.Printable := by
  induction params generalizing lines with
  | nil => simp
  | cons e params ih =>
      obtain ⟨line, hline, hlines⟩ := exists_of_bind_ok hlines
      obtain ⟨others, hothers, _⟩ := exists_of_bind_ok hlines
      obtain ⟨shown, hshown, _⟩ := paramLine_onlyComments_iff hline
      exact List.forall_mem_cons.mpr ⟨.of_quoted hshown, ih hothers⟩

theorem exists_paramLines {params : Named Value} (hparams : ∀ e ∈ params, e.2.Printable) :
    ∃ lines, paramLines params = .ok lines := by
  induction params with
  | nil => exact ⟨[], rfl⟩
  | cons e params ih =>
      obtain ⟨shown, hshown⟩ := (hparams e (by simp)).exists_quoted
      obtain ⟨lines, hlines⟩ := ih fun other hother => hparams other (by simp [hother])
      have hquoted := Value.quoted_eq_ok_iff.mpr hshown
      exact ⟨_, by rw [paramLines, paramLine, hquoted, hlines]; rfl⟩

/-- A trace can be made just if each argument can be shown. -/
theorem exists_render_iff (params : Named Value) (wrapped : String) :
    (∃ trace, render params wrapped = .ok trace) ↔ ∀ e ∈ params, e.2.Printable := by
  constructor
  · rintro ⟨trace, htrace⟩
    obtain ⟨lines, hlines, _⟩ := exists_of_bind_ok htrace
    exact printable_of_paramLines hlines
  · intro hparams
    obtain ⟨lines, hlines⟩ := exists_paramLines hparams
    exact ⟨_, by rw [render, hlines]; rfl⟩

/-- What a trace can make a session do. It can be made if each header argument can be shown, and it
is nothing but comments just if in each argument's line a comment starts behind every line feed; so
it is whenever neither a name nor the quoted text of a foreign value in a value has one. The wrapped
source and all other values add comments only, whatever they are. -/
theorem trace_onlyComments_iff (params : Named Value) (wrapped : String) :
    ((∃ trace, render params wrapped = .ok trace) ↔ ∀ e ∈ params, e.2.Printable) ∧
    ∀ trace, render params wrapped = .ok trace →
      (OnlyComments trace.toList ↔ ∀ e ∈ params, ∀ shown, e.2.quoted? = some shown →
        KeepsCommenting (e.1 ++ " = " ++ shown).toList) ∧
      ((∀ e ∈ params, '\n' ∉ e.1.toList ∧ ¬ e.2.Breaks) → OnlyComments trace.toList) := by
  refine ⟨exists_render_iff params wrapped, ?_⟩
  intro trace htrace
  obtain ⟨lines, hlines, hrendered⟩ := exists_of_bind_ok htrace
  cases hrendered
  -- Only the lines for arguments can be anything else than comments.
  have hjoined : OnlyComments (String.intercalate "\n" (["# babel-julia debug", "# params:"] ++
        lines ++ ["# source:"] ++ sourceLines wrapped)).toList ↔
      ∀ line ∈ lines, OnlyComments line.toList := by
    rw [onlyComments_intercalate_iff (by simp)]
    constructor
    · intro hall line hline
      exact hall line (by simp [hline])
    · intro hall line hline
      simp only [List.mem_append, List.mem_cons, List.not_mem_nil, or_false] at hline
      rcases hline with (((rfl | rfl) | hline) | rfl) | hline
      · exact onlyComments_of_free rfl (by decide)
      · exact onlyComments_of_free rfl (by decide)
      · exact hall line hline
      · exact onlyComments_of_free rfl (by decide)
      · exact onlyComments_of_mem_sourceLines hline
  have hiff := hjoined.trans (paramLines_onlyComments_iff hlines)
  refine ⟨hiff, ?_⟩
  intro hfree
  rw [hiff]
  intro e he shown hshown
  have hvalue : '\n' ∉ shown.toList := by
    rw [Value.newline_mem_quoted_iff hshown]
    exact (hfree e he).2
  apply keepsCommenting_of_free
  simp [(hfree e he).1, hvalue]

/-- Arguments and a source with line feeds and other line boundaries in all places that are
escaped or cut. -/
def brokenParams : Named Value :=
  [("var", .map [(.text "x\ny = 2",
      .list [.octets [10, 13], .foreign ⟨"Path", "2\n2", "Path('2\\n2')"⟩])]),
    ("session\r", .tuple [.text "'\n\"\t"])]

theorem trace_onlyComments_broken :
    let wrapped := "x\n\ny\x0cz\r\nend"
    (∀ e ∈ brokenParams, '\n' ∉ e.1.toList ∧ ¬ e.2.Breaks) ∧
    ∃ trace, render brokenParams wrapped = .ok trace ∧ OnlyComments trace.toList := by
  intro wrapped
  have hfree : ∀ e ∈ brokenParams, '\n' ∉ e.1.toList ∧ ¬ e.2.Breaks := by
    refine List.forall_mem_cons.mpr ⟨⟨by decide, ?_⟩, List.forall_mem_singleton.mpr
      ⟨by decide, ?_⟩⟩
    · exact (Value.newline_mem_quoted_iff rfl).not.mp (by decide)
    · exact (Value.newline_mem_quoted_iff rfl).not.mp (by decide)
  have htrace : ∃ trace, render brokenParams wrapped = .ok trace := ⟨_, rfl⟩
  obtain ⟨trace, htrace⟩ := htrace
  obtain ⟨_, hcomments⟩ := trace_onlyComments_iff brokenParams wrapped
  exact ⟨hfree, trace, htrace, (hcomments trace htrace).2 hfree⟩

/-- A line feed in the name of an argument, or in the quoted text of a foreign value, ends the
comment, and the session runs what follows it. -/
theorem brokenName_not_onlyComments :
    let trace := "# babel-julia debug\n# params:\n#   a\nb = 1\n# source:\n#   x"
    render [("a\nb", .int 1)] "x" = .ok trace ∧
    render [("a", .foreign ⟨"object", "0", "0\nb = 1"⟩)] "x" =
      .ok "# babel-julia debug\n# params:\n#   a = 0\nb = 1\n# source:\n#   x" ∧
    IsLine trace.toList "b = 1".toList ∧ ¬ OnlyComments trace.toList := by
  intro trace
  have hline : IsLine trace.toList "b = 1".toList := (mem_lineRuns_iff _ _).mp (by decide)
  refine ⟨rfl, rfl, hline, ?_⟩
  intro hcomments
  exact absurd (hcomments _ hline) (by decide)

end Trace

end JuliaBlocks
