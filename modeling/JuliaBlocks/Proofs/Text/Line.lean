import JuliaBlocks.Proofs.Text.Blank
import JuliaBlocks.Text.Line
import Mathlib.Data.List.Infix

/-!
Lines of a text: its maximal runs without a line feed. Line endings of any kind only ever cut a text
into shorter lines. Main statements: `mem_lineRuns_iff` and `infix_of_universalNewlines`.
-/

namespace JuliaBlocks.Text

/-- Whether a run of characters is a line of a text: it holds no line feed, and nothing but a line
feed or an end of the text stands at either end of it. -/
structure IsLine (text run : List Char) : Prop where
  free : '\n' ∉ run
  maximal : ∃ before after, text = before ++ run ++ after ∧
    (before = [] ∨ before.getLast? = some '\n') ∧ (after = [] ∨ after.head? = some '\n')

/-- What holds of every line, and of two texts joined by a line feed if it holds of both, holds of
every text. -/
theorem newline_induction {P : List Char → Prop} (line : ∀ s, '\n' ∉ s → P s)
    (join : ∀ a b, P a → P b → P (a ++ '\n' :: b)) (s : List Char) : P s := by
  by_cases hmem : '\n' ∈ s
  · obtain ⟨a, b, hparts⟩ := List.append_of_mem hmem
    have hlength : s.length = a.length + (b.length + 1) := by
      rw [hparts, List.length_append, List.length_cons]
    have ha := newline_induction line join a
    have hb := newline_induction line join b
    exact hparts ▸ join a b ha hb
  · exact line s hmem
termination_by s.length

theorem pieces_ne_nil (p : Char → Bool) (s : List Char) : pieces p s ≠ [] := by
  induction s with
  | nil => simp [pieces]
  | cons c s ih =>
      rw [pieces]
      split
      · simp
      · split
        · simp
        · simp

theorem lineRuns_of_free {s : List Char} (hfree : '\n' ∉ s) : lineRuns s = [s] := by
  apply pieces_of_free
  intro c hc
  simpa using ne_of_mem_of_not_mem hc hfree

theorem lineRuns_join (a b : List Char) :
    lineRuns (a ++ '\n' :: b) = lineRuns a ++ lineRuns b := by
  unfold lineRuns
  induction a with
  | nil => simp [pieces]
  | cons c a ih =>
      rw [List.cons_append, pieces, pieces, ih]
      split
      · rfl
      · obtain ⟨first, others, hpieces⟩ := List.exists_cons_of_ne_nil (pieces_ne_nil (· == '\n') a)
        rw [hpieces]
        rfl

/-- The lines of texts that are joined by line feeds are the lines of each of them. -/
theorem lineRuns_intercalate {texts : List String} (hsome : texts ≠ []) :
    lineRuns (String.intercalate "\n" texts).toList = texts.flatMap (lineRuns ·.toList) := by
  induction texts with
  | nil => exact absurd rfl hsome
  | cons text texts ih =>
      by_cases hlast : texts = []
      · simp [hlast]
      · have hjoined : (String.intercalate "\n" (text :: texts)).toList =
            text.toList ++ '\n' :: (String.intercalate "\n" texts).toList := by
          rw [String.intercalate_cons_of_ne_nil hlast]
          simp
        rw [hjoined, lineRuns_join, ih hlast, List.flatMap_cons]

theorem IsLine.join_left {a run : List Char} (hrun : IsLine a run) (b : List Char) :
    IsLine (a ++ '\n' :: b) run := by
  obtain ⟨hfree, before, after, rfl, hbefore, hafter⟩ := hrun
  refine ⟨hfree, before, after ++ '\n' :: b, by simp, hbefore, Or.inr ?_⟩
  rcases hafter with rfl | hafter
  · rfl
  · rw [List.head?_append, hafter]
    rfl

theorem IsLine.join_right {b run : List Char} (hrun : IsLine b run) (a : List Char) :
    IsLine (a ++ '\n' :: b) run := by
  obtain ⟨hfree, before, after, rfl, hbefore, hafter⟩ := hrun
  refine ⟨hfree, a ++ '\n' :: before, after, by simp, Or.inr ?_, hafter⟩
  rcases hbefore with rfl | hbefore
  · simp
  · rw [List.getLast?_append, List.getLast?_cons, hbefore]
    rfl

theorem isLine_of_mem_lineRuns {text : List Char} :
    ∀ run ∈ lineRuns text, IsLine text run := by
  induction text using newline_induction with
  | line s hfree =>
      intro run hrun
      rw [lineRuns_of_free hfree, List.mem_singleton] at hrun
      subst hrun
      exact ⟨hfree, [], [], by simp, Or.inl rfl, Or.inl rfl⟩
  | join a b iha ihb =>
      intro run hrun
      rw [lineRuns_join] at hrun
      rcases List.mem_append.mp hrun with ha | hb
      · exact (iha run ha).join_left b
      · exact (ihb run hb).join_right a

theorem mem_lineRuns_of_isLine {text run : List Char} (hrun : IsLine text run) :
    run ∈ lineRuns text := by
  obtain ⟨hfree, before, after, rfl, hbefore, hafter⟩ := hrun
  have hend : run ∈ lineRuns (run ++ after) := by
    rcases hafter with rfl | hafter
    · simp [lineRuns_of_free hfree]
    · obtain ⟨rest, rfl⟩ := List.head?_eq_some_iff.mp hafter
      simp [lineRuns_join, lineRuns_of_free hfree]
  rcases hbefore with rfl | hbefore
  · simpa using hend
  · obtain ⟨start, rfl⟩ := List.getLast?_eq_some_iff.mp hbefore
    have hjoin : start ++ ['\n'] ++ run ++ after = start ++ '\n' :: (run ++ after) := by simp
    rw [hjoin, lineRuns_join]
    exact List.mem_append_right _ hend

/-- Cutting a text at its line feeds gives just its lines. -/
theorem mem_lineRuns_iff (text run : List Char) : run ∈ lineRuns text ↔ IsLine text run :=
  ⟨isLine_of_mem_lineRuns run, mem_lineRuns_of_isLine⟩

/-- A text is a line as a whole just if it holds no line feed. -/
theorem lineRuns_eq_singleton_iff (s : List Char) : lineRuns s = [s] ↔ '\n' ∉ s := by
  constructor
  · intro hone
    have hline : IsLine s s := isLine_of_mem_lineRuns s (hone ▸ List.mem_singleton_self s)
    exact hline.free
  · exact lineRuns_of_free

/-- A line feed ends a line under the full set of boundaries too. -/
theorem newline_not_mem_splitLinesFrom {line s : List Char} (hline : '\n' ∉ line) :
    ∀ run ∈ splitLinesFrom line s, '\n' ∉ run := by
  fun_induction splitLinesFrom line s with
  | case1 line =>
      intro run hrun
      exact absurd hrun List.not_mem_nil
  | case2 line hsome =>
      intro run hrun
      obtain rfl := List.mem_singleton.mp hrun
      simpa using hline
  | case3 line rest ih =>
      intro run hrun
      rcases List.mem_cons.mp hrun with rfl | hrun
      · simpa using hline
      · exact ih List.not_mem_nil run hrun
  | case4 line c rest hpair hboundary ih =>
      intro run hrun
      rcases List.mem_cons.mp hrun with rfl | hrun
      · simpa using hline
      · exact ih List.not_mem_nil run hrun
  | case5 line c rest hpair hinside ih =>
      have hc : c ≠ '\n' := by
        rintro rfl
        exact hinside (by decide)
      exact ih (List.not_mem_cons_of_ne_of_not_mem hc.symm hline)

theorem newline_not_mem_splitLines {s line : String} (hline : line ∈ splitLines s) :
    '\n' ∉ line.toList := by
  obtain ⟨run, hrun, rfl⟩ := List.mem_map.mp hline
  rw [String.toList_ofList]
  exact newline_not_mem_splitLinesFrom List.not_mem_nil run hrun

/-! Runs without a line feed lie in lines. -/

theorem prefix_of_prefix_join {r a b : List Char} (hr : r <+: a ++ '\n' :: b)
    (hfree : '\n' ∉ r) : r <+: a := by
  rcases List.prefix_or_prefix_of_prefix hr (List.prefix_append a ('\n' :: b)) with hra | har
  · exact hra
  · obtain ⟨rest, rfl⟩ := har
    rw [List.prefix_append_right_inj, List.prefix_cons_iff] at hr
    rcases hr with rfl | ⟨tail, rfl, _⟩
    · simp
    · simp at hfree

theorem infix_of_infix_join {r a b : List Char} (hr : r <:+: a ++ '\n' :: b)
    (hfree : '\n' ∉ r) : r <:+: a ∨ r <:+: b := by
  induction a with
  | nil =>
      rcases List.infix_cons_iff.mp hr with hstart | hb
      · exact Or.inl (prefix_of_prefix_join (a := []) hstart hfree).isInfix
      · exact Or.inr hb
  | cons c a ih =>
      rcases List.infix_cons_iff.mp hr with hstart | hrest
      · exact Or.inl (prefix_of_prefix_join (a := c :: a) hstart hfree).isInfix
      · rcases ih hrest with ha | hb
        · exact Or.inl (ha.trans (List.suffix_cons c a).isInfix)
        · exact Or.inr hb

theorem exists_isLine_of_infix {text r : List Char} (hr : r <:+: text) (hfree : '\n' ∉ r) :
    ∃ run, IsLine text run ∧ r <:+: run := by
  induction text using newline_induction with
  | line s hline => exact ⟨s, ⟨hline, [], [], by simp, Or.inl rfl, Or.inl rfl⟩, hr⟩
  | join a b iha ihb =>
      rcases infix_of_infix_join hr hfree with ha | hb
      · obtain ⟨run, hrun, hinfix⟩ := iha ha
        exact ⟨run, hrun.join_left b, hinfix⟩
      · obtain ⟨run, hrun, hinfix⟩ := ihb hb
        exact ⟨run, hrun.join_right a, hinfix⟩

theorem IsLine.isInfix {text run : List Char} (hrun : IsLine text run) : run <:+: text := by
  obtain ⟨_, before, after, htext, _⟩ := hrun
  exact ⟨before, after, htext.symm⟩

/-! Line endings of other kinds. -/

/-- Whether a text is another one with a line feed for each line ending: these are CR LF, a CR that no
line feed follows, and the line feed itself. -/
inductive Unifies : List Char → List Char → Prop
  | nil : Unifies [] []
  | pair {s t : List Char} (hrest : Unifies s t) : Unifies ('\r' :: '\n' :: s) ('\n' :: t)
  | alone {s t : List Char} (hs : s.head? ≠ some '\n') (hrest : Unifies s t) :
      Unifies ('\r' :: s) ('\n' :: t)
  | other {c : Char} {s t : List Char} (hc : c ≠ '\r') (hrest : Unifies s t) :
      Unifies (c :: s) (c :: t)

theorem universalNewlines_cons {c : Char} {s : List Char}
    (hpair : ¬ (c = '\r' ∧ s.head? = some '\n')) :
    universalNewlines (c :: s) = (if c = '\r' then '\n' else c) :: universalNewlines s := by
  rw [universalNewlines]
  rintro rest rfl rfl
  exact hpair ⟨rfl, rfl⟩

theorem unifies_universalNewlines (s : List Char) : Unifies s (universalNewlines s) := by
  fun_induction universalNewlines s with
  | case1 => exact .nil
  | case2 rest ih => exact .pair ih
  | case3 c rest hpair ih =>
      by_cases hreturn : c = '\r'
      · subst hreturn
        rw [if_pos rfl]
        refine .alone ?_ ih
        intro hfeed
        obtain ⟨tail, rfl⟩ := List.head?_eq_some_iff.mp hfeed
        exact hpair tail rfl rfl
      · rw [if_neg hreturn]
        exact .other hreturn ih

theorem unifies_iff (s t : List Char) : Unifies s t ↔ t = universalNewlines s := by
  constructor
  · intro hunifies
    induction hunifies with
    | nil => rfl
    | pair _ ih => rw [ih, universalNewlines]
    | alone hs _ ih =>
        rw [universalNewlines_cons (fun hpair => hs hpair.2), if_pos rfl, ih]
    | other hc _ ih =>
        rw [universalNewlines_cons (fun hpair => hc hpair.1), if_neg hc, ih]
  · rintro rfl
    exact unifies_universalNewlines s

theorem universalNewlines_eq_self {s : List Char} (hfree : '\r' ∉ s) : universalNewlines s = s := by
  fun_induction universalNewlines s with
  | case1 => rfl
  | case2 rest ih => simp at hfree
  | case3 c rest hpair ih =>
      have hother : c ≠ '\r' := (List.ne_of_not_mem_cons hfree).symm
      rw [if_neg hother, ih (List.not_mem_of_not_mem_cons hfree)]

theorem return_not_mem_universalNewlines (s : List Char) : '\r' ∉ universalNewlines s := by
  fun_induction universalNewlines s with
  | case1 => exact List.not_mem_nil
  | case2 rest ih => simp [ih]
  | case3 c rest hpair ih =>
      by_cases hreturn : c = '\r'
      · simp [hreturn, ih]
      · simp [hreturn, ih, Ne.symm hreturn]

theorem newline_mem_universalNewlines {s : List Char} (hreturn : '\r' ∈ s) :
    '\n' ∈ universalNewlines s := by
  fun_induction universalNewlines s with
  | case1 => exact absurd hreturn List.not_mem_nil
  | case2 rest ih => exact List.mem_cons_self
  | case3 c rest hpair ih =>
      rcases List.mem_cons.mp hreturn with rfl | hrest
      · simp
      · exact List.mem_cons_of_mem _ (ih hrest)

theorem prefix_of_universalNewlines {r s : List Char} (hr : r <+: universalNewlines s)
    (hfree : '\n' ∉ r) : r <+: s := by
  fun_induction universalNewlines s generalizing r with
  | case1 => exact hr
  | case2 rest ih =>
      rcases List.prefix_cons_iff.mp hr with rfl | ⟨tail, rfl, _⟩
      · exact List.nil_prefix
      · simp at hfree
  | case3 c rest hpair ih =>
      rcases List.prefix_cons_iff.mp hr with rfl | ⟨tail, rfl, htail⟩
      · exact List.nil_prefix
      · by_cases hreturn : c = '\r'
        · simp [hreturn] at hfree
        · rw [if_neg hreturn] at hfree ⊢
          exact List.cons_prefix_cons.mpr ⟨rfl, ih htail (List.not_mem_of_not_mem_cons hfree)⟩

/-- What holds no line feed once every line ending is one was so in the text before. -/
theorem infix_of_universalNewlines {r s : List Char} (hr : r <:+: universalNewlines s)
    (hfree : '\n' ∉ r) : r <:+: s := by
  fun_induction universalNewlines s with
  | case1 => exact hr
  | case2 rest ih =>
      rcases List.infix_cons_iff.mp hr with hstart | hrest
      · rcases List.prefix_cons_iff.mp hstart with rfl | ⟨tail, rfl, _⟩
        · exact List.nil_infix
        · simp at hfree
      · exact (ih hrest).trans ⟨['\r', '\n'], [], by simp⟩
  | case3 c rest hpair ih =>
      rcases List.infix_cons_iff.mp hr with hstart | hrest
      · apply List.IsPrefix.isInfix
        apply prefix_of_universalNewlines _ hfree
        rw [universalNewlines]
        · exact hstart
        · exact hpair
      · exact (ih hrest).trans (List.suffix_cons c rest).isInfix

theorem dropFinalNewline_prefix (s : List Char) : dropFinalNewline s <+: s := by
  unfold dropFinalNewline
  split
  · exact List.dropLast_prefix s
  · exact List.prefix_rfl

end JuliaBlocks.Text
