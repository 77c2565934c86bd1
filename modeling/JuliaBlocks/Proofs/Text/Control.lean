import JuliaBlocks.Text.Control
import Mathlib.Data.List.TakeWhile

/-!
What is left of a text without its control sequences: all of it just if it has none. Main statement:
`dropControls_eq_self_iff`.
-/

namespace JuliaBlocks.Text

/-- Whether a text has a control sequence somewhere. -/
def HasControl (s : List Char) : Prop :=
  ∃ before parameters letter after, s = before ++ escape :: '[' :: (parameters ++ letter :: after) ∧
    (∀ c ∈ parameters, isControlParameter c = true) ∧ letter.isAlpha = true

theorem not_isControlParameter {c : Char} (hc : c.isAlpha = true) :
    isControlParameter c = false := by
  have hsemicolon : c ≠ ';' := by
    rintro rfl
    exact absurd hc (by decide)
  have hquestion : c ≠ '?' := by
    rintro rfl
    exact absurd hc (by decide)
  have hdigit : c.isDigit = false := by
    have hfrom : 'A'.val ≤ c.val := by
      rcases Bool.or_eq_true_iff.mp hc with hupper | hlower
      · exact (of_decide_eq_true hupper).1
      · exact UInt32.le_trans (by decide) (of_decide_eq_true (Bool.and_eq_true_iff.mp hlower).1)
    have hlate : ¬ c.val ≤ '9'.val := by
      intro huntil
      exact absurd (UInt32.le_trans hfrom huntil) (by decide)
    exact Bool.and_eq_false_iff.mpr (Or.inr (decide_eq_false hlate))
  simp [isControlParameter, hdigit, hsemicolon, hquestion]

theorem controlRest?_eq_some_iff {s rest : List Char} :
    controlRest? s = some rest ↔ ∃ parameters letter, s = parameters ++ letter :: rest ∧
      (∀ c ∈ parameters, isControlParameter c = true) ∧ letter.isAlpha = true := by
  unfold controlRest?
  constructor
  · intro hrest
    split at hrest
    · next letter _ hdropped =>
      obtain ⟨hletter, hrest⟩ := Option.ite_none_right_eq_some.mp hrest
      cases hrest
      refine ⟨s.takeWhile isControlParameter, letter, ?_, ?_, hletter⟩
      · rw [← hdropped, List.takeWhile_append_dropWhile]
      · exact fun c hc => List.mem_takeWhile_imp hc
    · cases hrest
  · rintro ⟨parameters, letter, rfl, hparameters, hletter⟩
    rw [List.dropWhile_append_of_pos hparameters,
      List.dropWhile_cons_of_neg (by simp [not_isControlParameter hletter])]
    exact if_pos hletter

theorem afterControl?_eq_some_iff {s rest : List Char} :
    afterControl? s = some rest ↔
      ∃ parameters letter, s = escape :: '[' :: (parameters ++ letter :: rest) ∧
        (∀ c ∈ parameters, isControlParameter c = true) ∧ letter.isAlpha = true := by
  constructor
  · intro hrest
    unfold afterControl? at hrest
    split at hrest
    · next c tail =>
      obtain ⟨rfl, hrest⟩ := Option.ite_none_right_eq_some.mp hrest
      obtain ⟨parameters, letter, rfl, hspec⟩ := controlRest?_eq_some_iff.mp hrest
      exact ⟨parameters, letter, rfl, hspec⟩
    · cases hrest
  · rintro ⟨parameters, letter, rfl, hspec⟩
    rw [afterControl?, if_pos rfl, controlRest?_eq_some_iff]
    exact ⟨parameters, letter, rfl, hspec⟩

theorem hasControl_of_afterControl? {s rest : List Char} (hs : afterControl? s = some rest) :
    HasControl s := by
  obtain ⟨parameters, letter, happend, hspec⟩ := afterControl?_eq_some_iff.mp hs
  exact ⟨[], parameters, letter, rest, happend, hspec⟩

/-- A control sequence that is not at the front is behind the first character. -/
theorem hasControl_cons_iff {c : Char} {s : List Char} (hc : afterControl? (c :: s) = none) :
    HasControl (c :: s) ↔ HasControl s := by
  constructor
  · rintro ⟨before, parameters, letter, after, happend, hspec⟩
    cases before with
    | nil =>
        have hfront := afterControl?_eq_some_iff.mpr ⟨parameters, letter, happend, hspec⟩
        rw [hc] at hfront
        cases hfront
    | cons first before =>
        exact ⟨before, parameters, letter, after, (List.cons.inj happend).2, hspec⟩
  · rintro ⟨before, parameters, letter, after, rfl, hspec⟩
    exact ⟨c :: before, parameters, letter, after, rfl, hspec⟩

theorem dropControls_nil : dropControls [] = [] := by
  unfold dropControls
  rfl

theorem dropControls_of_control {s rest : List Char} (hrest : afterControl? s = some rest) :
    dropControls s = dropControls rest := by
  rw [dropControls]
  split
  · next other hother =>
    rw [hrest] at hother
    cases hother
    rfl
  · next hnone =>
    rw [hrest] at hnone
    cases hnone

theorem dropControls_cons {c : Char} {s : List Char} (hc : afterControl? (c :: s) = none) :
    dropControls (c :: s) = c :: dropControls s := by
  rw [dropControls]
  split
  · next hother =>
    rw [hc] at hother
    cases hother
  · rfl

theorem length_dropControls_le (s : List Char) : (dropControls s).length ≤ s.length := by
  induction s using dropControls.induct with
  | case1 s rest hrest ih =>
      rw [dropControls_of_control hrest]
      exact Nat.le_trans ih (Nat.le_of_lt (length_of_afterControl? hrest))
  | case2 hrest => exact Nat.le_of_eq (congrArg List.length dropControls_nil)
  | case3 c s hrest ih =>
      rw [dropControls_cons hrest]
      exact Nat.succ_le_succ ih

theorem dropControls_eq_self_iff (s : List Char) : dropControls s = s ↔ ¬ HasControl s := by
  induction s using dropControls.induct with
  | case1 s rest hrest ih =>
      refine iff_of_false ?_ (not_not_intro (hasControl_of_afterControl? hrest))
      intro hsame
      have hshorter := length_dropControls_le rest
      rw [dropControls_of_control hrest] at hsame
      rw [hsame] at hshorter
      exact Nat.not_le_of_lt (length_of_afterControl? hrest) hshorter
  | case2 hrest =>
      refine iff_of_true dropControls_nil ?_
      rintro ⟨before, _, _, _, happend, _⟩
      simp at happend
  | case3 c s hrest ih =>
      rw [hasControl_cons_iff hrest, ← ih, dropControls_cons hrest, List.cons.injEq]
      simp only [true_and]

theorem afterControl?_append_newline {s : List Char} (hs : afterControl? s = none) :
    afterControl? (s ++ ['\n']) = none := by
  rw [Option.eq_none_iff_forall_ne_some]
  intro rest hrest
  obtain ⟨parameters, letter, happend, hparameters, hletter⟩ := afterControl?_eq_some_iff.mp hrest
  rcases List.eq_nil_or_concat rest with rfl | ⟨rest, last, rfl⟩
  · have hlast : (s ++ ['\n']).getLast? = some letter := by
      rw [happend]
      simp [List.getLast?_cons, List.getLast?_append]
    rw [List.getLast?_concat, Option.some.injEq] at hlast
    subst hlast
    exact absurd hletter (by decide)
  · have hsplit : s ++ ['\n'] = (escape :: '[' :: (parameters ++ letter :: rest)) ++ [last] := by
      rw [happend]
      simp
    have hfront := afterControl?_eq_some_iff.mpr
      ⟨parameters, letter, (List.append_inj' hsplit rfl).1, hparameters, hletter⟩
    rw [hs] at hfront
    cases hfront

/-- A line feed behind a text is kept: it ends no control sequence. -/
theorem dropControls_append_newline (s : List Char) :
    dropControls (s ++ ['\n']) = dropControls s ++ ['\n'] := by
  induction s using dropControls.induct with
  | case1 s rest hrest ih =>
      obtain ⟨parameters, letter, rfl, hspec⟩ := afterControl?_eq_some_iff.mp hrest
      have hlonger : afterControl? (escape :: '[' :: (parameters ++ letter :: rest) ++ ['\n']) =
          some (rest ++ ['\n']) :=
        afterControl?_eq_some_iff.mpr ⟨parameters, letter, by simp, hspec⟩
      rw [dropControls_of_control hlonger, dropControls_of_control hrest, ih]
  | case2 hrest =>
      have hnewline : afterControl? ['\n'] = none := rfl
      rw [List.nil_append, dropControls_cons hnewline, dropControls_nil]
      rfl
  | case3 c s hrest ih =>
      have hlonger := afterControl?_append_newline hrest
      rw [List.cons_append] at hlonger
      rw [List.cons_append, dropControls_cons hlonger, dropControls_cons hrest, ih,
        List.cons_append]

end JuliaBlocks.Text
