import JuliaBlocks.Proofs.Julia.Refusal
import JuliaBlocks.Proofs.Number.Shortest

/-!
Literals are unambiguous. A value has one unless an integer in it has too many digits, and two
values are written alike just if they have the same tree, in which a floating-point number is known
by its literal. Main statement: `literal_unambiguous`.
-/

namespace JuliaBlocks.Julia

/-- Whether two values are written, and alike. -/
def SameLiteral (v w : Value) : Prop :=
  ∃ written, literal v = .ok written ∧ literal w = .ok written

theorem Tree.Canonical.render_inj {t u : Tree} (ht : t.Canonical) (hu : u.Canonical) :
    t.render = u.render ↔ t = u := by
  constructor
  · intro hrender
    have hread := readLiteral_render t [] ht delimited_nil
    rw [hrender, readLiteral_render u [] hu delimited_nil] at hread
    cases hread
    rfl
  · rintro rfl
    rfl

theorem sameLiteral_iff (v w : Value) :
    SameLiteral v w ↔ v.Printable ∧ w.Printable ∧ tree v = tree w := by
  have hrender := (tree_canonical v).render_inj (tree_canonical w)
  simp only [SameLiteral, literal_eq_ok_iff]
  constructor
  · rintro ⟨written, ⟨hv, hwritten⟩, hw, hother⟩
    have hsame : (tree v).render = (tree w).render :=
      String.ofList_injective (hwritten.symm.trans hother)
    exact ⟨hv, hw, hrender.mp hsame⟩
  · rintro ⟨hv, hw, htree⟩
    exact ⟨_, ⟨hv, rfl⟩, hw, by rw [htree]⟩

theorem floatLiteral_finite_ne {s : String} (hspecial : s ∈ Tree.specialFloats) (negative : Bool)
    (significand : Nat) (exponent : Int) (canonical : Binary64.Canonical significand exponent) :
    floatLiteral (.finite negative significand exponent canonical) ≠ s := by
  rintro rfl
  have hdecimal : Binary64.isDecimal
      (floatLiteral (.finite negative significand exponent canonical)).toList = true :=
    Binary64.render_finite_isDecimal negative significand exponent canonical
  have hnone : ∀ s ∈ Tree.specialFloats, Binary64.isDecimal s.toList = false := by decide
  rw [hnone _ hspecial] at hdecimal
  cases hdecimal

/-- Floating-point numbers that are written alike are the same. -/
theorem floatLiteral_inj (x y : Binary64) : floatLiteral x = floatLiteral y ↔ x = y := by
  have hspecial (x : Binary64) (hx : ∀ p m e h, x ≠ .finite p m e h) :
      floatLiteral x ∈ Tree.specialFloats := by
    cases x with
    | nan => decide
    | infinity negative => cases negative <;> decide
    | finite p m e h => exact absurd rfl (hx p m e h)
  constructor
  · intro hsame
    cases x with
    | finite p m e hm =>
        cases y with
        | finite q n f hn => exact (Binary64.render_finite_inj hm hn).mp hsame
        | _ => exact absurd hsame (floatLiteral_finite_ne (hspecial _ (by simp)) p m e hm)
    | nan =>
        cases y with
        | nan => rfl
        | infinity q => cases q <;> exact absurd hsame (by decide)
        | finite q n f hn =>
            exact absurd hsame.symm (floatLiteral_finite_ne (hspecial _ (by simp)) q n f hn)
    | infinity p =>
        cases y with
        | nan => cases p <;> exact absurd hsame (by decide)
        | infinity q => revert hsame; revert p q; decide
        | finite q n f hn =>
            exact absurd hsame.symm (floatLiteral_finite_ne (hspecial _ (by simp)) q n f hn)
  · rintro rfl
    rfl

/-- A value has a literal just if each integer in it has few enough digits to be written. Values
have one literal just if they have one tree, and there two floating-point numbers are one just if
they are the same number. -/
theorem literal_unambiguous :
    (∀ v : Value, (∃ written, literal v = .ok written) ↔ v.Printable) ∧
    (∀ v : Value, literal v = .error .unprintableInteger ↔ ¬ v.Printable) ∧
    (∀ v w : Value, SameLiteral v w ↔ v.Printable ∧ w.Printable ∧ tree v = tree w) ∧
    (∀ x y : Binary64, tree (.float x) = tree (.float y) ↔ x = y) := by
  refine ⟨?_, ?_, sameLiteral_iff, ?_⟩
  · intro v
    simp [literal_eq_ok_iff]
  · intro v
    simp [literal_eq_error_iff]
  · intro x y
    rw [tree, tree, Tree.float.injEq]
    exact floatLiteral_inj x y

end JuliaBlocks.Julia
