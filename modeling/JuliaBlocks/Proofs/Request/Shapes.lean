import JuliaBlocks.Proofs.Number.Canonical
import JuliaBlocks.Request.Variables

/-!
The shapes that variables may be given in. A map gives what the list of its entries gives, a text
what the list of it alone gives, and a list what its parts give one after the other, up to the first
failure. Main statement: `readVariables_shapes_agree`.
-/

namespace JuliaBlocks

theorem readItems_append (xs ys : List Value) :
    readItems (xs ++ ys) = do
      let front ← readItems xs
      let back ← readItems ys
      return front ++ back := by
  induction xs with
  | nil =>
      rw [List.nil_append]
      cases readItems ys <;> rfl
  | cons item xs ih =>
      rw [List.cons_append, readItems, readItems, ih]
      cases readVariable item with
      | error failure => rfl
      | ok read =>
          cases read with
          | none => rfl
          | some binding =>
              cases readItems xs with
              | error failure => rfl
              | ok front => cases readItems ys <;> rfl

/-- The entries of a map are read as if each were a pair of its own: the text of its key is taken
first, and nothing is looked for in its value. -/
theorem readEntries_eq_readItems (entries : List (Value × Value)) :
    readEntries entries = readItems (entries.map fun e => .tuple [e.1, e.2]) := by
  induction entries with
  | nil => rfl
  | cons e entries ih =>
      obtain ⟨name, value⟩ := e
      have hpair : readVariable (.tuple [name, value]) =
          do return some (← name.display, value) := rfl
      rw [List.map_cons, readItems, hpair, readEntries, ih]
      cases name.display <;> rfl

/-- It does not matter in which shape variables are given. A map gives the same as the list of its
entries as pairs, and a text the same as the list of this text. Two lists one behind the other give
the variables of both in order; if the first fails, they fail as it does, and otherwise as the
second does. -/
theorem readVariables_shapes_agree :
    (∀ entries : List (Value × Value),
      readVariables (.map entries) =
        readVariables (.list (entries.map fun e => .tuple [e.1, e.2]))) ∧
    (∀ s : String, readVariables (.text s) = readVariables (.list [.text s])) ∧
    (∀ xs ys : List Value,
      readVariables (.list (xs ++ ys)) =
        match readVariables (.list xs), readVariables (.list ys) with
        | .ok front, .ok back => .ok (front ++ back)
        | .error failure, _ => .error failure
        | .ok _, .error failure => .error failure) := by
  refine ⟨readEntries_eq_readItems, fun _ => rfl, ?_⟩
  intro xs ys
  have hlist (items : List Value) : readVariables (.list items) = readItems items := rfl
  rw [hlist, hlist, hlist, readItems_append]
  cases readItems xs with
  | error failure => rfl
  | ok front => cases readItems ys <;> rfl

/-- A map whose texts are not looked into, a binding alone, items of all forms before and behind a
gap, and between them a key with too many digits to be written, which is refused for all. -/
theorem readVariables_shapes_agree_mixed :
    let front : List Value := [.text "a = 'b=c'", .text "none", .tuple [.octets [97], .text "1=2"]]
    let back : List Value := [.int 3, .set [.text "k"], .text "x=0.5", .text "==1"]
    let long : Value := .int (10 ^ Numeral.digitLimit : Nat)
    readVariables (.list [.tuple [.text "x=1", .text "y=2"], .tuple [.int 5, .null]]) =
      .ok [("x=1", .text "y=2"), ("5", .null)] ∧
    readVariables (.list [.text " s = \"\" "]) = .ok [("s", .text "")] ∧
    readVariables (.list (front ++ back)) = .ok [("a", .text "b=c"), ("b'a'", .text "1=2"),
      ("x", .float (.ofDecimal false 5 (-1))), ("", .text "=1")] ∧
    readVariables (.list (front ++ .tuple [long, .null] :: back)) =
      .error .unprintableInteger := by
  intro front back long
  obtain ⟨hentries, htext, happend⟩ := readVariables_shapes_agree
  refine ⟨?_, ?_, ?_, ?_⟩
  · exact (hentries [(.text "x=1", .text "y=2"), (.int 5, .null)]).symm
  · exact (htext " s = \"\" ").symm
  · rw [happend front back]
    rfl
  · have hdigits : ¬ (Nat.toDigits 10 (10 ^ Numeral.digitLimit)).length ≤ Numeral.digitLimit := by
      rw [Numeral.length_toDigits_le_digitLimit_iff]
      exact lt_irrefl _
    have hlong : long.display? = none := by
      change Numeral.render? (10 ^ Numeral.digitLimit : Nat) = none
      rw [Numeral.render?, Int.natAbs_natCast, if_neg hdigits]
    have hrefused : readVariables (.list (.tuple [long, .null] :: back)) =
        .error .unprintableInteger := by
      have hitem : readVariable (.tuple [long, .null]) = .error .unprintableInteger := by
        simp only [readVariable, Value.items?, Value.display, hlong]
        rfl
      simp only [readVariables, Value.items?, readItems, hitem]
      rfl
    rw [happend front, hrefused]
    rfl

end JuliaBlocks
