import JuliaBlocks.Proofs.Number.Canonical
import JuliaBlocks.Proofs.Request.Variables
import JuliaBlocks.Proofs.Text.Line

/-!
Integers on their way from a written text to a literal. What is written as an integer becomes the
integer that it denotes, and the literal of an integer is its canonical numeral, which is read as
the same integer again. Main statement: `integers_survive`.
-/

namespace JuliaBlocks

theorem Value.unquote?_of_denotes {s : List Char} {n : Int}
    (hs : Numeral.Denotes (Text.dropFinalNewline s) n) : unquote? s = none := by
  apply unquote?_of_plain
  intro c hc
  obtain ⟨rest, hrest⟩ := Text.dropFinalNewline_prefix s
  rw [← hrest, List.head?_append_of_ne_nil _ hs.ne_nil] at hc
  exact hs.plain c (List.mem_of_mem_head? hc)

/-- The texts that become integers are the numerals, with a line feed behind them or without. -/
theorem Value.ofWritten_int_iff {s : String} {n : Int} :
    ofWritten s = .ok (.int n) ↔ Numeral.Denotes (Text.dropFinalNewline s.toList) n := by
  unfold ofWritten
  split
  · next inside hquoted =>
    refine iff_of_false (by rintro ⟨⟩) ?_
    intro hdenotes
    rw [unquote?_of_denotes hdenotes] at hquoted
    cases hquoted
  · rw [← Numeral.readPlain?_integer_iff]
    split
    · next m hread => simp [hread]
    · next digits hread => simp [hread]
    · next hother _ =>
      refine iff_of_false ?_ (hother n)
      split <;> rintro ⟨⟩

theorem Julia.literal_int_iff {n : Int} {written : String} :
    literal (.int n) = .ok written ↔
      n.natAbs < 10 ^ Numeral.digitLimit ∧ written = Numeral.render n := by
  have hrender : literal (.int n) = .ok written ↔ Numeral.render? n = some written := by
    rw [literal, literal?]
    cases Numeral.render? n with
    | none => simp
    | some s => simp
  rw [hrender, Numeral.render?_eq_some_iff, Numeral.length_toDigits_le_digitLimit_iff]

/-- Integers survive as text. Every numeral of at most `digitLimit` digits, leading zeros counted,
becomes the integer that it denotes, and the literal of this integer is the one canonical numeral
that denotes it. Every integer of at most so many digits has a literal that becomes this integer
again. And nothing but such a numeral, with a line feed behind it or without, becomes an integer. -/
theorem integers_survive :
    (∀ (s : String) (n : Int), Numeral.Denotes s.toList n →
      Value.ofWritten s = .ok (.int n) ∧
      ∃ written, Julia.literal (.int n) = .ok written ∧
        ∀ t : String, Numeral.IsCanonical t.toList ∧ Numeral.Denotes t.toList n ↔ t = written) ∧
    (∀ n : Int, n.natAbs < 10 ^ Numeral.digitLimit →
      ∃ written, Julia.literal (.int n) = .ok written ∧ Value.ofWritten written = .ok (.int n)) ∧
    (∀ (s : String) (n : Int), Value.ofWritten s = .ok (.int n) →
      Numeral.Denotes (Text.dropFinalNewline s.toList) n) := by
  have hread {s : String} {n : Int} (hs : Numeral.Denotes s.toList n) :
      Value.ofWritten s = .ok (.int n) :=
    Value.ofWritten_int_iff.mpr (hs.dropFinalNewline.symm ▸ hs)
  refine ⟨?_, ?_, ?_⟩
  · intro s n hs
    refine ⟨hread hs, Numeral.render n, Julia.literal_int_iff.mpr ⟨hs.natAbs_lt, rfl⟩, ?_⟩
    intro t
    rw [Numeral.canonical_iff hs.natAbs_lt, String.toList_inj]
  · intro n hn
    exact ⟨Numeral.render n, Julia.literal_int_iff.mpr ⟨hn, rfl⟩, hread (Numeral.denotes_render hn)⟩
  · intro s n hwritten
    exact Value.ofWritten_int_iff.mp hwritten

/-- As many zeros as are read, with a minus sign in front. -/
def longZero : String := String.ofList ('-' :: List.replicate Numeral.digitLimit '0')

theorem integers_survive_longZero :
    Numeral.Denotes longZero.toList 0 ∧ Value.ofWritten longZero = .ok (.int 0) ∧
    Julia.literal (.int 0) = .ok "0" ∧
    (-12 : Int).natAbs < 10 ^ Numeral.digitLimit ∧
    Julia.literal (.int (-12)) = .ok "-12" ∧ Value.ofWritten "-12" = .ok (.int (-12)) ∧
    Value.ofWritten "+007\n" = .ok (.int 7) ∧ Numeral.Denotes ['+', '0', '0', '7'] 7 := by
  have hzeros : Numeral.AreDigits (List.replicate Numeral.digitLimit '0') := {
    nonempty := List.ne_nil_of_length_pos (by rw [List.length_replicate]; decide)
    digits := fun c hc => (List.mem_replicate.mp hc).2 ▸ rfl
    few := List.length_replicate.le }
  have hvalue : Numeral.placeValue (List.replicate Numeral.digitLimit '0') = 0 := by
    rw [← List.append_nil (List.replicate _ _), Numeral.placeValue_zeros]
    rfl
  have hzero : Numeral.Denotes longZero.toList 0 := by
    rw [longZero, String.toList_ofList]
    have hminus := Numeral.Denotes.minus hzeros
    rwa [hvalue] at hminus
  have htwelve : (-12 : Int).natAbs < 10 ^ Numeral.digitLimit :=
    Nat.lt_of_lt_of_le (by decide : 12 < 10 ^ 2) (Nat.pow_le_pow_right (by decide) (by decide))
  have hseven : Value.ofWritten "+007\n" = .ok (.int 7) := by rfl
  obtain ⟨hread, _⟩ := integers_survive.1 longZero 0 hzero
  obtain ⟨twelve, hwritten, hagain⟩ := integers_survive.2.1 (-12) htwelve
  have hsame : Julia.literal (.int (-12)) = .ok "-12" := by rfl
  have htext : twelve = "-12" := Except.ok.inj (hwritten.symm.trans hsame)
  exact ⟨hzero, hread, by rfl, htwelve, hsame, htext ▸ hagain, hseven,
    integers_survive.2.2 _ _ hseven⟩

end JuliaBlocks
