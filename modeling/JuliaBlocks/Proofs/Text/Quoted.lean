import JuliaBlocks.Text.Quoted

/-!
Quoted text stands on one line: a line feed in a text is escaped, and no other character is written
as one. Main statements: `newline_not_mem_quoted` and `newline_not_mem_quotedOctets`.
-/

namespace JuliaBlocks.Text

theorem hexDigit_ne_newline {n : Nat} (hn : n < 16) : hexDigit n ≠ '\n' := by
  have hall : ∀ k : Fin 16, hexDigit k ≠ '\n' := by decide
  exact hall ⟨n, hn⟩

theorem newline_not_mem_hexDigits (width n : Nat) : '\n' ∉ hexDigits width n := by
  induction width generalizing n with
  | zero => exact List.not_mem_nil
  | succ width ih =>
      have hlast := (hexDigit_ne_newline (Nat.mod_lt n (by decide : 0 < 16))).symm
      simp [hexDigits, ih, hlast]

theorem newline_not_mem_numericEscape (n : Nat) : '\n' ∉ numericEscape n := by
  unfold numericEscape
  split
  · simp [newline_not_mem_hexDigits]
  · split
    · simp [newline_not_mem_hexDigits]
    · simp [newline_not_mem_hexDigits]

theorem chooseQuote_ne_newline (hasSingle hasDouble : Bool) :
    chooseQuote hasSingle hasDouble ≠ '\n' := by
  unfold chooseQuote
  split
  · decide
  · decide

theorem newline_not_mem_quotedChar {quote : Char} (hquote : quote ≠ '\n') (c : Char) :
    '\n' ∉ quotedChar quote c := by
  unfold quotedChar
  split
  · next hescaped =>
    have hc : c ≠ '\n' := by
      rcases hescaped with rfl | rfl
      · exact hquote
      · decide
    simp [hc.symm]
  · split
    · simp
    · next hc =>
      split
      · simp
      · split
        · simp
        · split
          · simpa using Ne.symm hc
          · exact newline_not_mem_numericEscape c.toNat

theorem newline_not_mem_between {quote : Char} {inside : List Char} (hquote : quote ≠ '\n')
    (hinside : '\n' ∉ inside) : '\n' ∉ quote :: inside ++ [quote] := by
  simp [hquote.symm, hinside]

/-- A text in quotes has no line feed. -/
theorem newline_not_mem_quoted (s : String) : '\n' ∉ (quoted s).toList := by
  have hquote := chooseQuote_ne_newline (s.toList.contains '\'') (s.toList.contains '"')
  rw [quoted, String.toList_ofList]
  apply newline_not_mem_between hquote
  intro hmem
  obtain ⟨c, _, hc⟩ := List.mem_flatMap.mp hmem
  exact newline_not_mem_quotedChar hquote c hc

/-- Octets in quotes have no line feed. -/
theorem newline_not_mem_quotedOctets (octets : List UInt8) :
    '\n' ∉ (quotedOctets octets).toList := by
  have hquote := chooseQuote_ne_newline (octets.contains 39) (octets.contains 34)
  rw [quotedOctets, String.toList_ofList]
  apply List.not_mem_cons_of_ne_of_not_mem (by decide)
  apply newline_not_mem_between hquote
  intro hmem
  obtain ⟨b, _, hb⟩ := List.mem_flatMap.mp hmem
  unfold quotedOctet at hb
  split at hb
  · exact newline_not_mem_quotedChar hquote _ hb
  · exact newline_not_mem_numericEscape _ hb

end JuliaBlocks.Text
