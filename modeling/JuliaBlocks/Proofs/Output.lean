import JuliaBlocks.Output

/-!
Output files that have content and those that have none. However malformed the content is, its text
is not empty, so that an empty result always means that nothing was written. Main statement:
`read_eq_empty_iff`.
-/

namespace JuliaBlocks

namespace Text

/-- What is pending ends in a character, whatever follows it. -/
theorem Utf8.decodeFrom_some_ne_nil (p : Pending) (octets : List UInt8) :
    decodeFrom (some p) octets ≠ [] := by
  induction octets generalizing p with
  | nil => simp [decodeFrom]
  | cons octet octets ih =>
      rw [decodeFrom]
      by_cases hfits : p.low ≤ octet.toNat ∧ octet.toNat ≤ p.high
      · by_cases howed : p.owed = 1
        · simp [advance, hfits, howed]
        · simpa [advance, hfits, howed] using ih _
      · simp [advance, hfits]

/-- No octets are lost: where there is one, there is a character. -/
theorem Utf8.decode_ne_nil {octets : List UInt8} (hsome : octets ≠ []) : decode octets ≠ [] := by
  obtain ⟨octet, octets, rfl⟩ := List.exists_cons_of_ne_nil hsome
  rw [decode, decodeFrom, start]
  cases lead octet with
  | character c => simp
  | sequence p => simpa using decodeFrom_some_ne_nil p octets
  | invalid => simp

theorem universalNewlines_ne_nil {s : List Char} (hsome : s ≠ []) : universalNewlines s ≠ [] := by
  unfold universalNewlines
  split
  · exact absurd rfl hsome
  · simp
  · simp

end Text

namespace Output

theorem suppressed_ne_empty : suppressed ≠ "" := by decide

theorem decode_ne_nil {content : List UInt8} (hsome : content ≠ []) : decode content ≠ [] :=
  Text.universalNewlines_ne_nil (Text.Utf8.decode_ne_nil hsome)

/-- A result is empty exactly if nothing was written, whatever was written instead. -/
theorem read_eq_empty_iff (content : Option (List UInt8)) {limit : Int} (hlimit : 0 ≤ limit) :
    read content limit = "" ↔ arrived content = false := by
  rcases content with _ | _ | ⟨octet, octets⟩
  · simp [read, arrived]
  · have hfits : fits limit (decode []) = true := by
      simpa [fits, decode, Text.Utf8.decode, Text.Utf8.decodeFrom, Text.universalNewlines,
        Text.lineRuns, Text.pieces] using hlimit
    have hread : read (some []) limit = "" := by
      rw [read, if_pos hfits]
      rfl
    simp [hread, arrived]
  · have hsome : decode (octet :: octets) ≠ [] := decode_ne_nil (by simp)
    have hread : read (some (octet :: octets)) limit ≠ "" := by
      rw [read]
      split
      · simpa [← String.toList_inj] using hsome
      · exact suppressed_ne_empty
    simp [hread, arrived]

end Output

end JuliaBlocks
