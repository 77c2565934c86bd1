import JuliaBlocks.Proofs.Output.Fidelity
import JuliaBlocks.Proofs.Text.Replacement

/-!
What an output file of any octets is read as: the whole text that they stand for, or the notice. What
was read is read again as it is, and a text that is short enough for a limit is read alike under any
greater one. Main statement: `read_stable`.
-/

namespace JuliaBlocks.Output

/-- Whether the octets of an output file stand for a text: what is UTF-8 for its characters, each
maximal subpart of what is not for a replacement, and then each line ending for a line feed. -/
def Denotes (content : List UInt8) (text : List Char) : Prop :=
  ∃ written, Text.Utf8.Decodes content written ∧ Text.Unifies written text

theorem denotes_iff (content : List UInt8) (text : List Char) :
    Denotes content text ↔ text = decode content := by
  simp only [Denotes, Text.Utf8.decodes_iff, Text.unifies_iff, exists_eq_left, decode]

theorem return_not_mem_decode (content : List UInt8) : '\r' ∉ decode content :=
  Text.return_not_mem_universalNewlines _

theorem HasLongLine.of_le {text : List Char} {limit larger : Int}
    (hlong : HasLongLine text larger) (hle : limit ≤ larger) : HasLongLine text limit := by
  obtain ⟨line, hline, hlarger⟩ := hlong
  exact ⟨line, hline, Int.lt_of_le_of_lt hle hlarger⟩

/-- A text without carriage returns that is short enough is read as it was written. -/
theorem read_encode_self {t : String} {limit : Int} (hfree : '\r' ∉ t.toList)
    (hfits : ¬ HasLongLine t.toList limit) : read (some (Text.Utf8.encode t)) limit = t :=
  (faithful_of_free limit hfree).2 hfits

/-- The notice is read as the notice, also when it is too long itself. -/
theorem read_encode_suppressed (limit : Int) :
    read (some (Text.Utf8.encode suppressed)) limit = suppressed := by
  have hfree : '\r' ∉ suppressed.toList := by decide
  by_cases hlong : HasLongLine suppressed.toList limit
  · exact (faithful_of_free limit hfree).1.mpr (Or.inl hlong)
  · exact read_encode_self hfree hlong

/-- What was read is read as it is from then on. -/
theorem read_encode_read (content : List UInt8) (limit : Int) :
    let result := read (some content) limit
    read (some (Text.Utf8.encode result)) limit = result := by
  intro result
  by_cases hlong : HasLongLine (decode content) limit
  · have hresult : result = suppressed := read_of_long hlong
    rw [hresult, read_encode_suppressed]
  · have hresult : result = String.ofList (decode content) := read_of_fits hlong
    have hchars : result.toList = decode content := by rw [hresult, String.toList_ofList]
    apply read_encode_self
    · rw [hchars]
      exact return_not_mem_decode content
    · rw [hchars]
      exact hlong

theorem read_eq_or (content : List UInt8) (limit : Int) :
    read (some content) limit = suppressed ∨
      read (some content) limit = String.ofList (decode content) := by
  by_cases hlong : HasLongLine (decode content) limit
  · exact Or.inl (read_of_long hlong)
  · exact Or.inr (read_of_fits hlong)

theorem return_not_mem_read (content : List UInt8) (limit : Int) :
    '\r' ∉ (read (some content) limit).toList := by
  obtain hresult | hresult := read_eq_or content limit
  · rw [hresult]
    decide
  · rw [hresult, String.toList_ofList]
    exact return_not_mem_decode content

/-- Only the notice may have a line longer than the limit. -/
theorem not_hasLongLine_read {content : List UInt8} {limit : Int}
    (hresult : read (some content) limit ≠ suppressed) :
    ¬ HasLongLine (read (some content) limit).toList limit := by
  have hfits : ¬ HasLongLine (decode content) limit := fun hlong => hresult (read_of_long hlong)
  rw [read_of_fits hfits, String.toList_ofList]
  exact hfits

/-- The octets of an output file stand for one text. They are read as that text or as the notice,
without a carriage return and, but for the notice, without a line over the limit. The octets of the
result are read as the result again, and if the text is short enough for the limit, then every
greater one gives it too. -/
theorem read_stable (content : List UInt8) (limit : Int) :
    let result := read (some content) limit
    ∃ text : String, (∀ seen, Denotes content seen ↔ seen = text.toList) ∧
      (result = suppressed ∨ result = text) ∧ '\r' ∉ result.toList ∧
      (result ≠ suppressed →
        ∀ line, Text.IsLine result.toList line → (line.length : Int) ≤ limit) ∧
      read (some (Text.Utf8.encode result)) limit = result ∧
      (¬ HasLongLine text.toList limit →
        ∀ larger, limit ≤ larger → read (some content) larger = text) := by
  intro result
  refine ⟨String.ofList (decode content), ?_, read_eq_or content limit,
    return_not_mem_read content limit, ?_, read_encode_read content limit, ?_⟩
  · intro seen
    rw [denotes_iff, String.toList_ofList]
  · intro hresult line hline
    by_contra hlimit
    exact not_hasLongLine_read hresult ⟨line, hline, Int.not_le.mp hlimit⟩
  · rw [String.toList_ofList]
    intro hfits larger hle
    exact read_of_fits fun hlong => hfits (hlong.of_le hle)

/-- An overlong form, a surrogate and a sequence cut short: octets that begin no character are
replaced one by one, and the three at the end, which begin one, together. The notice stands for a
text with a line of three characters though it is over the limit itself. -/
example : read (some [0xC0, 0x80, 0x0D, 0x0A, 0xED, 0xA0, 0x80, 0x0D, 0xF0, 0x9F, 0x98]) 3 =
    "\uFFFD\uFFFD\n\uFFFD\uFFFD\uFFFD\n\uFFFD" ∧
    read (some [0xC0, 0x80, 0x0D, 0x0A, 0xED, 0xA0, 0x80, 0x0D, 0xF0, 0x9F, 0x98]) 2 =
      suppressed := by
  decide

end JuliaBlocks.Output
