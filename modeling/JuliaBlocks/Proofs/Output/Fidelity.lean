import JuliaBlocks.Output
import JuliaBlocks.Proofs.Text.Line
import JuliaBlocks.Proofs.Text.Utf8

/-!
What becomes of a text that a session writes to an output file. It comes back unchanged, or as the
notice if one of its lines is too long, as long as it holds no carriage return; reading turns those
into line feeds, by which lines end that had not ended before. Main statement: `read_faithful_iff`.
-/

namespace JuliaBlocks.Output

/-- Whether a line of a text has more characters than the limit. -/
def HasLongLine (text : List Char) (limit : Int) : Prop :=
  ∃ line, Text.IsLine text line ∧ limit < line.length

theorem fits_eq_true_iff (limit : Int) (text : List Char) :
    fits limit text = true ↔ ¬ HasLongLine text limit := by
  simp only [fits, List.all_eq_true, Text.mem_lineRuns_iff, decide_eq_true_eq, HasLongLine,
    not_exists, not_and, Int.not_lt]

instance (text : List Char) (limit : Int) : Decidable (HasLongLine text limit) :=
  decidable_of_iff (fits limit text = false) (by
    rw [← not_iff_not, Bool.not_eq_false, fits_eq_true_iff])

theorem read_of_fits {content : List UInt8} {limit : Int}
    (hfits : ¬ HasLongLine (decode content) limit) :
    read (some content) limit = String.ofList (decode content) := by
  rw [read, if_pos ((fits_eq_true_iff _ _).mpr hfits)]

theorem read_of_long {content : List UInt8} {limit : Int}
    (hlong : HasLongLine (decode content) limit) : read (some content) limit = suppressed := by
  have hfits : ¬ fits limit (decode content) = true := by
    rw [fits_eq_true_iff, not_not]
    exact hlong
  rw [read, if_neg hfits]

theorem read_encode_of_long {t : String} {limit : Int}
    (hlong : HasLongLine (Text.universalNewlines t.toList) limit) :
    read (some (Text.Utf8.encode t)) limit = suppressed := by
  apply read_of_long
  rwa [decode, Text.Utf8.decode_encode]

theorem read_encode_of_fits {t : String} {limit : Int}
    (hfits : ¬ HasLongLine (Text.universalNewlines t.toList) limit) :
    read (some (Text.Utf8.encode t)) limit = String.ofList (Text.universalNewlines t.toList) := by
  have hdecode : decode (Text.Utf8.encode t) = Text.universalNewlines t.toList := by
    rw [decode, Text.Utf8.decode_encode]
  rw [read_of_fits (hdecode.symm ▸ hfits), hdecode]

/-- Cutting lines at further places makes none of them longer. -/
theorem HasLongLine.of_universalNewlines {text : List Char} {limit : Int}
    (hlong : HasLongLine (Text.universalNewlines text) limit) : HasLongLine text limit := by
  obtain ⟨line, hline, hlimit⟩ := hlong
  have hinfix := Text.infix_of_universalNewlines hline.isInfix hline.free
  obtain ⟨whole, hwhole, hpart⟩ := Text.exists_isLine_of_infix hinfix hline.free
  have hlength := hpart.length_le
  exact ⟨whole, hwhole, by omega⟩

/-- Whether a text in an output file is read as it was written: the notice stands for it just when
one of its lines is too long, and else it is unchanged. -/
def Faithful (t : String) (limit : Int) : Prop :=
  let result := read (some (Text.Utf8.encode t)) limit
  (result = suppressed ↔ HasLongLine t.toList limit ∨ t = suppressed) ∧
    (¬ HasLongLine t.toList limit → result = t)

theorem faithful_of_free {t : String} (limit : Int) (hfree : '\r' ∉ t.toList) :
    Faithful t limit := by
  have hseen := Text.universalNewlines_eq_self hfree
  by_cases hlong : HasLongLine t.toList limit
  · have hresult := read_encode_of_long (t := t) (hseen.symm ▸ hlong)
    exact ⟨by simp [hresult, hlong], fun hfits => absurd hlong hfits⟩
  · have hresult := read_encode_of_fits (t := t) (hseen.symm ▸ hlong)
    rw [hseen, String.ofList_toList] at hresult
    exact ⟨by simp [hresult, hlong], fun _ => hresult⟩

theorem faithful_of_long {t : String} {limit : Int}
    (hlong : HasLongLine (Text.universalNewlines t.toList) limit) : Faithful t limit := by
  have hresult := read_encode_of_long hlong
  have hwritten := hlong.of_universalNewlines
  exact ⟨by simp [hresult, hwritten], fun hfits => absurd hwritten hfits⟩

/-- A carriage return is seen as a line feed, which neither the text nor the notice has there. -/
theorem not_faithful_of_return {t : String} {limit : Int} (hreturn : '\r' ∈ t.toList)
    (hfits : ¬ HasLongLine (Text.universalNewlines t.toList) limit) : ¬ Faithful t limit := by
  have hresult := read_encode_of_fits hfits
  rintro ⟨hnotice, hsame⟩
  by_cases hlong : HasLongLine t.toList limit
  · have hseen := hnotice.mpr (Or.inl hlong)
    rw [hresult, ← String.toList_inj, String.toList_ofList] at hseen
    have hfeed := Text.newline_mem_universalNewlines hreturn
    rw [hseen] at hfeed
    exact absurd hfeed (by decide)
  · have hseen := hsame hlong
    rw [hresult, ← String.toList_inj, String.toList_ofList] at hseen
    rw [← hseen] at hreturn
    exact Text.return_not_mem_universalNewlines t.toList hreturn

/-- What comes of a text in an output file: with every line ending seen as a line feed it is
returned, or suppressed if a line is too long then. This is as it was written just for texts
without a carriage return and for those that are suppressed all the same. -/
theorem read_faithful_iff (t : String) (limit : Int) :
    let seen := Text.universalNewlines t.toList
    let result := read (some (Text.Utf8.encode t)) limit
    (HasLongLine seen limit → result = suppressed) ∧
    (¬ HasLongLine seen limit → result = String.ofList seen) ∧
    (Faithful t limit ↔ '\r' ∉ t.toList ∨ HasLongLine seen limit) := by
  intro seen result
  refine ⟨read_encode_of_long, read_encode_of_fits, ?_⟩
  constructor
  · intro hfaithful
    by_contra hneither
    rw [not_or, not_not] at hneither
    exact not_faithful_of_return hneither.1 hneither.2 hfaithful
  · rintro (hfree | hlong)
    · exact faithful_of_free limit hfree
    · exact faithful_of_long hlong

/-- A form feed does not end a line, so five characters stand in the first line here. -/
theorem read_faithful_formFeed :
    let t := "ab\x0cd\u2028\ne"
    HasLongLine (Text.universalNewlines t.toList) 4 ∧
    read (some (Text.Utf8.encode t)) 4 = suppressed ∧
    ¬ HasLongLine (Text.universalNewlines t.toList) 5 ∧
    read (some (Text.Utf8.encode t)) 5 = t ∧ Faithful t 5 := by
  intro t
  have hlong : HasLongLine (Text.universalNewlines t.toList) 4 := by decide
  have hfits : ¬ HasLongLine (Text.universalNewlines t.toList) 5 := by decide
  have hsame : String.ofList (Text.universalNewlines t.toList) = t := by decide
  obtain ⟨hsuppressed, _, _⟩ := read_faithful_iff t 4
  obtain ⟨_, hreturned, hfaithful⟩ := read_faithful_iff t 5
  exact ⟨hlong, hsuppressed hlong, hfits, (hreturned hfits).trans hsame,
    hfaithful.mpr (Or.inl (by decide))⟩

/-- A carriage return comes back as a line feed. -/
theorem carriageReturn_not_faithful :
    read (some (Text.Utf8.encode "a\rb")) 10 = "a\nb" ∧ ¬ Faithful "a\rb" 10 := by
  have hfits : ¬ HasLongLine (Text.universalNewlines "a\rb".toList) 10 := by decide
  have hseen : String.ofList (Text.universalNewlines "a\rb".toList) = "a\nb" := by decide
  exact ⟨(read_encode_of_fits hfits).trans hseen, not_faithful_of_return (by decide) hfits⟩

end JuliaBlocks.Output
