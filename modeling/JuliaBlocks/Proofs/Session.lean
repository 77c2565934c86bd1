import JuliaBlocks.Proofs.Text.Blank
import JuliaBlocks.Session
import JuliaBlocks.Text.Quoted

/-!
Where session keys lead. Keys that mean the same session lead to one name, and it is always a name
that text may be sent to. Main statements: `resolve_cases`, `resolve_name` and `resolve_key`.
-/

namespace JuliaBlocks.SessionRef

/-- Whether a name is one of a session that text may be sent to: it is not empty, there are no
blanks around it, and it is not the key of evaluations that keep no state. -/
structure Proper (name : String) : Prop where
  ne_empty : name ≠ ""
  ne_ephemeral : name ≠ ephemeralKey
  stripped : Text.Stripped Text.isBlank name.toList

/-- The quoted form of octets is such a name: it starts with the mark of octets and ends with a
quotation mark. -/
theorem quotedOctets_proper (octets : List UInt8) : Proper (Text.quotedOctets octets) := by
  obtain ⟨inside, quote, hquote, hform⟩ : ∃ inside quote, Text.isBlank quote = false ∧
      (Text.quotedOctets octets).toList = 'b' :: inside ++ [quote] := by
    let quote := Text.chooseQuote (octets.contains 39) (octets.contains 34)
    refine ⟨quote :: octets.flatMap (Text.quotedOctet quote), quote, ?_, ?_⟩
    · simp only [quote, Text.chooseQuote]
      split
      · decide
      · decide
    · rw [Text.quotedOctets, String.toList_ofList]
  constructor
  · intro hempty
    rw [hempty] at hform
    cases hform
  · intro hephemeral
    rw [hephemeral] at hform
    cases hform
  · rw [hform]
    constructor
    · rintro _ ⟨⟩
      decide
    · intro c hlast
      rw [List.getLast?_concat] at hlast
      cases hlast
      exact hquote

/-- The normal form of a key: the default for one that is missing, blank or stands for evaluations
that keep no state, and otherwise its text without the blanks around it. -/
def normalKey (default : String) : Option String → String
  | none => default
  | some key =>
    if Text.isBlankText key ∨ Text.trim key = ephemeralKey then default else Text.trim key

theorem resolve_of_ephemeral {s : String} (hs : Text.trim s = ephemeralKey) (default : String) :
    resolve (some s) default = ⟨ephemeralKey, default, false⟩ := by
  have hnamed : ephemeralKey ≠ "" := by decide
  simp only [resolve, hs, if_neg hnamed, if_true]

/-- A name that text may be sent to means the session of this name. -/
theorem resolve_of_proper {name : String} (hname : Proper name) (default : String) :
    resolve (some name) default = ⟨name, name, true⟩ := by
  simp only [resolve, Text.trim_eq_self hname.stripped, if_neg hname.ne_empty,
    if_neg hname.ne_ephemeral]

/-- What becomes of a key: it means the default session, the default session for an evaluation that
keeps no state, or the session that it names. -/
theorem resolve_cases (key : Option String) (default : String) :
    (resolve key default = ⟨default, default, true⟩ ∧ ∀ s, key = some s → Text.isBlankText s) ∨
    (resolve key default = ⟨ephemeralKey, default, false⟩ ∧
      ∃ s, key = some s ∧ Text.trim s = ephemeralKey) ∨
    ∃ s, key = some s ∧ Proper (Text.trim s) ∧
      resolve key default = ⟨Text.trim s, Text.trim s, true⟩ := by
  cases key with
  | none => exact Or.inl ⟨rfl, by simp⟩
  | some s =>
      by_cases hblank : Text.trim s = ""
      · refine Or.inl ⟨by simp only [resolve, if_pos hblank], ?_⟩
        rintro _ ⟨⟩
        exact (Text.trim_eq_empty_iff s).mp hblank
      · by_cases hephemeral : Text.trim s = ephemeralKey
        · exact Or.inr (Or.inl ⟨resolve_of_ephemeral hephemeral default, s, rfl, hephemeral⟩)
        · refine Or.inr (Or.inr ⟨s, rfl, ⟨hblank, hephemeral, Text.stripped_trim s⟩, ?_⟩)
          simp only [resolve, if_neg hblank, if_neg hephemeral]

/-- A key leads to its normal form. -/
theorem resolve_name (key : Option String) (default : String) :
    (resolve key default).name = normalKey default key := by
  rcases resolve_cases key default with
    ⟨hresolve, hblank⟩ | ⟨hresolve, s, rfl, hephemeral⟩ | ⟨s, rfl, hproper, hresolve⟩
  · rw [hresolve]
    cases key with
    | none => rfl
    | some s => rw [normalKey, if_pos (Or.inl (hblank s rfl))]
  · rw [hresolve, normalKey, if_pos (Or.inr hephemeral)]
  · have hnamed : ¬ (Text.isBlankText s = true ∨ Text.trim s = ephemeralKey) := by
      rw [← Text.trim_eq_empty_iff, not_or]
      exact ⟨hproper.ne_empty, hproper.ne_ephemeral⟩
    rw [hresolve, normalKey, if_neg hnamed]

section Default

variable {default : String} (hdefault : Proper default)
include hdefault

theorem resolve_proper (key : Option String) : Proper (resolve key default).name := by
  rcases resolve_cases key default with
    ⟨hresolve, _⟩ | ⟨hresolve, _⟩ | ⟨s, _, hproper, hresolve⟩
  · rwa [hresolve]
  · rwa [hresolve]
  · rwa [hresolve]

/-- A key that was resolved means what it was resolved to. -/
theorem resolve_key (key : Option String) :
    resolve (some (resolve key default).key) default = resolve key default := by
  rcases resolve_cases key default with
    ⟨hresolve, _⟩ | ⟨hresolve, _⟩ | ⟨s, _, hproper, hresolve⟩
  · rw [hresolve, resolve_of_proper hdefault]
  · -- The key that stands for no state is kept, so that it is not taken for the default later.
    have hsame : Text.trim ephemeralKey = ephemeralKey := by decide
    rw [hresolve, resolve_of_ephemeral hsame]
  · rw [hresolve, resolve_of_proper hproper]

end Default

/-- Only the key for it stands for evaluations that keep no state. -/
theorem persistent_eq_false_iff (key : Option String) (default : String) :
    (resolve key default).persistent = false ↔
      ∃ s, key = some s ∧ Text.trim s = ephemeralKey := by
  rcases resolve_cases key default with
    ⟨hresolve, hblank⟩ | ⟨hresolve, hephemeral⟩ | ⟨s, rfl, hproper, hresolve⟩
  · rw [hresolve]
    refine iff_of_false Bool.noConfusion ?_
    rintro ⟨s, rfl, hephemeral⟩
    rw [(Text.trim_eq_empty_iff s).mpr (hblank s rfl)] at hephemeral
    exact absurd hephemeral (by decide)
  · rw [hresolve]
    exact iff_of_true rfl hephemeral
  · rw [hresolve]
    refine iff_of_false Bool.noConfusion ?_
    rintro ⟨_, ⟨⟩, hephemeral⟩
    exact hproper.ne_ephemeral hephemeral

end JuliaBlocks.SessionRef
