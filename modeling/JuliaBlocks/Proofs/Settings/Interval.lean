import JuliaBlocks.Proofs.Number.Name
import JuliaBlocks.Proofs.Settings.Sources
import JuliaBlocks.Proofs.Text.Line

/-!
What can be relied on of settings that were loaded, wherever their values came from. All holds that
the program depends on, except that the interval between two looks at an output file may be no
number at all: the condition on it refuses what is at most zero, which this is not. Main statement:
`load_positive_iff`.
-/

namespace JuliaBlocks

namespace Field

/-- Whether a text is taken for the name of what is no number: it is that name between white space,
or it is without its underscores, which may stand singly inside. -/
def SpellsNan (s : List Char) : Prop :=
  Decimal.NamesNan (Text.stripWhile Text.isSpace s) ∨
    ∃ t, dropUnderscores? s = some t ∧ Decimal.NamesNan t

/-- Whether a value is what is no number, or is read as that. -/
inductive GivesNan (objects : Objects) : Value → Prop
  | float : GivesNan objects (.float .nan)
  | text {s : String} (hs : SpellsNan s.toList) : GivesNan objects (.text s)
  | octets {bytes : List UInt8} {s : String} (hbytes : Text.Utf8.decode? bytes = some s)
      (hs : SpellsNan s.toList) : GivesNan objects (.octets bytes)
  | foreign {object : Foreign} (hobject : objects.float object = .ok .nan) :
      GivesNan objects (.foreign object)

/-- Reads a number from a text without white space and underscores. -/
def readPlain? (s : List Char) : Option Binary64 :=
  if s.any fun c => Text.isSpace c || c == '_' then none else Decimal.read? s

theorem any_eq_false_iff (s : List Char) :
    (s.any fun c => Text.isSpace c || c == '_') = false ↔
      ∀ c ∈ s, Text.isSpace c = false ∧ c ≠ '_' := by
  simp

theorem plain_of_readPlain? {s : List Char} {x : Binary64} (hread : readPlain? s = some x) :
    (∀ c ∈ s, Text.isSpace c = false ∧ c ≠ '_') ∧ Decimal.read? s = some x := by
  unfold readPlain? at hread
  split at hread
  · cases hread
  · next hany => exact ⟨(any_eq_false_iff s).mp (Bool.not_eq_true _ ▸ hany), hread⟩

theorem readPlain?_eq_nan_iff (s : List Char) :
    readPlain? s = some .nan ↔ Decimal.NamesNan s := by
  constructor
  · intro hread
    obtain ⟨hplain, hread⟩ := plain_of_readPlain? hread
    have hstripped : Text.Stripped Text.isSpace s := .of_none fun c hc => (hplain c hc).1
    rw [Decimal.read?_eq_nan_iff, Text.stripWhile_eq_self hstripped] at hread
    exact hread
  · intro hname
    rw [readPlain?, (any_eq_false_iff s).mpr hname.plain, if_neg Bool.false_ne_true,
      Decimal.read?_eq_nan_iff, Text.stripWhile_eq_self hname.stripped]
    exact hname

/-- Taking the underscores out of a text that has none leaves it as it is. -/
theorem dropUnderscores?_of_free {s t : List Char} (hfree : '_' ∉ s)
    (hdropped : dropUnderscores? s = some t) : t = s := by
  have hpieces : Text.pieces (· == '_') s = [s] := by
    apply Text.pieces_of_free
    intro c hc
    simpa using ne_of_mem_of_not_mem hc hfree
  simp only [dropUnderscores?, hpieces, Option.ite_none_left_eq_some] at hdropped
  simpa using hdropped.2.symm

theorem floatOfText?_eq_nan_iff (s : List Char) : floatOfText? s = some .nan ↔ SpellsNan s := by
  have hcases : floatOfText? s = (readPlain? (Text.stripWhile Text.isSpace s)).or
      ((dropUnderscores? s).bind readPlain?) := by
    simp only [floatOfText?, readPlain?, Option.orElse_eq_orElse, Option.orElse_eq_or]
    rfl
  have hdropped : (dropUnderscores? s).bind readPlain? = some .nan ↔
      ∃ t, dropUnderscores? s = some t ∧ Decimal.NamesNan t := by
    simp only [Option.bind_eq_some_iff, readPlain?_eq_nan_iff]
  rw [hcases, SpellsNan, ← readPlain?_eq_nan_iff, ← hdropped]
  cases hread : readPlain? (Text.stripWhile Text.isSpace s) with
  | none => simp
  | some x =>
      rw [Option.some_or]
      refine ⟨Or.inl, ?_⟩
      rintro (hx | hnan)
      · exact hx
      · -- What is read as it stands has no underscores, so that dropping them changes nothing.
        obtain ⟨t, ht, hname⟩ := hdropped.mp hnan
        obtain ⟨before, after, hs, hends⟩ := Text.exists_stripped_ends Text.isSpace s
        obtain ⟨hplain, _⟩ := plain_of_readPlain? hread
        have hfree : '_' ∉ s := by
          intro hmem
          rw [hs, List.append_assoc, List.mem_append, List.mem_append] at hmem
          rcases hmem with hmem | hmem | hmem
          · exact absurd (hends '_' (List.mem_append_left _ hmem)) (by decide)
          · exact (hplain '_' hmem).2 rfl
          · exact absurd (hends '_' (List.mem_append_right _ hmem)) (by decide)
        have hsame := dropUnderscores?_of_free hfree ht
        subst hsame
        rw [Text.stripWhile_eq_self hname.stripped, (readPlain?_eq_nan_iff t).mpr hname] at hread
        exact hread.symm

theorem ofText_eq_nan_iff (s : String) :
    (match floatOfText? s.toList with
      | some x => Except.ok x
      | none => .error Rule.floatParsing) = .ok .nan ↔ SpellsNan s.toList := by
  rw [← floatOfText?_eq_nan_iff]
  cases floatOfText? s.toList with
  | none => simp
  | some x => simp

theorem float_eq_nan_iff (objects : Objects) (v : Value) :
    float objects v = .ok .nan ↔ GivesNan objects v := by
  have hnone {w : Value} (hkind : float objects w ≠ .ok .nan) (hgives : ¬ GivesNan objects w) :
      float objects w = .ok .nan ↔ GivesNan objects w := iff_of_false hkind hgives
  cases v with
  | float x =>
      constructor
      · intro hread
        cases hread
        exact .float
      · rintro ⟨⟩
        rfl
  | text s =>
      have hread := ofText_eq_nan_iff s
      constructor
      · intro htext
        exact .text (hread.mp htext)
      · rintro (_ | hs)
        exact hread.mpr hs
  | octets bytes =>
      cases hbytes : Text.Utf8.decode? bytes with
      | none =>
          refine hnone (by simp [float, textOf?, hbytes]) ?_
          rintro (_ | _ | ⟨hdecoded, _⟩)
          rw [hbytes] at hdecoded
          cases hdecoded
      | some s =>
          have hread := ofText_eq_nan_iff s
          have htext : float objects (.octets bytes) = float objects (.text s) := by
            simp [float, textOf?, hbytes]
          rw [htext]
          constructor
          · intro hnan
            exact .octets hbytes (hread.mp hnan)
          · rintro (_ | _ | ⟨hdecoded, hs⟩)
            rw [hbytes] at hdecoded
            cases hdecoded
            exact hread.mpr hs
  | int n =>
      refine hnone ?_ (by rintro ⟨⟩)
      have hint : Binary64.ofInt n ≠ .nan := Binary64.ofFraction_ne_nan _ _ _
      unfold float
      dsimp only
      split
      · rintro ⟨⟩
      · intro hread
        exact hint (Except.ok.inj hread)
  | foreign object =>
      constructor
      · exact .foreign
      · rintro (_ | _ | _ | hobject)
        exact hobject
  | bool b =>
      refine hnone ?_ (by rintro ⟨⟩)
      intro hread
      exact Binary64.ofFraction_ne_nan _ _ _ (Except.ok.inj hread)
  | _ =>
      refine hnone ?_ (by rintro ⟨⟩)
      rintro ⟨⟩

end Field

namespace Settings

/-- The interval of settings that were loaded is that of the value which prevails for it, or the
default. -/
theorem interval_of_load {sources : Sources} {settings : Settings}
    (hload : load sources = .ok settings) :
    match sources.value? "poll_interval" with
    | some v => Field.float sources.objects v = .ok settings.pollInterval
    | none => settings.pollInterval = tenth := by
  obtain ⟨given, hgiven, htaken⟩ := taken_of_load hload
  have hinterval := htaken.pollInterval
  rw [take, lookup_gather hgiven (by decide)] at hinterval
  cases hvalue : sources.value? "poll_interval" with
  | none =>
      rw [hvalue] at hinterval
      exact (Except.ok.inj hinterval).symm
  | some v =>
      rw [hvalue] at hinterval
      obtain ⟨y, hfloat, hinterval⟩ := exists_of_bind_ok (ok_of_mapError_ok hinterval)
      split at hinterval
      · cases hinterval
        exact hfloat
      · cases hinterval

/-- The default session of settings that were loaded has no blanks around it. -/
theorem session_of_load {sources : Sources} {settings : Settings}
    (hload : load sources = .ok settings) :
    Text.Stripped Text.isBlank settings.defaultSession.toList := by
  obtain ⟨given, _, htaken⟩ := taken_of_load hload
  have hsession := htaken.defaultSession
  unfold take at hsession
  split at hsession
  · rw [← Except.ok.inj hsession]
    decide
  · next v _ =>
    obtain ⟨name, hname, hsession⟩ := exists_of_bind_ok (ok_of_mapError_ok hsession)
    split at hsession
    · cases hsession
      obtain ⟨text, _, htrimmed⟩ := exists_of_map_ok hname
      rw [← htrimmed]
      exact Text.stripped_trim text
    · cases hsession

/-- Whatever direct values, environment and environment file settings come from, there is at least
one look at an output file, a line may have a character, and the default session is the name of one
that keeps its state, without blanks around it. The interval between two looks is greater than zero
unless the value that prevails for it is, or is read as, what is no number; just then it is that. -/
theorem load_positive_iff {sources : Sources} {settings : Settings}
    (hload : load sources = .ok settings) :
    1 ≤ settings.pollAttempts ∧ 1 ≤ settings.maxLineLength ∧
    (settings.defaultSession ≠ "" ∧ settings.defaultSession ≠ SessionRef.ephemeralKey ∧
      Text.Stripped Text.isBlank settings.defaultSession.toList) ∧
    (settings.pollInterval.isPositive = true ∨ settings.pollInterval = .nan) ∧
    (settings.pollInterval.isPositive = true ↔
      ¬ ∃ v, sources.value? "poll_interval" = some v ∧ Field.GivesNan sources.objects v) := by
  have hvalid := load_valid hload
  have hnumber := Binary64.isPositive_iff_ne_nan hvalid.interval
  refine ⟨hvalid.attempts, hvalid.lines,
    ⟨hvalid.session.1, hvalid.session.2, session_of_load hload⟩, ?_, ?_⟩
  · rw [hnumber]
    exact (em (settings.pollInterval = .nan)).symm
  · rw [hnumber, not_iff_not]
    have hinterval := interval_of_load hload
    cases hvalue : sources.value? "poll_interval" with
    | none =>
        rw [hvalue] at hinterval
        have hdefault : settings.pollInterval ≠ .nan := hinterval ▸ Binary64.ofDecimal_ne_nan _ _ _
        simp [hdefault]
    | some v =>
        rw [hvalue] at hinterval
        dsimp only at hinterval
        simp only [Option.some.injEq, exists_eq_left', ← Field.float_eq_nan_iff, hinterval,
          Except.ok.injEq]

/-- Sources that each give something, in forms that are barely read: an infinite interval, numbers
with blanks and zeros around them, and a name between blanks that is no ASCII. -/
def motley : Sources where
  overrides := [("Default_Session", .octets [0xC2, 0xA0, 0x4E, 0x6F, 0x6E, 0x65, 0x20])]
  environment := [("BABEL_JULIA_POLL_INTERVAL", "iNf"), ("babel_julia_POLL_attempts", " 00_1 ")]
  dotenv := some "BABEL_JULIA_MAX_LINE_LENGTH=1 # one\nBABEL_JULIA_POLL_INTERVAL=nan\n"

theorem load_positive_motley :
    load motley = .ok { usual with
      pollInterval := .infinity false, pollAttempts := 1, maxLineLength := 1
      defaultSession := "None" } ∧
    ¬ ∃ v, motley.value? "poll_interval" = some v ∧ Field.GivesNan motley.objects v := by
  have hload : load motley = .ok { usual with
      pollInterval := .infinity false, pollAttempts := 1, maxLineLength := 1
      defaultSession := "None" } := rfl
  obtain ⟨_, _, _, _, hpositive⟩ := load_positive_iff hload
  exact ⟨hload, hpositive.mp rfl⟩

/-- What is no number is not at most zero, and so it is taken for an interval, from wherever it
comes. -/
theorem nan_interval_loaded :
    let loaded : Settings := { usual with pollInterval := .nan }
    load { overrides := [("poll_interval", .float .nan)] } = .ok loaded ∧
    load { environment := [("BABEL_JULIA_POLL_INTERVAL", " -NaN")] } = .ok loaded ∧
    load { dotenv := some "babel_julia_poll_interval = 'n_a_n'" } = .ok loaded ∧
    loaded.pollInterval.isPositive = false :=
  ⟨rfl, rfl, rfl, rfl⟩

end Settings

end JuliaBlocks
