import JuliaBlocks.Proofs.Request.Variables
import JuliaBlocks.Proofs.Text.Order
import JuliaBlocks.Request

/-!
Which header arguments make a request, and which request. A malformed argument counts as absent,
but a few are refused instead: infinite dimensions, values that have no text where one is taken, and
what is no collection where several things may be given. Main statement: `ofHeader_returns_iff`.
-/

namespace JuliaBlocks

/-- The integer that a value stands for as a dimension. -/
inductive Value.StandsFor : Value → Int → Prop
  | bool (b : Bool) : StandsFor (.bool b) (if b then 1 else 0)
  | int (n : Int) : StandsFor (.int n) n
  | float {x : Binary64} {n : Int} (hx : x.truncate? = some n) : StandsFor (.float x) n
  | text {s : String} {n : Int} (hs : Numeral.read s.toList = .integer n) : StandsFor (.text s) n
  | octets {bytes : List UInt8} {n : Int} (hbytes : Numeral.readOctets bytes = .integer n) :
      StandsFor (.octets bytes) n

namespace Header

theorem readingInt?_eq_some_iff {reading : Numeral.Reading} {n : Int} :
    readingInt? reading = some n ↔ reading = .integer n := by
  cases reading with
  | integer m => simp [readingInt?]
  | malformed => simp [readingInt?]
  | tooLong digits => simp [readingInt?]

theorem toInt?_returns_iff (v : Value) :
    (∃ n, toInt? v = .ok n) ↔ ∀ negative, v ≠ .float (.infinity negative) := by
  cases v with
  | float x => cases x <;> simp [toInt?]
  | _ => simp [toInt?]

theorem standsFor_iff {v : Value} {read : Option Int} (hread : toInt? v = .ok read) (n : Int) :
    v.StandsFor n ↔ read = some n := by
  constructor
  · rintro (_ | _ | hx | hs | hbytes)
    · exact (Except.ok.inj hread).symm
    · exact (Except.ok.inj hread).symm
    · next x =>
      cases x with
      | finite negative significand exponent canonical =>
          exact (Except.ok.inj hread).symm.trans hx
      | _ => cases hx
    · exact (Except.ok.inj hread).symm.trans (readingInt?_eq_some_iff.mpr hs)
    · exact (Except.ok.inj hread).symm.trans (readingInt?_eq_some_iff.mpr hbytes)
  · rintro rfl
    cases v with
    | bool b =>
        cases hread
        exact .bool b
    | int _ =>
        cases hread
        exact .int n
    | float x =>
        cases x with
        | finite negative significand exponent canonical =>
            cases hread
            exact .float rfl
        | _ => cases hread
    | text s => exact .text (readingInt?_eq_some_iff.mp (Except.ok.inj hread))
    | octets bytes => exact .octets (readingInt?_eq_some_iff.mp (Except.ok.inj hread))
    | _ => cases hread

/-- The dimension that a value gives: the positive integer that it stands for, or the usual one if
it stands for none. -/
def DimensionFor (usual : Int) (v : Value) (n : Int) : Prop :=
  0 < n ∧ (v.StandsFor n ∨ n = usual ∧ ∀ m, v.StandsFor m → m ≤ 0)

theorem dimension_returns_iff (usual : Int) (v : Value) :
    (∃ n, dimension usual v = .ok n) ↔ ∀ negative, v ≠ .float (.infinity negative) := by
  rw [← toInt?_returns_iff, dimension, bind_returns_iff]
  constructor
  · rintro ⟨read, hread, _⟩
    exact ⟨read, hread⟩
  · rintro ⟨read, hread⟩
    refine ⟨read, hread, ?_⟩
    cases read with
    | none => exact ⟨usual, rfl⟩
    | some n => exact ⟨_, rfl⟩

theorem dimensionFor_of_dimension {usual : Int} (husual : 0 < usual) {v : Value} {n : Int}
    (hdimension : dimension usual v = .ok n) : DimensionFor usual v n := by
  obtain ⟨read, hread, hdimension⟩ := exists_of_bind_ok hdimension
  have hstands := standsFor_iff hread
  cases read with
  | none =>
      cases hdimension
      exact ⟨husual, Or.inr ⟨rfl, fun m hm => nomatch (hstands m).mp hm⟩⟩
  | some m =>
      have hn := Except.ok.inj hdimension
      split at hn
      · next hpositive =>
        subst hn
        exact ⟨hpositive, Or.inl ((hstands m).mpr rfl)⟩
      · next hnot =>
        subst hn
        refine ⟨husual, Or.inr ⟨rfl, ?_⟩⟩
        intro k hk
        cases (hstands k).mp hk
        exact Int.not_lt.mp hnot

/-- A part of a request that is made from the text of a value can be had if the value has a text. -/
theorem shown_returns_iff {read : Value → Except Failure Value} {part : String → Value}
    (hnull : read .null = .ok .null) (hread : ∀ v, v ≠ .null → read v = part <$> v.display)
    (v : Value) : (∃ p, read v = .ok p) ↔ v.Printable := by
  rw [← v.display_returns_iff]
  by_cases hv : v = .null
  · subst hv
    exact iff_of_true ⟨_, hnull⟩ ⟨_, rfl⟩
  · rw [hread v hv]
    constructor
    · rintro ⟨p, hp⟩
      obtain ⟨s, hs, _⟩ := exists_of_map_ok hp
      exact ⟨s, hs⟩
    · rintro ⟨s, hs⟩
      exact ⟨part s, by rw [hs]; rfl⟩

/-- The text that a value gives for a part of a request: none if it is null or blank. -/
inductive TextFor : Value → Value → Prop
  | absent : TextFor .null .null
  | blank {v : Value} {s : String} (hv : v.display? = some s) (hs : Text.isBlankText s = true) :
      TextFor v .null
  | shown {v : Value} {s : String} (hnull : v ≠ .null) (hv : v.display? = some s)
      (hs : Text.isBlankText s = false) : TextFor v (.text s)

theorem optionalText_of_ne_null (v : Value) (hv : v ≠ .null) :
    optionalText v = (fun s => if Text.isBlankText s then .null else .text s) <$> v.display := by
  cases v with
  | null => exact absurd rfl hv
  | _ => rfl

theorem optionalText_returns_iff (v : Value) : (∃ part, optionalText v = .ok part) ↔ v.Printable :=
  have hnull : optionalText .null = .ok .null := rfl
  shown_returns_iff hnull optionalText_of_ne_null v

theorem textFor_of_optionalText {v part : Value} (hpart : optionalText v = .ok part) :
    TextFor v part := by
  by_cases hv : v = .null
  · subst hv
    cases hpart
    exact .absent
  · rw [optionalText_of_ne_null v hv] at hpart
    obtain ⟨s, hs, rfl⟩ := exists_of_map_ok hpart
    rw [Value.display_eq_ok_iff] at hs
    split
    · next hblank => exact .blank hs hblank
    · next hblank => exact .shown hv hs (Bool.not_eq_true _ ▸ hblank)

/-- The key of a session that a value gives: its text, even if it is blank, unless it is null. -/
inductive KeyFor : Value → Value → Prop
  | absent : KeyFor .null .null
  | shown {v : Value} {s : String} (hnull : v ≠ .null) (hv : v.display? = some s) :
      KeyFor v (.text s)

theorem sessionKey_of_ne_null (v : Value) (hv : v ≠ .null) :
    sessionKey v = .text <$> v.display := by
  cases v with
  | null => exact absurd rfl hv
  | _ => rfl

theorem sessionKey_returns_iff (v : Value) : (∃ key, sessionKey v = .ok key) ↔ v.Printable :=
  have hnull : sessionKey .null = .ok .null := rfl
  shown_returns_iff hnull sessionKey_of_ne_null v

theorem keyFor_of_sessionKey {v key : Value} (hkey : sessionKey v = .ok key) : KeyFor v key := by
  by_cases hv : v = .null
  · subst hv
    cases hkey
    exact .absent
  · rw [sessionKey_of_ne_null v hv] at hkey
    obtain ⟨s, hs, rfl⟩ := exists_of_map_ok hkey
    exact .shown hv (Value.display_eq_ok_iff.mp hs)

/-- The kind that a value names, blanks around it and case aside, is output just if it is that
word; whatever else it is, values are reported. -/
def KindFor (v : Value) (kind : ResultKind) : Prop :=
  kind = .output ∧ (∃ s, v.display? = some s ∧ Text.lowerAscii (Text.trim s) = "output") ∨
    kind = .value ∧ ∀ s, v.display? = some s → Text.lowerAscii (Text.trim s) ≠ "output"

theorem kindFor_resultKind (v : Value) : KindFor v (resultKind v) := by
  unfold resultKind
  cases hshown : v.display? with
  | none => exact Or.inr ⟨rfl, by rw [hshown]; rintro s ⟨⟩⟩
  | some s =>
      dsimp only
      generalize hname : Text.lowerAscii (Text.trim s) = name
      by_cases houtput : name = "output"
      · subst houtput
        exact Or.inl ⟨rfl, s, hshown, hname⟩
      · refine Or.inr ⟨?_, ?_⟩
        · unfold ResultKind.ofName?
          split
          · rfl
          · exact absurd rfl houtput
          · rfl
        · intro t ht
          rw [hshown] at ht
          cases ht
          rwa [hname]

/-- Whether a value is one that result parameters are read from. -/
inductive ReadableResults : Value → Prop
  | null : ReadableResults .null
  | text (s : String) : ReadableResults (.text s)
  | items {v : Value} {items : List Value} (hv : v.items? = some items)
      (hitems : ∀ item ∈ items, item.Printable) : ReadableResults v

/-- The result parameters that a value gives: the words of a text, or the texts of what is in a
collection. -/
inductive ResultFor : Value → String → Prop
  | word {s word : String} (hword : word ∈ Text.words s) : ResultFor (.text s) word
  | item {v item : Value} {items : List Value} {word : String} (hkind : ∀ s, v ≠ .text s)
      (hv : v.items? = some items) (hitem : item ∈ items) (hword : item.display? = some word) :
      ResultFor v word

theorem resultParams_of_kind {v : Value} (hnull : v ≠ .null) (htext : ∀ s, v ≠ .text s) :
    resultParams v = match v.items? with
      | some items => Text.sortDistinct <$> items.mapM Value.display
      | none => .error (.notCollection v.kindName) := by
  cases v with
  | null => exact absurd rfl hnull
  | text s => exact absurd rfl (htext s)
  | _ => rfl

theorem resultParams_returns_iff (v : Value) :
    (∃ results, resultParams v = .ok results) ↔ ReadableResults v := by
  have hother {w : Value} (hnull : w ≠ .null) (htext : ∀ s, w ≠ .text s) :
      (∃ results, resultParams w = .ok results) ↔ ReadableResults w := by
    rw [resultParams_of_kind hnull htext]
    split
    · next items hitems =>
      constructor
      · rintro ⟨results, hresults⟩
        obtain ⟨words, hwords, _⟩ := exists_of_map_ok hresults
        refine .items hitems fun item hitem => ?_
        exact item.display_returns_iff.mp (exists_of_mapM_ok hwords item hitem)
      · rintro (_ | s | ⟨hw, hprintable⟩)
        · exact absurd rfl hnull
        · exact absurd rfl (htext s)
        · rw [hitems] at hw
          cases hw
          obtain ⟨words, hwords⟩ := mapM_returns_iff.mpr fun item hitem =>
            (Value.display_returns_iff item).mpr (hprintable item hitem)
          exact ⟨Text.sortDistinct words, by rw [hwords]; rfl⟩
    · next hnone =>
      refine iff_of_false (by simp) ?_
      rintro (_ | s | ⟨hw, _⟩)
      · exact hnull rfl
      · exact htext s rfl
      · rw [hnone] at hw
        cases hw
  cases v with
  | null => exact iff_of_true ⟨[], rfl⟩ .null
  | text s => exact iff_of_true ⟨_, rfl⟩ (.text s)
  | _ => exact hother (by rintro ⟨⟩) (by rintro s ⟨⟩)

theorem mem_of_mapM_display {items : List Value} {words : List String}
    (hwords : items.mapM Value.display = .ok words) (word : String) :
    word ∈ words ↔ ∃ item ∈ items, item.display? = some word := by
  have hall := forall₂_of_mapM_ok hwords
  clear hwords
  induction hall with
  | nil => simp
  | cons hfirst _ ih =>
      rw [Value.display_eq_ok_iff] at hfirst
      simp [hfirst, ih, eq_comm]

theorem resultFor_iff {v : Value} {results : List String} (hresults : resultParams v = .ok results)
    (word : String) : word ∈ results ↔ ResultFor v word := by
  have hother {w : Value} (hnull : w ≠ .null) (htext : ∀ s, w ≠ .text s)
      (hresults : resultParams w = .ok results) : word ∈ results ↔ ResultFor w word := by
    rw [resultParams_of_kind hnull htext] at hresults
    split at hresults
    · next items hitems =>
      obtain ⟨words, hwords, rfl⟩ := exists_of_map_ok hresults
      rw [Text.mem_sortDistinct, mem_of_mapM_display hwords]
      constructor
      · rintro ⟨item, hitem, hword⟩
        exact .item htext hitems hitem hword
      · rintro (_ | ⟨_, hw, hitem, hword⟩)
        · exact absurd rfl (htext _)
        · rw [hitems] at hw
          cases hw
          exact ⟨_, hitem, hword⟩
    · cases hresults
  cases v with
  | null =>
      cases hresults
      refine iff_of_false List.not_mem_nil ?_
      rintro (_ | ⟨_, hv, _⟩)
      cases hv
  | text s =>
      cases hresults
      rw [Text.mem_sortDistinct]
      constructor
      · exact .word
      · rintro (hword | ⟨hkind, _⟩)
        · exact hword
        · exact absurd rfl (hkind s)
  | _ => exact hother (by rintro ⟨⟩) (by rintro s ⟨⟩) hresults

/-- Whether no header argument that has a meaning is refused. -/
structure Readable (params : Named Value) : Prop where
  texts : ∀ name ∈ ["session", "prologue", "epilogue", "file"], (get params name).Printable
  dimensions : ∀ name ∈ ["width", "height"], ∀ negative,
    get params name ≠ .float (.infinity negative)
  results : ReadableResults (get params "result-params")
  bindings : (get params "var").ReadableVariables

end Header

namespace Request

/-- Where each part of a request is read from. -/
structure Taken (body : String) (params : Named Value) (request : Request) : Prop where
  sameBody : request.body = body
  sameParams : request.params = params
  kind : request.resultKind = Header.resultKind (Header.get params "result-type")
  session : Header.sessionKey (Header.get params "session") = .ok request.sessionKey
  prologue : Header.optionalText (Header.get params "prologue") = .ok request.prologue
  epilogue : Header.optionalText (Header.get params "epilogue") = .ok request.epilogue
  width : ∃ n, Header.dimension 600 (Header.get params "width") = .ok n ∧ request.width = .int n
  height : ∃ n, Header.dimension 400 (Header.get params "height") = .ok n ∧ request.height = .int n
  results : Header.resultParams (Header.get params "result-params") = .ok request.resultParams
  file : Header.optionalText (Header.get params "file") = .ok request.graphicsFile
  bindings : readVariables (Header.get params "var") = .ok request.bindings

theorem taken_of_ofHeader {body : String} {params : Named Value} {request : Request}
    (hrequest : ofHeader body params = .ok request) : request.Taken body params := by
  obtain ⟨_, hsession, hrequest⟩ := exists_of_bind_ok hrequest
  obtain ⟨_, hprologue, hrequest⟩ := exists_of_bind_ok hrequest
  obtain ⟨_, hepilogue, hrequest⟩ := exists_of_bind_ok hrequest
  obtain ⟨_, hwidth, hrequest⟩ := exists_of_bind_ok hrequest
  obtain ⟨_, hheight, hrequest⟩ := exists_of_bind_ok hrequest
  obtain ⟨_, hresults, hrequest⟩ := exists_of_bind_ok hrequest
  obtain ⟨_, hfile, hrequest⟩ := exists_of_bind_ok hrequest
  obtain ⟨_, hbindings, hrequest⟩ := exists_of_bind_ok hrequest
  cases hrequest
  exact ⟨rfl, rfl, rfl, hsession, hprologue, hepilogue, ⟨_, hwidth, rfl⟩, ⟨_, hheight, rfl⟩,
    hresults, hfile, hbindings⟩

theorem ofHeader_of_taken {body : String} {params : Named Value} {request : Request}
    (htaken : request.Taken body params) : ofHeader body params = .ok request := by
  obtain ⟨width, hwidth, hn⟩ := htaken.width
  obtain ⟨height, hheight, hm⟩ := htaken.height
  simp only [ofHeader, htaken.session, htaken.prologue, htaken.epilogue, hwidth, hheight,
    htaken.results, htaken.file, htaken.bindings, ← htaken.kind]
  dsimp only [bind, Except.bind, pure, Except.pure]
  rw [← hn, ← hm, ← htaken.sameBody, ← htaken.sameParams]

theorem exists_ofHeader_iff (body : String) (params : Named Value) :
    (∃ request, ofHeader body params = .ok request) ↔ Header.Readable params := by
  constructor
  · rintro ⟨request, hrequest⟩
    have htaken := taken_of_ofHeader hrequest
    obtain ⟨_, hwidth, _⟩ := htaken.width
    obtain ⟨_, hheight, _⟩ := htaken.height
    constructor
    · simp only [List.forall_mem_cons, ← Header.optionalText_returns_iff]
      exact ⟨(Header.optionalText_returns_iff _).mpr
          ((Header.sessionKey_returns_iff _).mp ⟨_, htaken.session⟩),
        ⟨_, htaken.prologue⟩, ⟨_, htaken.epilogue⟩, ⟨_, htaken.file⟩, by simp⟩
    · simp only [List.forall_mem_cons]
      exact ⟨(Header.dimension_returns_iff 600 _).mp ⟨_, hwidth⟩,
        (Header.dimension_returns_iff 400 _).mp ⟨_, hheight⟩, by simp⟩
    · exact (Header.resultParams_returns_iff _).mp ⟨_, htaken.results⟩
    · exact (readVariables_returns_iff _).mp ⟨_, htaken.bindings⟩
  · intro hreadable
    have htext (name : String) (hname : name ∈ ["session", "prologue", "epilogue", "file"]) :
        ∃ part, Header.optionalText (Header.get params name) = .ok part :=
      (Header.optionalText_returns_iff _).mpr (hreadable.texts name hname)
    have hdimension (usual : Int) (name : String) (hname : name ∈ ["width", "height"]) :
        ∃ n, Header.dimension usual (Header.get params name) = .ok n :=
      (Header.dimension_returns_iff usual _).mpr (hreadable.dimensions name hname)
    obtain ⟨_, hsession⟩ :=
      (Header.sessionKey_returns_iff _).mpr (hreadable.texts "session" (by decide))
    obtain ⟨_, hprologue⟩ := htext "prologue" (by decide)
    obtain ⟨_, hepilogue⟩ := htext "epilogue" (by decide)
    obtain ⟨_, hwidth⟩ := hdimension 600 "width" (by decide)
    obtain ⟨_, hheight⟩ := hdimension 400 "height" (by decide)
    obtain ⟨_, hresults⟩ := (Header.resultParams_returns_iff _).mpr hreadable.results
    obtain ⟨_, hfile⟩ := htext "file" (by decide)
    obtain ⟨_, hbindings⟩ := (readVariables_returns_iff _).mpr hreadable.bindings
    simp only [ofHeader, hsession, hprologue, hepilogue, hwidth, hheight, hresults, hfile,
      hbindings]
    exact ⟨_, rfl⟩

/-- Whether a request is what header arguments ask for, with malformed ones taken as absent. -/
structure Follows (body : String) (params : Named Value) (request : Request) : Prop where
  sameBody : request.body = body
  sameParams : request.params = params
  kind : Header.KindFor (Header.get params "result-type") request.resultKind
  session : Header.KeyFor (Header.get params "session") request.sessionKey
  prologue : Header.TextFor (Header.get params "prologue") request.prologue
  epilogue : Header.TextFor (Header.get params "epilogue") request.epilogue
  width : ∃ n, Header.DimensionFor 600 (Header.get params "width") n ∧ request.width = .int n
  height : ∃ n, Header.DimensionFor 400 (Header.get params "height") n ∧ request.height = .int n
  results : ∀ word, word ∈ request.resultParams ↔
    Header.ResultFor (Header.get params "result-params") word
  file : Header.TextFor (Header.get params "file") request.graphicsFile
  bindings : (Header.get params "var").VariablesOf request.bindings

theorem Taken.follows {body : String} {params : Named Value} {request : Request}
    (htaken : request.Taken body params) : request.Follows body params := by
  obtain ⟨n, hwidth, hn⟩ := htaken.width
  obtain ⟨m, hheight, hm⟩ := htaken.height
  exact {
    sameBody := htaken.sameBody
    sameParams := htaken.sameParams
    kind := htaken.kind ▸ Header.kindFor_resultKind _
    session := Header.keyFor_of_sessionKey htaken.session
    prologue := Header.textFor_of_optionalText htaken.prologue
    epilogue := Header.textFor_of_optionalText htaken.epilogue
    width := ⟨n, Header.dimensionFor_of_dimension (by decide) hwidth, hn⟩
    height := ⟨m, Header.dimensionFor_of_dimension (by decide) hheight, hm⟩
    results := Header.resultFor_iff htaken.results
    file := Header.textFor_of_optionalText htaken.file
    bindings := variablesOf_of_readVariables htaken.bindings }

/-- Header arguments make a request just if each one that has a meaning can be read; arguments
without a meaning never matter. The request is what they ask for: a malformed argument that is not
refused counts as absent. -/
theorem ofHeader_returns_iff (body : String) (params : Named Value) :
    ((∃ request, ofHeader body params = .ok request) ↔ Header.Readable params) ∧
    ∀ request, ofHeader body params = .ok request → request.Follows body params :=
  ⟨exists_ofHeader_iff body params, fun _ hrequest => (taken_of_ofHeader hrequest).follows⟩

/-- Arguments of which most are malformed, and none is refused. -/
def malformed : Named Value :=
  [("width", .float .nan), ("height", .text "wide"), ("prologue", .text " \t"),
    ("session", .octets [0x61, 0xFF]), ("result-type", .list [.text "output"]),
    ("result-params", .tuple [.int 7, .text "graphics", .int 7]),
    ("file", .foreign ⟨"object", "<object>", "object"⟩), ("unknown", .float (.infinity true)),
    ("var", .list [.text "no value", .int 5, .text "n = 012", .list [.text "x"], .octets [1, 2],
      .map [(.text "k", .null), (.text "l", .null)], .text "'=inf"])]

theorem ofHeader_returns_malformed :
    Header.Readable malformed ∧
    ∃ request, ofHeader "plot(x)" malformed = .ok request ∧ request.Follows "plot(x)" malformed ∧
      request.width = .int 600 ∧ request.height = .int 400 ∧ request.prologue = .null ∧
      request.sessionKey = .text "b'a\\xff'" ∧ request.wantsGraphics = true ∧
      request.bindings.map (·.1) = ["n", "1", "k", "'"] := by
  have hrequest : ofHeader "plot(x)" malformed = .ok {
      body := "plot(x)", sessionKey := .text "b'a\\xff'", resultParams := ["7", "graphics"],
      graphicsFile := .text "<object>", params := malformed
      bindings := [("n", .int 12), ("1", .int 2), ("k", .text "l"), ("'", .text "inf")] } := rfl
  obtain ⟨hreadable, hfollows⟩ := ofHeader_returns_iff "plot(x)" malformed
  exact ⟨hreadable.mp ⟨_, hrequest⟩, _, hrequest, hfollows _ hrequest, rfl, rfl, rfl, rfl, rfl, rfl⟩

/-- An infinite dimension is refused, and so is what is no collection where several things may be
given, though the arguments are malformed only. -/
theorem ofHeader_refuses :
    ofHeader "x" [("width", .float (.infinity false))] = .error .infiniteDimension ∧
    ofHeader "x" [("var", .int 5)] = .error (.notCollection "int") ∧
    ofHeader "x" [("result-params", .bool true)] = .error (.notCollection "bool") :=
  ⟨rfl, rfl, rfl⟩

end Request

end JuliaBlocks
