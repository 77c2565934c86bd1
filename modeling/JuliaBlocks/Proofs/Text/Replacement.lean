import JuliaBlocks.Proofs.Text.Utf8
import Mathlib.Data.List.Infix

/-!
What becomes of octets that are no UTF-8. Where the encoding of no character stands, the longest start
of one that does stand there, or else a single octet, is replaced as a whole. Main statement:
`decodes_iff`.
-/

namespace JuliaBlocks.Text.Utf8

/-- Whether octets start the encoding of a character. -/
def Begins (part : List UInt8) : Prop :=
  ∃ c, part <+: String.utf8EncodeChar c

/-- The maximal subpart that octets start with, where they do not start with the encoding of a
character: the longest part that starts the encoding of a character, or is a single octet. -/
structure MaximalSubpart (part octets : List UInt8) : Prop where
  unconvertible : ∀ c, ¬ String.utf8EncodeChar c <+: octets
  leads : part <+: octets
  candidate : part.length = 1 ∨ part ≠ [] ∧ Begins part
  longest : ∀ other, other <+: octets → Begins other → other.length ≤ part.length

/-- Whether a text is what octets stand for: the characters that are encoded there, and one
replacement for each maximal subpart of what is not the encoding of a character. -/
inductive Decodes : List UInt8 → List Char → Prop
  | nil : Decodes [] []
  | character {octets : List UInt8} {text : List Char} (c : Char) (hrest : Decodes octets text) :
      Decodes (String.utf8EncodeChar c ++ octets) (c :: text)
  | replaced {part octets : List UInt8} {text : List Char}
      (hpart : MaximalSubpart part (part ++ octets)) (hrest : Decodes octets text) :
      Decodes (part ++ octets) (replacement :: text)

/-! The octets of a completed sequence. -/

theorem toNat_val_ofNat {v : Nat} (hvalid : v < 0xD800 ∨ 0xDFFF < v ∧ v < 0x110000) :
    (Char.ofNat v).val.toNat = v := by
  have hchar : v.isValidChar := hvalid
  rw [Char.ofNat, dif_pos hchar]
  rfl

theorem ofNat_eq {b : UInt8} {n : Nat} (hn : n = b.toNat) : UInt8.ofNat n = b := by
  rw [hn, UInt8.ofNat_toNat]

theorem exists_of_completes_one {c : Char} {low high bits : Nat} {tail : List UInt8}
    (hcompletes : Completes c ⟨1, low, high, bits⟩ tail) :
    ∃ t : UInt8, tail = [t] ∧ low ≤ t.toNat ∧ t.toNat ≤ high ∧
      Char.ofNat (bits * 64 + (t.toNat - 0x80)) = c := by
  cases tail with
  | nil => exact hcompletes.elim
  | cons t rest =>
      obtain ⟨⟨hlow, hhigh⟩, hlast⟩ := hcompletes
      rw [if_pos rfl] at hlast
      obtain ⟨rfl, hc⟩ := hlast
      exact ⟨t, rfl, hlow, hhigh, hc⟩

theorem exists_of_completes_more {c : Char} {owed low high bits : Nat} {tail : List UInt8}
    (hcompletes : Completes c ⟨owed + 2, low, high, bits⟩ tail) :
    ∃ (t : UInt8) (rest : List UInt8), tail = t :: rest ∧ low ≤ t.toNat ∧ t.toNat ≤ high ∧
      Completes c ⟨owed + 1, 0x80, 0xBF, bits * 64 + (t.toNat - 0x80)⟩ rest := by
  cases tail with
  | nil => exact hcompletes.elim
  | cons t rest =>
      obtain ⟨⟨hlow, hhigh⟩, hmore⟩ := hcompletes
      rw [if_neg (by simp)] at hmore
      exact ⟨t, rest, rfl, hlow, hhigh, hmore⟩

theorem utf8EncodeChar_two {c : Char} {b : UInt8} {tail : List UInt8} (hlow : 0xC2 ≤ b.toNat)
    (hhigh : b.toNat < 0xE0) (hcompletes : Completes c ⟨1, 0x80, 0xBF, b.toNat - 0xC0⟩ tail) :
    String.utf8EncodeChar c = b :: tail := by
  obtain ⟨t, rfl, htlow, hthigh, rfl⟩ := exists_of_completes_one hcompletes
  have hv := toNat_val_ofNat (v := (b.toNat - 0xC0) * 64 + (t.toNat - 0x80)) (by omega)
  simp only [String.utf8EncodeChar, hv]
  rw [if_neg (by omega), if_pos (by omega), ofNat_eq (b := b) (by omega),
    ofNat_eq (b := t) (by omega)]

theorem utf8EncodeChar_three {c : Char} {b : UInt8} {low high : Nat} {tail : List UInt8}
    (hlow : 0xE0 ≤ b.toNat) (hhigh : b.toNat < 0xF0)
    (hbounds : 0x80 ≤ low ∧ high ≤ 0xBF) (hshort : b.toNat = 0xE0 → 0xA0 ≤ low)
    (hsurrogate : b.toNat = 0xED → high ≤ 0x9F)
    (hcompletes : Completes c ⟨2, low, high, b.toNat - 0xE0⟩ tail) :
    String.utf8EncodeChar c = b :: tail := by
  obtain ⟨t, rest, rfl, htlow, hthigh, hcompletes⟩ := exists_of_completes_more hcompletes
  obtain ⟨u, rfl, hulow, huhigh, rfl⟩ := exists_of_completes_one hcompletes
  have hv := toNat_val_ofNat
    (v := ((b.toNat - 0xE0) * 64 + (t.toNat - 0x80)) * 64 + (u.toNat - 0x80)) (by omega)
  simp only [String.utf8EncodeChar, hv]
  rw [if_neg (by omega), if_neg (by omega), if_pos (by omega), ofNat_eq (b := b) (by omega),
    ofNat_eq (b := t) (by omega), ofNat_eq (b := u) (by omega)]

theorem utf8EncodeChar_four {c : Char} {b : UInt8} {low high : Nat} {tail : List UInt8}
    (hlow : 0xF0 ≤ b.toNat) (hhigh : b.toNat < 0xF5)
    (hbounds : 0x80 ≤ low ∧ high ≤ 0xBF) (hshort : b.toNat = 0xF0 → 0x90 ≤ low)
    (hlast : b.toNat = 0xF4 → high ≤ 0x8F)
    (hcompletes : Completes c ⟨3, low, high, b.toNat - 0xF0⟩ tail) :
    String.utf8EncodeChar c = b :: tail := by
  obtain ⟨t, rest, rfl, htlow, hthigh, hcompletes⟩ := exists_of_completes_more hcompletes
  obtain ⟨u, rest, rfl, hulow, huhigh, hcompletes⟩ := exists_of_completes_more hcompletes
  obtain ⟨w, rfl, hwlow, hwhigh, rfl⟩ := exists_of_completes_one hcompletes
  have hv := toNat_val_ofNat
    (v := (((b.toNat - 0xF0) * 64 + (t.toNat - 0x80)) * 64 + (u.toNat - 0x80)) * 64 +
      (w.toNat - 0x80)) (by omega)
  simp only [String.utf8EncodeChar, hv]
  rw [if_neg (by omega), if_neg (by omega), if_neg (by omega), ofNat_eq (b := b) (by omega),
    ofNat_eq (b := t) (by omega), ofNat_eq (b := u) (by omega), ofNat_eq (b := w) (by omega)]

/-- What an octet starts, by its value. -/
theorem octet_cases (b : UInt8) :
    b.toNat < 0x80 ∨ (0xC2 ≤ b.toNat ∧ b.toNat < 0xE0) ∨ (0xE0 ≤ b.toNat ∧ b.toNat < 0xF0) ∨
      (0xF0 ≤ b.toNat ∧ b.toNat < 0xF5) ∨
      (0x80 ≤ b.toNat ∧ b.toNat < 0xC2 ∨ 0xF5 ≤ b.toNat) := by
  omega

/-- Whether there is an octet that a started sequence can go on with. -/
structure Pending.GoesOn (p : Pending) : Prop where
  owes : p.owed ≠ 0
  bounded : p.low ≤ p.high
  octets : p.high ≤ 0xBF

/-- A first octet is a character as a whole, or what completes the sequence that it starts gives the
encoding of a character. -/
theorem lead_spec (b : UInt8) :
    match lead b with
    | .character c => String.utf8EncodeChar c = [b]
    | .sequence p => p.GoesOn ∧ ∀ c tail, Completes c p tail → String.utf8EncodeChar c = b :: tail
    | .invalid => True := by
  rcases octet_cases b with hone | ⟨hlow, hhigh⟩ | ⟨hlow, hhigh⟩ | ⟨hlow, hhigh⟩ | hinvalid
  · rw [lead_one hone]
    have hv := toNat_val_ofNat (v := b.toNat) (by omega)
    simp only [String.utf8EncodeChar, hv]
    rw [if_pos (by omega), UInt8.ofNat_toNat]
  · rw [lead_two hlow hhigh]
    refine ⟨⟨by simp, by simp, by simp⟩, ?_⟩
    intro c tail hcompletes
    exact utf8EncodeChar_two hlow hhigh hcompletes
  · rw [lead_three hlow hhigh]
    have hleast : 0x80 ≤ if b.toNat = 0xE0 then 0xA0 else 0x80 := by split <;> omega
    have hgreatest : (if b.toNat = 0xED then 0x9F else 0xBF) ≤ 0xBF := by split <;> omega
    refine ⟨⟨by simp, ?_, hgreatest⟩, ?_⟩
    · simp only
      split <;> split <;> omega
    · intro c tail hcompletes
      exact utf8EncodeChar_three hlow hhigh ⟨hleast, hgreatest⟩ (fun hfirst => by simp [hfirst])
        (fun hsurrogate => by simp [hsurrogate]) hcompletes
  · rw [lead_four hlow hhigh]
    have hleast : 0x80 ≤ if b.toNat = 0xF0 then 0x90 else 0x80 := by split <;> omega
    have hgreatest : (if b.toNat = 0xF4 then 0x8F else 0xBF) ≤ 0xBF := by split <;> omega
    refine ⟨⟨by simp, ?_, hgreatest⟩, ?_⟩
    · simp only
      split <;> split <;> omega
    · intro c tail hcompletes
      exact utf8EncodeChar_four hlow hhigh ⟨hleast, hgreatest⟩ (fun hfirst => by simp [hfirst])
        (fun hlast => by simp [hlast]) hcompletes
  · rw [lead_invalid hinvalid]
    trivial

/-- Every sequence that goes on can be completed. -/
theorem exists_completes {p : Pending} (hp : p.GoesOn) : ∃ tail c, Completes c p tail := by
  obtain ⟨owed, low, high, bits⟩ := p
  induction owed generalizing low high bits with
  | zero => exact absurd rfl hp.owes
  | succ owed ih =>
      have hbounded : low ≤ high := hp.bounded
      have hoctets : high ≤ 0xBF := hp.octets
      have hlow : (UInt8.ofNat low).toNat = low := toNat_ofNat (by omega)
      by_cases hlast : owed = 0
      · refine ⟨[UInt8.ofNat low], Char.ofNat (bits * 64 + (low - 0x80)), ?_⟩
        simp [Completes, hlow, hlast, hbounded]
      · obtain ⟨tail, c, hcompletes⟩ :=
          ih 0x80 0xBF (bits * 64 + (low - 0x80)) ⟨hlast, by simp, by simp⟩
        refine ⟨UInt8.ofNat low :: tail, c, ?_⟩
        simpa [Completes, hlow, hlast, hbounded] using hcompletes

/-- The encoding of one character never starts the encoding of another. -/
theorem utf8EncodeChar_append_inj {c d : Char} {rest other : List UInt8}
    (hsame : String.utf8EncodeChar c ++ rest = String.utf8EncodeChar d ++ other) :
    c = d ∧ rest = other := by
  have hdecoded := congrArg (decodeFrom none) hsame
  rw [decodeFrom_utf8EncodeChar, decodeFrom_utf8EncodeChar] at hdecoded
  obtain ⟨rfl, _⟩ := List.cons.inj hdecoded
  exact ⟨rfl, List.append_cancel_left hsame⟩

/-! The parts that a sequence stands for while it is read. -/

/-- Whether a sequence is what the octets of a part have started: what completes the one completes the
other to the encoding of a character. -/
structure Started (p : Pending) (part : List UInt8) : Prop where
  ne_nil : part ≠ []
  goesOn : p.GoesOn
  completes_iff : ∀ tail c, Completes c p tail ↔ part ++ tail = String.utf8EncodeChar c

theorem started_of_lead {b : UInt8} {p : Pending} (hlead : lead b = .sequence p) :
    Started p [b] := by
  have hspec := lead_spec b
  rw [hlead] at hspec
  obtain ⟨hgoesOn, hencodes⟩ := hspec
  refine ⟨by simp, hgoesOn, ?_⟩
  intro tail c
  constructor
  · intro hcompletes
    exact (hencodes c tail hcompletes).symm
  · intro hc
    rcases lead_of_utf8EncodeChar hc.symm with ⟨hcharacter, _⟩ | ⟨q, hq, hcompletes⟩
    · rw [hlead] at hcharacter
      cases hcharacter
    · rw [hlead] at hq
      cases hq
      exact hcompletes

namespace Started

variable {p : Pending} {part : List UInt8}

theorem begins (hstarted : Started p part) : Begins part := by
  obtain ⟨tail, c, hcompletes⟩ := exists_completes hstarted.goesOn
  exact ⟨c, tail, (hstarted.completes_iff tail c).mp hcompletes⟩

/-- An octet in the bounds goes on with the sequence. -/
theorem advanced (hstarted : Started p part) {b : UInt8}
    (hrange : p.low ≤ b.toNat ∧ b.toNat ≤ p.high) (howed : p.owed ≠ 1) :
    Started ⟨p.owed - 1, 0x80, 0xBF, p.bits * 64 + (b.toNat - 0x80)⟩ (part ++ [b]) := by
  have howes := hstarted.goesOn.owes
  refine ⟨by simp, ⟨by simp; omega, by simp, by simp⟩, ?_⟩
  intro tail c
  rw [List.append_assoc, List.singleton_append, ← hstarted.completes_iff, Completes, if_neg howed]
  exact ⟨fun hcompletes => ⟨hrange, hcompletes⟩, fun hcompletes => hcompletes.2⟩

/-- The last octet in the bounds completes the encoding of a character. -/
theorem completed (hstarted : Started p part) {b : UInt8}
    (hrange : p.low ≤ b.toNat ∧ b.toNat ≤ p.high) (howed : p.owed = 1) :
    part ++ [b] = String.utf8EncodeChar (Char.ofNat (p.bits * 64 + (b.toNat - 0x80))) := by
  rw [← hstarted.completes_iff, Completes, if_pos howed]
  exact ⟨hrange, rfl, rfl⟩

/-- Where no octet goes on with it, what was read is a maximal subpart. -/
theorem maximalSubpart (hstarted : Started p part) {octets : List UInt8}
    (hbreaks : ∀ b rest, octets = b :: rest → ¬ (p.low ≤ b.toNat ∧ b.toNat ≤ p.high)) :
    MaximalSubpart part (part ++ octets) := by
  have hlongest : ∀ other, other <+: part ++ octets → Begins other →
      other.length ≤ part.length := by
    intro other hother hbegins
    by_contra hlonger
    obtain ⟨more, rfl⟩ :=
      List.prefix_of_prefix_length_le (List.prefix_append part octets) hother (by omega)
    obtain ⟨c, tail, hc⟩ := hbegins
    rw [List.prefix_append_right_inj] at hother
    cases more with
    | nil => simp at hlonger
    | cons b more =>
        obtain ⟨rest, hrest⟩ := hother
        rw [List.append_assoc, ← hstarted.completes_iff] at hc
        exact hbreaks b (more ++ rest) hrest.symm hc.1
  have hunconvertible : ∀ c, ¬ String.utf8EncodeChar c <+: part ++ octets := by
    intro c hc
    have hlength := hlongest _ hc ⟨c, List.prefix_rfl⟩
    obtain ⟨more, rfl⟩ :=
      List.prefix_of_prefix_length_le hc (List.prefix_append part octets) hlength
    -- The part would be completed already, but something is still owed.
    obtain ⟨tail, d, hcompletes⟩ := exists_completes hstarted.goesOn
    have hd := (hstarted.completes_iff tail d).mp hcompletes
    rw [List.append_assoc, ← List.append_nil (String.utf8EncodeChar d)] at hd
    obtain ⟨_, hnil⟩ := utf8EncodeChar_append_inj hd
    rw [(List.append_eq_nil_iff.mp hnil).2] at hcompletes
    exact hcompletes.elim
  exact {
    unconvertible := hunconvertible
    leads := List.prefix_append part octets
    candidate := Or.inr ⟨hstarted.ne_nil, hstarted.begins⟩
    longest := hlongest }

end Started

/-- An octet that starts nothing is a maximal subpart of its own. -/
theorem maximalSubpart_of_invalid {b : UInt8} (hlead : lead b = .invalid) (octets : List UInt8) :
    MaximalSubpart [b] (b :: octets) := by
  have hnone : ∀ c tail, String.utf8EncodeChar c ≠ b :: tail := by
    intro c tail hc
    rcases lead_of_utf8EncodeChar hc with ⟨hcharacter, _⟩ | ⟨p, hp, _⟩
    · rw [hlead] at hcharacter
      cases hcharacter
    · rw [hlead] at hp
      cases hp
  constructor
  · rintro c ⟨rest, hrest⟩
    obtain ⟨first, tail, hc⟩ := List.exists_cons_of_ne_nil (String.utf8EncodeChar_ne_nil (c := c))
    rw [hc] at hrest
    obtain ⟨rfl, _⟩ := List.cons.inj hrest
    exact hnone c tail hc
  · exact ⟨octets, rfl⟩
  · exact Or.inl rfl
  · rintro other hother ⟨c, tail, hc⟩
    rcases List.prefix_cons_iff.mp hother with rfl | ⟨more, rfl, _⟩
    · simp
    · exact absurd hc.symm (hnone c (more ++ tail))

/-- Octets are decoded to the text that they stand for; and after a sequence was started, they are
together with the part that has started it. -/
theorem decodes_decodeFrom (octets : List UInt8) :
    Decodes octets (decodeFrom none octets) ∧
    ∀ p part, Started p part → Decodes (part ++ octets) (decodeFrom (some p) octets) := by
  induction octets with
  | nil =>
      refine ⟨.nil, ?_⟩
      intro p part hstarted
      exact .replaced (hstarted.maximalSubpart (by simp)) .nil
  | cons b octets ih =>
      obtain ⟨ihNone, ihSome⟩ := ih
      have hfresh : Decodes (b :: octets) (decodeFrom none (b :: octets)) := by
        rw [decodeFrom, start]
        have hspec := lead_spec b
        cases hlead : lead b with
        | character c =>
            rw [hlead] at hspec
            rw [← List.singleton_append, ← hspec]
            exact .character c ihNone
        | sequence p => exact ihSome p [b] (started_of_lead hlead)
        | invalid => exact .replaced (maximalSubpart_of_invalid hlead octets) ihNone
      refine ⟨hfresh, ?_⟩
      intro p part hstarted
      by_cases hrange : p.low ≤ b.toNat ∧ b.toNat ≤ p.high
      · rw [decodeFrom, advance, if_pos hrange, ← List.singleton_append, ← List.append_assoc]
        by_cases howed : p.owed = 1
        · rw [if_pos howed, hstarted.completed hrange howed]
          exact .character _ ihNone
        · rw [if_neg howed]
          exact ihSome _ _ (hstarted.advanced hrange howed)
      · -- The part ends here, and the octet starts afresh.
        have hbroken : decodeFrom (some p) (b :: octets) =
            replacement :: decodeFrom none (b :: octets) := by
          conv_lhs => rw [decodeFrom, advance, if_neg hrange]
          rfl
        rw [hbroken]
        refine .replaced (hstarted.maximalSubpart ?_) hfresh
        rintro _ _ ⟨⟩
        exact hrange

namespace MaximalSubpart

variable {part other octets : List UInt8}

theorem ne_nil (hpart : MaximalSubpart part octets) : part ≠ [] := by
  rintro rfl
  rcases hpart.candidate with hlength | ⟨hsome, _⟩
  · cases hlength
  · exact hsome rfl

theorem length_le (hpart : MaximalSubpart part octets) (hother : MaximalSubpart other octets) :
    other.length ≤ part.length := by
  rcases hother.candidate with hone | ⟨_, hbegins⟩
  · rw [hone]
    exact List.length_pos_of_ne_nil hpart.ne_nil
  · exact hpart.longest other hother.leads hbegins

theorem unique (hpart : MaximalSubpart part octets) (hother : MaximalSubpart other octets) :
    other = part := by
  have hlength := Nat.le_antisymm (hpart.length_le hother) (hother.length_le hpart)
  have hleads := List.prefix_of_prefix_length_le hother.leads hpart.leads hlength.le
  exact hleads.eq_of_length hlength

end MaximalSubpart

/-- Octets stand for one text only. -/
theorem Decodes.unique {octets : List UInt8} {text other : List Char}
    (htext : Decodes octets text) (hother : Decodes octets other) : other = text := by
  induction htext generalizing other with
  | nil =>
      generalize hall : ([] : List UInt8) = all at hother
      cases hother with
      | nil => rfl
      | character d hrest => simp [String.utf8EncodeChar_ne_nil] at hall
      | replaced hpart hrest => simp [hpart.ne_nil] at hall
  | @character octets text c hrest ih =>
      generalize hall : String.utf8EncodeChar c ++ octets = all at hother
      cases hother with
      | nil => simp [String.utf8EncodeChar_ne_nil] at hall
      | character d hothers =>
          obtain ⟨rfl, rfl⟩ := utf8EncodeChar_append_inj hall
          rw [ih hothers]
      | replaced hpart hothers =>
          exact absurd (hall ▸ List.prefix_append _ octets) (hpart.unconvertible c)
  | @replaced part octets text hpart hrest ih =>
      generalize hall : part ++ octets = all at hother
      cases hother with
      | nil => simp [hpart.ne_nil] at hall
      | character d hothers =>
          exact absurd (hall ▸ List.prefix_append _ _) (hpart.unconvertible d)
      | replaced hsecond hothers =>
          rw [hall] at hpart
          obtain rfl := hpart.unique hsecond
          obtain rfl := List.append_cancel_left hall
          rw [ih hothers]

theorem decodes_iff (octets : List UInt8) (text : List Char) :
    Decodes octets text ↔ text = decode octets := by
  have hdecode := (decodes_decodeFrom octets).1
  constructor
  · intro htext
    exact hdecode.unique htext
  · rintro rfl
    exact hdecode

end JuliaBlocks.Text.Utf8
