import JuliaBlocks.Text.Utf8

/-!
Reading UTF-8 gives back the text that was written. A character is written as a first octet with its
highest bits and further octets with six bits each, and the bounds on the second octet let every
character through. Main statement: `decode_encode`.
-/

namespace JuliaBlocks.Text.Utf8

theorem toList_loop_eq (bytes : ByteArray) (i : Nat) (done : List UInt8) :
    ByteArray.toList.loop bytes i done = done.reverse ++ bytes.data.toList.drop i := by
  fun_induction ByteArray.toList.loop bytes i done with
  | case1 i done hlt ih =>
      have hi : i < bytes.data.size := hlt
      have hget : bytes.get! i = bytes.data[i] := getElem!_pos bytes.data i hi
      rw [ih, hget, List.reverse_cons, List.append_assoc, List.singleton_append,
        ← Array.getElem_toList, ← List.drop_eq_getElem_cons]
  | case2 i done hge =>
      have hlength : bytes.data.toList.length ≤ i := Nat.le_of_not_lt hge
      rw [List.drop_eq_nil_of_le hlength, List.append_nil]

/-- A text is written character by character. -/
theorem encode_eq_flatMap (s : String) : encode s = s.toList.flatMap String.utf8EncodeChar := by
  have hbytes : s.toUTF8 = (s.toList.flatMap String.utf8EncodeChar).toByteArray :=
    String.utf8Encode_toList.symm
  rw [encode, hbytes, ByteArray.toList, toList_loop_eq, List.toList_data_toByteArray]
  rfl

theorem toNat_ofNat {n : Nat} (hn : n < 256) : (UInt8.ofNat n).toNat = n :=
  UInt8.toNat_ofNat_of_lt hn

/-! What goes on with a started sequence. -/

/-- Whether octets complete a started sequence, and to which character. -/
def Completes (c : Char) : Pending → List UInt8 → Prop
  | _, [] => False
  | p, b :: rest =>
    (p.low ≤ b.toNat ∧ b.toNat ≤ p.high) ∧
      if p.owed = 1 then rest = [] ∧ Char.ofNat (p.bits * 64 + (b.toNat - 0x80)) = c
      else Completes c ⟨p.owed - 1, 0x80, 0xBF, p.bits * 64 + (b.toNat - 0x80)⟩ rest

theorem completes_last {c : Char} {low high bits n : Nat} (hlow : low ≤ n % 64 + 128)
    (hhigh : n % 64 + 128 ≤ high) (hc : Char.ofNat (bits * 64 + n % 64) = c) :
    Completes c ⟨1, low, high, bits⟩ [UInt8.ofNat (n % 64 + 128)] := by
  rw [Completes, toNat_ofNat (by omega), if_pos rfl, Nat.add_sub_cancel]
  exact ⟨⟨hlow, hhigh⟩, rfl, hc⟩

theorem completes_more {c : Char} {owed low high bits n : Nat} {rest : List UInt8}
    (hlow : low ≤ n % 64 + 128) (hhigh : n % 64 + 128 ≤ high)
    (hrest : Completes c ⟨owed + 1, 0x80, 0xBF, bits * 64 + n % 64⟩ rest) :
    Completes c ⟨owed + 2, low, high, bits⟩ (UInt8.ofNat (n % 64 + 128) :: rest) := by
  rw [Completes, toNat_ofNat (by omega), if_neg (by simp), Nat.add_sub_cancel]
  exact ⟨⟨hlow, hhigh⟩, hrest⟩

/-- A sequence that is completed gives its character, and what follows is read afresh. -/
theorem decodeFrom_of_completes {c : Char} {p : Pending} {tail : List UInt8}
    (hcompletes : Completes c p tail) (rest : List UInt8) :
    decodeFrom (some p) (tail ++ rest) = c :: decodeFrom none rest := by
  induction tail generalizing p with
  | nil => exact hcompletes.elim
  | cons b tail ih =>
      obtain ⟨hrange, hnext⟩ := hcompletes
      rw [List.cons_append, decodeFrom, advance, if_pos hrange]
      split at hnext
      · next howed =>
        obtain ⟨rfl, rfl⟩ := hnext
        rw [if_pos howed]
        rfl
      · next howed =>
        rw [if_neg howed]
        exact ih hnext

/-! What an octet starts. -/

theorem lead_one {b : UInt8} (hhigh : b.toNat < 0x80) :
    lead b = .character (Char.ofNat b.toNat) := by
  rw [lead, if_pos hhigh]

theorem lead_two {b : UInt8} (hlow : 0xC2 ≤ b.toNat) (hhigh : b.toNat < 0xE0) :
    lead b = .sequence ⟨1, 0x80, 0xBF, b.toNat - 0xC0⟩ := by
  rw [lead, if_neg (by omega), if_neg (by omega), if_pos (by omega)]

/-- The second octet is bounded from below to rule out what two octets can hold, and from above to
rule out surrogates. -/
theorem lead_three {b : UInt8} (hlow : 0xE0 ≤ b.toNat) (hhigh : b.toNat < 0xF0) :
    lead b = .sequence ⟨2, if b.toNat = 0xE0 then 0xA0 else 0x80,
      if b.toNat = 0xED then 0x9F else 0xBF, b.toNat - 0xE0⟩ := by
  rw [lead, if_neg (by omega), if_neg (by omega), if_neg (by omega)]
  by_cases hfirst : b.toNat = 0xE0
  · simp [hfirst]
  · by_cases hsurrogate : b.toNat = 0xED
    · simp [hsurrogate]
    · simp [hfirst, hsurrogate, hhigh]

/-- The second octet is bounded from below to rule out what three octets can hold, and from above to
rule out what is beyond the last character. -/
theorem lead_four {b : UInt8} (hlow : 0xF0 ≤ b.toNat) (hhigh : b.toNat < 0xF5) :
    lead b = .sequence ⟨3, if b.toNat = 0xF0 then 0x90 else 0x80,
      if b.toNat = 0xF4 then 0x8F else 0xBF, b.toNat - 0xF0⟩ := by
  rw [lead, if_neg (by omega), if_neg (by omega), if_neg (by omega), if_neg (by omega),
    if_neg (by omega), if_neg (by omega)]
  by_cases hfirst : b.toNat = 0xF0
  · simp [hfirst]
  · by_cases hlast : b.toNat = 0xF4
    · simp [hlast]
    · have hmiddle : b.toNat < 0xF4 := by omega
      simp [hfirst, hlast, hmiddle]

theorem lead_invalid {b : UInt8} (hb : 0x80 ≤ b.toNat ∧ b.toNat < 0xC2 ∨ 0xF5 ≤ b.toNat) :
    lead b = .invalid := by
  rcases hb with ⟨hlow, hhigh⟩ | hlow
  · rw [lead, if_neg (by omega), if_pos hhigh]
  · rw [lead, if_neg (by omega), if_neg (by omega), if_neg (by omega), if_neg (by omega),
      if_neg (by omega), if_neg (by omega), if_neg (by omega), if_neg (by omega),
      if_neg (by omega)]

/-- What the first octet of a character starts, and that the others complete it. -/
theorem lead_of_utf8EncodeChar {c : Char} {b : UInt8} {tail : List UInt8}
    (hc : String.utf8EncodeChar c = b :: tail) :
    (lead b = .character c ∧ tail = []) ∨ ∃ p, lead b = .sequence p ∧ Completes c p tail := by
  have hvalid : c.val.toNat < 0xD800 ∨ 0xDFFF < c.val.toNat ∧ c.val.toNat < 0x110000 := c.valid
  have hchar : Char.ofNat c.val.toNat = c := Char.ofNat_toNat c
  simp only [String.utf8EncodeChar] at hc
  generalize c.val.toNat = v at hvalid hchar hc
  split at hc
  · next hone =>
    obtain ⟨rfl, rfl⟩ := List.cons.inj hc
    have hb : (UInt8.ofNat v).toNat = v := toNat_ofNat (by omega)
    exact Or.inl ⟨by rw [lead_one (by omega), hb, hchar], rfl⟩
  · split at hc
    · next hone htwo =>
      obtain ⟨rfl, rfl⟩ := List.cons.inj hc
      have hb : (UInt8.ofNat (v / 64 % 32 + 192)).toNat = v / 64 + 192 := by
        rw [toNat_ofNat (by omega)]
        omega
      refine Or.inr ⟨_, lead_two (by omega) (by omega), completes_last (by omega) (by omega) ?_⟩
      rw [hb, ← hchar]
      exact congrArg Char.ofNat (by omega)
    · split at hc
      · next hone htwo hthree =>
        obtain ⟨rfl, rfl⟩ := List.cons.inj hc
        have hb : (UInt8.ofNat (v / 4096 % 16 + 224)).toNat = v / 4096 + 224 := by
          rw [toNat_ofNat (by omega)]
          omega
        refine Or.inr ⟨_, lead_three (by omega) (by omega), completes_more ?_ ?_ ?_⟩
        · split <;> omega
        · split <;> omega
        · apply completes_last (by omega) (by omega)
          rw [hb, ← hchar]
          exact congrArg Char.ofNat (by omega)
      · next hone htwo hthree =>
        obtain ⟨rfl, rfl⟩ := List.cons.inj hc
        have hb : (UInt8.ofNat (v / 262144 % 8 + 240)).toNat = v / 262144 + 240 := by
          rw [toNat_ofNat (by omega)]
          omega
        refine Or.inr ⟨_, lead_four (by omega) (by omega), completes_more ?_ ?_ ?_⟩
        · split <;> omega
        · split <;> omega
        · apply completes_more (by omega) (by omega)
          apply completes_last (by omega) (by omega)
          rw [hb, ← hchar]
          exact congrArg Char.ofNat (by omega)

/-- The octets of one character give it back, and what follows is read afresh. -/
theorem decodeFrom_utf8EncodeChar (c : Char) (rest : List UInt8) :
    decodeFrom none (String.utf8EncodeChar c ++ rest) = c :: decodeFrom none rest := by
  obtain ⟨b, tail, hc⟩ := List.exists_cons_of_ne_nil (String.utf8EncodeChar_ne_nil (c := c))
  rw [hc, List.cons_append, decodeFrom, start]
  rcases lead_of_utf8EncodeChar hc with ⟨hlead, rfl⟩ | ⟨p, hlead, hcompletes⟩
  · rw [hlead]
    rfl
  · rw [hlead]
    exact decodeFrom_of_completes hcompletes rest

theorem decode_encode (s : String) : decode (encode s) = s.toList := by
  rw [decode, encode_eq_flatMap]
  induction s.toList with
  | nil => rfl
  | cons c rest ih => rw [List.flatMap_cons, decodeFrom_utf8EncodeChar, ih]

end JuliaBlocks.Text.Utf8
