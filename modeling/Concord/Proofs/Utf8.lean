import Mathlib
import Concord.Proofs.Json.Lines

/-!
# Texts are read back from their bytes

The reader gets from the bytes of a character that character, however many they are, and goes on
behind them. So what has been written from characters is read without a fault.
-/

namespace Concord.Text.Utf8

/-- The byte that brings the next six bits. -/
def trailing (bits : Nat) : UInt8 :=
  .ofNat (bits % 64 + 128)

theorem toNat_trailing (bits : Nat) : (trailing bits).toNat = bits % 64 + 128 := by
  rw [trailing, UInt8.toNat_ofNat']
  omega

variable {index : Nat} {rest : List UInt8}

/-! ### One byte -/

theorem decodeFrom_open {lead : UInt8} {start seen owed low high value : Nat}
    (h : Pending.open? index lead.toNat = some ⟨start, seen, owed + 1, low, high, value⟩) :
    decodeFrom index none (lead :: rest) =
      decodeFrom (index + 1) (some ⟨start, seen, owed + 1, low, high, value⟩) rest := by
  rw [decodeFrom, h]
  rfl

theorem push?_trailing {start seen owed low high value bits : Nat} (hlow : low ≤ bits % 64 + 128)
    (hhigh : bits % 64 + 128 ≤ high) :
    Pending.push? ⟨start, seen, owed + 1, low, high, value⟩ (trailing bits).toNat =
      some ⟨start, seen + 1, owed, 0x80, 0xBF, value * 64 + bits % 64⟩ := by
  have hbits : (bits % 64 + 128) % 64 = bits % 64 := by omega
  rw [toNat_trailing, Pending.push?, if_pos ⟨hlow, hhigh⟩, hbits]
  rfl

theorem decodeFrom_push {start seen owed low high value bits : Nat}
    (hlow : low ≤ bits % 64 + 128) (hhigh : bits % 64 + 128 ≤ high) :
    decodeFrom index (some ⟨start, seen, owed + 2, low, high, value⟩) (trailing bits :: rest) =
      decodeFrom (index + 1) (some ⟨start, seen + 1, owed + 1, 0x80, 0xBF,
        value * 64 + bits % 64⟩) rest := by
  rw [decodeFrom, push?_trailing hlow hhigh]
  rfl

theorem decodeFrom_last {start seen low high value bits : Nat}
    (hlow : low ≤ bits % 64 + 128) (hhigh : bits % 64 + 128 ≤ high) :
    decodeFrom index (some ⟨start, seen, 1, low, high, value⟩) (trailing bits :: rest) =
      (Char.ofNat (value * 64 + bits % 64) :: ·) <$> decodeFrom (index + 1) none rest := by
  rw [decodeFrom, push?_trailing hlow hhigh]
  rfl

/-! ### One character -/

theorem open?_of_two (index : Nat) {code : Nat} (hlow : 0x7F < code) (hhigh : code ≤ 0x7FF) :
    Pending.open? index (code / 64 + 192) = some ⟨index, 1, 1, 0x80, 0xBF, code / 64⟩ := by
  have hbits : (code / 64 + 192) % 32 = code / 64 := by omega
  unfold Pending.open?
  dsimp only
  rw [if_neg (by omega), if_neg (by omega), if_pos (by omega), hbits]

/-- The first of three bytes narrows the second one down, but not too far. -/
theorem open?_of_three (index : Nat) {code : Nat} (hlow : 0x7FF < code) (hhigh : code ≤ 0xFFFF)
    (hvalid : code < 0xD800 ∨ 0xDFFF < code) :
    ∃ low high, Pending.open? index (code / 4096 + 224) =
        some ⟨index, 1, 2, low, high, code / 4096⟩ ∧
      low ≤ code / 64 % 64 + 128 ∧ code / 64 % 64 + 128 ≤ high := by
  have hbits : (code / 4096 + 224) % 16 = code / 4096 := by omega
  unfold Pending.open?
  dsimp only
  rw [if_neg (by omega), if_neg (by omega), if_neg (by omega), hbits]
  by_cases hfirst : code < 0x1000
  · exact ⟨0xA0, 0xBF, if_pos (by omega), by omega, by omega⟩
  · rw [if_neg (by omega)]
    by_cases hsurrogates : 0xD000 ≤ code ∧ code < 0xE000
    · exact ⟨0x80, 0x9F, if_pos (by omega), by omega, by omega⟩
    · rw [if_neg (by omega), if_pos (by omega)]
      exact ⟨0x80, 0xBF, rfl, by omega, by omega⟩

theorem open?_of_four (index : Nat) {code : Nat} (hlow : 0xFFFF < code) (hhigh : code < 0x110000) :
    ∃ low high, Pending.open? index (code / 262144 + 240) =
        some ⟨index, 1, 3, low, high, code / 262144⟩ ∧
      low ≤ code / 4096 % 64 + 128 ∧ code / 4096 % 64 + 128 ≤ high := by
  have hbits : (code / 262144 + 240) % 8 = code / 262144 := by omega
  unfold Pending.open?
  dsimp only
  rw [if_neg (by omega), if_neg (by omega), if_neg (by omega), if_neg (by omega),
    if_neg (by omega), if_neg (by omega), hbits]
  by_cases hfirst : code < 0x40000
  · exact ⟨0x90, 0xBF, if_pos (by omega), by omega, by omega⟩
  · rw [if_neg (by omega)]
    by_cases hlast : code < 0x100000
    · exact ⟨0x80, 0xBF, if_pos (by omega), by omega, by omega⟩
    · rw [if_neg (by omega), if_pos (by omega)]
      exact ⟨0x80, 0x8F, rfl, by omega, by omega⟩

/-- **The reader finds a character in its bytes, and goes on behind them.** -/
theorem decodeFrom_encodeChar (c : Char) (index : Nat) (rest : List UInt8) :
    ∃ next, decodeFrom index none (String.utf8EncodeChar c ++ rest) =
      (c :: ·) <$> decodeFrom next none rest := by
  have hvalid : c.val.toNat < 0xD800 ∨ (0xDFFF < c.val.toNat ∧ c.val.toNat < 0x110000) := c.valid
  have hread : ∀ code, code = c.val.toNat → Char.ofNat code = c := by
    rintro _ rfl
    exact Char.ofNat_toNat c
  have hlead : ∀ n < 256, (UInt8.ofNat n).toNat = n := fun n h => UInt8.toNat_ofNat_of_lt' h
  unfold String.utf8EncodeChar
  dsimp only
  generalize c.val.toNat = code at *
  split_ifs with hone htwo hthree
  · -- one byte
    have hopen : Pending.open? index (UInt8.ofNat code).toNat =
        some ⟨index, 1, 0, 0x80, 0xBF, code⟩ := by
      rw [hlead _ (by omega)]
      exact if_pos (by omega)
    rw [List.singleton_append, decodeFrom, hopen, ← hread code rfl]
    exact ⟨_, rfl⟩
  · -- two bytes
    have hopen := open?_of_two index (Nat.lt_of_not_le hone) htwo
    rw [← hlead (code / 64 + 192) (by omega)] at hopen
    have hcode : Char.ofNat (code / 64 * 64 + code % 64) = c := hread _ (by omega)
    rw [show code / 64 % 32 = code / 64 by omega]
    change ∃ next, decodeFrom index none (_ :: trailing code :: rest) = _
    rw [decodeFrom_open hopen, decodeFrom_last (by omega) (by omega), hcode]
    exact ⟨_, rfl⟩
  · -- three bytes
    obtain ⟨low, high, hopen, hlow, hhigh⟩ :=
      open?_of_three index (Nat.lt_of_not_le htwo) hthree (by omega)
    rw [← hlead (code / 4096 + 224) (by omega)] at hopen
    have hcode : Char.ofNat ((code / 4096 * 64 + code / 64 % 64) * 64 + code % 64) = c :=
      hread _ (by omega)
    rw [show code / 4096 % 16 = code / 4096 by omega]
    change ∃ next,
      decodeFrom index none (_ :: trailing (code / 64) :: trailing code :: rest) = _
    rw [decodeFrom_open hopen, decodeFrom_push hlow hhigh, decodeFrom_last (by omega) (by omega),
      hcode]
    exact ⟨_, rfl⟩
  · -- four bytes
    obtain ⟨low, high, hopen, hlow, hhigh⟩ :=
      open?_of_four index (Nat.lt_of_not_le hthree) (by omega)
    rw [← hlead (code / 262144 + 240) (by omega)] at hopen
    have hcode : Char.ofNat
        (((code / 262144 * 64 + code / 4096 % 64) * 64 + code / 64 % 64) * 64 + code % 64) = c :=
      hread _ (by omega)
    rw [show code / 262144 % 8 = code / 262144 by omega]
    change ∃ next, decodeFrom index none
      (_ :: trailing (code / 4096) :: trailing (code / 64) :: trailing code :: rest) = _
    rw [decodeFrom_open hopen, decodeFrom_push hlow hhigh, decodeFrom_push (by omega) (by omega),
      decodeFrom_last (by omega) (by omega), hcode]
    exact ⟨_, rfl⟩

theorem encode_append (text more : String) :
    encode (text ++ more) = encode text ++ encode more := by
  rw [encode_eq_flatMap, String.toList_append, List.flatMap_append, ← encode_eq_flatMap,
    ← encode_eq_flatMap]

theorem decodeFrom_encode (text : List Char) (index : Nat) :
    decodeFrom index none (text.flatMap String.utf8EncodeChar) = .ok text := by
  induction text generalizing index with
  | nil => rfl
  | cons c text ih =>
      obtain ⟨next, hnext⟩ := decodeFrom_encodeChar c index (text.flatMap String.utf8EncodeChar)
      rw [List.flatMap_cons, hnext, ih]
      rfl

/-- **A text is what its bytes are read as.** -/
theorem decode_encode (text : String) : decode (encode text) = .ok text := by
  rw [decode, encode_eq_flatMap, decodeFrom_encode]
  exact congrArg Except.ok (String.ofList_toList)

end Concord.Text.Utf8
