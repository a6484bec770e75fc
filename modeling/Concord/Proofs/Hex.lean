import Mathlib
import Concord.Proofs.Bounds
import Concord.Proofs.Json.Lines
import Concord.Text.Hex

/-!
# Hexadecimal texts are read for what they spell

A text is read if it is made of pairs of digits, in either case, and a fault otherwise; another
character does not pass, since its last byte is that of no digit. What the bytes are written as is
the text in lower case.
-/

namespace Concord.Text.Hex

def digits : List Char :=
  "0123456789ABCDEFabcdef".toList

/-- Pairs of digits, and nothing else. -/
structure Spelled (text : String) : Prop where
  even : text.length % 2 = 0
  digits : ∀ c ∈ text.toList, c ∈ Hex.digits

instance (text : String) : Decidable (Spelled text) :=
  decidable_of_iff (text.length % 2 = 0 ∧ text.toList.all Hex.digits.contains = true) <| by
    simp only [List.all_eq_true, List.contains_iff_mem]
    exact ⟨fun h => ⟨h.1, h.2⟩, fun h => ⟨h.even, h.digits⟩⟩

/-! ### Digits and their bytes -/

theorem mem_digits_iff {c : Char} :
    c ∈ digits ↔ c.toNat < 128 ∧ (value? (.ofNat c.toNat)).isSome = true := by
  have hcodes : digits =
      ((List.range 128).filter fun code => (value? (.ofNat code)).isSome).map Char.ofNat := by
    decide
  have hread : ∀ code < 128, (Char.ofNat code).toNat = code := by decide
  rw [hcodes, List.mem_map]
  constructor
  · rintro ⟨code, hcode, rfl⟩
    rw [List.mem_filter, List.mem_range] at hcode
    rwa [hread code hcode.1]
  · rintro ⟨hlt, hvalue⟩
    exact ⟨c.toNat, List.mem_filter.2 ⟨List.mem_range.2 hlt, hvalue⟩, Char.ofNat_toNat c⟩

theorem exists_value {c : Char} (h : c ∈ digits) :
    ∃ value < 16, value? (.ofNat c.toNat) = some value ∧ digit value = c.toLower := by
  have hlower : ∀ code < 128, (value? (.ofNat code)).isSome = true →
      (value? (.ofNat code)).map digit = some (Char.ofNat code).toLower := by
    decide
  obtain ⟨hlt, hvalue⟩ := mem_digits_iff.1 h
  have hdigit := hlower c.toNat hlt hvalue
  obtain ⟨value, hvalue⟩ := Option.isSome_iff_exists.1 hvalue
  rw [hvalue, Option.map_some, Char.ofNat_toNat] at hdigit
  refine ⟨value, ?_, hvalue, Option.some.inj hdigit⟩
  unfold value? at hvalue
  dsimp only at hvalue
  split_ifs at hvalue <;> cases hvalue <;> omega

theorem lt_of_value? {byte : UInt8} (h : (value? byte).isSome = true) : byte.toNat < 128 := by
  by_contra hlarge
  have hnone : value? byte = none := by
    unfold value?
    dsimp only
    rw [if_neg (by omega), if_neg (by omega), if_neg (by omega)]
  rw [hnone] at h
  cases h

theorem utf8EncodeChar_of_mem_digits {c : Char} (h : c ∈ digits) :
    String.utf8EncodeChar c = [.ofNat c.toNat] := by
  have hlt := (mem_digits_iff.1 h).1
  have hcode : c.val.toNat ≤ 0x7F := Nat.le_of_lt_succ hlt
  unfold String.utf8EncodeChar
  dsimp only
  rw [if_pos hcode]
  rfl

theorem mem_digits_of_bytes {c : Char}
    (h : ∀ byte ∈ String.utf8EncodeChar c, (value? byte).isSome = true) : c ∈ digits := by
  -- The last byte of a character of several bytes is not below 128, so it is that of no digit.
  have hlast : ∀ n, (value? (UInt8.ofNat (n % 64 + 128))).isSome ≠ true := by
    intro n hvalue
    have hlt := lt_of_value? hvalue
    rw [UInt8.toNat_ofNat'] at hlt
    omega
  unfold String.utf8EncodeChar at h
  dsimp only at h
  split_ifs at h with hone htwo hthree
  · exact mem_digits_iff.2 ⟨Nat.lt_succ_of_le hone, h _ (List.mem_singleton_self _)⟩
  all_goals exact absurd (h _ (by simp)) (hlast c.val.toNat)

/-! ### Pairs -/

theorem pair_ofNat {high low : Nat} (hhigh : high < 16) (hlow : low < 16) :
    pair (.ofNat (16 * high + low)) = [digit high, digit low] := by
  have hvalue : (UInt8.ofNat (16 * high + low)).toNat = 16 * high + low := by
    rw [UInt8.toNat_ofNat']
    omega
  rw [pair, hvalue, show (16 * high + low) / 16 = high by omega,
    show (16 * high + low) % 16 = low by omega]

/-- Pairs of digits are read for bytes, which are written as the same digits in lower case. -/
theorem decodePairs_of_digits {chars : List Char} (heven : chars.length % 2 = 0)
    (hdigits : ∀ c ∈ chars, c ∈ digits) (index : Nat) :
    ∃ bytes, decodePairs index (chars.map fun c => .ofNat c.toNat) = .ok bytes ∧
      bytes.flatMap pair = chars.map Char.toLower := by
  induction chars using List.twoStepInduction generalizing index with
  | nil => exact ⟨[], rfl, rfl⟩
  | singleton c => cases heven
  | cons_cons high low rest ih _ =>
      rw [List.forall_mem_cons, List.forall_mem_cons] at hdigits
      obtain ⟨hhigh, hlow, hrest⟩ := hdigits
      obtain ⟨h, hh, hhvalue, hhdigit⟩ := exists_value hhigh
      obtain ⟨l, hl, hlvalue, hldigit⟩ := exists_value hlow
      have hshorter : rest.length % 2 = 0 := by
        simp only [List.length_cons] at heven
        omega
      obtain ⟨bytes, hbytes, hpairs⟩ := ih hshorter hrest (index + 2)
      refine ⟨.ofNat (16 * h + l) :: bytes, ?_, ?_⟩
      · rw [List.map_cons, List.map_cons, decodePairs, hhvalue, hlvalue, hbytes]
        rfl
      · rw [List.flatMap_cons, pair_ofNat hh hl, hpairs, hhdigit, hldigit]
        rfl

theorem digits_of_decodePairs {index : Nat} {input bytes : List UInt8}
    (h : decodePairs index input = .ok bytes) :
    input.length % 2 = 0 ∧ ∀ byte ∈ input, (value? byte).isSome = true := by
  induction input using List.twoStepInduction generalizing index bytes with
  | nil => exact ⟨rfl, nofun⟩
  | singleton byte => cases h
  | cons_cons high low rest ih _ =>
      rw [decodePairs] at h
      split at h
      · cases h
      · next hhigh =>
          split at h
          · cases h
          · next hlow =>
              cases hrest : decodePairs (index + 2) rest with
              | error fault =>
                  rw [hrest] at h
                  cases h
              | ok found =>
                  obtain ⟨heven, hdigits⟩ := ih hrest
                  rw [List.forall_mem_cons, List.forall_mem_cons, hhigh, hlow]
                  simp only [List.length_cons]
                  exact ⟨by omega, rfl, rfl, hdigits⟩

/-! ### Texts -/

theorem encode_of_digits {chars : List Char} (h : ∀ c ∈ chars, c ∈ digits) :
    chars.flatMap String.utf8EncodeChar = chars.map fun c => .ofNat c.toNat := by
  rw [List.map_eq_flatMap]
  exact List.flatMap_congr fun c hc => utf8EncodeChar_of_mem_digits (h c hc)

theorem decode_eq (text : String) : decode text =
    if (Utf8.encode text).length % 2 = 1 then .error .oddLength
    else decodePairs 0 (Utf8.encode text) :=
  rfl

/-- A text that spells bytes is read for them, and they are written as the text in lower case. -/
theorem Spelled.decode {text : String} (h : Spelled text) :
    ∃ bytes, Hex.decode text = .ok bytes ∧
      (encode bytes).toList = text.toList.map Char.toLower := by
  have heven : text.toList.length % 2 = 0 := by
    rw [String.length_toList]
    exact h.even
  obtain ⟨bytes, hbytes, hpairs⟩ := decodePairs_of_digits heven h.digits 0
  refine ⟨bytes, ?_, ?_⟩
  · rw [decode_eq, Utf8.encode_eq_flatMap, encode_of_digits h.digits, List.length_map, heven]
    exact hbytes
  · rw [encode, String.toList_ofList, hpairs]

theorem spelled_of_decode {text : String} {bytes : List UInt8}
    (h : Hex.decode text = .ok bytes) : Spelled text := by
  rw [decode_eq] at h
  split at h
  · cases h
  · obtain ⟨heven, hvalues⟩ := digits_of_decodePairs h
    rw [Utf8.encode_eq_flatMap] at heven hvalues
    have hdigits : ∀ c ∈ text.toList, c ∈ digits := fun c hc =>
      mem_digits_of_bytes fun byte hbyte => hvalues byte (List.mem_flatMap.2 ⟨c, hc, hbyte⟩)
    rw [encode_of_digits hdigits, List.length_map, String.length_toList] at heven
    exact ⟨heven, hdigits⟩

theorem exists_fault_iff {text : String} :
    (∃ fault, Hex.decode text = .error fault) ↔ ¬ Spelled text := by
  constructor
  · rintro ⟨fault, hfault⟩ h
    obtain ⟨bytes, hbytes, -⟩ := h.decode
    cases hfault.symm.trans hbytes
  · intro h
    cases hdecode : Hex.decode text with
    | error fault => exact ⟨fault, rfl⟩
    | ok bytes => exact absurd (spelled_of_decode hdecode) h

/-! ### What is kept of a text -/

/-- The first characters of a text in lower case, two for each byte. -/
def image (bytes : Nat) (text : String) : String :=
  String.ofList ((text.toList.take (min text.length (2 * bytes))).map Char.toLower)

theorem encode_take {text : String} {bytes : List UInt8}
    (h : (encode bytes).toList = text.toList.map Char.toLower) (limit : Nat) :
    encode (bytes.take limit) = image limit text := by
  have hpairs : bytes.flatMap pair = text.toList.map Char.toLower := by
    rwa [encode, String.toList_ofList] at h
  calc encode (bytes.take limit)
      = String.ofList ((bytes.flatMap pair).take (2 * limit)) := by rw [encode, take_flatMap_pair]
    _ = String.ofList ((text.toList.take (2 * limit)).map Char.toLower) := by
      rw [hpairs, List.map_take]
    _ = image limit text := by
      rw [image, min_comm, ← String.length_toList, ← List.take_eq_take_min]

theorem image_congr {text other : String}
    (h : text.toList.map Char.toLower = other.toList.map Char.toLower) (bytes : Nat) :
    image bytes text = image bytes other := by
  have hlength : text.length = other.length := by
    simpa only [List.length_map, String.length_toList] using congrArg List.length h
  rw [image, image, List.map_take, List.map_take, h, hlength]

end Concord.Text.Hex
