import Mathlib
import Concord.Json.Reader
import Concord.Json.Writer

/-!
# A quoted string reads back

The writer escapes a character in one of three ways, and each way is undone by one step of the
reader. What is left is to see that a control written by number is never taken for half of a
surrogate pair.
-/

namespace Concord

namespace Raw

theorem hexDigit?_digit : ∀ value < 16, hexDigit? (Text.Hex.digit value) = some value := by
  decide

/-- What the reader makes of the characters that stand for `c`. -/
def pieceOf (c : Char) : Piece :=
  if (Json.shortEscape? c).isNone ∧ c.toNat < 0x20 then .unit c.toNat else .char c

theorem unit?_control {c : Char} (hlt : c.toNat < 0x20) :
    unit? '0' '0' (Text.Hex.digit (c.toNat / 16)) (Text.Hex.digit (c.toNat % 16)) =
      some c.toNat := by
  have hzero : hexDigit? '0' = some 0 := by decide
  have hhigh := hexDigit?_digit (c.toNat / 16) (by omega)
  have hlow := hexDigit?_digit (c.toNat % 16) (by omega)
  have hsum : c.toNat / 16 * 16 + c.toNat % 16 = c.toNat := Nat.div_add_mod' c.toNat 16
  simp [unit?, hzero, hhigh, hlow, hsum]

/-- The letter of a short escape stands for the character that it was chosen for. -/
theorem unescape?_of_shortEscape? {c letter : Char} (h : Json.shortEscape? c = some letter) :
    letter ≠ 'u' ∧ unescape? letter = some c := by
  unfold Json.shortEscape? at h
  split_ifs at h with h1 h2 h3 h4 h5 h6 h7 <;> cases h <;> subst_vars <;> decide

theorem ne_special_of_shortEscape? {c : Char} (h : Json.shortEscape? c = none) :
    c ≠ '"' ∧ c ≠ '\\' := by
  constructor <;> rintro rfl <;> exact absurd h (by decide)

theorem takePieces_plain {c : Char} (hquote : c ≠ '"') (hslash : c ≠ '\\') (rest : List Char) :
    takePieces (c :: rest) =
      if c.toNat < 0x20 then none
      else (takePieces rest).map fun found => (.char c :: found.1, found.2) := by
  rw [takePieces.eq_4 c rest hquote (fun _ _ _ _ _ h => absurd h hslash)
    (fun _ _ h => absurd h hslash)]
  cases takePieces rest <;> rfl

/-- One step of the reader undoes one step of the writer. -/
theorem takePieces_escape (c : Char) (rest : List Char) :
    takePieces (Json.escape c ++ rest) =
      (takePieces rest).map fun found => (pieceOf c :: found.1, found.2) := by
  unfold Json.escape pieceOf
  cases hshort : Json.shortEscape? c with
  | some letter =>
      obtain ⟨hletter, hback⟩ := unescape?_of_shortEscape? hshort
      simp only [List.cons_append, List.nil_append]
      rw [takePieces.eq_3 letter rest (fun _ _ _ _ _ h => absurd h hletter), hback]
      cases takePieces rest <;> simp
  | none =>
      obtain ⟨hquote, hslash⟩ := ne_special_of_shortEscape? hshort
      by_cases hlt : c.toNat < 0x20
      · simp only [hlt, if_true, List.cons_append, List.nil_append]
        rw [takePieces.eq_2, unit?_control hlt]
        cases takePieces rest <;> simp
      · simp only [hlt, if_false, List.cons_append, List.nil_append]
        rw [takePieces_plain hquote hslash, if_neg hlt]
        simp

theorem takePieces_escaped (text rest : List Char) :
    takePieces (text.flatMap Json.escape ++ '"' :: rest) = some (text.map pieceOf, rest) := by
  induction text with
  | nil => simp [takePieces]
  | cons c text ih => rw [List.flatMap_cons, List.append_assoc, takePieces_escape, ih]; rfl

/-- A character by number that is no surrogate is joined to nothing that follows. -/
theorem join?_unit {value : Nat} (hlt : value < 0x20) (pieces : List Piece) :
    join? (.unit value :: pieces) = (join? pieces).map (Char.ofNat value :: ·) := by
  have hlead : isLead value = false := by simp [isLead]; omega
  have htrail : isTrail value = false := by simp [isTrail]; omega
  cases pieces with
  | nil => simp [join?, hlead, htrail]
  | cons piece pieces => cases piece <;> simp [join?, hlead, htrail]

theorem join?_pieceOf (c : Char) (pieces : List Piece) :
    join? (pieceOf c :: pieces) = (join? pieces).map (c :: ·) := by
  unfold pieceOf
  split
  · next h => rw [join?_unit h.2, Char.ofNat_toNat]
  · rfl

theorem join?_pieces (text : List Char) : join? (text.map pieceOf) = some text := by
  induction text with
  | nil => rfl
  | cons c text ih => rw [List.map_cons, join?_pieceOf, ih]; rfl

/-- A quoted string reads back, whatever follows it. -/
theorem takeString_escaped (text : String) (rest : List Char) :
    takeString (text.toList.flatMap Json.escape ++ '"' :: rest) = some (some text, rest) := by
  simp [takeString, takePieces_escaped, join?_pieces]

end Raw

end Concord
