import Mathlib
import Concord.Proofs.Json.Text
import Concord.Text.Utf8

/-!
# A value is written on one line

The writer escapes every control, so the text of a value has none, nor have its bytes. Texts that are
put behind one another, each with a line end behind it, are found again where the lines end.
-/

namespace Concord

/-- The character is no control. -/
def Visible (c : Char) : Prop :=
  0x20 ≤ c.toNat

instance (c : Char) : Decidable (Visible c) :=
  inferInstanceAs (Decidable (0x20 ≤ c.toNat))

theorem visible_of_isDigit {c : Char} (h : c.isDigit) : Visible c := by
  simp only [Char.isDigit, Bool.and_eq_true, decide_eq_true_eq] at h
  have hlow : 48 ≤ c.toNat := UInt32.le_iff_toNat_le.1 h.1
  exact (by omega : 0x20 ≤ c.toNat)

theorem Visible.not_lineEnd {c : Char} (h : Visible c) : c ≠ '\n' ∧ c ≠ '\r' := by
  constructor <;> rintro rfl <;> exact absurd h (by decide)

/-! ### Numbers -/

namespace Raw.Spelling

variable {spelling : Spelling}

theorem Proper.visible_fractionText (h : spelling.Proper) :
    ∀ c ∈ spelling.fractionText, Visible c := by
  unfold fractionText
  cases hfraction : spelling.fraction with
  | none => nofun
  | some digits =>
      refine List.forall_mem_cons.2 ⟨by decide, fun c hc => ?_⟩
      exact visible_of_isDigit (h.fraction_digits digits hfraction c hc)

theorem Proper.visible_exponentText (h : spelling.Proper) :
    ∀ c ∈ spelling.exponentText, Visible c := by
  unfold exponentText
  cases hexponent : spelling.exponent with
  | none => nofun
  | some exponent =>
      obtain ⟨below, digits⟩ := exponent
      refine List.forall_mem_cons.2 ⟨by decide, List.forall_mem_cons.2 ⟨?_, fun c hc => ?_⟩⟩
      · cases below <;> decide
      · exact visible_of_isDigit (h.exponent_digits _ hexponent c hc)

theorem Proper.visible_text (h : spelling.Proper) : ∀ c ∈ spelling.text, Visible c := by
  rw [Spelling.text, List.forall_mem_append, List.forall_mem_append]
  exact ⟨fun c hc => visible_of_isDigit (h.whole_digits c hc), h.visible_fractionText,
    h.visible_exponentText⟩

end Raw.Spelling

theorem Number.visible_text (number : Number) : ∀ c ∈ number.text, Visible c := by
  obtain ⟨spelling, negative, hproper, htext⟩ := Raw.exists_spelling number
  rw [htext, List.forall_mem_append]
  refine ⟨?_, hproper.visible_text⟩
  cases negative with
  | true => exact List.forall_mem_singleton.2 (by decide)
  | false => nofun

/-! ### Values -/

namespace Json

theorem visible_of_shortEscape? {c letter : Char} (h : shortEscape? c = some letter) :
    Visible letter := by
  unfold shortEscape? at h
  split_ifs at h <;> cases h <;> decide

theorem visible_digit : ∀ value < 16, Visible (Text.Hex.digit value) := by
  decide

/-- Whatever the character, what stands for it is visible. -/
theorem visible_escape (c : Char) : ∀ d ∈ escape c, Visible d := by
  unfold escape
  cases hshort : shortEscape? c with
  | some letter =>
      simp only [List.forall_mem_cons]
      exact ⟨by decide, visible_of_shortEscape? hshort, nofun⟩
  | none =>
      dsimp only
      split
      · next hcontrol =>
          simp only [List.forall_mem_cons]
          exact ⟨by decide, by decide, by decide, by decide, visible_digit _ (by omega),
            visible_digit _ (by omega), nofun⟩
      · next hplain => exact List.forall_mem_singleton.2 (Nat.le_of_not_lt hplain)

theorem visible_quote (text : String) : ∀ c ∈ quote text, Visible c := by
  rw [quote, List.cons_append, List.forall_mem_cons, List.forall_mem_append,
    List.forall_mem_singleton]
  refine ⟨by decide, fun d hd => ?_, by decide⟩
  obtain ⟨c, -, hc⟩ := List.mem_flatMap.1 hd
  exact visible_escape c d hc

mutual

/-- **No value has a control in its text.** -/
theorem visible_chars (value : Json) : ∀ c ∈ value.chars, Visible c := by
  match value with
  | .null | .bool true | .bool false => simp [chars, Visible]
  | .number n => exact n.visible_text
  | .str s => exact visible_quote s
  | .arr items =>
      rw [chars_arr, List.forall_mem_cons]
      exact ⟨by decide, visible_itemsText items⟩
  | .obj fields =>
      rw [chars_obj, List.forall_mem_cons]
      exact ⟨by decide, visible_fieldsText fields⟩

theorem visible_itemsText (items : List Json) : ∀ c ∈ itemsText items, Visible c := by
  match items with
  | [] => exact List.forall_mem_singleton.2 (by decide)
  | [item] =>
      rw [itemsText, itemsChars, List.forall_mem_append, List.forall_mem_singleton]
      exact ⟨visible_chars item, by decide⟩
  | item :: next :: items =>
      rw [itemsText, itemsChars_cons, List.forall_mem_append, List.forall_mem_cons]
      exact ⟨visible_chars item, by decide, visible_itemsText (next :: items)⟩

theorem visible_fieldsText (fields : List (String × Json)) :
    ∀ c ∈ fieldsText fields, Visible c := by
  match fields with
  | [] => exact List.forall_mem_singleton.2 (by decide)
  | [(name, value)] =>
      rw [fieldsText, fieldsChars, List.append_assoc, List.cons_append, List.forall_mem_append,
        List.forall_mem_cons, List.forall_mem_append, List.forall_mem_singleton]
      exact ⟨visible_quote name, by decide, visible_chars value, by decide⟩
  | (name, value) :: next :: fields =>
      rw [fieldsText, fieldsChars_cons, List.append_assoc, List.cons_append,
        List.forall_mem_append, List.forall_mem_cons, List.forall_mem_append,
        List.forall_mem_cons]
      exact ⟨visible_quote name, by decide, visible_chars value, by decide,
        visible_fieldsText (next :: fields)⟩

end

theorem visible_text (value : Json) : ∀ c ∈ value.text.toList, Visible c := by
  rw [text, String.toList_ofList]
  exact visible_chars value

end Json

/-! ### Bytes -/

theorem ByteArray.toList_loop (bytes : ByteArray) (index : Nat) (found : List UInt8) :
    ByteArray.toList.loop bytes index found = found.reverse ++ bytes.data.toList.drop index := by
  fun_induction ByteArray.toList.loop bytes index found with
  | case1 index found h ih =>
      have hindex : index < bytes.data.toList.length := by simpa using h
      rw [ih, List.drop_eq_getElem_cons hindex]
      simp [ByteArray.get!, h]
  | case2 index found h =>
      have hend : bytes.data.toList.length ≤ index := by simpa using h
      rw [List.drop_eq_nil_of_le hend, List.append_nil]

namespace Text.Utf8

/-- The bytes of a text are those of its characters. -/
theorem encode_eq_flatMap (text : String) :
    encode text = text.toList.flatMap String.utf8EncodeChar := by
  have hbytes : text.toUTF8 = text.toList.utf8Encode := by
    rw [String.toUTF8_eq_toByteArray]
    conv_lhs => rw [← String.ofList_toList (s := text)]
    rfl
  rw [encode, hbytes, ByteArray.toList, ByteArray.toList_loop, List.utf8Encode,
    List.toList_data_toByteArray]
  rfl

/-- A character that is no control has no control among its bytes. -/
theorem le_utf8EncodeChar {c : Char} (h : Visible c) :
    ∀ byte ∈ String.utf8EncodeChar c, 0x20 ≤ byte.toNat := by
  have hcode : 0x20 ≤ c.val.toNat := h
  unfold String.utf8EncodeChar
  dsimp only
  have hbyte : ∀ n, (UInt8.ofNat n).toNat = n % 256 := fun n => UInt8.toNat_ofNat'
  split_ifs <;> simp only [List.forall_mem_cons, hbyte]
  · exact ⟨by omega, nofun⟩
  · exact ⟨by omega, by omega, nofun⟩
  · exact ⟨by omega, by omega, by omega, nofun⟩
  · exact ⟨by omega, by omega, by omega, by omega, nofun⟩

theorem le_encode {text : String} (h : ∀ c ∈ text.toList, Visible c) :
    ∀ byte ∈ encode text, 0x20 ≤ byte.toNat := by
  intro byte hbyte
  rw [encode_eq_flatMap] at hbyte
  obtain ⟨c, hc, hmem⟩ := List.mem_flatMap.1 hbyte
  exact le_utf8EncodeChar (h c hc) byte hmem

end Text.Utf8

/-! ### Pieces and their ends -/

/-- Pieces that are each followed by a mark, and have no mark in them, are what stands between the
marks. -/
theorem splitOnP_flatMap_mark {α : Type} {marks : α → Bool} {mark : α} (hmark : marks mark = true)
    {pieces : List (List α)} (h : ∀ piece ∈ pieces, ∀ x ∈ piece, marks x = false) :
    (pieces.flatMap fun piece => piece ++ [mark]).splitOnP marks = pieces ++ [[]] := by
  induction pieces with
  | nil => rfl
  | cons piece pieces ih =>
      obtain ⟨hpiece, hpieces⟩ := List.forall_mem_cons.1 h
      rw [List.flatMap_cons, List.append_assoc, List.singleton_append,
        List.splitOnP_append_cons_of_forall_mem hpiece mark hmark, ih hpieces]
      rfl

end Concord
