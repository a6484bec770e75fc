import Mathlib
import Concord.Proofs.Json.Floats
import Concord.Proofs.Json.Strings

/-!
# The text of a value is read whole

Reading the text of a value gives the value as it stands in that text, where only numbers may have
changed. Two units of fuel for each character are enough: a container spends two on its brackets,
and every item but the last has a comma to pay for the step to the next one.
-/

namespace Concord

/-- What the reader makes of the text of a number. -/
def Number.reread? (number : Number) : Option Number :=
  match Raw.takeNumber number.text with
  | some (.number value, _) => value
  | _ => none

namespace Json

mutual

/-- A value as it is read from its own text. -/
def written : Json → Raw
  | .null => .null
  | .bool b => .bool b
  | .number n => .number n.reread?
  | .str s => .str (some s)
  | .arr items => .arr (writtenItems items)
  | .obj fields => .obj (writtenFields fields)

def writtenItems : List Json → List Raw
  | [] => []
  | item :: rest => written item :: writtenItems rest

def writtenFields : List (String × Json) → List (Option String × Raw)
  | [] => []
  | (name, value) :: rest => (some name, written value) :: writtenFields rest

end

/-- The items of an array and its end. -/
def itemsText : List Json → List Char
  | [] => [']']
  | item :: rest => chars item ++ itemsChars rest

/-- The fields of an object and its end. -/
def fieldsText : List (String × Json) → List Char
  | [] => ['\x7d']
  | (name, value) :: rest => quote name ++ ':' :: chars value ++ fieldsChars rest

theorem chars_arr (items : List Json) : chars (.arr items) = '[' :: itemsText items := by
  cases items <;> simp [chars, itemsText]

theorem chars_obj (fields : List (String × Json)) :
    chars (.obj fields) = '\x7b' :: fieldsText fields := by
  rcases fields with _ | ⟨⟨name, value⟩, rest⟩ <;> simp [chars, fieldsText]

theorem itemsChars_cons (item : Json) (rest : List Json) :
    itemsChars (item :: rest) = ',' :: itemsText (item :: rest) := by
  simp [itemsChars, itemsText]

theorem fieldsChars_cons (field : String × Json) (rest : List (String × Json)) :
    fieldsChars (field :: rest) = ',' :: fieldsText (field :: rest) := by
  obtain ⟨name, value⟩ := field
  simp [fieldsChars, fieldsText]

end Json

namespace Raw

/-! ### Numbers -/

theorem exists_spelling (number : Number) :
    ∃ spelling : Spelling, ∃ negative : Bool, spelling.Proper ∧
      number.text = (if negative then ['-'] else []) ++ spelling.text := by
  cases number with
  | int value =>
      exact ⟨naturalSpelling value.natAbs, decide (value < 0), naturalSpelling_proper _,
        text_int value⟩
  | float x =>
      obtain ⟨spelling, hproper, htext⟩ := x.exists_spelling_text
      exact ⟨spelling, x.negative, hproper, htext⟩

theorem takeNumber_number (number : Number) {rest : List Char} (hrest : EndsNumber rest) :
    takeNumber (number.text ++ rest) = some (.number number.reread?, rest) := by
  obtain ⟨spelling, negative, hproper, htext⟩ := exists_spelling number
  have halone := takeNumber_text hproper negative endsNumber_nil
  rw [List.append_nil, ← htext] at halone
  rw [Number.reread?, halone, htext, List.append_assoc, takeNumber_text hproper negative hrest]

/-- The text of a number starts with its sign or a digit. -/
theorem exists_text_number (number : Number) :
    ∃ c rest, number.text = c :: rest ∧ (c = '-' ∨ c.isDigit) := by
  obtain ⟨spelling, negative, hproper, htext⟩ := exists_spelling number
  obtain ⟨c, whole, hwhole⟩ := List.exists_cons_of_ne_nil hproper.whole_ne
  cases negative with
  | true => exact ⟨'-', spelling.text, htext, Or.inl rfl⟩
  | false =>
      refine ⟨c, whole ++ (spelling.fractionText ++ spelling.exponentText), ?_, Or.inr ?_⟩
      · simpa [Spelling.text, hwhole] using htext
      · exact hproper.whole_digits c (by simp [hwhole])

/-- An integer within range is read as itself, any other one as no integer. -/
theorem reread?_int_eq_some_iff (value found : Int) :
    (Number.int value).reread? = some (.int found) ↔
      found = value ∧ -2 ^ 63 ≤ value ∧ value < 2 ^ 64 := by
  have htake := takeNumber_text (naturalSpelling_proper value.natAbs) (decide (value < 0))
    endsNumber_nil
  rw [List.append_nil, ← text_int] at htake
  have hvalue : value = if decide (value < 0) = true then -(value.natAbs : Int) else value.natAbs := by
    simp only [decide_eq_true_eq]
    split <;> omega
  have hiff := Numeral.value?_natural (decide (value < 0)) value.natAbs
    (by simp only [decide_eq_true_eq]; omega) found
  rw [← hvalue] at hiff
  rw [Number.reread?, htake]
  simp only [decide_eq_true_eq] at hiff ⊢
  rw [hiff]
  split <;> omega

/-! ### Values -/

/-- The first character of a value is no space and closes nothing. -/
def Opens (c : Char) : Prop :=
  isSpace c = false ∧ c ≠ ']' ∧ c ≠ '\x7d'

theorem opens_of_number {c : Char} (h : c = '-' ∨ c.isDigit) : Opens c := by
  rcases h with rfl | hdigit
  · exact ⟨by decide, by decide, by decide⟩
  · refine ⟨?_, ?_, ?_⟩
    · by_contra hspace
      simp only [isSpace, Bool.not_eq_false, Bool.or_eq_true, beq_iff_eq] at hspace
      rcases hspace with ((rfl | rfl) | rfl) | rfl <;> exact absurd hdigit (by decide)
    · rintro rfl
      exact absurd hdigit (by decide)
    · rintro rfl
      exact absurd hdigit (by decide)

theorem exists_chars (value : Json) : ∃ c rest, value.chars = c :: rest ∧ Opens c := by
  cases value with
  | null => exact ⟨_, _, rfl, by decide, by decide, by decide⟩
  | bool b => cases b <;> exact ⟨_, _, rfl, by decide, by decide, by decide⟩
  | number n =>
      obtain ⟨c, rest, htext, hc⟩ := exists_text_number n
      exact ⟨c, rest, by simpa [Json.chars] using htext, opens_of_number hc⟩
  | str s => exact ⟨'"', _, by rw [Json.chars, Json.quote]; rfl, by decide, by decide, by decide⟩
  | arr items => exact ⟨'[', _, Json.chars_arr items, by decide, by decide, by decide⟩
  | obj fields => exact ⟨'\x7b', _, Json.chars_obj fields, by decide, by decide, by decide⟩

theorem skipSpace_cons {c : Char} (hc : isSpace c = false) (rest : List Char) :
    skipSpace (c :: rest) = c :: rest := by
  simp [skipSpace, hc]

theorem takeValue_number {c : Char} (hc : c = '-' ∨ c.isDigit) (fuel : Nat) (rest : List Char) :
    takeValue (fuel + 1) (c :: rest) = takeNumber (c :: rest) := by
  have hne : ∀ d : Char, d ≠ '-' → d.isDigit = false → c ≠ d := by
    rintro d hminus hdigit rfl
    rcases hc with hc | hc
    · exact hminus hc
    · rw [hdigit] at hc
      cases hc
  rw [takeValue, skipSpace_cons (opens_of_number hc).1]
  split
  · next heq => cases heq; exact absurd rfl (hne 'n' (by decide) (by decide))
  · next heq => cases heq; exact absurd rfl (hne 't' (by decide) (by decide))
  · next heq => cases heq; exact absurd rfl (hne 'f' (by decide) (by decide))
  · next heq => cases heq; exact absurd rfl (hne '"' (by decide) (by decide))
  · next heq => cases heq; exact absurd rfl (hne '[' (by decide) (by decide))
  · next heq => cases heq; exact absurd rfl (hne '\x7b' (by decide) (by decide))
  · rfl

theorem quote_append (text : String) (rest : List Char) :
    Json.quote text ++ rest = '"' :: (text.toList.flatMap Json.escape ++ '"' :: rest) := by
  simp [Json.quote]

theorem endsNumber_cons {c : Char} (hdigit : digit? c = none)
    (hc : c ≠ '.' ∧ c ≠ 'e' ∧ c ≠ 'E') (rest : List Char) : EndsNumber (c :: rest) := by
  rintro _ ⟨⟩
  exact ⟨hdigit, hc⟩

theorem endsNumber_itemsChars (items : List Json) (rest : List Char) :
    EndsNumber (Json.itemsChars items ++ rest) := by
  cases items with
  | nil => exact endsNumber_cons (by decide) (by decide) rest
  | cons item items =>
      rw [Json.itemsChars_cons]
      exact endsNumber_cons (by decide) (by decide) _

theorem endsNumber_fieldsChars (fields : List (String × Json)) (rest : List Char) :
    EndsNumber (Json.fieldsChars fields ++ rest) := by
  cases fields with
  | nil => exact endsNumber_cons (by decide) (by decide) rest
  | cons field fields =>
      rw [Json.fieldsChars_cons]
      exact endsNumber_cons (by decide) (by decide) _

/-! ### Containers -/

theorem takeValue_array {c : Char} (hc : Opens c) (fuel : Nat) (rest : List Char) :
    takeValue (fuel + 1) ('[' :: c :: rest) =
      (takeItems fuel (c :: rest)).map fun found => (.arr found.1, found.2) := by
  rw [takeValue, skipSpace_cons (by decide)]
  simp only [skipSpace_cons hc.1]
  split
  · next heq => cases heq; exact absurd rfl hc.2.1
  · cases takeItems fuel (c :: rest) <;> rfl

theorem takeValue_object {c : Char} (hc : Opens c) (fuel : Nat) (rest : List Char) :
    takeValue (fuel + 1) ('\x7b' :: c :: rest) =
      (takeFields fuel (c :: rest)).map fun found => (.obj found.1, found.2) := by
  rw [takeValue, skipSpace_cons (by decide)]
  simp only [skipSpace_cons hc.1]
  split
  · next heq => cases heq; exact absurd rfl hc.2.2
  · cases takeFields fuel (c :: rest) <;> rfl

section Steps

variable {fuel : Nat} {text more rest : List Char}

theorem takeItems_last {item : Raw} (hitem : takeValue fuel text = some (item, ']' :: rest)) :
    takeItems (fuel + 1) text = some ([item], rest) := by
  simp [takeItems, hitem, skipSpace, isSpace]

theorem takeItems_more {item : Raw} {items : List Raw}
    (hitem : takeValue fuel text = some (item, ',' :: more))
    (hitems : takeItems fuel more = some (items, rest)) :
    takeItems (fuel + 1) text = some (item :: items, rest) := by
  simp [takeItems, hitem, hitems, skipSpace, isSpace]

theorem takeFields_last {value : Raw} (name : String)
    (hvalue : takeValue fuel text = some (value, '\x7d' :: rest)) :
    takeFields (fuel + 1) (Json.quote name ++ ':' :: text) = some ([(some name, value)], rest) := by
  rw [quote_append, takeFields, skipSpace_cons (by decide)]
  simp [takeString_escaped, hvalue, skipSpace, isSpace]

theorem takeFields_more {value : Raw} {fields : List (Option String × Raw)} (name : String)
    (hvalue : takeValue fuel text = some (value, ',' :: more))
    (hfields : takeFields fuel more = some (fields, rest)) :
    takeFields (fuel + 1) (Json.quote name ++ ':' :: text) =
      some ((some name, value) :: fields, rest) := by
  rw [quote_append, takeFields, skipSpace_cons (by decide)]
  simp [takeString_escaped, hvalue, hfields, skipSpace, isSpace]

end Steps

mutual

/-- The text of a value is read whole, and as what is written there. -/
theorem takeValue_chars (value : Json) (fuel : Nat) (rest : List Char)
    (hfuel : 2 * value.chars.length ≤ fuel) (hrest : EndsNumber rest) :
    takeValue fuel (value.chars ++ rest) = some (value.written, rest) := by
  -- no value has an empty text, so there is fuel for a step
  obtain ⟨c, tail, hhead, -⟩ := exists_chars value
  obtain ⟨fuel, rfl⟩ : ∃ spare, fuel = spare + 1 :=
    ⟨fuel - 1, by rw [hhead, List.length_cons] at hfuel; omega⟩
  match value with
  | .null => simp [Json.chars, takeValue, skipSpace, isSpace, Json.written]
  | .bool true => simp [Json.chars, takeValue, skipSpace, isSpace, Json.written]
  | .bool false => simp [Json.chars, takeValue, skipSpace, isSpace, Json.written]
  | .number n =>
      obtain ⟨c, tail, htext, hc⟩ := exists_text_number n
      rw [Json.chars, Json.written, ← takeNumber_number n hrest, htext, List.cons_append,
        takeValue_number hc]
  | .str s =>
      rw [Json.chars, quote_append, takeValue, skipSpace_cons (by decide)]
      simp [takeString_escaped, Json.written]
  | .arr [] => simp [Json.chars, takeValue, skipSpace, isSpace, Json.written, Json.writtenItems]
  | .arr (item :: items) =>
      rw [Json.chars_arr, List.length_cons] at hfuel
      have hitems := takeItems_text (item :: items) fuel rest (by simp) (by omega)
      obtain ⟨c, tail, hitem, hc⟩ := exists_chars item
      simp only [Json.itemsText, hitem, List.cons_append] at hitems
      simp only [Json.chars_arr, Json.itemsText, hitem, List.cons_append]
      rw [takeValue_array hc, hitems]
      rfl
  | .obj [] => simp [Json.chars, takeValue, skipSpace, isSpace, Json.written, Json.writtenFields]
  | .obj ((name, value) :: fields) =>
      rw [Json.chars_obj, List.length_cons] at hfuel
      have hfields := takeFields_text ((name, value) :: fields) fuel rest (by simp) (by omega)
      simp only [Json.fieldsText, List.cons_append, List.append_assoc, quote_append] at hfields
      simp only [Json.chars_obj, Json.fieldsText, List.cons_append, List.append_assoc, quote_append]
      rw [takeValue_object ⟨by decide, by decide, by decide⟩, hfields]
      rfl

theorem takeItems_text (items : List Json) (fuel : Nat) (rest : List Char) (hne : items ≠ [])
    (hfuel : 2 * (Json.itemsText items).length ≤ fuel) :
    takeItems fuel (Json.itemsText items ++ rest) = some (Json.writtenItems items, rest) := by
  match items with
  | item :: items =>
      rw [Json.itemsText, List.length_append] at hfuel
      rw [Json.itemsText, List.append_assoc]
      obtain ⟨fuel, rfl⟩ : ∃ spare, fuel = spare + 1 := by
        obtain ⟨c, tail, hhead, -⟩ := exists_chars item
        exact ⟨fuel - 1, by rw [hhead, List.length_cons] at hfuel; omega⟩
      match items with
      | [] =>
          rw [Json.itemsChars, List.length_singleton] at hfuel
          exact takeItems_last (takeValue_chars item fuel _ (by omega)
            (endsNumber_itemsChars [] rest))
      | next :: items =>
          have hends := endsNumber_itemsChars (next :: items) rest
          rw [Json.itemsChars_cons] at hends hfuel ⊢
          rw [List.length_cons] at hfuel
          exact takeItems_more (takeValue_chars item fuel _ (by omega) hends)
            (takeItems_text (next :: items) fuel rest (by simp) (by omega))

theorem takeFields_text (fields : List (String × Json)) (fuel : Nat) (rest : List Char)
    (hne : fields ≠ []) (hfuel : 2 * (Json.fieldsText fields).length ≤ fuel) :
    takeFields fuel (Json.fieldsText fields ++ rest) = some (Json.writtenFields fields, rest) := by
  match fields with
  | (name, value) :: fields =>
      simp only [Json.fieldsText, List.length_append, List.length_cons] at hfuel
      simp only [Json.fieldsText, List.append_assoc, List.cons_append]
      obtain ⟨fuel, rfl⟩ : ∃ spare, fuel = spare + 1 := ⟨fuel - 1, by omega⟩
      match fields with
      | [] =>
          rw [Json.fieldsChars, List.length_singleton] at hfuel
          exact takeFields_last name (takeValue_chars value fuel _ (by omega)
            (endsNumber_fieldsChars [] rest))
      | next :: fields =>
          have hends := endsNumber_fieldsChars (next :: fields) rest
          rw [Json.fieldsChars_cons] at hends hfuel ⊢
          rw [List.length_cons] at hfuel
          exact takeFields_more name (takeValue_chars value fuel _ (by omega) hends)
            (takeFields_text (next :: fields) fuel rest (by simp) (by omega))

end

/-- The text of a value reads as the value that is written there. -/
theorem read_text (value : Json) : read value.text = some value.written := by
  have htake := takeValue_chars value (2 * value.chars.length + 2) [] (by omega) endsNumber_nil
  rw [List.append_nil] at htake
  simp [read, Json.text, htake, skipSpace]

end Raw

end Concord
