import Mathlib
import Concord.Json.Reader
import Concord.Proofs.Json.Durable

/-!
# Values as they are read

Whatever a text holds, a value that is read from it has the fields of its objects in order and its
integers in range. So nothing but its depth and its floats can keep such a value from being written
and read again.
-/

namespace Concord

namespace Number

/-- An integer is one that can be read; of a float nothing is asked. -/
def InRange : Number → Prop
  | .int value => -2 ^ 63 ≤ value ∧ value < 2 ^ 64
  | .float _ => True

instance (number : Number) : Decidable number.InRange :=
  match number with
  | .int value => inferInstanceAs (Decidable (-2 ^ 63 ≤ value ∧ value < 2 ^ 64))
  | .float _ => .isTrue trivial

def isFloat : Number → Bool
  | .int _ => false
  | .float _ => true

theorem inRange_nat {n : Nat} (h : n < 2 ^ 64) : (Number.int n).InRange := by
  unfold InRange
  omega

/-- Of the numbers in range only floats may be read as other numbers. -/
theorem InRange.durable_iff {number : Number} (h : number.InRange) :
    number.Durable ↔ (number.isFloat = true → number.Durable) := by
  cases number with
  | int value => exact iff_of_true ((durable_int_iff value).2 h) (by rintro ⟨⟩)
  | float x => exact ⟨fun h _ => h, fun h => h rfl⟩

end Number

namespace Json

mutual

/-- The numbers in a value. -/
def numbers : Json → List Number
  | .number n => [n]
  | .arr items => itemsNumbers items
  | .obj fields => fieldsNumbers fields
  | _ => []

def itemsNumbers : List Json → List Number
  | [] => []
  | item :: rest => numbers item ++ itemsNumbers rest

def fieldsNumbers : List (String × Json) → List Number
  | [] => []
  | (_, value) :: rest => numbers value ++ fieldsNumbers rest

end

mutual

/-- The fields of every object are in the order of their names. -/
def Ordered : Json → Prop
  | .arr items => OrderedItems items
  | .obj fields => Ascending fields ∧ OrderedFields fields
  | _ => True

def OrderedItems : List Json → Prop
  | [] => True
  | item :: rest => Ordered item ∧ OrderedItems rest

def OrderedFields : List (String × Json) → Prop
  | [] => True
  | (_, value) :: rest => Ordered value ∧ OrderedFields rest

end

/-- Every integer in the value is one that can be read. -/
def InRange (value : Json) : Prop :=
  ∀ number ∈ value.numbers, number.InRange

instance (value : Json) : Decidable value.InRange :=
  inferInstanceAs (Decidable (∀ number ∈ value.numbers, number.InRange))

/-- The value is as if it had been read from a text. -/
structure Regular (value : Json) : Prop where
  ordered : value.Ordered
  inRange : value.InRange

theorem mem_itemsNumbers {items : List Json} {number : Number} :
    number ∈ itemsNumbers items ↔ ∃ item ∈ items, number ∈ item.numbers := by
  induction items with
  | nil => simp [itemsNumbers]
  | cons item items ih => simp [itemsNumbers, ih]

theorem mem_fieldsNumbers {fields : List (String × Json)} {number : Number} :
    number ∈ fieldsNumbers fields ↔ ∃ field ∈ fields, number ∈ field.2.numbers := by
  induction fields with
  | nil => simp [fieldsNumbers]
  | cons field fields ih =>
      obtain ⟨name, value⟩ := field
      simp [fieldsNumbers, ih]

theorem orderedItems_iff {items : List Json} :
    OrderedItems items ↔ ∀ item ∈ items, item.Ordered := by
  induction items with
  | nil => simp [OrderedItems]
  | cons item items ih => simp [OrderedItems, ih]

theorem orderedFields_iff {fields : List (String × Json)} :
    OrderedFields fields ↔ ∀ field ∈ fields, field.2.Ordered := by
  induction fields with
  | nil => simp [OrderedFields]
  | cons field fields ih =>
      obtain ⟨name, value⟩ := field
      simp [OrderedFields, ih]

theorem inRange_arr_iff {items : List Json} :
    (Json.arr items).InRange ↔ ∀ item ∈ items, item.InRange := by
  unfold InRange
  rw [numbers]
  simp only [mem_itemsNumbers]
  exact ⟨fun h item hitem number hnumber => h number ⟨item, hitem, hnumber⟩,
    fun h number ⟨item, hitem, hnumber⟩ => h item hitem number hnumber⟩

theorem inRange_obj_iff {fields : List (String × Json)} :
    (Json.obj fields).InRange ↔ ∀ field ∈ fields, field.2.InRange := by
  unfold InRange
  rw [numbers]
  simp only [mem_fieldsNumbers]
  exact ⟨fun h field hfield number hnumber => h number ⟨field, hfield, hnumber⟩,
    fun h number ⟨field, hfield, hnumber⟩ => h field hfield number hnumber⟩

theorem regular_arr_iff {items : List Json} :
    (Json.arr items).Regular ↔ ∀ item ∈ items, item.Regular := by
  constructor
  · intro h item hitem
    exact ⟨orderedItems_iff.1 h.ordered item hitem, inRange_arr_iff.1 h.inRange item hitem⟩
  · intro h
    exact ⟨orderedItems_iff.2 fun item hitem => (h item hitem).ordered,
      inRange_arr_iff.2 fun item hitem => (h item hitem).inRange⟩

theorem regular_obj_iff {fields : List (String × Json)} :
    (Json.obj fields).Regular ↔ Ascending fields ∧ ∀ field ∈ fields, field.2.Regular := by
  constructor
  · intro h
    obtain ⟨hascending, hordered⟩ := h.ordered
    exact ⟨hascending, fun field hfield =>
      ⟨orderedFields_iff.1 hordered field hfield, inRange_obj_iff.1 h.inRange field hfield⟩⟩
  · rintro ⟨hascending, h⟩
    exact ⟨⟨hascending, orderedFields_iff.2 fun field hfield => (h field hfield).ordered⟩,
      inRange_obj_iff.2 fun field hfield => (h field hfield).inRange⟩

theorem regular_number_iff {number : Number} : (Json.number number).Regular ↔ number.InRange := by
  constructor
  · exact fun h => h.inRange number List.mem_cons_self
  · intro h
    refine ⟨trivial, ?_⟩
    unfold InRange
    rwa [numbers, List.forall_mem_singleton]

theorem inRange_str (s : String) : (Json.str s).InRange := by
  rintro number ⟨⟩

theorem inRange_null : Json.null.InRange := by
  rintro number ⟨⟩

theorem inRange_nat {n : Nat} (h : n < 2 ^ 64) : (Json.nat n).InRange :=
  (regular_number_iff.2 (Number.inRange_nat h)).inRange

/-- A value without numbers and fields is regular. -/
theorem Regular.of_plain {value : Json} (hordered : value.Ordered) (hnumbers : value.numbers = []) :
    value.Regular := by
  refine ⟨hordered, ?_⟩
  unfold InRange
  rw [hnumbers]
  rintro number ⟨⟩

/-! ### What is durable -/

mutual

/-- Durability is order, and numbers that are read as they were. -/
theorem durable_iff_ordered (value : Json) :
    value.Durable ↔ value.Ordered ∧ ∀ number ∈ value.numbers, number.Durable := by
  match value with
  | .null => simp [Durable, Ordered, numbers]
  | .bool b => simp [Durable, Ordered, numbers]
  | .number n => simp [Durable, Ordered, numbers]
  | .str s => simp [Durable, Ordered, numbers]
  | .arr items =>
      have hitems := durableItems_iff_ordered items
      simpa [Durable, Ordered, numbers] using hitems
  | .obj fields =>
      have hfields := durableFields_iff_ordered fields
      simp [Durable, Ordered, numbers, hfields, and_assoc]

theorem durableItems_iff_ordered (items : List Json) :
    DurableItems items ↔
      OrderedItems items ∧ ∀ number ∈ itemsNumbers items, number.Durable := by
  match items with
  | [] => simp [DurableItems, OrderedItems, itemsNumbers]
  | item :: items =>
      have hitem := durable_iff_ordered item
      have hitems := durableItems_iff_ordered items
      simp [DurableItems, OrderedItems, itemsNumbers, hitem, hitems, or_imp, forall_and,
        and_and_and_comm]

theorem durableFields_iff_ordered (fields : List (String × Json)) :
    DurableFields fields ↔
      OrderedFields fields ∧ ∀ number ∈ fieldsNumbers fields, number.Durable := by
  match fields with
  | [] => simp [DurableFields, OrderedFields, fieldsNumbers]
  | (name, value) :: fields =>
      have hvalue := durable_iff_ordered value
      have hfields := durableFields_iff_ordered fields
      simp [DurableFields, OrderedFields, fieldsNumbers, hvalue, hfields, or_imp, forall_and,
        and_and_and_comm]

end

/-- **A value that was read once is durable if its floats are.** -/
theorem Regular.durable_iff {value : Json} (h : value.Regular) :
    value.Durable ↔ ∀ number ∈ value.numbers, number.isFloat = true → number.Durable := by
  rw [durable_iff_ordered, and_iff_right h.ordered]
  exact forall₂_congr fun number hnumber => (h.inRange number hnumber).durable_iff

/-! ### Sorting -/

theorem mem_of_mem_foldl_insertEntry {fields sorted : List (String × Json)} {field : String × Json}
    (h : field ∈ fields.foldl (fun sorted field => insertEntry field.1 field.2 sorted) sorted) :
    field ∈ sorted ∨ field ∈ fields := by
  induction fields generalizing sorted with
  | nil => exact Or.inl h
  | cons other fields ih =>
      rcases ih h with hsorted | hfields
      · rcases mem_insertEntry hsorted with heq | hsorted
        · exact Or.inr (heq ▸ List.mem_cons_self)
        · exact Or.inl hsorted
      · exact Or.inr (List.mem_cons_of_mem _ hfields)

mutual

/-- Sorting leaves a value whose fields are in order as it is. -/
theorem sorted_of_ordered (value : Json) (h : value.Ordered) : value.sorted = value := by
  match value with
  | .null | .bool _ | .number _ | .str _ => rfl
  | .arr items => rw [sorted, sortedItems_of_ordered items h]
  | .obj fields =>
      rw [sorted, sortedFields_of_ordered fields h.2, sortFields_of_ascending h.1]

theorem sortedItems_of_ordered (items : List Json) (h : OrderedItems items) :
    sortedItems items = items := by
  match items with
  | [] => rfl
  | item :: items =>
      rw [sortedItems, sorted_of_ordered item h.1, sortedItems_of_ordered items h.2]

theorem sortedFields_of_ordered (fields : List (String × Json)) (h : OrderedFields fields) :
    sortedFields fields = fields := by
  match fields with
  | [] => rfl
  | (name, value) :: fields =>
      rw [sortedFields, sorted_of_ordered value h.1, sortedFields_of_ordered fields h.2]

end

/-- An entry with a new key is only put somewhere. -/
theorem insertEntry_perm {key : String} {value : Json} {entries : List (String × Json)}
    (h : key ∉ entries.map (·.1)) :
    (insertEntry key value entries).Perm ((key, value) :: entries) := by
  induction entries with
  | nil => exact List.Perm.refl _
  | cons entry entries ih =>
      obtain ⟨k, v⟩ := entry
      rw [List.map_cons, List.mem_cons, not_or] at h
      unfold insertEntry
      rw [if_neg h.1]
      split
      · exact List.Perm.refl _
      · exact ((ih h.2).cons _).trans (List.Perm.swap _ _ _)

theorem foldl_insertEntry_perm {fields sorted : List (String × Json)}
    (h : ((fields ++ sorted).map (·.1)).Nodup) :
    (fields.foldl (fun sorted field => insertEntry field.1 field.2 sorted) sorted).Perm
      (fields ++ sorted) := by
  induction fields generalizing sorted with
  | nil => exact List.Perm.refl _
  | cons field fields ih =>
      have hfield : field.1 ∉ (fields ++ sorted).map (·.1) := (List.nodup_cons.1 h).1
      rw [List.map_append, List.mem_append, not_or] at hfield
      have hput : (fields ++ insertEntry field.1 field.2 sorted).Perm
          (field :: (fields ++ sorted)) :=
        ((insertEntry_perm hfield.2).append_left fields).trans List.perm_middle
      refine (ih ?_).trans hput
      rw [(hput.map _).nodup_iff]
      exact h

/-- Sorting only moves fields of different names. -/
theorem sortFields_perm {fields : List (String × Json)} (h : (fields.map (·.1)).Nodup) :
    (sortFields fields).Perm fields := by
  have hperm := @foldl_insertEntry_perm fields []
  rw [List.append_nil] at hperm
  exact hperm h

theorem mem_of_mem_sortFields {fields : List (String × Json)} {field : String × Json}
    (h : field ∈ sortFields fields) : field ∈ fields :=
  (mem_of_mem_foldl_insertEntry h).resolve_left List.not_mem_nil

theorem regular_sortFields {fields : List (String × Json)}
    (h : ∀ field ∈ fields, field.2.Regular) : (Json.obj (sortFields fields)).Regular :=
  regular_obj_iff.2 ⟨ascending_sortFields fields,
    fun field hfield => h field (mem_of_mem_sortFields hfield)⟩

mutual

/-- A value with its fields sorted is as if it had been read, if its integers are in range. -/
theorem regular_sorted (value : Json) (h : value.InRange) : value.sorted.Regular := by
  match value with
  | .null => exact ⟨trivial, h⟩
  | .bool b => exact ⟨trivial, h⟩
  | .number n => exact ⟨trivial, h⟩
  | .str s => exact ⟨trivial, h⟩
  | .arr items =>
      rw [sorted, regular_arr_iff]
      exact regular_sortedItems items (inRange_arr_iff.1 h)
  | .obj fields =>
      rw [sorted]
      exact regular_sortFields (regular_sortedFields fields (inRange_obj_iff.1 h))

theorem regular_sortedItems (items : List Json) (h : ∀ item ∈ items, item.InRange) :
    ∀ item ∈ sortedItems items, item.Regular := by
  match items with
  | [] => rintro item ⟨⟩
  | item :: items =>
      rw [List.forall_mem_cons] at h
      rw [sortedItems, List.forall_mem_cons]
      exact ⟨regular_sorted item h.1, regular_sortedItems items h.2⟩

theorem regular_sortedFields (fields : List (String × Json))
    (h : ∀ field ∈ fields, field.2.InRange) : ∀ field ∈ sortedFields fields, field.2.Regular := by
  match fields with
  | [] => rintro field ⟨⟩
  | (name, value) :: fields =>
      rw [List.forall_mem_cons] at h
      rw [sortedFields, List.forall_mem_cons]
      exact ⟨regular_sorted value h.1, regular_sortedFields fields h.2⟩

end

end Json

/-! ### Texts -/

namespace Raw

mutual

/-- Every integer of the text that can be read is in range. -/
def InRange : Raw → Prop
  | .number n => ∀ number, n = some number → number.InRange
  | .arr items => InRangeItems items
  | .obj fields => InRangeFields fields
  | _ => True

def InRangeItems : List Raw → Prop
  | [] => True
  | item :: rest => InRange item ∧ InRangeItems rest

def InRangeFields : List (Option String × Raw) → Prop
  | [] => True
  | (_, value) :: rest => InRange value ∧ InRangeFields rest

end

theorem inRangeItems_iff {items : List Raw} :
    InRangeItems items ↔ ∀ item ∈ items, item.InRange := by
  induction items with
  | nil => simp [InRangeItems]
  | cons item items ih => simp [InRangeItems, ih]

theorem inRangeFields_iff {fields : List (Option String × Raw)} :
    InRangeFields fields ↔ ∀ field ∈ fields, field.2.InRange := by
  induction fields with
  | nil => simp [InRangeFields]
  | cons field fields ih =>
      obtain ⟨name, value⟩ := field
      simp [InRangeFields, ih]

mutual

/-- What is taken as a value is regular. -/
theorem regular_of_value? (raw : Raw) {allowance : Nat} {value : Json} (hraw : raw.InRange)
    (h : raw.value? allowance = some value) : value.Regular := by
  match raw with
  | .null =>
      cases h
      exact .of_plain trivial rfl
  | .bool b =>
      cases h
      exact .of_plain trivial rfl
  | .number n =>
      obtain ⟨number, hnumber, rfl⟩ := Option.map_eq_some_iff.1 h
      exact Json.regular_number_iff.2 (hraw number hnumber)
  | .str s =>
      obtain ⟨text, -, rfl⟩ := Option.map_eq_some_iff.1 h
      exact .of_plain trivial rfl
  | .arr items =>
      cases allowance with
      | zero => cases h
      | succ allowance =>
          obtain ⟨values, hvalues, rfl⟩ := Option.map_eq_some_iff.1 h
          exact Json.regular_arr_iff.2 (regular_of_itemValues? items hraw hvalues)
  | .obj fields =>
      cases allowance with
      | zero => cases h
      | succ allowance =>
          obtain ⟨values, hvalues, rfl⟩ := Option.map_eq_some_iff.1 h
          exact Json.regular_sortFields (regular_of_fieldValues? fields hraw hvalues)

theorem regular_of_itemValues? (items : List Raw) {allowance : Nat} {values : List Json}
    (hitems : InRangeItems items) (h : itemValues? allowance items = some values) :
    ∀ value ∈ values, value.Regular := by
  match items with
  | [] =>
      cases h
      rintro value ⟨⟩
  | item :: items =>
      simp only [itemValues?, Option.bind_eq_bind, Option.bind_eq_some_iff] at h
      obtain ⟨first, hfirst, others, hothers, heq⟩ := h
      cases heq
      rw [List.forall_mem_cons]
      exact ⟨regular_of_value? item hitems.1 hfirst, regular_of_itemValues? items hitems.2 hothers⟩

theorem regular_of_fieldValues? (fields : List (Option String × Raw)) {allowance : Nat}
    {values : List (String × Json)} (hfields : InRangeFields fields)
    (h : fieldValues? allowance fields = some values) : ∀ field ∈ values, field.2.Regular := by
  match fields with
  | [] =>
      cases h
      rintro field ⟨⟩
  | (name, raw) :: fields =>
      simp only [fieldValues?, Option.bind_eq_bind, Option.bind_eq_some_iff] at h
      obtain ⟨text, -, first, hfirst, others, hothers, heq⟩ := h
      cases heq
      rw [List.forall_mem_cons]
      exact ⟨regular_of_value? raw hfields.1 hfirst, regular_of_fieldValues? fields hfields.2 hothers⟩

end

mutual

/-- A value as it stands in its own text has the integers that it had. -/
theorem inRange_raw (value : Json) (h : value.InRange) : value.raw.InRange := by
  match value with
  | .null => trivial
  | .bool b => trivial
  | .number n =>
      rintro found ⟨⟩
      exact h n List.mem_cons_self
  | .str s => trivial
  | .arr items => exact inRange_rawItems items (Json.inRange_arr_iff.1 h)
  | .obj fields => exact inRange_rawFields fields (Json.inRange_obj_iff.1 h)

theorem inRange_rawItems (items : List Json) (h : ∀ item ∈ items, item.InRange) :
    InRangeItems (Json.rawItems items) := by
  match items with
  | [] => trivial
  | item :: items =>
      rw [List.forall_mem_cons] at h
      exact ⟨inRange_raw item h.1, inRange_rawItems items h.2⟩

theorem inRange_rawFields (fields : List (String × Json))
    (h : ∀ field ∈ fields, field.2.InRange) : InRangeFields (Json.rawFields fields) := by
  match fields with
  | [] => trivial
  | (name, value) :: fields =>
      rw [List.forall_mem_cons] at h
      exact ⟨inRange_raw value h.1, inRange_rawFields fields h.2⟩

end

end Raw

/-! ### The reader -/

namespace Numeral

theorem takeWhole_le {significand : Nat} (h : significand ≤ significandLimit) (dropped : Nat)
    (digits : List Nat) : (takeWhole significand dropped digits).1 ≤ significandLimit := by
  induction digits generalizing significand dropped with
  | nil => exact h
  | cons d digits ih =>
      rw [takeWhole]
      split
      · next hfits => exact ih hfits.2 0
      · exact ih h (dropped + 1)

theorem inRange_of_value? {numeral : Numeral} {number : Number}
    (h : numeral.value? = some number) : number.InRange := by
  -- a significand never passes the limit, whatever digits follow
  have hle := takeWhole_le (Nat.zero_le _) 0 numeral.whole
  have hlimit : significandLimit = 2 ^ 64 - 1 := rfl
  unfold value? at h
  dsimp only at h
  split at h
  · obtain ⟨x, -, rfl⟩ := Option.map_eq_some_iff.1 h
    trivial
  · split at h
    · split at h
      · split at h
        · next hreach =>
            cases h
            have hpow : Nat.pow 2 63 = 2 ^ 63 := rfl
            unfold Number.InRange
            omega
        · obtain ⟨x, -, rfl⟩ := Option.map_eq_some_iff.1 h
          trivial
      · cases h
        exact Number.inRange_nat (by omega)
    · obtain ⟨x, -, rfl⟩ := Option.map_eq_some_iff.1 h
      trivial

end Numeral

namespace Raw

theorem inRange_of_takeNumber {text rest : List Char} {raw : Raw}
    (h : takeNumber text = some (raw, rest)) : raw.InRange := by
  unfold takeNumber at h
  dsimp only at h
  split at h <;>
  · obtain ⟨⟨numeral, left⟩, -, heq⟩ := Option.bind_eq_some_iff.1 h
    cases heq
    exact fun found hfound => Numeral.inRange_of_value? hfound

mutual

theorem inRange_of_takeValue (fuel : Nat) {text rest : List Char} {raw : Raw}
    (h : takeValue fuel text = some (raw, rest)) : raw.InRange := by
  match fuel with
  | 0 => cases h
  | fuel + 1 =>
      rw [takeValue] at h
      split at h
      · cases h
        trivial
      · cases h
        trivial
      · cases h
        trivial
      · obtain ⟨⟨value, left⟩, -, heq⟩ := Option.bind_eq_some_iff.1 h
        cases heq
        trivial
      · split at h
        · cases h
          trivial
        · obtain ⟨⟨items, left⟩, hitems, heq⟩ := Option.bind_eq_some_iff.1 h
          cases heq
          exact inRange_of_takeItems fuel hitems
      · split at h
        · cases h
          trivial
        · obtain ⟨⟨fields, left⟩, hfields, heq⟩ := Option.bind_eq_some_iff.1 h
          cases heq
          exact inRange_of_takeFields fuel hfields
      · exact inRange_of_takeNumber h

theorem inRange_of_takeItems (fuel : Nat) {text rest : List Char} {items : List Raw}
    (h : takeItems fuel text = some (items, rest)) : InRangeItems items := by
  match fuel with
  | 0 => cases h
  | fuel + 1 =>
      rw [takeItems] at h
      obtain ⟨⟨item, left⟩, hitem, hnext⟩ := Option.bind_eq_some_iff.1 h
      have hfirst := inRange_of_takeValue fuel hitem
      dsimp only at hnext
      split at hnext
      · obtain ⟨⟨others, left⟩, hothers, heq⟩ := Option.bind_eq_some_iff.1 hnext
        cases heq
        exact ⟨hfirst, inRange_of_takeItems fuel hothers⟩
      · cases hnext
        exact ⟨hfirst, trivial⟩
      · cases hnext

theorem inRange_of_takeFields (fuel : Nat) {text rest : List Char}
    {fields : List (Option String × Raw)} (h : takeFields fuel text = some (fields, rest)) :
    InRangeFields fields := by
  match fuel with
  | 0 => cases h
  | fuel + 1 =>
      rw [takeFields] at h
      split at h
      · obtain ⟨⟨name, left⟩, -, hcolon⟩ := Option.bind_eq_some_iff.1 h
        dsimp only at hcolon
        split at hcolon
        · obtain ⟨⟨value, left⟩, hvalue, hnext⟩ := Option.bind_eq_some_iff.1 hcolon
          have hfirst := inRange_of_takeValue fuel hvalue
          dsimp only at hnext
          split at hnext
          · obtain ⟨⟨others, left⟩, hothers, heq⟩ := Option.bind_eq_some_iff.1 hnext
            cases heq
            exact ⟨hfirst, inRange_of_takeFields fuel hothers⟩
          · cases hnext
            exact ⟨hfirst, trivial⟩
          · cases hnext
        · cases hcolon
      · cases h

end

/-- Whatever a text holds, the integers in it that can be read are in range. -/
theorem inRange_of_read {text : String} {raw : Raw} (h : read text = some raw) : raw.InRange := by
  unfold read at h
  dsimp only at h
  split at h
  · next htake =>
      split at h
      · cases h
        exact inRange_of_takeValue _ htake
      · cases h
  · cases h

end Raw

/-- A value that was read from a text is regular. -/
theorem Json.regular_of_read {text : String} {value : Json} (h : read text = some value) :
    value.Regular := by
  obtain ⟨raw, hraw, hvalue⟩ := Option.bind_eq_some_iff.1 h
  exact Raw.regular_of_value? raw (Raw.inRange_of_read hraw) hvalue

end Concord
