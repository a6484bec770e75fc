import Mathlib
import Concord.Proofs.Json.Records
import Concord.Proofs.Json.Regular
import Concord.Proofs.Readback

/-!
# Decoders that restore what was written

A decoder restores the values with some property if it reads every one of them as it was from its own
document, wherever the document fits. The law of each decoder follows from those of its parts, so a
record is restored because its fields are.
-/

namespace Concord

/-! ### Documents that fit -/

namespace Json

/-- The document is no deeper than its place allows, and its numbers are read as they are. -/
structure Fits (allowance : Nat) (document : Json) : Prop where
  depth : document.depth ≤ allowance
  numbers : ∀ number ∈ document.numbers, number.Durable

theorem itemsDepth_le_iff {items : List Json} {limit : Nat} :
    itemsDepth items ≤ limit ↔ ∀ item ∈ items, item.depth ≤ limit := by
  induction items with
  | nil => simp [itemsDepth]
  | cons item items ih => rw [itemsDepth, max_le_iff, ih, List.forall_mem_cons]

theorem fieldsDepth_le_iff {fields : List (String × Json)} {limit : Nat} :
    fieldsDepth fields ≤ limit ↔ ∀ field ∈ fields, field.2.depth ≤ limit := by
  induction fields with
  | nil => simp [fieldsDepth]
  | cons field fields ih =>
      obtain ⟨name, value⟩ := field
      rw [fieldsDepth, max_le_iff, ih, List.forall_mem_cons]

theorem Fits.exists_items {items : List Json} {allowance : Nat}
    (h : (Json.arr items).Fits allowance) :
    ∃ inner, allowance = inner + 1 ∧ ∀ item ∈ items, item.Fits inner := by
  obtain ⟨hdepth, hnumbers⟩ := h
  rw [Json.depth] at hdepth
  obtain ⟨inner, rfl⟩ := Nat.exists_eq_add_of_le' (Nat.le_of_add_left_le hdepth)
  refine ⟨inner, rfl, fun item hitem => ⟨?_, fun number hnumber => hnumbers number ?_⟩⟩
  · exact itemsDepth_le_iff.1 (Nat.le_of_succ_le_succ hdepth) item hitem
  · exact mem_itemsNumbers.2 ⟨item, hitem, hnumber⟩

theorem Fits.exists_fields {fields : List (String × Json)} {allowance : Nat}
    (h : (Json.obj fields).Fits allowance) :
    ∃ inner, allowance = inner + 1 ∧ ∀ field ∈ fields, field.2.Fits inner := by
  obtain ⟨hdepth, hnumbers⟩ := h
  rw [Json.depth] at hdepth
  obtain ⟨inner, rfl⟩ := Nat.exists_eq_add_of_le' (Nat.le_of_add_left_le hdepth)
  refine ⟨inner, rfl, fun field hfield => ⟨?_, fun number hnumber => hnumbers number ?_⟩⟩
  · exact fieldsDepth_le_iff.1 (Nat.le_of_succ_le_succ hdepth) field hfield
  · exact mem_fieldsNumbers.2 ⟨field, hfield, hnumber⟩

mutual

/-- A document that fits is read as the same value with its fields in order. -/
theorem Fits.value?_eq_sorted (document : Json) {allowance : Nat} (h : document.Fits allowance) :
    document.written.value? allowance = some document.sorted := by
  match document with
  | .null | .bool _ | .str _ => rfl
  | .number n =>
      have hread : n.reread? = some n := h.numbers n List.mem_cons_self
      rw [written, hread]
      rfl
  | .arr items =>
      obtain ⟨inner, rfl, hitems⟩ := h.exists_items
      rw [written, Raw.value?, Fits.itemValues?_eq_sorted items hitems]
      rfl
  | .obj fields =>
      obtain ⟨inner, rfl, hfields⟩ := h.exists_fields
      rw [written, Raw.value?, Fits.fieldValues?_eq_sorted fields hfields]
      rfl

theorem Fits.itemValues?_eq_sorted (items : List Json) {allowance : Nat}
    (h : ∀ item ∈ items, item.Fits allowance) :
    Raw.itemValues? allowance (writtenItems items) = some (sortedItems items) := by
  match items with
  | [] => rfl
  | item :: items =>
      rw [List.forall_mem_cons] at h
      rw [writtenItems, Raw.itemValues?, Fits.value?_eq_sorted item h.1,
        Fits.itemValues?_eq_sorted items h.2]
      rfl

theorem Fits.fieldValues?_eq_sorted (fields : List (String × Json)) {allowance : Nat}
    (h : ∀ field ∈ fields, field.2.Fits allowance) :
    Raw.fieldValues? allowance (writtenFields fields) = some (sortedFields fields) := by
  match fields with
  | [] => rfl
  | (name, value) :: fields =>
      rw [List.forall_mem_cons] at h
      rw [writtenFields, Raw.fieldValues?, Fits.value?_eq_sorted value h.1,
        Fits.fieldValues?_eq_sorted fields h.2]
      rfl

end

/-- A document that fits can be taken as a value, be it the same or not. -/
theorem Fits.isSome_value? {document : Json} {allowance : Nat} (h : document.Fits allowance) :
    (document.written.value? allowance).isSome :=
  Option.isSome_of_eq_some (Fits.value?_eq_sorted document h)

/-- Of a value that fits only the fields have to be in order. -/
theorem Fits.value?_eq_some {value : Json} {allowance : Nat} (h : value.Fits allowance)
    (hordered : value.Ordered) : value.written.value? allowance = some value := by
  rw [Fits.value?_eq_sorted value h, sorted_of_ordered value hordered]

/-- A document with no numbers but integers in range, no deeper than a text may be. -/
structure Plain (document : Json) : Prop where
  depth : document.depth ≤ Raw.depthLimit
  integers : ∀ number ∈ document.numbers, number.isFloat = false
  inRange : document.InRange

instance (document : Json) : Decidable document.Plain :=
  decidable_of_iff (document.depth ≤ Raw.depthLimit ∧
      (∀ number ∈ document.numbers, number.isFloat = false) ∧ document.InRange)
    ⟨fun h => ⟨h.1, h.2.1, h.2.2⟩, fun h => ⟨h.depth, h.integers, h.inRange⟩⟩

theorem Plain.fits {document : Json} (h : document.Plain) : document.Fits Raw.depthLimit := by
  refine ⟨h.depth, fun number hnumber => ?_⟩
  rw [(h.inRange number hnumber).durable_iff, h.integers number hnumber]
  rintro ⟨⟩

/-- What is read from the text of a plain document is the document with its fields in order. -/
theorem Plain.read_text {document : Json} (h : document.Plain) :
    Json.read document.text = some document.sorted := by
  rw [Json.read, Raw.read_text]
  exact Fits.value?_eq_sorted document h.fits

/-- A value as the program holds it, without floats and no deeper than the limit. -/
structure Portable (limit : Nat) (value : Json) : Prop where
  regular : value.Regular
  integers : ∀ number ∈ value.numbers, number.isFloat = false
  depth : value.depth ≤ limit

theorem Portable.plain {value : Json} (h : value.Portable Raw.depthLimit) : value.Plain :=
  ⟨h.depth, h.integers, h.regular.inRange⟩

/-- **What is read from the text of a portable value** is the value. -/
theorem Portable.read_text {value : Json} (h : value.Portable Raw.depthLimit) :
    Json.read value.text = some value := by
  rw [h.plain.read_text, sorted_of_ordered value h.regular.ordered]

theorem portable_str (limit : Nat) (text : String) : (Json.str text).Portable limit :=
  ⟨.of_plain trivial rfl, fun _ hnone => absurd hnone List.not_mem_nil, Nat.zero_le limit⟩

theorem portable_nat (limit : Nat) {n : Nat} (h : n < 2 ^ 64) : (Json.nat n).Portable limit :=
  ⟨regular_number_iff.2 (Number.inRange_nat h), List.forall_mem_singleton.2 rfl, Nat.zero_le limit⟩

theorem portable_arr {limit : Nat} {items : List Json} (h : ∀ item ∈ items, item.Portable limit) :
    (Json.arr items).Portable (limit + 1) where
  regular := regular_arr_iff.2 fun item hitem => (h item hitem).regular
  integers := by
    intro number hnumber
    obtain ⟨item, hitem, hmem⟩ := mem_itemsNumbers.1 hnumber
    exact (h item hitem).integers number hmem
  depth := Nat.succ_le_succ (itemsDepth_le_iff.2 fun item hitem => (h item hitem).depth)

end Json

/-! ### Laws of the parts -/

namespace Decoder

variable {α : Type}

/-- A value with the property is read as it was written, wherever its document fits. -/
def Restores (decode : Decoder α) (encode : α → Json) (property : α → Prop) : Prop :=
  ∀ value, property value → ∀ allowance, (encode value).Fits allowance →
    decode allowance (encode value).written = .ok value

theorem text_restores : text.Restores .str fun _ => True :=
  fun _ _ _ _ => text_written_eq_ok_iff.2 rfl

theorem written_int_of_fits {n : Int} {allowance : Nat} (h : (Json.int n).Fits allowance) :
    (Json.int n).written = .number (some (.int n)) ∧ -2 ^ 63 ≤ n ∧ n < 2 ^ 64 := by
  have hread : Number.Durable (.int n) := h.numbers _ List.mem_cons_self
  exact ⟨congrArg Raw.number hread, (Number.durable_int_iff n).1 hread⟩

theorem integer_restores {low high : Int} {name : String} :
    (integer low high name).Restores .int fun n => low ≤ n ∧ n ≤ high :=
  fun _ hn _ hfits => integer_eq_ok_iff.2 ⟨(written_int_of_fits hfits).1, hn⟩

theorem signed64_restores : signed64.Restores .int fun n => -2 ^ 63 ≤ n ∧ n < 2 ^ 63 := by
  intro n hn
  have hpow : Nat.pow 2 63 = 2 ^ 63 := rfl
  exact integer_restores n (by omega)

theorem word64_restores : word64.Restores .nat fun _ => True := by
  intro n _ allowance hfits
  obtain ⟨-, -, hlt⟩ := written_int_of_fits hfits
  exact word64_written_eq_ok_iff.2 ⟨rfl, by omega⟩

theorem byte_restores : byte.Restores (fun b => .nat b.toNat) fun _ => True := by
  intro b _ allowance hfits
  have hlt := b.toNat_lt
  have hread : integer 0 255 "u8" allowance (Json.nat b.toNat).written = .ok (b.toNat : Int) :=
    integer_restores _ (by omega) allowance hfits
  rw [byte, hread]
  exact congrArg Except.ok (UInt8.ofNat_toNat)

theorem json_restores : json.Restores id Json.Ordered :=
  fun _ hordered _ hfits => json_eq_ok_iff.2 (hfits.value?_eq_some hordered)

variable {decode : Decoder α} {encode : α → Json} {property : α → Prop}

/-! ### Optional values, lists and tables -/

theorem written_str_ne_null (s : String) : (Json.str s).written ≠ .null := by
  rintro ⟨⟩

theorem written_nat_ne_null (n : Nat) : (Json.nat n).written ≠ .null := by
  rintro ⟨⟩

theorem written_list_ne_null (items : List α) : (Json.list encode items).written ≠ .null := by
  rintro ⟨⟩

theorem Restores.option (h : decode.Restores encode property)
    (hencode : ∀ a, (encode a).written ≠ .null) :
    (Decoder.option decode).Restores (Json.option encode) fun value =>
      ∀ a, value = some a → property a := by
  intro value hvalue allowance hfits
  rw [option_written_eq_ok_self_iff hencode]
  rintro a rfl
  exact h a (hvalue a rfl) allowance hfits

theorem Restores.list (h : decode.Restores encode property) :
    (Decoder.list decode).Restores (Json.list encode) fun items =>
      ∀ item ∈ items, property item := by
  intro items hitems allowance hfits
  obtain ⟨inner, rfl, hinner⟩ := hfits.exists_items
  rw [List.forall_mem_map] at hinner
  rw [list_written_eq_ok_self_iff]
  exact fun item hitem => h item (hitems item hitem) inner (hinner item hitem)

theorem Restores.table (h : decode.Restores encode property) :
    (Decoder.table decode).Restores (Json.table encode) fun table =>
      ∀ entry ∈ table.entries, property entry.2 := by
  intro table htable allowance hfits
  obtain ⟨inner, rfl, hinner⟩ := hfits.exists_fields
  rw [List.forall_mem_map] at hinner
  have hentries : entries some decode (inner + 1) (Json.table encode table).written =
      .ok table.entries := by
    rw [Json.table, entries_written_eq_ok_iff, List.forall₂_map_left_iff, List.forall₂_same]
    exact fun entry hentry => ⟨rfl, h entry.2 (htable entry hentry) inner (hinner entry hentry)⟩
  have htable : Table.ofList table.entries = table := by
    apply Table.ext
    rw [Table.entries_ofList, Json.foldl_insertEntry_of_ascending [] _ table.ascending,
      List.nil_append]
  rw [Decoder.table, hentries]
  exact congrArg Except.ok htable

/-! ### Records -/

/-- A record is restored where its fields are. -/
theorem record_restores {title : String} {names : List String} {build : Opened → Reading α}
    {fields : List (String × Json)} {value : α} {allowance : Nat}
    (hnames : (fields.map (·.1)).Nodup) (hfits : (Json.obj fields).Fits allowance)
    (hbuild : ∀ inner, (∀ field ∈ fields, field.2.Fits inner) →
      (build (.written title names inner fields)).Gives value) :
    record title names build allowance (Json.obj fields).written = .ok value := by
  obtain ⟨inner, rfl, hinner⟩ := hfits.exists_fields
  exact (record_written_eq_ok_iff hnames).2 (hbuild inner hinner)

/-- A tagged value is restored where its variant is. -/
theorem tagged_restores {tag name : String} {variant : String → Option (Decoder α)}
    {decode : Decoder α} {fields : List (String × Json)} {value : α} {allowance : Nat}
    (htag : tag ∉ fields.map (·.1)) (hvariant : variant name = some decode)
    (hfits : (Json.obj ((tag, .str name) :: fields)).Fits allowance)
    (hread : (Json.obj fields).Fits allowance →
      decode allowance (Json.obj fields).written = .ok value) :
    tagged tag variant allowance (Json.obj ((tag, .str name) :: fields)).written = .ok value := by
  have hcontent : (Json.obj fields).Fits allowance := by
    refine ⟨?_, fun number hnumber => hfits.numbers number hnumber⟩
    exact (Nat.succ_le_succ (le_max_right _ _)).trans hfits.depth
  obtain ⟨inner, rfl, hinner⟩ := hfits.exists_fields
  rw [tagged_written_eq_ok_iff htag hvariant]
  exact ⟨fun field hfield => ((List.forall_mem_cons.1 hinner).2 field hfield).isSome_value?,
    hread hcontent⟩

/-! ### Texts -/

/-- What is restored is read from its own text, if its document is plain. -/
theorem Restores.read? (h : decode.Restores encode property) {value : α}
    (hvalue : property value) (hplain : (encode value).Plain) :
    decode.read? (encode value).text = some value :=
  read?_text_eq_some_iff.2 (h value hvalue Raw.depthLimit hplain.fits)

end Decoder

end Concord
