import Mathlib
import Concord.Json.Decode
import Concord.Proofs.Json.Durable

/-!
# Records that were written as objects

What a decoder makes of a record depends, field by field, on what the decoders of the fields make of
the values under their names. So a record comes back exactly if every field does.
-/

namespace Concord

/-! ### Chains of readings -/

theorem mapM_eq_ok_iff {ε α β : Type} {f : α → Except ε β} {items : List α} {found : List β} :
    items.mapM f = .ok found ↔ List.Forall₂ (fun item value => f item = .ok value) items found := by
  induction items generalizing found with
  | nil =>
      rw [List.mapM_nil, List.forall₂_nil_left_iff]
      exact ⟨fun h => (Except.ok.inj h).symm, fun h => h ▸ rfl⟩
  | cons item items ih =>
      rw [List.mapM_cons, List.forall₂_cons_left_iff]
      constructor
      · intro h
        cases hitem : f item with
        | error fault => rw [hitem] at h; cases h
        | ok value =>
            cases hrest : items.mapM f with
            | error fault => rw [hitem, hrest] at h; cases h
            | ok values =>
                rw [hitem, hrest] at h
                cases h
                exact ⟨value, values, rfl, ih.1 hrest, rfl⟩
      · rintro ⟨value, values, hitem, hrest, rfl⟩
        rw [hitem, ih.2 hrest]
        rfl

theorem mapM_congr {α β : Type} {f g : α → Option β} {items : List α}
    (h : ∀ item ∈ items, f item = g item) : items.mapM f = items.mapM g := by
  induction items with
  | nil => rfl
  | cons item items ih =>
      obtain ⟨hfirst, hrest⟩ := List.forall_mem_cons.1 h
      rw [List.mapM_cons, List.mapM_cons, hfirst, ih hrest]

theorem mapM_eq_some_iff {α β : Type} {f : α → Option β} {items : List α} {found : List β} :
    items.mapM f = some found ↔ List.Forall₂ (fun item value => f item = some value) items found := by
  induction items generalizing found with
  | nil =>
      rw [List.mapM_nil, List.forall₂_nil_left_iff]
      exact ⟨fun h => (Option.some.inj h).symm, fun h => h ▸ rfl⟩
  | cons item items ih =>
      rw [List.mapM_cons, List.forall₂_cons_left_iff]
      simp only [Option.bind_eq_bind, Option.bind_eq_some_iff, Option.pure_def, Option.some.injEq,
        ih]
      constructor
      · rintro ⟨value, hitem, values, hrest, rfl⟩
        exact ⟨value, values, hitem, hrest, rfl⟩
      · rintro ⟨value, values, hitem, hrest, rfl⟩
        exact ⟨value, hitem, values, hrest, rfl⟩

theorem exists_mapM_eq_ok {ε α β : Type} {f : α → Except ε β} {items : List α}
    (h : ∀ item ∈ items, ∃ value, f item = .ok value) : ∃ found, items.mapM f = .ok found := by
  induction items with
  | nil => exact ⟨[], rfl⟩
  | cons item items ih =>
      rw [List.forall_mem_cons] at h
      obtain ⟨⟨value, hvalue⟩, hrest⟩ := h
      obtain ⟨values, hvalues⟩ := ih hrest
      exact ⟨value :: values, mapM_eq_ok_iff.2 (.cons hvalue (mapM_eq_ok_iff.1 hvalues))⟩

/-- What comes of items is what comes of one of them. -/
theorem mem_mapM_iff {ε α β : Type} {f : α → Except ε β} {items : List α} {found : List β}
    (h : items.mapM f = .ok found) {value : β} :
    value ∈ found ↔ ∃ item ∈ items, f item = .ok value := by
  rw [mapM_eq_ok_iff] at h
  induction h with
  | nil => simp
  | @cons item first items found hfirst _ ih =>
      rw [List.mem_cons, ih, List.exists_mem_cons_iff, hfirst, Except.ok.injEq, eq_comm]

/-- What goes wrong in a list goes wrong at one of its items. -/
theorem exists_error_of_mapM {ε α β : Type} {f : α → Except ε β} {items : List α} {error : ε}
    (h : items.mapM f = .error error) : ∃ item ∈ items, f item = .error error := by
  induction items with
  | nil => cases h
  | cons item items ih =>
      rw [List.mapM_cons] at h
      cases hitem : f item with
      | error first =>
          rw [hitem] at h
          obtain rfl := Except.error.inj h
          exact ⟨item, List.mem_cons_self, hitem⟩
      | ok value =>
          rw [hitem] at h
          cases hrest : items.mapM f with
          | ok values =>
              rw [hrest] at h
              cases h
          | error later =>
              rw [hrest] at h
              obtain rfl := Except.error.inj h
              obtain ⟨other, hmem, hother⟩ := ih hrest
              exact ⟨other, List.mem_cons_of_mem item hmem, hother⟩

theorem exists_of_mem_mapM {ε α β : Type} {f : α → Except ε β} {items : List α} {found : List β}
    (h : items.mapM f = .ok found) {item : α} (hitem : item ∈ items) :
    ∃ value ∈ found, f item = .ok value := by
  rw [mapM_eq_ok_iff] at h
  induction h with
  | nil => cases hitem
  | @cons other first items found hfirst _ ih =>
      rcases List.mem_cons.1 hitem with rfl | hitem
      · exact ⟨first, List.mem_cons_self, hfirst⟩
      · obtain ⟨value, hvalue, hf⟩ := ih hitem
        exact ⟨value, List.mem_cons_of_mem _ hvalue, hf⟩

namespace Reading

variable {α β : Type}

/-- The reading went well and gave this value. -/
def Gives (reading : Reading α) (value : α) : Prop :=
  reading = Except.ok value

@[simp]
theorem gives_seq {f : Reading (α → β)} {x : Reading α} {value : β} :
    (f <*> x).Gives value ↔ ∃ g a, f.Gives g ∧ x.Gives a ∧ g a = value := by
  change (Reading.seq f fun _ => x).Gives value ↔ _
  constructor
  · intro h
    rcases f with fault | g
    · rcases x with fault | a <;> cases h
    · rcases x with fault | a
      · cases h
      · exact ⟨g, a, rfl, rfl, Except.ok.inj h⟩
  · rintro ⟨g, a, rfl, rfl, rfl⟩
    rfl

@[simp]
theorem gives_map {f : α → β} {x : Reading α} {value : β} :
    (f <$> x).Gives value ↔ ∃ a, x.Gives a ∧ f a = value := by
  change ((Pure.pure f : Reading (α → β)) <*> x).Gives value ↔ _
  rw [gives_seq]
  constructor
  · rintro ⟨g, a, hg, hx, rfl⟩
    cases hg
    exact ⟨a, hx, rfl⟩
  · rintro ⟨a, hx, rfl⟩
    exact ⟨f, a, rfl, hx, rfl⟩

theorem done_eq_ok_iff {x : Reading α} {value : α} : x.done = .ok value ↔ x.Gives value := by
  rcases x with fault | a
  · exact iff_of_false (by rintro ⟨⟩) (by rintro ⟨⟩)
  · exact ⟨fun h => congrArg Except.ok (Except.ok.inj h),
      fun h => congrArg Except.ok (Except.ok.inj h)⟩

end Reading

/-! ### Fields of a written record -/

namespace Opened

/-- The fields of an object as they stand in its text. -/
def written (title : String) (names : List String) (allowance : Nat)
    (fields : List (String × Json)) : Opened :=
  ⟨title, names, allowance, .named (fields.map fun field => (field.1, field.2.written))⟩

section Written

variable {α : Type} {title : String} {names : List String} {allowance : Nat}
  {fields : List (String × Json)} {name : String}

theorem lookup_written (fields : List (String × Json)) (name : String) :
    (fields.map fun field => (field.1, field.2.written)).lookup name =
      (fields.lookup name).map Json.written := by
  induction fields with
  | nil => rfl
  | cons field fields ih =>
      rw [List.map_cons, List.lookup_cons, List.lookup_cons, ih]
      cases name == field.1 <;> rfl

theorem find?_written {value : Json} (h : fields.lookup name = some value) :
    ∃ place, (written title names allowance fields).find? name = some (place, value.written) := by
  have hlookup := lookup_written fields name
  rw [h, Option.map_some] at hlookup
  have hplace : ((fields.map fun field => (field.1, field.2.written)).findIdx? fun entry =>
      entry.1 == name).isSome := by
    rw [List.findIdx?_isSome, List.any_eq_true]
    obtain ⟨entry, hmem, hname⟩ := List.lookup_isSome_iff.1 (Option.isSome_of_eq_some hlookup)
    exact ⟨entry, hmem, by rwa [BEq.comm]⟩
  obtain ⟨place, hplace⟩ := Option.isSome_iff_exists.1 hplace
  exact ⟨place, by simp only [written, find?, hplace, hlookup]; rfl⟩

theorem find?_written_eq_none (h : fields.lookup name = none) :
    (written title names allowance fields).find? name = none := by
  have hlookup := lookup_written fields name
  rw [h, Option.map_none] at hlookup
  simp only [written, find?, hlookup]
  cases List.findIdx? _ _ <;> rfl

theorem gives_read {opened : Opened} {decode : Decoder α} {found : Nat × Raw} {result : α} :
    (opened.read decode found).Gives result ↔ decode opened.allowance found.2 = .ok result := by
  unfold read
  cases decode opened.allowance found.2 with
  | error fault => exact iff_of_false (by rintro ⟨⟩) (by rintro ⟨⟩)
  | ok value => exact ⟨fun h => congrArg _ (Except.ok.inj h), fun h => congrArg _ (Except.ok.inj h)⟩

/-- A field that may be missing is read from what stands under its name, if anything does. -/
@[simp]
theorem gives_withDefault_written {decode : Decoder α} {default result : α} :
    ((written title names allowance fields).withDefault name decode default).Gives result ↔
      match fields.lookup name with
      | some value => decode allowance value.written = .ok result
      | none => default = result := by
  unfold withDefault
  cases h : fields.lookup name with
  | none =>
      rw [find?_written_eq_none h]
      exact ⟨fun h => Except.ok.inj h, fun h => congrArg Except.ok h⟩
  | some value =>
      obtain ⟨place, hfound⟩ : ∃ place, (written title names allowance fields).find? name =
          some (place, value.written) := find?_written h
      rw [hfound]
      exact gives_read

@[simp]
theorem gives_required_written {decode : Decoder α} {result : α} :
    ((written title names allowance fields).required name decode).Gives result ↔
      match fields.lookup name with
      | some value => decode allowance value.written = .ok result
      | none => False := by
  unfold required
  cases h : fields.lookup name with
  | none =>
      rw [find?_written_eq_none h]
      exact iff_of_false (by rintro ⟨⟩) id
  | some value =>
      obtain ⟨place, hfound⟩ : ∃ place, (written title names allowance fields).find? name =
          some (place, value.written) := find?_written h
      rw [hfound]
      exact gives_read

@[simp]
theorem gives_optional_written {decode : Decoder α} {result : Option α} :
    ((written title names allowance fields).optional name decode).Gives result ↔
      match fields.lookup name with
      | some value => decode.option allowance value.written = .ok result
      | none => none = result :=
  gives_withDefault_written

theorem whole_written (hnames : (fields.map (·.1)).Nodup) :
    (written title names allowance fields).whole.Gives () := by
  have hcount : ∀ name, ((fields.map fun field => (field.1, field.2.written)).filter fun entry =>
      entry.1 == name).length ≤ 1 := by
    intro name
    have hkeys : (fields.map fun field => (field.1, field.2.written)).map (·.1) =
        fields.map (·.1) := by
      rw [List.map_map]
      rfl
    have hle := List.nodup_iff_count_le_one.1 (hkeys ▸ hnames) name
    rwa [List.count, List.countP_map, List.countP_eq_length_filter] at hle
  have hnone : (names.find? fun name =>
      decide (1 < ((fields.map fun field => (field.1, field.2.written)).filter fun entry =>
        entry.1 == name).length)) = none := by
    rw [List.find?_eq_none]
    intro name _ hlt
    exact absurd (of_decide_eq_true hlt) (Nat.not_lt.2 (hcount name))
  unfold whole written
  dsimp only
  rw [hnone]
  rfl

end Written

end Opened

theorem Json.writtenItems_eq_map (items : List Json) :
    writtenItems items = items.map written := by
  induction items with
  | nil => rfl
  | cons item items ih => rw [writtenItems, List.map_cons, ih]

theorem Json.writtenFields_eq_map (fields : List (String × Json)) :
    writtenFields fields = fields.map fun field => (some field.1, field.2.written) := by
  induction fields with
  | nil => rfl
  | cons field fields ih => rw [writtenFields, List.map_cons, ih]

theorem namedFields?_writtenFields (fields : List (String × Json)) :
    namedFields? (Json.writtenFields fields) =
      some (fields.map fun field => (field.1, field.2.written)) := by
  induction fields with
  | nil => rfl
  | cons field fields ih =>
      obtain ⟨name, value⟩ := field
      simp [Json.writtenFields, namedFields?, ih]

namespace Decoder

variable {α : Type}

/-- A record is read as its fields make it. -/
theorem record_written_eq_ok_iff {title : String} {names : List String}
    {build : Opened → Reading α} {allowance : Nat} {fields : List (String × Json)} {result : α}
    (hnames : (fields.map (·.1)).Nodup) :
    record title names build (allowance + 1) (Json.obj fields).written = .ok result ↔
      (build (.written title names allowance fields)).Gives result := by
  rw [Json.written, record, namedFields?_writtenFields]
  change Reading.done ((fun value _ => value) <$> build (.written title names allowance fields) <*>
    (Opened.written title names allowance fields).whole) = _ ↔ _
  rw [Reading.done_eq_ok_iff, Reading.gives_seq]
  constructor
  · rintro ⟨g, _, hg, -, rfl⟩
    obtain ⟨value, hbuild, rfl⟩ := Reading.gives_map.1 hg
    exact hbuild
  · intro hbuild
    exact ⟨fun _ => result, (), Reading.gives_map.2 ⟨result, hbuild, rfl⟩,
      Opened.whole_written hnames, rfl⟩

@[simp]
theorem text_written_eq_ok_iff {allowance : Nat} {s found : String} :
    text allowance (Json.str s).written = .ok found ↔ found = s := by
  constructor
  · exact fun h => (Except.ok.inj h).symm
  · rintro rfl
    rfl

@[simp]
theorem flag_written_eq_ok_iff {allowance : Nat} {b found : Bool} :
    flag allowance (Json.bool b).written = .ok found ↔ found = b := by
  constructor
  · exact fun h => (Except.ok.inj h).symm
  · rintro rfl
    rfl

theorem integer_eq_ok_iff {low high : Int} {name : String} {allowance : Nat} {raw : Raw}
    {found : Int} :
    integer low high name allowance raw = .ok found ↔
      raw = .number (some (.int found)) ∧ low ≤ found ∧ found ≤ high := by
  unfold integer
  split
  · next n =>
      split
      · next hrange =>
          constructor
          · rintro ⟨⟩
            exact ⟨rfl, hrange⟩
          · rintro ⟨⟨⟩, -⟩
            rfl
      · next hrange =>
          refine iff_of_false (by rintro ⟨⟩) ?_
          rintro ⟨⟨⟩, hfound⟩
          exact hrange hfound
  · next hraw =>
      exact iff_of_false (by rintro ⟨⟩) (fun h => hraw _ h.1)

/-- A natural number comes back exactly if it has at most 64 bits. -/
@[simp]
theorem word64_written_eq_ok_iff {allowance n found : Nat} :
    word64 allowance (Json.nat n).written = .ok found ↔ found = n ∧ n < 2 ^ 64 := by
  have hread : ∀ value : Int, (Json.nat n).written = .number (some (.int value)) ↔
      value = n ∧ -2 ^ 63 ≤ (n : Int) ∧ (n : Int) < 2 ^ 64 := fun value => by
    rw [← Raw.reread?_int_eq_some_iff]
    exact ⟨fun h => Raw.number.inj h, fun h => congrArg Raw.number h⟩
  constructor
  · intro h
    cases hinteger : integer 0 (Nat.pow 2 64 - 1) "u64" allowance (Json.nat n).written with
    | error fault => rw [word64, hinteger] at h; cases h
    | ok value =>
        rw [word64, hinteger] at h
        obtain ⟨hraw, -⟩ := integer_eq_ok_iff.1 hinteger
        obtain ⟨rfl, -, hlt⟩ := (hread value).1 hraw
        cases h
        exact ⟨Int.toNat_natCast n, by omega⟩
  · rintro ⟨rfl, hlt⟩
    have hinteger : integer 0 (Nat.pow 2 64 - 1) "u64" allowance (Json.nat found).written =
        .ok (found : Int) := by
      rw [integer_eq_ok_iff]
      refine ⟨(hread found).2 ⟨rfl, by omega, by omega⟩, by omega, ?_⟩
      have hpow : Nat.pow 2 64 = 2 ^ 64 := rfl
      rw [hpow]
      omega
    rw [word64, hinteger]
    rfl

@[simp]
theorem json_eq_ok_iff {allowance : Nat} {raw : Raw} {value : Json} :
    json allowance raw = .ok value ↔ raw.value? allowance = some value := by
  unfold json
  cases raw.value? allowance with
  | none => exact iff_of_false (by rintro ⟨⟩) (by rintro ⟨⟩)
  | some found => exact ⟨fun h => congrArg some (Except.ok.inj h),
      fun h => congrArg Except.ok (Option.some.inj h)⟩

/-- An optional value comes back exactly if it does where it is there. -/
@[simp]
theorem option_written_eq_ok_self_iff {decode : Decoder α} {encode : α → Json} {allowance : Nat}
    {value : Option α} (hencode : ∀ a, (encode a).written ≠ .null) :
    option decode allowance (Json.option encode value).written = .ok value ↔
      ∀ a, value = some a → decode allowance (encode a).written = .ok a := by
  cases value with
  | none => exact iff_of_true rfl (by rintro a ⟨⟩)
  | some a =>
      have hoption : option decode allowance (Json.option encode (some a)).written =
          some <$> decode allowance (encode a).written := by
        unfold option
        split
        · next hnull => exact absurd hnull (hencode a)
        · rfl
      rw [hoption]
      cases hread : decode allowance (encode a).written <;> simp [hread]

theorem list_written_eq_ok_iff {decode : Decoder α} {encode : α → Json} {allowance : Nat}
    {items found : List α} :
    list decode (allowance + 1) (Json.list encode items).written = .ok found ↔
      List.Forall₂ (fun item value => decode allowance (encode item).written = .ok value) items
        found := by
  rw [Json.list, Json.written, list, Json.writtenItems_eq_map, mapM_eq_ok_iff,
    List.forall₂_map_left_iff, List.forall₂_map_left_iff]

/-- A list comes back exactly if its items do. -/
@[simp]
theorem list_written_eq_ok_self_iff {decode : Decoder α} {encode : α → Json} {allowance : Nat}
    {items : List α} :
    list decode (allowance + 1) (Json.list encode items).written = .ok items ↔
      ∀ item ∈ items, decode allowance (encode item).written = .ok item := by
  rw [list_written_eq_ok_iff, List.forall₂_same]

@[simp]
theorem list_text_written_eq_ok_iff {allowance : Nat} {items found : List String} :
    list text (allowance + 1) (Json.list .str items).written = .ok found ↔ items = found := by
  rw [list_written_eq_ok_iff, ← List.forall₂_eq_eq_eq]
  simp only [text_written_eq_ok_iff]
  exact ⟨fun h => h.imp fun _ _ => Eq.symm, fun h => h.imp fun _ _ => Eq.symm⟩

theorem entries_written_eq_ok_iff {κ : Type} {key : String → Option κ} {decode : Decoder α}
    {allowance : Nat} {fields : List (String × Json)} {found : List (κ × α)} :
    entries key decode (allowance + 1) (Json.obj fields).written = .ok found ↔
      List.Forall₂ (fun field entry => key field.1 = some entry.1 ∧
        decode allowance field.2.written = .ok entry.2) fields found := by
  have hentry : ∀ (field : String × Json) (found : κ × α),
      entry key decode allowance (some field.1, field.2.written) = .ok found ↔
        key field.1 = some found.1 ∧ decode allowance field.2.written = .ok found.2 := by
    intro field found
    obtain ⟨k, value⟩ := found
    cases hkey : key field.1 with
    | none => simp [entry, hkey]
    | some k' => cases hvalue : decode allowance field.2.written <;> simp [entry, hkey, hvalue]
  rw [Json.written, entries, Json.writtenFields_eq_map, mapM_eq_ok_iff, List.forall₂_map_left_iff]
  simp only [hentry]

end Decoder

/-! ### Tagged values -/

theorem Json.isSome_value?_obj_written_iff {allowance : Nat} {fields : List (String × Json)} :
    ((Json.obj fields).written.value? (allowance + 1)).isSome ↔
      ∀ field ∈ fields, (field.2.written.value? allowance).isSome := by
  have hfields : ∀ fields : List (String × Json),
      (Raw.fieldValues? allowance (writtenFields fields)).isSome ↔
        ∀ field ∈ fields, (field.2.written.value? allowance).isSome := by
    intro fields
    induction fields with
    | nil => simp [writtenFields, Raw.fieldValues?]
    | cons field fields ih =>
        obtain ⟨name, value⟩ := field
        rw [List.forall_mem_cons, ← ih]
        cases hvalue : value.written.value? allowance <;>
          cases hrest : Raw.fieldValues? allowance (writtenFields fields) <;>
            simp [writtenFields, Raw.fieldValues?, hvalue, hrest]
  rw [← hfields, written, Raw.value?]
  cases Raw.fieldValues? allowance (writtenFields fields) <;> rfl

theorem Json.isSome_value?_list_written_iff {α : Type} {encode : α → Json} {allowance : Nat}
    {items : List α} :
    ((Json.list encode items).written.value? (allowance + 1)).isSome ↔
      ∀ item ∈ items, ((encode item).written.value? allowance).isSome := by
  have hitems : ∀ items : List α,
      (Raw.itemValues? allowance (writtenItems (items.map encode))).isSome ↔
        ∀ item ∈ items, ((encode item).written.value? allowance).isSome := by
    intro items
    induction items with
    | nil => simp [writtenItems, Raw.itemValues?]
    | cons item items ih =>
        rw [List.forall_mem_cons, ← ih]
        cases hvalue : (encode item).written.value? allowance <;>
          cases hrest : Raw.itemValues? allowance (writtenItems (items.map encode)) <;>
            simp [writtenItems, Raw.itemValues?, hvalue, hrest]
  rw [← hitems, list, written, Raw.value?]
  cases Raw.itemValues? allowance (writtenItems (items.map encode)) <;> rfl

theorem Json.untag?_written {tag name : String} {fields : List (String × Json)}
    (htag : tag ∉ fields.map (·.1)) :
    (Json.obj ((tag, .str name) :: fields)).written.untag? tag =
      some (name, (Json.obj fields).written) := by
  have hother : ∀ field ∈ writtenFields fields, (field.1 == some tag) = false := by
    intro field hfield
    rw [writtenFields_eq_map, List.mem_map] at hfield
    obtain ⟨source, hsource, rfl⟩ := hfield
    rw [beq_eq_false_iff_ne]
    intro heq
    exact htag (List.mem_map.2 ⟨source, hsource, Option.some.inj heq⟩)
  have hnone : (writtenFields fields).filter (·.1 == some tag) = [] := by
    rw [List.filter_eq_nil_iff]
    exact fun field hfield => Bool.eq_false_iff.1 (hother field hfield)
  have hall : (writtenFields fields).filter (·.1 != some tag) = writtenFields fields := by
    rw [List.filter_eq_self]
    exact fun field hfield => by rw [bne, hother field hfield, Bool.not_false]
  simp [written, writtenFields, Raw.untag?, hnone, hall]

/-- A tagged value is read by its variant, and only where all of it can be read. -/
theorem Decoder.tagged_written_eq_ok_iff {α : Type} {tag name : String}
    {variant : String → Option (Decoder α)} {decode : Decoder α} {allowance : Nat}
    {fields : List (String × Json)} {result : α} (htag : tag ∉ fields.map (·.1))
    (hvariant : variant name = some decode) :
    tagged tag variant (allowance + 1) (Json.obj ((tag, .str name) :: fields)).written =
        .ok result ↔
      (∀ field ∈ fields, (field.2.written.value? allowance).isSome) ∧
        decode (allowance + 1) (Json.obj fields).written = .ok result := by
  have hsome : ((Json.obj ((tag, .str name) :: fields)).written.value? (allowance + 1)).isSome ↔
      ∀ field ∈ fields, (field.2.written.value? allowance).isSome := by
    rw [Json.isSome_value?_obj_written_iff, List.forall_mem_cons]
    exact and_iff_right rfl
  rw [← hsome]
  unfold tagged
  cases (Json.obj ((tag, .str name) :: fields)).written.value? (allowance + 1) with
  | none => simp
  | some value => simp [Json.untag?_written htag, hvariant]

/-- What is read from the text of a value is what the decoder makes of the value. -/
theorem Decoder.read?_text_eq_some_iff {α : Type} {decode : Decoder α} {value : Json} {result : α} :
    decode.read? value.text = some result ↔ decode Raw.depthLimit value.written = .ok result := by
  rw [read?, Raw.read_text]
  dsimp only
  cases decode Raw.depthLimit value.written <;> simp [Except.toOption]

end Concord
