import Mathlib
import Concord.Proofs.Json.Text

/-!
# Values that survive being written

A value comes back from its text unless its containers are too deep inside one another, one of its
numbers is read as another one, or an object has its fields out of order. Integers within range are
always read as they are; floats need not be, as a decimal is scaled in rounded steps.
-/

namespace Concord

/-- The text of a number reads as that number. -/
def Number.Durable (number : Number) : Prop :=
  number.reread? = some number

instance (number : Number) : Decidable number.Durable :=
  inferInstanceAs (Decidable (_ = _))

theorem Number.durable_int_iff (value : Int) :
    (Number.int value).Durable ↔ -2 ^ 63 ≤ value ∧ value < 2 ^ 64 := by
  rw [Durable, Raw.reread?_int_eq_some_iff, and_iff_right rfl]

theorem Number.durable_nat_iff (value : Nat) :
    (Number.int value).Durable ↔ value < 2 ^ 64 := by
  rw [durable_int_iff]
  omega

namespace Json

mutual

/-- Every number is read as it was, and the fields of every object are in order. -/
def Durable : Json → Prop
  | .number n => n.Durable
  | .arr items => DurableItems items
  | .obj fields => Ascending fields ∧ DurableFields fields
  | _ => True

def DurableItems : List Json → Prop
  | [] => True
  | item :: rest => Durable item ∧ DurableItems rest

def DurableFields : List (String × Json) → Prop
  | [] => True
  | (_, value) :: rest => Durable value ∧ DurableFields rest

end

/-! ### Fields in order -/

theorem ascending_iff_names {α : Type} (entries : List (String × α)) :
    Ascending entries ↔ (entries.map (·.1)).Pairwise (· < ·) := by
  rw [Ascending, List.pairwise_map]

theorem ascending_foldl_insertEntry (fields sorted : List (String × Json))
    (hsorted : Ascending sorted) :
    Ascending (fields.foldl (fun sorted field => insertEntry field.1 field.2 sorted) sorted) := by
  induction fields generalizing sorted with
  | nil => exact hsorted
  | cons field fields ih => exact ih _ (ascending_insertEntry field.1 field.2 hsorted)

theorem ascending_sortFields (fields : List (String × Json)) : Ascending (sortFields fields) :=
  ascending_foldl_insertEntry fields [] List.Pairwise.nil

/-- An entry behind all others is put at the end. -/
theorem insertEntry_of_forall_lt {α : Type} {key : String} {value : α} {entries : List (String × α)}
    (hlt : ∀ entry ∈ entries, entry.1 < key) :
    insertEntry key value entries = entries ++ [(key, value)] := by
  induction entries with
  | nil => rfl
  | cons entry entries ih =>
      obtain ⟨k, v⟩ := entry
      have hk : k < key := hlt (k, v) List.mem_cons_self
      have hne : key ≠ k := by
        rintro rfl
        exact String.lt_irrefl _ hk
      rw [insertEntry, if_neg hne, if_neg (String.lt_asymm hk),
        ih fun entry hmem => hlt entry (List.mem_cons_of_mem _ hmem)]
      rfl

theorem foldl_insertEntry_of_ascending {α : Type} (sorted fields : List (String × α))
    (h : Ascending (sorted ++ fields)) :
    fields.foldl (fun sorted field => insertEntry field.1 field.2 sorted) sorted =
      sorted ++ fields := by
  induction fields generalizing sorted with
  | nil => simp
  | cons field fields ih =>
      have hlt : ∀ entry ∈ sorted, entry.1 < field.1 := fun entry hmem =>
        (List.pairwise_append.1 h).2.2 entry hmem field List.mem_cons_self
      have hmoved : sorted ++ field :: fields = sorted ++ [field] ++ fields := by simp
      rw [List.foldl_cons, insertEntry_of_forall_lt hlt, ih _ (hmoved ▸ h), hmoved]

theorem sortFields_of_ascending {fields : List (String × Json)} (h : Ascending fields) :
    sortFields fields = fields :=
  foldl_insertEntry_of_ascending [] fields h

/-! ### Reading a value back -/

theorem fieldValues?_names {allowance : Nat} {fields values : List (String × Json)}
    (h : Raw.fieldValues? allowance (writtenFields fields) = some values) :
    values.map (·.1) = fields.map (·.1) := by
  induction fields generalizing values with
  | nil => cases h; rfl
  | cons field fields ih =>
      obtain ⟨name, value⟩ := field
      simp only [writtenFields, Raw.fieldValues?, Option.bind_eq_bind, Option.bind_some,
        Option.bind_eq_some_iff] at h
      obtain ⟨first, -, others, hothers, heq⟩ := h
      cases heq
      simp [ih hothers]

/-- An object comes back if its fields do and are in order. -/
theorem exists_sortFields_eq_iff {allowance : Nat} {fields : List (String × Json)} :
    (∃ values, Raw.fieldValues? allowance (writtenFields fields) = some values ∧
        sortFields values = fields) ↔
      Ascending fields ∧ Raw.fieldValues? allowance (writtenFields fields) = some fields := by
  constructor
  · rintro ⟨values, hvalues, hsort⟩
    have hfields : Ascending fields := hsort ▸ ascending_sortFields values
    have hascending : Ascending values := by
      rw [ascending_iff_names, fieldValues?_names hvalues, ← ascending_iff_names]
      exact hfields
    rw [sortFields_of_ascending hascending] at hsort
    exact ⟨hfields, hsort ▸ hvalues⟩
  · rintro ⟨hascending, hvalues⟩
    exact ⟨fields, hvalues, sortFields_of_ascending hascending⟩

mutual

/-- **Which values come back.** A value that is read under an allowance is the one that was written
exactly if it is no deeper than that and durable. -/
theorem value?_written_eq_some_iff (value : Json) (allowance : Nat) :
    value.written.value? allowance = some value ↔ value.depth ≤ allowance ∧ value.Durable := by
  match value with
  | .null => simp [written, Raw.value?, depth, Durable]
  | .bool b => simp [written, Raw.value?, depth, Durable]
  | .number n => simp [written, Raw.value?, depth, Durable, Number.Durable]
  | .str s => simp [written, Raw.value?, depth, Durable]
  | .arr items =>
      cases allowance with
      | zero => simp [written, Raw.value?, depth]
      | succ allowance =>
          have hitems := itemValues?_writtenItems_eq_some_iff items allowance
          simp [written, Raw.value?, depth, Durable, hitems]
  | .obj fields =>
      cases allowance with
      | zero => simp [written, Raw.value?, depth]
      | succ allowance =>
          have hfields := fieldValues?_writtenFields_eq_some_iff fields allowance
          simp [written, Raw.value?, depth, Durable, exists_sortFields_eq_iff, hfields,
            and_left_comm]

theorem itemValues?_writtenItems_eq_some_iff (items : List Json) (allowance : Nat) :
    Raw.itemValues? allowance (writtenItems items) = some items ↔
      itemsDepth items ≤ allowance ∧ DurableItems items := by
  match items with
  | [] => simp [writtenItems, Raw.itemValues?, itemsDepth, DurableItems]
  | item :: items =>
      have hitem := value?_written_eq_some_iff item allowance
      have hitems := itemValues?_writtenItems_eq_some_iff items allowance
      simp [writtenItems, Raw.itemValues?, itemsDepth, DurableItems, Option.bind_eq_some_iff, hitem,
        hitems, and_and_and_comm]

theorem fieldValues?_writtenFields_eq_some_iff (fields : List (String × Json)) (allowance : Nat) :
    Raw.fieldValues? allowance (writtenFields fields) = some fields ↔
      fieldsDepth fields ≤ allowance ∧ DurableFields fields := by
  match fields with
  | [] => simp [writtenFields, Raw.fieldValues?, fieldsDepth, DurableFields]
  | (name, value) :: fields =>
      have hvalue := value?_written_eq_some_iff value allowance
      have hfields := fieldValues?_writtenFields_eq_some_iff fields allowance
      simp [writtenFields, Raw.fieldValues?, fieldsDepth, DurableFields, Option.bind_eq_some_iff,
        hvalue, hfields, and_and_and_comm]

end

end Json

end Concord
