/-!
Tables with text keys, kept in the order of the keys. Inserting replaces an entry of the same key.
-/

namespace Concord

/-- Puts an entry at the place of its key, over an entry of the same key. -/
def insertEntry {α : Type} (key : String) (value : α) : List (String × α) → List (String × α)
  | [] => [(key, value)]
  | (k, v) :: rest =>
      if key = k then (key, value) :: rest
      else if key < k then (key, value) :: (k, v) :: rest
      else (k, v) :: insertEntry key value rest

/-- The keys of a list of entries ascend. -/
def Ascending {α : Type} (entries : List (String × α)) : Prop :=
  entries.Pairwise fun a b => a.1 < b.1

theorem lt_of_not_lt_of_ne {a b : String} (hne : a ≠ b) (hlt : ¬a < b) : b < a :=
  Decidable.byContradiction fun h =>
    hne (String.le_antisymm (String.not_lt.1 h) (String.not_lt.1 hlt))

theorem mem_insertEntry {α : Type} {key : String} {value : α} {entry : String × α}
    {entries : List (String × α)} (h : entry ∈ insertEntry key value entries) :
    entry = (key, value) ∨ entry ∈ entries := by
  induction entries with
  | nil => simpa [insertEntry] using h
  | cons head rest ih =>
      obtain ⟨k, v⟩ := head
      unfold insertEntry at h
      split at h
      · simp only [List.mem_cons] at h ⊢
        exact h.imp_right Or.inr
      · split at h
        · simpa using h
        · simp only [List.mem_cons] at h ⊢
          rcases h with h | h
          · exact Or.inr (Or.inl h)
          · exact (ih h).imp_right Or.inr

theorem ascending_insertEntry {α : Type} (key : String) (value : α) {entries : List (String × α)}
    (h : Ascending entries) : Ascending (insertEntry key value entries) := by
  induction entries with
  | nil => simp [insertEntry, Ascending]
  | cons head rest ih =>
      obtain ⟨k, v⟩ := head
      obtain ⟨hhead, hrest⟩ := List.pairwise_cons.1 h
      unfold insertEntry
      split
      · next heq =>
          subst heq
          exact List.pairwise_cons.2 ⟨hhead, hrest⟩
      · next hne =>
          split
          · next hlt =>
              refine List.pairwise_cons.2 ⟨fun entry hmem => ?_, h⟩
              rcases List.mem_cons.1 hmem with rfl | hmem
              · exact hlt
              · exact String.lt_trans hlt (hhead entry hmem)
          · next hlt =>
              refine List.pairwise_cons.2 ⟨fun entry hmem => ?_, ih hrest⟩
              rcases mem_insertEntry hmem with rfl | hmem
              · exact lt_of_not_lt_of_ne hne hlt
              · exact hhead entry hmem

structure Table (α : Type) where
  entries : List (String × α)
  ascending : Ascending entries

namespace Table

variable {α β : Type}

def empty : Table α :=
  ⟨[], List.Pairwise.nil⟩

instance : Inhabited (Table α) := ⟨empty⟩

def insert (table : Table α) (key : String) (value : α) : Table α :=
  ⟨insertEntry key value table.entries, ascending_insertEntry key value table.ascending⟩

def get? (table : Table α) (key : String) : Option α :=
  table.entries.lookup key

def ofList (entries : List (String × α)) : Table α :=
  entries.foldl (fun table entry => table.insert entry.1 entry.2) empty

/-- Changes the values, each according to its key. -/
def mapEntries (table : Table α) (f : String → α → β) : Table β where
  entries := table.entries.map fun entry => (entry.1, f entry.1 entry.2)
  ascending := by
    unfold Ascending
    rw [List.pairwise_map]
    exact table.ascending

theorem ext {a b : Table α} (h : a.entries = b.entries) : a = b := by
  cases a
  cases b
  cases h
  rfl

end Table

end Concord
