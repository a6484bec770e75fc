import Mathlib
import Concord.Proofs.Readback
import Concord.Proofs.Store.Histories

/-!
# What each write does to the candidates

Candidates are only added, under ids that are new. What they were inserted with stays, and each flag
is set by one write alone.
-/

namespace Concord

/-- The candidate as it is inserted. -/
def StoredGeneration.ofGeneration (generation : Generation) : StoredGeneration :=
  ⟨generation.id, generation.encode.text, generation.compileError, false, false⟩

namespace Store

/-- What a write makes of a candidate that is there. -/
def Operation.flagged (row : StoredGeneration) : Operation → StoredGeneration
  | .markEnqueued id => if row.id = id then { row with enqueued := true } else row
  | .markCrashLogged id => if row.id = id then { row with crashLogged := true } else row
  | _ => row

/-- The candidate that a write adds to the others. -/
def added (store : Store) : Operation → List StoredGeneration
  | .insertGeneration generation =>
      if (store.generation? generation.id).isSome then [] else [.ofGeneration generation]
  | _ => []

variable {store : Store} {operation : Operation}

namespace Operation

@[simp] theorem id_flagged (row : StoredGeneration) : (operation.flagged row).id = row.id := by
  unfold flagged
  split <;> (try split) <;> rfl

@[simp] theorem document_flagged (row : StoredGeneration) :
    (operation.flagged row).document = row.document := by
  unfold flagged
  split <;> (try split) <;> rfl

@[simp] theorem compileError_flagged (row : StoredGeneration) :
    (operation.flagged row).compileError = row.compileError := by
  unfold flagged
  split <;> (try split) <;> rfl

end Operation

/-- A flag that is set where it is not is set. -/
theorem latch_eq_map {α : Type} {holds set : α → Bool} {flip target : α → α} (rows : List α)
    (hflip : ∀ row, holds row → target row = flip row)
    (hset : ∀ row, holds row → set row → flip row = row)
    (hother : ∀ row, ¬holds row → target row = row) :
    (latch holds set flip rows).2 = rows.map target := by
  refine List.map_congr_left fun row _ => ?_
  by_cases hholds : holds row
  · rw [hflip row hholds]
    by_cases hrow : set row
    · rw [hset row hholds hrow, ite_self]
    · rw [if_pos (by simp [hholds, hrow])]
  · rw [if_neg (by simp [hholds]), hother row hholds]

/-- A write flags candidates that are there, or adds one. -/
theorem generations_perform (store : Store) (operation : Operation) :
    (store.perform operation).generations =
      store.generations.map operation.flagged ++ store.added operation := by
  have hsame : ∀ {flag : StoredGeneration → StoredGeneration}, (∀ row, flag row = row) →
      store.generations = store.generations.map flag ++ [] := by
    intro flag hflag
    rw [List.append_nil, funext hflag]
    exact (List.map_id _).symm
  cases operation with
  | insertGeneration generation =>
      unfold perform insertGeneration added
      dsimp only
      by_cases hthere : (store.generation? generation.id).isSome
      · rw [if_pos hthere, if_pos hthere]
        exact hsame fun _ => rfl
      · rw [if_neg hthere, if_neg hthere]
        exact congrArg (· ++ _) (List.map_id _).symm
  | markEnqueued id =>
      refine Eq.trans (latch_eq_map _ (fun row h => if_pos (beq_iff_eq.1 h)) (fun row _ h => ?_)
        fun row h => if_neg fun heq => h (beq_iff_eq.2 heq)) (List.append_nil _).symm
      rw [← h]
  | markCrashLogged id =>
      refine Eq.trans (latch_eq_map _ (fun row h => if_pos (beq_iff_eq.1 h)) (fun row _ h => ?_)
        fun row h => if_neg fun heq => h (beq_iff_eq.2 heq)) (List.append_nil _).symm
      rw [← h]
  | upsertRun result => exact (generations_upsertRun store result).trans (hsame fun _ => rfl)
  | recordVerification verification =>
      exact (generations_recordVerification store verification).trans (hsame fun _ => rfl)
  | markDiscrepancyLogged generation => exact hsame fun _ => rfl

theorem mem_generations_perform {row : StoredGeneration}
    (h : row ∈ (store.perform operation).generations) :
    (∃ old ∈ store.generations, row = operation.flagged old) ∨
      ∃ generation, operation = .insertGeneration generation ∧ row = .ofGeneration generation := by
  rw [generations_perform] at h
  rcases List.mem_append.1 h with hrow | hrow
  · obtain ⟨old, hold, rfl⟩ := List.mem_map.1 hrow
    exact Or.inl ⟨old, hold, rfl⟩
  · cases operation with
    | insertGeneration generation =>
        unfold added at hrow
        dsimp only at hrow
        split at hrow
        · cases hrow
        · exact Or.inr ⟨generation, rfl, List.mem_singleton.1 hrow⟩
    | _ => cases hrow

theorem nodup_generations (operations : List Operation) :
    ((after operations).generations.map (·.id)).Nodup := by
  induction operations using List.reverseRecOn with
  | nil => exact List.nodup_nil
  | append_singleton before operation ih =>
      rw [after_concat, generations_perform, List.map_append, List.map_map]
      have hids : ((·.id) ∘ operation.flagged : StoredGeneration → String) = (·.id) :=
        funext fun row => Operation.id_flagged row
      rw [hids]
      refine List.nodup_append'.2 ⟨ih, ?_⟩
      cases operation with
      | insertGeneration generation =>
          unfold added
          dsimp only
          by_cases hthere : ((after before).generation? generation.id).isSome
          · rw [if_pos hthere]
            exact ⟨List.nodup_nil, List.disjoint_nil_right _⟩
          · rw [if_neg hthere]
            refine ⟨List.nodup_singleton _, List.disjoint_singleton.2 fun hmem => hthere ?_⟩
            obtain ⟨row, hrow, hid⟩ := List.mem_map.1 hmem
            exact List.find?_isSome.2 ⟨row, hrow, beq_iff_eq.2 hid⟩
      | _ => exact ⟨List.nodup_nil, List.disjoint_nil_right _⟩

/-! ### Marking -/

/-- Marking tells whether there is a candidate that was not marked. -/
theorem markEnqueued_flipped_iff {id : String} :
    (store.markEnqueued id).1 = true ↔
      ∃ row ∈ store.generations, row.id = id ∧ row.enqueued = false := by
  have hlatch := @latch_flipped_iff _ (·.id == id) (·.enqueued)
    (fun row : StoredGeneration => { row with enqueued := true }) store.generations
  simp only [beq_iff_eq] at hlatch
  exact hlatch

theorem markEnqueued_of_not_flipped {id : String} (h : (store.markEnqueued id).1 = false) :
    (store.markEnqueued id).2 = store :=
  congrArg (fun generations => { store with generations }) (latch_of_not_flipped h)

/-! ### Keeping what was inserted -/

theorem generation?_insertGeneration {later : Store} {generation : Generation}
    (h : store.insertGeneration generation = .ok ((), later)) :
    later.generation? generation.id = some (.ofGeneration generation) := by
  unfold insertGeneration at h
  split at h
  · cases h
  · next hnew =>
      cases h
      have hnone : store.generations.find? (·.id == generation.id) = none :=
        Option.not_isSome_iff_eq_none.1 hnew
      rw [generation?, List.find?_append, hnone, Option.none_or]
      exact List.find?_cons_of_pos (beq_self_eq_true _)

theorem generation?_perform {id : String} {row : StoredGeneration}
    (h : store.generation? id = some row) (operation : Operation) :
    (store.perform operation).generation? id = some (operation.flagged row) := by
  have hid : (fun row : StoredGeneration => row.id == id) ∘ operation.flagged =
      fun row => row.id == id := funext fun row => congrArg (· == id) (Operation.id_flagged row)
  unfold generation? at h
  rw [generation?, generations_perform, List.find?_append, List.find?_map, hid, h]
  rfl

/-- No write ever changes the document of a candidate. -/
theorem exists_generation?_performAll {id : String} {row : StoredGeneration}
    (h : store.generation? id = some row) (operations : List Operation) :
    ∃ kept, (store.performAll operations).generation? id = some kept ∧
      kept.document = row.document := by
  induction operations generalizing store row with
  | nil => exact ⟨row, h, rfl⟩
  | cons operation operations ih =>
      obtain ⟨kept, hkept, hdocument⟩ := ih (generation?_perform h operation)
      exact ⟨kept, hkept, hdocument.trans (Operation.document_flagged row)⟩

/-! ### Documents and their ids -/

/-- What is loaded under an id is read from the row that is found under it. -/
theorem loadGeneration_eq_ok_iff {id : String} {found : Option Generation} :
    store.loadGeneration id = .ok found ↔
      match store.generation? id with
      | none => found = none
      | some row => ∃ read, Generation.decoder.read? row.document = some read ∧ found = some read := by
  unfold loadGeneration decode
  cases store.generation? id with
  | none => exact ⟨fun h => (Except.ok.inj h).symm, fun h => congrArg Except.ok h.symm⟩
  | some row =>
      dsimp only
      cases Generation.decoder.read? row.document with
      | none => simp
      | some read => simp [eq_comm]

/-- Every candidate that can be read is kept under its own id. -/
def Filed (store : Store) : Prop :=
  ∀ row ∈ store.generations, ∀ generation,
    Generation.decoder.read? row.document = some generation → generation.id = row.id

theorem Filed.perform (h : store.Filed) (operation : Operation) :
    (store.perform operation).Filed := by
  intro row hrow generation hread
  rcases mem_generations_perform hrow with ⟨old, hold, rfl⟩ | ⟨inserted, rfl, rfl⟩
  · rw [Operation.document_flagged] at hread
    rw [Operation.id_flagged]
    exact h old hold generation hread
  · exact (Generation.of_read?_encode hread).1

theorem Filed.loadGeneration (h : store.Filed) {id : String} {generation : Generation}
    (hload : store.loadGeneration id = .ok (some generation)) : generation.id = id := by
  rw [loadGeneration_eq_ok_iff] at hload
  cases hrow : store.generation? id with
  | none =>
      rw [hrow] at hload
      cases hload
  | some row =>
      rw [hrow] at hload
      obtain ⟨read, hread, hsame⟩ := hload
      obtain rfl := Option.some.inj hsame
      have hid := List.find?_some hrow
      exact (h row (List.mem_of_find?_eq_some hrow) generation hread).trans (beq_iff_eq.1 hid)

/-- Every candidate is kept as it was inserted, but for its flags. -/
def Inserted (store : Store) : Prop :=
  ∀ row ∈ store.generations, ∃ generation : Generation, row.document = generation.encode.text ∧
    row.id = generation.id ∧ row.compileError = generation.compileError

theorem Inserted.perform (h : store.Inserted) (operation : Operation) :
    (store.perform operation).Inserted := by
  intro row hrow
  rcases mem_generations_perform hrow with ⟨old, hold, rfl⟩ | ⟨inserted, rfl, rfl⟩
  · obtain ⟨generation, hdocument, hid, herror⟩ := h old hold
    exact ⟨generation, (Operation.document_flagged old).trans hdocument,
      (Operation.id_flagged old).trans hid, (Operation.compileError_flagged old).trans herror⟩
  · exact ⟨inserted, rfl, rfl, rfl⟩

/-- A candidate that is loaded did not compile exactly if its row says so. -/
theorem Inserted.exists_row_of_load (h : store.Inserted) {id : String} {generation : Generation}
    (hload : store.loadGeneration id = .ok (some generation)) :
    ∃ row ∈ store.generations, row.id = id ∧
      row.compileError.isSome = generation.compileError.isSome := by
  rw [loadGeneration_eq_ok_iff] at hload
  cases hrow : store.generation? id with
  | none =>
      rw [hrow] at hload
      cases hload
  | some row =>
      rw [hrow] at hload
      obtain ⟨read, hread, hsame⟩ := hload
      obtain rfl := Option.some.inj hsame
      have hmem := List.mem_of_find?_eq_some hrow
      obtain ⟨inserted, hdocument, -, herror⟩ := h row hmem
      rw [hdocument] at hread
      exact ⟨row, hmem, by simpa using List.find?_some hrow,
        (congrArg Option.isSome herror).trans (Generation.of_read?_encode hread).2.1.symm⟩

end Store

end Concord
