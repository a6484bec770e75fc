import Mathlib
import Concord.Proofs.Store.Histories

/-!
# Candidates that wait to be verified

A candidate waits if each of the backends has an open row for it. Recording a verification closes
the rows of its candidate, which takes it off the list, and leaves the rest of the list as it is.
-/

namespace Concord.Store

/-- The candidates that are pending, however many. -/
def waiting (store : Store) (backends : List String) : List String :=
  store.pending backends store.runs.length

variable {store : Store} {backends : List String} {id : String} {verification : Verification}

/-! ### The last place of an id -/

theorem mem_lastIds {rows : List StoredRun} :
    id ∈ lastIds rows ↔ ∃ row ∈ rows, row.generation = id := by
  induction rows with
  | nil => simp [lastIds]
  | cons row rest ih =>
      rw [lastIds, List.exists_mem_cons_iff, ← ih]
      split
      · next hlater =>
          refine (or_iff_right_of_imp ?_).symm
          rintro rfl
          obtain ⟨other, hother, heq⟩ := List.any_eq_true.1 hlater
          exact ih.2 ⟨other, hother, beq_iff_eq.1 heq⟩
      · rw [List.mem_cons, eq_comm]

theorem nodup_lastIds (rows : List StoredRun) : (lastIds rows).Nodup := by
  induction rows with
  | nil => exact List.nodup_nil
  | cons row rest ih =>
      unfold lastIds
      split
      · exact ih
      · next hlast =>
          refine List.nodup_cons.2 ⟨fun hmem => hlast ?_, ih⟩
          obtain ⟨other, hother, heq⟩ := mem_lastIds.1 hmem
          exact List.any_eq_true.2 ⟨other, hother, beq_iff_eq.2 heq⟩

theorem length_lastIds_le (rows : List StoredRun) : (lastIds rows).length ≤ rows.length := by
  induction rows with
  | nil => exact Nat.le_refl 0
  | cons row rest ih =>
      unfold lastIds
      split
      · exact Nat.le_succ_of_le ih
      · exact Nat.succ_le_succ ih

theorem lastIds_filter (keep : String → Bool) (rows : List StoredRun) :
    lastIds (rows.filter fun row => keep row.generation) = (lastIds rows).filter keep := by
  induction rows with
  | nil => rfl
  | cons row rest ih =>
      cases hkeep : keep row.generation with
      | false =>
          rw [List.filter_cons_of_neg (by simp [hkeep]), ih, lastIds]
          split
          · rfl
          · rw [List.filter_cons_of_neg (by simp [hkeep])]
      | true =>
          have hany : (rest.filter fun row => keep row.generation).any
              (·.generation == row.generation) = rest.any (·.generation == row.generation) := by
            rw [List.any_filter]
            congr 1
            funext other
            by_cases heq : other.generation = row.generation
            · simp [heq, hkeep]
            · simp [heq]
          rw [List.filter_cons_of_pos (by simpa using hkeep), lastIds, hany, ih, lastIds]
          split
          · rfl
          · rw [List.filter_cons_of_pos (by simpa using hkeep)]

/-! ### Who waits -/

theorem waiting_eq (hinhabited : backends ≠ []) :
    store.waiting backends = (lastIds (store.openRuns backends)).filter fun id =>
      ((store.openRuns backends).filter (·.generation == id)).length == backends.length := by
  have hnonempty : backends.isEmpty = false := by simpa using hinhabited
  unfold waiting pending
  dsimp only
  rw [if_neg (by simp [hnonempty])]
  refine List.take_of_length_le ((List.length_filter_le _ _).trans ?_)
  exact (length_lastIds_le _).trans (List.length_filter_le _ _)

/-- A query gives the first of those that wait. -/
theorem pending_eq_take (store : Store) (backends : List String) (limit : Nat) :
    store.pending backends limit = (store.waiting backends).take limit := by
  by_cases hempty : backends = []
  · subst hempty
    exact List.take_nil.symm
  · have hnonempty : backends.isEmpty = false := by simpa using hempty
    rw [waiting_eq hempty]
    unfold pending
    dsimp only
    rw [if_neg (by simp [hnonempty])]

theorem nodup_waiting (store : Store) (backends : List String) : (store.waiting backends).Nodup := by
  by_cases hempty : backends = []
  · subst hempty
    exact List.nodup_nil
  · rw [waiting_eq hempty]
    exact (nodup_lastIds _).filter _

/-- The open rows of a candidate that count, by their backends. -/
theorem mem_openBackends_iff (hsound : store.Sound) {backend : String}
    (hbackend : backend ∈ backends) :
    backend ∈ ((store.openRuns backends).filter (·.generation == id)).map (·.backend) ↔
      ∃ row, store.run? id backend = some row ∧ row.handled = false := by
  constructor
  · intro h
    obtain ⟨row, hrow, rfl⟩ := List.mem_map.1 h
    obtain ⟨hopenRow, hid⟩ := List.mem_filter.1 hrow
    obtain ⟨hmem, hcounts⟩ := List.mem_filter.1 hopenRow
    have hfound := hsound.run?_of_mem hmem
    rw [beq_iff_eq.1 hid] at hfound
    refine ⟨row, hfound, ?_⟩
    simpa using (Bool.and_eq_true_iff.1 hcounts).1
  · rintro ⟨row, hfound, hopen⟩
    obtain ⟨rfl, rfl⟩ := run?_eq_some_key hfound
    refine List.mem_map_of_mem (List.mem_filter.2 ⟨List.mem_filter.2 ⟨?_, ?_⟩, beq_self_eq_true _⟩)
    · exact List.mem_of_find?_eq_some hfound
    · simp [hopen, hbackend]

theorem Sound.nodup_openBackends (hsound : store.Sound) :
    (((store.openRuns backends).filter (·.generation == id)).map (·.backend)).Nodup := by
  have hkeys : (((store.openRuns backends).filter (·.generation == id)).map StoredRun.key).Nodup :=
    hsound.runs_nodup.sublist
      ((List.filter_sublist.trans List.filter_sublist).map StoredRun.key)
  refine List.Nodup.of_map (fun backend => (id, backend)) ?_
  rw [List.map_map]
  refine Eq.mp (congrArg List.Nodup (List.map_congr_left fun row hrow => ?_)) hkeys
  have hid : row.generation = id := beq_iff_eq.1 (List.mem_filter.1 hrow).2
  rw [StoredRun.key, hid]
  rfl

/-- **Who waits.** A candidate waits exactly if it has an open row for each of the backends. -/
theorem mem_waiting_iff (hsound : store.Sound) (hinhabited : backends ≠ [])
    (hnodup : backends.Nodup) :
    id ∈ store.waiting backends ↔
      ∀ backend ∈ backends, ∃ row, store.run? id backend = some row ∧ row.handled = false := by
  set names := ((store.openRuns backends).filter (·.generation == id)).map (·.backend)
    with hnames
  have hsubset : names ⊆ backends := by
    intro backend hbackend
    obtain ⟨row, hrow, rfl⟩ := List.mem_map.1 hbackend
    have hcounts := (List.mem_filter.1 (List.mem_filter.1 hrow).1).2
    simpa using (Bool.and_eq_true_iff.1 hcounts).2
  -- no name occurs twice, so there are as many as there are backends only if all of them are there
  have hperm : names.length ≤ backends.length :=
    (List.subperm_of_subset hsound.nodup_openBackends hsubset).length_le
  have hready : (((store.openRuns backends).filter (·.generation == id)).length ==
      backends.length) = true ↔ names.length = backends.length := by
    rw [beq_iff_eq, hnames, List.length_map]
  rw [waiting_eq hinhabited, List.mem_filter, hready]
  constructor
  · rintro ⟨-, hlength⟩ backend hbackend
    have hall : backends ⊆ names :=
      ((List.subperm_of_subset hsound.nodup_openBackends hsubset).perm_of_length_le
        hlength.ge).symm.subset
    exact (mem_openBackends_iff hsound hbackend).1 (hall hbackend)
  · intro h
    have hall : backends ⊆ names := fun backend hbackend =>
      (mem_openBackends_iff hsound hbackend).2 (h backend hbackend)
    refine ⟨mem_lastIds.2 ?_, hperm.antisymm (List.subperm_of_subset hnodup hall).length_le⟩
    obtain ⟨backend, hbackend⟩ := List.exists_mem_of_ne_nil backends hinhabited
    obtain ⟨row, hrow, -⟩ := List.mem_map.1 (hall hbackend)
    obtain ⟨hopenRow, hid⟩ := List.mem_filter.1 hrow
    exact ⟨row, hopenRow, beq_iff_eq.1 hid⟩

/-! ### Recording takes one candidate off the list -/

theorem runs_recordVerification (store : Store) (verification : Verification) :
    (store.recordVerification verification).2.runs =
      (latch (·.generation == verification.generation) (·.handled) StoredRun.close
        store.runs).2 := by
  cases hflipped : (store.recordVerification verification).1 with
  | true => rw [recordVerification_of_flipped hflipped]
  | false =>
      rw [recordVerification_of_not_flipped hflipped,
        latch_of_not_flipped (recordVerification_flipped store verification ▸ hflipped)]

theorem unhandled_recordVerification (store : Store) (verification : Verification) :
    ((store.recordVerification verification).2.runs.filter fun row => !row.handled) =
      (store.runs.filter fun row => !row.handled).filter
        (·.generation != verification.generation) := by
  rw [runs_recordVerification, latch, List.filter_filter]
  dsimp only
  induction store.runs with
  | nil => rfl
  | cons row rest ih =>
      cases hhandled : row.handled with
      | true => simpa [hhandled] using ih
      | false =>
          by_cases heq : row.generation = verification.generation
          · simpa [hhandled, heq, StoredRun.close] using ih
          · simpa [hhandled, heq] using ih

theorem openRuns_eq (store : Store) (backends : List String) :
    store.openRuns backends =
      (store.runs.filter fun row => !row.handled).filter fun row =>
        backends.contains row.backend := by
  rw [List.filter_filter]
  exact List.filter_congr fun row _ => Bool.and_comm _ _

theorem openRuns_recordVerification (store : Store) (verification : Verification)
    (backends : List String) :
    (store.recordVerification verification).2.openRuns backends =
      (store.openRuns backends).filter (·.generation != verification.generation) := by
  rw [openRuns_eq, openRuns_eq, unhandled_recordVerification]
  exact List.filter_comm _ _ _

theorem waiting_recordVerification (store : Store) (verification : Verification)
    (backends : List String) :
    (store.recordVerification verification).2.waiting backends =
      (store.waiting backends).filter (· != verification.generation) := by
  by_cases hempty : backends = []
  · subst hempty
    rfl
  · rw [waiting_eq hempty, waiting_eq hempty, openRuns_recordVerification,
      lastIds_filter (· != verification.generation), List.filter_filter, List.filter_filter]
    refine List.filter_congr fun id _ => ?_
    by_cases heq : id = verification.generation
    · simp [heq]
    · have hrows : ((store.openRuns backends).filter (·.generation != verification.generation)).filter
          (·.generation == id) = (store.openRuns backends).filter (·.generation == id) := by
        rw [List.filter_filter]
        refine List.filter_congr fun row _ => ?_
        by_cases hid : row.generation = id
        · simp [hid, heq]
        · simp [hid]
      rw [hrows, Bool.and_comm]

theorem loadRuns_recordVerification (h : id ≠ verification.generation) :
    (store.recordVerification verification).2.loadRuns id = store.loadRuns id := by
  have hrows : (store.recordVerification verification).2.runs.filter (·.generation == id) =
      store.runs.filter (·.generation == id) := by
    rw [runs_recordVerification, latch]
    dsimp only
    induction store.runs with
    | nil => rfl
    | cons row rest ih =>
        by_cases hid : row.generation = id
        · have hother : (row.generation == verification.generation) = false := by
            rw [hid]
            exact beq_eq_false_iff_ne.2 h
          simpa [hid, h] using ih
        · by_cases heq : row.generation = verification.generation
          · cases hhandled : row.handled <;> simpa [heq, hhandled, h.symm, StoredRun.close] using ih
          · simpa [hid, heq] using ih
  unfold loadRuns runsOf
  rw [hrows]

end Concord.Store
