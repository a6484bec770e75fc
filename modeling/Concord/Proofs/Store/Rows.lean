import Mathlib
import Concord.Store

/-!
# What each write does to the rows

A result has one row for each candidate and backend, a verification one for each candidate. Every
write of the store is described by what is found under a key before and after it.
-/

namespace Concord

namespace StoredRun

/-- The result as it is first written. -/
def ofResult (result : RunResult) : StoredRun :=
  ⟨result.generation, result.backend, result.encode.text, false⟩

/-- What stands under its key after a result was written. -/
def overwritten (result : RunResult) : Option StoredRun → StoredRun
  | some old => if old.handled then old else ofResult result
  | none => ofResult result

def close (row : StoredRun) : StoredRun :=
  { row with handled := true }

def key (row : StoredRun) : String × String :=
  (row.generation, row.backend)

def isAt (generation backend : String) (row : StoredRun) : Bool :=
  row.generation == generation && row.backend == backend

theorem isAt_iff {generation backend : String} {row : StoredRun} :
    row.isAt generation backend ↔ row.generation = generation ∧ row.backend = backend := by
  simp [isAt]

end StoredRun

namespace StoredVerification

/-- The verification as it is first written. -/
def ofVerification (verification : Verification) : StoredVerification :=
  ⟨verification.generation, verification.encode.text, verification.hasDiscrepancy, false⟩

def log (row : StoredVerification) : StoredVerification :=
  { row with logged := true }

end StoredVerification

namespace Store

/-! ### Latches -/

section Latch

variable {α : Type} {holds set : α → Bool} {flip : α → α} {rows : List α}

theorem latch_flipped_iff :
    (latch holds set flip rows).1 = true ↔ ∃ row ∈ rows, holds row ∧ set row = false := by
  simp [latch]

/-- Where no flag was set nothing changes. -/
theorem latch_of_not_flipped (h : (latch holds set flip rows).1 = false) :
    (latch holds set flip rows).2 = rows := by
  have hset : ∀ row ∈ rows, holds row → set row = true := by
    simpa [latch] using h
  have hsame : ∀ row ∈ rows, (if holds row && !set row then flip row else row) = row := by
    intro row hrow
    refine if_neg ?_
    rw [Bool.and_eq_true, not_and]
    intro hholds
    simp [hset row hrow hholds]
  exact (List.map_congr_left hsame).trans (List.map_id rows)

theorem mem_latch {row : α} (h : row ∈ (latch holds set flip rows).2) :
    row ∈ rows ∨ ∃ old ∈ rows, row = flip old := by
  obtain ⟨old, hold, rfl⟩ := List.mem_map.1 h
  split
  · exact Or.inr ⟨old, hold, rfl⟩
  · exact Or.inl hold

/-- What a flag is no part of stays as it is. -/
theorem map_latch {β : Type} {f : α → β} (hf : ∀ row, f (flip row) = f row) :
    (latch holds set flip rows).2.map f = rows.map f := by
  rw [latch, List.map_map]
  refine List.map_congr_left fun row _ => ?_
  rw [Function.comp_apply]
  split
  · exact hf row
  · rfl

/-- A row under a key that the flag is no part of is found again, flagged if it is concerned. -/
theorem find?_latch {key : α → Bool} (hkey : ∀ row, key (flip row) = key row) :
    (latch holds set flip rows).2.find? key =
      (rows.find? key).map fun row => if holds row && !set row then flip row else row := by
  rw [latch, List.find?_map]
  have hcomp : (key ∘ fun row => if holds row && !set row then flip row else row) = key := by
    funext row
    rw [Function.comp_apply]
    split
    · exact hkey row
    · rfl
  rw [hcomp]

end Latch

/-- Where no key is repeated, a row is what a search for its key finds. -/
theorem find?_of_nodup {α κ : Type} {key : α → κ} {test : α → Bool} {rows : List α} {row : α}
    (hnodup : (rows.map key).Nodup) (hrow : row ∈ rows) (hself : test row = true)
    (hkey : ∀ other, test other = true → key other = key row) : rows.find? test = some row := by
  cases hfound : rows.find? test with
  | none => exact absurd hself (List.find?_eq_none.1 hfound row hrow)
  | some found =>
      have hsame := hkey found (List.find?_some hfound)
      rw [List.inj_on_of_nodup_map hnodup (List.mem_of_find?_eq_some hfound) hrow hsame]

/-! ### Runs -/

variable {store : Store} {generation backend : String} {result : RunResult}
  {verification : Verification}

theorem run?_eq_some_key {row : StoredRun} (h : store.run? generation backend = some row) :
    row.generation = generation ∧ row.backend = backend :=
  StoredRun.isAt_iff.1 (List.find?_some h)

/-- An appended result is found under its own key where nothing was found before. -/
theorem find?_append_ofResult (rows : List StoredRun) (result : RunResult)
    (generation backend : String) :
    (rows ++ [StoredRun.ofResult result]).find? (StoredRun.isAt generation backend) =
      (rows.find? (StoredRun.isAt generation backend)).or
        (if result.generation = generation ∧ result.backend = backend then
          some (.ofResult result) else none) := by
  rw [List.find?_append, List.find?_singleton]
  exact congrArg _ (if_congr StoredRun.isAt_iff rfl rfl)

/-- Deleting what stands under one key hides nothing under the others. -/
theorem find?_filter_not_isAt (rows : List StoredRun) (deleted removed generation backend : String) :
    (rows.filter fun row => !row.isAt deleted removed).find? (StoredRun.isAt generation backend) =
      if deleted = generation ∧ removed = backend then none
      else rows.find? (StoredRun.isAt generation backend) := by
  rw [List.find?_filter]
  by_cases hsame : deleted = generation ∧ removed = backend
  · rw [if_pos hsame, List.find?_eq_none]
    intro row _
    simp [hsame.1, hsame.2]
  · rw [if_neg hsame]
    refine List.find?_congr fun row _ => ?_
    by_cases hat : row.isAt generation backend
    · have hother : row.isAt deleted removed = false := by
        rw [Bool.eq_false_iff, ne_eq, StoredRun.isAt_iff]
        obtain ⟨rfl, rfl⟩ := StoredRun.isAt_iff.1 hat
        intro heq
        exact hsame ⟨heq.1.symm, heq.2.symm⟩
      simp [hat, hother]
    · simp [hat]

/-- A result with no row under its key is appended. -/
theorem runs_upsertRun_of_none (h : store.run? result.generation result.backend = none) :
    (store.upsertRun result).runs = store.runs ++ [.ofResult result] := by
  rw [upsertRun, h]
  rfl

theorem upsertRun_of_handled {old : StoredRun}
    (h : store.run? result.generation result.backend = some old) (hhandled : old.handled = true) :
    store.upsertRun result = store := by
  rw [upsertRun, h]
  exact if_pos hhandled

/-- An open row gives way to the result, which moves to the end. -/
theorem runs_upsertRun_of_open {old : StoredRun}
    (h : store.run? result.generation result.backend = some old) (hopen : old.handled = false) :
    (store.upsertRun result).runs =
      (store.runs.filter fun row => !row.isAt result.generation result.backend) ++
        [.ofResult result] := by
  rw [upsertRun, h]
  dsimp only
  rw [if_neg (by simp [hopen])]
  rfl

/-- A result goes under its own key, unless there is a handled one. -/
theorem run?_upsertRun (store : Store) (result : RunResult) (generation backend : String) :
    (store.upsertRun result).run? generation backend =
      if result.generation = generation ∧ result.backend = backend then
        some (.overwritten result (store.run? generation backend))
      else store.run? generation backend := by
  change (store.upsertRun result).runs.find? (StoredRun.isAt generation backend) = _
  cases h : store.run? result.generation result.backend with
  | none =>
      rw [runs_upsertRun_of_none h, find?_append_ofResult]
      change (store.run? generation backend).or _ = _
      by_cases hown : result.generation = generation ∧ result.backend = backend
      · rw [if_pos hown, if_pos hown, ← hown.1, ← hown.2, h]
        rfl
      · rw [if_neg hown, if_neg hown, Option.or_none]
  | some old =>
      cases hhandled : old.handled with
      | true =>
          rw [upsertRun_of_handled h hhandled]
          change store.run? generation backend = _
          by_cases hown : result.generation = generation ∧ result.backend = backend
          · rw [if_pos hown, ← hown.1, ← hown.2, h, StoredRun.overwritten, if_pos hhandled]
          · rw [if_neg hown]
      | false =>
          rw [runs_upsertRun_of_open h hhandled, find?_append_ofResult, find?_filter_not_isAt]
          by_cases hown : result.generation = generation ∧ result.backend = backend
          · rw [if_pos hown, if_pos hown, if_pos hown, ← hown.1, ← hown.2, h,
              StoredRun.overwritten, if_neg (by simp [hhandled])]
            rfl
          · rw [if_neg hown, if_neg hown, if_neg hown, Option.or_none]
            rfl

theorem mem_runs_upsertRun {result : RunResult} {row : StoredRun}
    (h : row ∈ (store.upsertRun result).runs) :
    row ∈ store.runs ∨ row = .ofResult result := by
  cases hold : store.run? result.generation result.backend with
  | none =>
      rw [runs_upsertRun_of_none hold, List.mem_append, List.mem_singleton] at h
      exact h
  | some old =>
      cases hhandled : old.handled with
      | true =>
          rw [upsertRun_of_handled hold hhandled] at h
          exact Or.inl h
      | false =>
          rw [runs_upsertRun_of_open hold hhandled, List.mem_append,
            List.mem_singleton] at h
          exact h.imp_left List.mem_of_mem_filter

theorem insertByBackend_perm (row : StoredRun) (rows : List StoredRun) :
    (insertByBackend row rows).Perm (row :: rows) := by
  induction rows with
  | nil => exact List.Perm.refl _
  | cons head rest ih =>
      unfold insertByBackend
      split
      · exact List.Perm.refl _
      · exact (ih.cons head).trans (List.Perm.swap row head rest)

theorem runsOf_perm (store : Store) (generation : String) :
    (store.runsOf generation).Perm (store.runs.filter (·.generation == generation)) := by
  unfold runsOf
  induction store.runs.filter (·.generation == generation) with
  | nil => exact List.Perm.refl _
  | cons row rows ih => exact (insertByBackend_perm row _).trans (ih.cons row)

theorem mem_runsOf_iff {row : StoredRun} :
    row ∈ store.runsOf generation ↔ row ∈ store.runs ∧ row.generation = generation := by
  rw [(store.runsOf_perm generation).mem_iff, List.mem_filter, beq_iff_eq]

theorem recordVerification_flipped (store : Store) (verification : Verification) :
    (store.recordVerification verification).1 =
      (latch (·.generation == verification.generation) (·.handled) StoredRun.close
        store.runs).1 := by
  unfold recordVerification
  dsimp only
  split
  · next hflipped => exact hflipped.symm
  · next hnot => exact (Bool.eq_false_iff.2 hnot).symm

theorem recordVerification_flipped_iff :
    (store.recordVerification verification).1 = true ↔
      ∃ row ∈ store.runs, row.generation = verification.generation ∧ row.handled = false := by
  rw [recordVerification_flipped, latch_flipped_iff]
  simp only [beq_iff_eq]

theorem recordVerification_of_not_flipped (h : (store.recordVerification verification).1 = false) :
    (store.recordVerification verification).2 = store := by
  revert h
  unfold recordVerification
  dsimp only
  split
  · rintro ⟨⟩
  · exact fun _ => rfl

theorem recordVerification_of_flipped (h : (store.recordVerification verification).1 = true) :
    (store.recordVerification verification).2 =
      { store with
        runs := (latch (·.generation == verification.generation) (·.handled) StoredRun.close
          store.runs).2
        verifications :=
          if (store.verification? verification.generation).isSome then store.verifications
          else store.verifications ++ [.ofVerification verification] } := by
  revert h
  unfold recordVerification
  dsimp only
  split
  · exact fun _ => rfl
  · rintro ⟨⟩

/-- Recording a verification closes the rows of its candidate and leaves the others. -/
theorem run?_recordVerification (store : Store) (verification : Verification)
    (generation backend : String) :
    (store.recordVerification verification).2.run? generation backend =
      (store.run? generation backend).map fun row =>
        if row.generation = verification.generation then row.close else row := by
  have hclosed : (latch (·.generation == verification.generation) (·.handled) StoredRun.close
      store.runs).2.find? (StoredRun.isAt generation backend) =
        (store.run? generation backend).map fun row =>
          if row.generation = verification.generation then row.close else row := by
    have hkey : ∀ row : StoredRun,
        row.close.isAt generation backend = row.isAt generation backend := fun _ => rfl
    rw [find?_latch hkey]
    refine congrArg (fun f => Option.map f (store.run? generation backend)) ?_
    funext row
    cases hhandled : row.handled with
    | false => simp
    | true =>
        have hclose : row.close = row := by
          rw [StoredRun.close, ← hhandled]
        simp [hclose]
  cases hflipped : (store.recordVerification verification).1 with
  | true =>
      rw [recordVerification_of_flipped hflipped]
      exact hclosed
  | false =>
      rw [recordVerification_flipped] at hflipped
      rw [latch_of_not_flipped hflipped] at hclosed
      rw [recordVerification_of_not_flipped (recordVerification_flipped store _ ▸ hflipped)]
      exact hclosed

/-! ### Verifications -/

/-- The first verification of a candidate stays, whatever is recorded later. -/
theorem verification?_recordVerification (store : Store) (verification : Verification)
    (generation : String) :
    (store.recordVerification verification).2.verification? generation =
      if (store.recordVerification verification).1 ∧ verification.generation = generation then
        some ((store.verification? generation).getD (.ofVerification verification))
      else store.verification? generation := by
  cases hflipped : (store.recordVerification verification).1 with
  | false => rw [recordVerification_of_not_flipped hflipped, if_neg (by simp)]
  | true =>
      simp only [true_and]
      rw [recordVerification_of_flipped hflipped]
      cases h : store.verification? verification.generation with
      | some row =>
          change store.verification? generation = _
          split
          · next heq => rw [← heq, h, Option.getD_some]
          · rfl
      | none =>
          refine List.find?_append.trans ?_
          rw [List.find?_singleton]
          change (store.verification? generation).or _ = _
          by_cases heq : verification.generation = generation
          · subst heq
            simp [h, StoredVerification.ofVerification]
          · simp [heq, StoredVerification.ofVerification]

theorem verification?_markDiscrepancyLogged (store : Store) (logged generation : String) :
    (store.markDiscrepancyLogged logged).2.verification? generation =
      (store.verification? generation).map fun row =>
        if row.generation = logged then row.log else row := by
  have hkey : ∀ row : StoredVerification,
      (row.log.generation == generation) = (row.generation == generation) := fun _ => rfl
  refine (find?_latch hkey).trans ?_
  refine congrArg (fun f => Option.map f (store.verification? generation)) ?_
  funext row
  cases hlogged : row.logged with
  | false => simp [StoredVerification.log]
  | true =>
      have hlog : row.log = row := by
        rw [StoredVerification.log, ← hlogged]
      simp [hlog]

/-- Recording changes no more of a result than its flag. -/
theorem mem_runs_recordVerification {row : StoredRun}
    (h : row ∈ (store.recordVerification verification).2.runs) :
    row ∈ store.runs ∨ ∃ old ∈ store.runs, row = old.close := by
  cases hflipped : (store.recordVerification verification).1 with
  | false =>
      rw [recordVerification_of_not_flipped hflipped] at h
      exact Or.inl h
  | true =>
      rw [recordVerification_of_flipped hflipped] at h
      exact mem_latch h

theorem mem_verifications_recordVerification {row : StoredVerification}
    (h : row ∈ (store.recordVerification verification).2.verifications) :
    row ∈ store.verifications ∨ row = .ofVerification verification := by
  cases hflipped : (store.recordVerification verification).1 with
  | false =>
      rw [recordVerification_of_not_flipped hflipped] at h
      exact Or.inl h
  | true =>
      rw [recordVerification_of_flipped hflipped] at h
      dsimp only at h
      split at h
      · exact Or.inl h
      · rwa [List.mem_append, List.mem_singleton] at h

/-- A candidate that is verified is not verified again. -/
theorem nodup_recordVerification (h : (store.verifications.map (·.generation)).Nodup)
    (verification : Verification) :
    ((store.recordVerification verification).2.verifications.map (·.generation)).Nodup := by
  cases hflipped : (store.recordVerification verification).1 with
  | false => rwa [recordVerification_of_not_flipped hflipped]
  | true =>
      rw [recordVerification_of_flipped hflipped]
      dsimp only
      split
      · exact h
      · next hnone =>
          rw [List.map_append, List.map_singleton]
          refine List.nodup_append'.2 ⟨h, List.nodup_singleton _, ?_⟩
          rw [List.disjoint_singleton]
          intro hmem
          obtain ⟨old, hold, heq⟩ := List.mem_map.1 hmem
          refine hnone (List.find?_isSome.2 ⟨old, hold, ?_⟩)
          exact beq_iff_eq.2 heq

theorem verifications_upsertRun (store : Store) (result : RunResult) :
    (store.upsertRun result).verifications = store.verifications := by
  unfold upsertRun
  split
  · split <;> rfl
  · rfl

theorem generations_upsertRun (store : Store) (result : RunResult) :
    (store.upsertRun result).generations = store.generations := by
  unfold upsertRun
  split
  · split <;> rfl
  · rfl

theorem generations_recordVerification (store : Store) (verification : Verification) :
    (store.recordVerification verification).2.generations = store.generations := by
  cases hflipped : (store.recordVerification verification).1 with
  | false => rw [recordVerification_of_not_flipped hflipped]
  | true => rw [recordVerification_of_flipped hflipped]

end Store

end Concord
