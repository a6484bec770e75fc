import Mathlib
import Concord.Proofs.Store.Rows

/-!
# Histories of a store

A history is a list of writes to a store that was empty. What is handled stays as it is, what is
verified stays verified, and a candidate is verified exactly if one of its results is handled.
-/

namespace Concord.Store

/-- The writes of a store. -/
inductive Operation where
  | insertGeneration (generation : Generation)
  | markEnqueued (id : String)
  | markCrashLogged (id : String)
  | upsertRun (result : RunResult)
  | recordVerification (verification : Verification)
  | markDiscrepancyLogged (generation : String)

/-- The store after a write. A candidate that is there already is refused. -/
def perform (store : Store) : Operation → Store
  | .insertGeneration generation =>
      match store.insertGeneration generation with
      | .ok (_, store) => store
      | .error _ => store
  | .markEnqueued id => (store.markEnqueued id).2
  | .markCrashLogged id => (store.markCrashLogged id).2
  | .upsertRun result => store.upsertRun result
  | .recordVerification verification => (store.recordVerification verification).2
  | .markDiscrepancyLogged generation => (store.markDiscrepancyLogged generation).2

/-- The store after writes to this one. -/
def performAll (store : Store) (operations : List Operation) : Store :=
  operations.foldl perform store

/-- The store after writes to an empty one. -/
def after (operations : List Operation) : Store :=
  performAll {} operations

theorem after_append (before rest : List Operation) :
    after (before ++ rest) = (after before).performAll rest :=
  List.foldl_append

theorem after_concat (before : List Operation) (operation : Operation) :
    after (before ++ [operation]) = (after before).perform operation :=
  after_append before [operation]

/-! ### Writes that concern neither runs nor verifications -/

theorem runs_insertGeneration (store : Store) (generation : Generation) :
    (store.perform (.insertGeneration generation)).runs = store.runs ∧
      (store.perform (.insertGeneration generation)).verifications = store.verifications := by
  unfold perform
  dsimp only
  unfold insertGeneration
  split
  · next h =>
      split at h
      · cases h
      · cases h
        exact ⟨rfl, rfl⟩
  · exact ⟨rfl, rfl⟩

/-! ### Steps -/

variable {store : Store} {generation backend : String}

/-- What is found under the key of a run after a write. -/
theorem run?_perform (store : Store) (operation : Operation) (generation backend : String) :
    (store.perform operation).run? generation backend =
      match operation with
      | .upsertRun result =>
          if result.generation = generation ∧ result.backend = backend then
            some (.overwritten result (store.run? generation backend))
          else store.run? generation backend
      | .recordVerification verification =>
          (store.run? generation backend).map fun row =>
            if row.generation = verification.generation then row.close else row
      | _ => store.run? generation backend := by
  cases operation with
  | insertGeneration inserted => rw [run?, (runs_insertGeneration store inserted).1, run?]
  | markEnqueued id => rfl
  | markCrashLogged id => rfl
  | upsertRun result => exact run?_upsertRun store result generation backend
  | recordVerification verification =>
      exact run?_recordVerification store verification generation backend
  | markDiscrepancyLogged logged => rfl

/-- What is found as the verification of a candidate after a write. -/
theorem verification?_perform (store : Store) (operation : Operation) (generation : String) :
    (store.perform operation).verification? generation =
      match operation with
      | .recordVerification verification =>
          if (store.recordVerification verification).1 ∧ verification.generation = generation then
            some ((store.verification? generation).getD (.ofVerification verification))
          else store.verification? generation
      | .markDiscrepancyLogged logged =>
          (store.verification? generation).map fun row =>
            if row.generation = logged then row.log else row
      | _ => store.verification? generation := by
  cases operation with
  | insertGeneration inserted =>
      rw [verification?, (runs_insertGeneration store inserted).2, verification?]
  | markEnqueued id => rfl
  | markCrashLogged id => rfl
  | upsertRun result =>
      exact congrArg (List.find? (·.generation == generation)) (verifications_upsertRun store result)
  | recordVerification verification =>
      exact verification?_recordVerification store verification generation
  | markDiscrepancyLogged logged =>
      exact verification?_markDiscrepancyLogged store logged generation

theorem run?_perform_isSome (operation : Operation)
    (h : (store.run? generation backend).isSome) :
    ((store.perform operation).run? generation backend).isSome := by
  rw [run?_perform]
  cases operation with
  | upsertRun result =>
      dsimp only
      split
      · rfl
      · exact h
  | recordVerification verification => rwa [Option.isSome_map]
  | _ => exact h

/-- **A handled row never changes.** -/
theorem run?_perform_of_handled {row : StoredRun} (operation : Operation)
    (h : store.run? generation backend = some row) (hhandled : row.handled = true) :
    (store.perform operation).run? generation backend = some row := by
  rw [run?_perform]
  cases operation with
  | upsertRun result =>
      dsimp only
      split
      · rw [h, StoredRun.overwritten, if_pos hhandled]
      · exact h
  | recordVerification verification =>
      have hclose : row.close = row := by
        rw [StoredRun.close, ← hhandled]
      dsimp only
      rw [h, Option.map_some, hclose, ite_self]
  | _ => exact h

/-- A verification stays, but for its flag. -/
theorem verification?_perform_of_some {row : StoredVerification} (operation : Operation)
    (h : store.verification? generation = some row) :
    (store.perform operation).verification? generation = some row ∨
      (store.perform operation).verification? generation = some row.log := by
  rw [verification?_perform]
  cases operation with
  | recordVerification verification =>
      dsimp only
      rw [h, Option.getD_some, ite_self]
      exact Or.inl rfl
  | markDiscrepancyLogged logged =>
      dsimp only
      rw [h, Option.map_some]
      split
      · exact Or.inr rfl
      · exact Or.inl rfl
  | _ => exact Or.inl h

/-- A row becomes handled only as a verification of its candidate is recorded. -/
theorem exists_recordVerification_of_handled {row : StoredRun} {operation : Operation}
    (h : (store.perform operation).run? generation backend = some row) (hhandled : row.handled)
    (hopen : ∀ old, store.run? generation backend = some old → old.handled = false) :
    ∃ verification, operation = .recordVerification verification ∧
      verification.generation = generation ∧ (store.recordVerification verification).1 = true := by
  rw [run?_perform] at h
  cases operation with
  | upsertRun result =>
      dsimp only at h
      split at h
      · obtain rfl := Option.some.inj h
        cases hold : store.run? generation backend with
        | none =>
            rw [hold, StoredRun.overwritten] at hhandled
            cases hhandled
        | some old =>
            rw [hold, StoredRun.overwritten, if_neg (by simp [hopen old hold])] at hhandled
            cases hhandled
      · exact absurd hhandled (by simp [hopen row h])
  | recordVerification verification =>
      obtain ⟨old, hold, hrow⟩ := Option.map_eq_some_iff.1 h
      obtain ⟨hgeneration, -⟩ := run?_eq_some_key hold
      split at hrow
      · next heq =>
          refine ⟨verification, rfl, heq.symm.trans hgeneration, ?_⟩
          rw [recordVerification_flipped_iff]
          exact ⟨old, List.mem_of_find?_eq_some hold, heq, hopen old hold⟩
      · subst hrow
        exact absurd hhandled (by simp [hopen old hold])
  | _ => exact absurd hhandled (by simp [hopen row h])

/-- A verification appears only as it is recorded and an open row is closed. -/
theorem exists_recordVerification_of_verification? {row : StoredVerification}
    {operation : Operation} (h : (store.perform operation).verification? generation = some row)
    (hnone : store.verification? generation = none) :
    ∃ verification, operation = .recordVerification verification ∧
      verification.generation = generation ∧ (store.recordVerification verification).1 = true ∧
      row = .ofVerification verification := by
  rw [verification?_perform] at h
  cases operation with
  | recordVerification verification =>
      dsimp only at h
      split at h
      · next hwins =>
          rw [hnone, Option.getD_none] at h
          exact ⟨verification, rfl, hwins.2, hwins.1, (Option.some.inj h).symm⟩
      · rw [hnone] at h
        cases h
  | markDiscrepancyLogged logged =>
      dsimp only at h
      rw [hnone] at h
      cases h
  | _ =>
      rw [hnone] at h
      cases h

/-! ### One row for each key -/

/-- Every result has a row of its own that holds its text. -/
structure Sound (store : Store) : Prop where
  runs_nodup : (store.runs.map StoredRun.key).Nodup
  runs_written : ∀ row ∈ store.runs, ∃ result : RunResult,
    row.key = (result.generation, result.backend) ∧ row.document = result.encode.text

theorem Sound.run?_of_mem (hsound : store.Sound) {row : StoredRun} (h : row ∈ store.runs) :
    store.run? row.generation row.backend = some row :=
  find?_of_nodup hsound.runs_nodup h (StoredRun.isAt_iff.2 ⟨rfl, rfl⟩)
    fun _ hother => Prod.ext_iff.2 (StoredRun.isAt_iff.1 hother)

/-- Appending a result whose key is new keeps one row for each key. -/
theorem sound_of_runs_append {rows : List StoredRun} {result : RunResult}
    (hruns : store.runs = rows ++ [.ofResult result])
    (hnodup : (rows.map StoredRun.key).Nodup)
    (hwritten : ∀ row ∈ rows, ∃ result : RunResult,
      row.key = (result.generation, result.backend) ∧ row.document = result.encode.text)
    (hnew : ∀ row ∈ rows, row.isAt result.generation result.backend = false) :
    store.Sound where
  runs_nodup := by
    rw [hruns, List.map_append, List.map_singleton]
    refine List.nodup_append'.2 ⟨hnodup, List.nodup_singleton _, ?_⟩
    rw [List.disjoint_singleton]
    intro hmem
    obtain ⟨row, hrow, hkey⟩ := List.mem_map.1 hmem
    refine absurd (hnew row hrow) ?_
    rw [Bool.not_eq_false, StoredRun.isAt_iff]
    exact Prod.ext_iff.1 hkey
  runs_written := by
    intro row hrow
    rw [hruns] at hrow
    rcases List.mem_append.1 hrow with hrow | hrow
    · exact hwritten row hrow
    · rw [List.mem_singleton.1 hrow]
      exact ⟨result, rfl, rfl⟩

theorem sound_upsertRun (hsound : store.Sound) (result : RunResult) :
    (store.upsertRun result).Sound := by
  cases h : store.run? result.generation result.backend with
  | none =>
      apply sound_of_runs_append (runs_upsertRun_of_none h) hsound.runs_nodup hsound.runs_written
      intro row hrow
      exact Bool.eq_false_iff.2 (List.find?_eq_none.1 h row hrow)
  | some old =>
      cases hhandled : old.handled with
      | true => rwa [upsertRun_of_handled h hhandled]
      | false =>
          apply sound_of_runs_append (runs_upsertRun_of_open h hhandled)
          · exact hsound.runs_nodup.sublist (List.filter_sublist.map _)
          · intro row hrow
            exact hsound.runs_written row (List.mem_of_mem_filter hrow)
          · intro row hrow
            have hother := (List.mem_filter.1 hrow).2
            rwa [Bool.not_eq_true'] at hother

theorem sound_recordVerification (hsound : store.Sound) (verification : Verification) :
    (store.recordVerification verification).2.Sound := by
  cases hflipped : (store.recordVerification verification).1 with
  | false => rwa [recordVerification_of_not_flipped hflipped]
  | true =>
      rw [recordVerification_of_flipped hflipped]
      constructor
      · have hkey : ∀ row : StoredRun, row.close.key = row.key := fun _ => rfl
        exact (map_latch hkey).symm ▸ hsound.runs_nodup
      · intro row hrow
        rcases mem_latch hrow with hrow | ⟨old, hold, rfl⟩
        · exact hsound.runs_written row hrow
        · exact hsound.runs_written old hold

theorem sound_perform (hsound : store.Sound) (operation : Operation) :
    (store.perform operation).Sound := by
  cases operation with
  | upsertRun result => exact sound_upsertRun hsound result
  | recordVerification verification => exact sound_recordVerification hsound verification
  | insertGeneration generation =>
      have hruns := (runs_insertGeneration store generation).1
      exact ⟨hruns ▸ hsound.runs_nodup, hruns ▸ hsound.runs_written⟩
  | _ => exact ⟨hsound.runs_nodup, hsound.runs_written⟩

/-! ### Runs of writes -/

theorem run?_performAll_isSome (operations : List Operation)
    (h : (store.run? generation backend).isSome) :
    ((store.performAll operations).run? generation backend).isSome := by
  induction operations generalizing store with
  | nil => exact h
  | cons operation operations ih => exact ih (run?_perform_isSome operation h)

theorem run?_performAll_of_handled {row : StoredRun} (operations : List Operation)
    (h : store.run? generation backend = some row) (hhandled : row.handled = true) :
    (store.performAll operations).run? generation backend = some row := by
  induction operations generalizing store with
  | nil => exact h
  | cons operation operations ih => exact ih (run?_perform_of_handled operation h hhandled)

theorem verification?_performAll_of_some {row : StoredVerification} (operations : List Operation)
    (h : store.verification? generation = some row) :
    (store.performAll operations).verification? generation = some row ∨
      (store.performAll operations).verification? generation = some row.log := by
  induction operations generalizing store row with
  | nil => exact Or.inl h
  | cons operation operations ih =>
      rcases verification?_perform_of_some operation h with hstep | hstep
      · exact ih hstep
      · refine Or.inr ?_
        rcases ih hstep with hrest | hrest
        · exact hrest
        · exact hrest

theorem sound_after (operations : List Operation) : (after operations).Sound := by
  induction operations using List.reverseRecOn with
  | nil => exact ⟨List.nodup_nil, fun _ h => absurd h List.not_mem_nil⟩
  | append_singleton before operation ih =>
      rw [after_concat]
      exact sound_perform ih operation

/-- Every verification has a row of its own. -/
theorem nodup_verifications (operations : List Operation) :
    ((after operations).verifications.map (·.generation)).Nodup := by
  induction operations using List.reverseRecOn with
  | nil => exact List.nodup_nil
  | append_singleton before operation ih =>
      rw [after_concat]
      cases operation with
      | insertGeneration generation =>
          rwa [(runs_insertGeneration (after before) generation).2]
      | upsertRun result => exact (verifications_upsertRun (after before) result).symm ▸ ih
      | recordVerification verification => exact nodup_recordVerification ih verification
      | markDiscrepancyLogged generation =>
          have hgeneration : ∀ row : StoredVerification,
              row.log.generation = row.generation := fun _ => rfl
          exact (map_latch hgeneration).symm ▸ ih
      | _ => exact ih

/-! ### Recordings that win -/

/-- After these writes the recording of `verification` closes a row of its candidate. -/
def Wins (generation : String) (before : List Operation) (verification : Verification) : Prop :=
  verification.generation = generation ∧ ((after before).recordVerification verification).1 = true

/-- A row that has become handled was closed by a recording that won. -/
theorem exists_wins_of_handled {row : StoredRun} {before middle : List Operation}
    (h : (after (before ++ middle)).run? generation backend = some row)
    (hhandled : row.handled = true)
    (hopen : ∀ old, (after before).run? generation backend = some old → old.handled = false) :
    ∃ between verification rest, middle = between ++ .recordVerification verification :: rest ∧
      Wins generation (before ++ between) verification := by
  induction middle generalizing before with
  | nil =>
      rw [List.append_nil] at h
      exact absurd hhandled (by simp [hopen row h])
  | cons operation middle ih =>
      -- either the first write closed the row, or the row is open for the writes behind it
      by_cases hstep : ∃ closed, (after (before ++ [operation])).run? generation backend =
          some closed ∧ closed.handled = true
      · obtain ⟨closed, hclosed, hclosedHandled⟩ := hstep
        rw [after_concat] at hclosed
        obtain ⟨verification, rfl, hgeneration, hflipped⟩ :=
          exists_recordVerification_of_handled hclosed hclosedHandled hopen
        exact ⟨[], verification, middle, rfl, hgeneration, by rwa [List.append_nil]⟩
      · have hstill : ∀ old, (after (before ++ [operation])).run? generation backend = some old →
            old.handled = false := fun old hold => by
          by_contra hset
          exact hstep ⟨old, hold, Bool.eq_true_of_not_eq_false hset⟩
        rw [List.append_cons] at h
        obtain ⟨between, verification, rest, rfl, hwins⟩ := ih h hstill
        refine ⟨operation :: between, verification, rest, rfl, ?_⟩
        rwa [List.append_assoc] at hwins

/-- A verification that is kept was recorded by the first recording that won. -/
theorem exists_wins_of_verification? {row : StoredVerification} {operations : List Operation}
    (h : (after operations).verification? generation = some row) :
    ∃ before verification rest, operations = before ++ .recordVerification verification :: rest ∧
      Wins generation before verification ∧ (after before).verification? generation = none ∧
      (row = .ofVerification verification ∨ row = (StoredVerification.ofVerification verification).log) := by
  -- from the last write back: a verification that was there before it comes from an earlier one
  induction operations using List.reverseRecOn generalizing row with
  | nil => cases h
  | append_singleton before operation ih =>
      rw [after_concat] at h
      cases hold : (after before).verification? generation with
      | none =>
          obtain ⟨verification, rfl, hgeneration, hflipped, hrow⟩ :=
            exists_recordVerification_of_verification? h hold
          exact ⟨before, verification, [], rfl, ⟨hgeneration, hflipped⟩, hold, Or.inl hrow⟩
      | some old =>
          obtain ⟨first, verification, rest, rfl, hwins, hnone, hfirst⟩ := ih hold
          refine ⟨first, verification, rest ++ [operation], by simp, hwins, hnone, ?_⟩
          rcases verification?_perform_of_some operation hold with hstep | hstep
          · obtain rfl : old = row := Option.some.inj (hstep.symm.trans h)
            exact hfirst
          · obtain rfl : old.log = row := Option.some.inj (hstep.symm.trans h)
            refine Or.inr ?_
            rcases hfirst with rfl | rfl <;> rfl

/-- The recording that wins leaves a verification. -/
theorem verification?_isSome_of_wins {before : List Operation} {verification : Verification}
    (h : Wins generation before verification) :
    ((after (before ++ [.recordVerification verification])).verification? generation).isSome := by
  obtain ⟨hgeneration, hflipped⟩ := h
  rw [after_concat, verification?_perform]
  dsimp only
  rw [if_pos ⟨hflipped, hgeneration⟩]
  rfl

/-- The recording that wins closes every row of its candidate. -/
theorem handled_of_wins {row : StoredRun} {before : List Operation} {verification : Verification}
    (h : (after (before ++ [.recordVerification verification])).run? generation backend = some row)
    (hgeneration : verification.generation = generation) : row.handled = true := by
  rw [after_concat, run?_perform] at h
  obtain ⟨old, hold, rfl⟩ := Option.map_eq_some_iff.1 h
  rw [if_pos ((run?_eq_some_key hold).1.trans hgeneration.symm)]
  rfl

theorem exists_handled_of_wins {before : List Operation} {verification : Verification}
    (h : Wins generation before verification) :
    ∃ backend row, (after (before ++ [.recordVerification verification])).run? generation backend =
      some row ∧ row.handled = true := by
  obtain ⟨hgeneration, hflipped⟩ := h
  obtain ⟨row, hrow, hrowGeneration, -⟩ := recordVerification_flipped_iff.1 hflipped
  have hfound := (sound_after before).run?_of_mem hrow
  rw [hrowGeneration, hgeneration] at hfound
  have hclosed : (after (before ++ [.recordVerification verification])).run? generation row.backend =
      some row.close := by
    rw [after_concat, run?_perform]
    dsimp only
    rw [hfound, Option.map_some, if_pos hrowGeneration]
  exact ⟨row.backend, row.close, hclosed, rfl⟩

/-- **Verified means handled.** There is a verification of a candidate exactly if one of its rows is
handled. -/
theorem verification?_isSome_iff (operations : List Operation) (generation : String) :
    ((after operations).verification? generation).isSome ↔
      ∃ backend row, (after operations).run? generation backend = some row ∧ row.handled = true := by
  constructor
  · intro h
    obtain ⟨row, hrow⟩ := Option.isSome_iff_exists.1 h
    obtain ⟨before, verification, rest, rfl, hwins, -, -⟩ := exists_wins_of_verification? hrow
    obtain ⟨backend, row, hfound, hhandled⟩ := exists_handled_of_wins hwins
    refine ⟨backend, row, ?_, hhandled⟩
    rw [List.append_cons, after_append]
    exact run?_performAll_of_handled rest hfound hhandled
  · rintro ⟨backend, row, hfound, hhandled⟩
    have hfrom : (after ([] ++ operations)).run? generation backend = some row := hfound
    obtain ⟨before, verification, rest, rfl, hwins⟩ :=
      exists_wins_of_handled hfrom hhandled (by rintro old ⟨⟩)
    obtain ⟨kept, hkept⟩ := Option.isSome_iff_exists.1 (verification?_isSome_of_wins hwins)
    have hstays := verification?_performAll_of_some rest hkept
    rw [← after_append, ← List.append_cons] at hstays
    rcases hstays with hstays | hstays <;> exact Option.isSome_of_eq_some hstays

end Concord.Store
