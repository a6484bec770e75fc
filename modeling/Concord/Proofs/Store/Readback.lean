import Mathlib
import Concord.Proofs.Legible
import Concord.Proofs.Recorded

/-!
# What a store gives back

A document is a text, and loading fails for all results of a candidate if one of its documents
cannot be read. So everything that is kept is given back exactly if every document alone reads as
the record that was written.
-/

namespace Concord.Store

/-! ### Where documents come from -/

section Documents

variable {store : Store} {operations : List Operation}

theorem mem_runs_perform {operation : Operation} {row : StoredRun}
    (h : row ∈ (store.perform operation).runs) :
    (∃ old ∈ store.runs, old.key = row.key ∧ old.document = row.document) ∨
      ∃ result, operation = .upsertRun result ∧ row = .ofResult result := by
  cases operation with
  | insertGeneration generation =>
      rw [(runs_insertGeneration store generation).1] at h
      exact Or.inl ⟨row, h, rfl, rfl⟩
  | upsertRun result =>
      rcases mem_runs_upsertRun h with hrow | hrow
      · exact Or.inl ⟨row, hrow, rfl, rfl⟩
      · exact Or.inr ⟨result, rfl, hrow⟩
  | recordVerification verification =>
      rcases mem_runs_recordVerification h with hrow | ⟨old, hold, rfl⟩
      · exact Or.inl ⟨row, hrow, rfl, rfl⟩
      · exact Or.inl ⟨old, hold, rfl, rfl⟩
  | _ => exact Or.inl ⟨row, h, rfl, rfl⟩

theorem mem_verifications_perform {operation : Operation} {row : StoredVerification}
    (h : row ∈ (store.perform operation).verifications) :
    (∃ old ∈ store.verifications, row = old ∨ row = old.log) ∨
      ∃ verification, operation = .recordVerification verification ∧
        row = .ofVerification verification := by
  cases operation with
  | insertGeneration generation =>
      rw [(runs_insertGeneration store generation).2] at h
      exact Or.inl ⟨row, h, Or.inl rfl⟩
  | upsertRun result =>
      exact Or.inl ⟨row, verifications_upsertRun store result ▸ h, Or.inl rfl⟩
  | recordVerification verification =>
      rcases mem_verifications_recordVerification h with hrow | hrow
      · exact Or.inl ⟨row, hrow, Or.inl rfl⟩
      · exact Or.inr ⟨verification, rfl, hrow⟩
  | markDiscrepancyLogged generation =>
      rcases mem_latch h with hrow | ⟨old, hold, heq⟩
      · exact Or.inl ⟨row, hrow, Or.inl rfl⟩
      · exact Or.inl ⟨old, hold, Or.inr heq⟩
  | _ => exact Or.inl ⟨row, h, Or.inl rfl⟩

/-- The document of a result is the text of one that was written under its key. -/
theorem exists_upsertRun_of_mem {row : StoredRun} (h : row ∈ (after operations).runs) :
    ∃ result, .upsertRun result ∈ operations ∧ row.key = (result.generation, result.backend) ∧
      row.document = result.encode.text := by
  induction operations using List.reverseRecOn generalizing row with
  | nil => cases h
  | append_singleton before operation ih =>
      rw [after_concat] at h
      rcases mem_runs_perform h with ⟨old, hold, hkey, hdocument⟩ | ⟨result, rfl, rfl⟩
      · obtain ⟨result, hmem, hresult, hwritten⟩ := ih hold
        exact ⟨result, List.mem_append_left _ hmem, hkey ▸ hresult, hdocument ▸ hwritten⟩
      · exact ⟨result, List.mem_append_right _ List.mem_cons_self, rfl, rfl⟩

/-- The document of a verification is the text of one that was recorded. -/
theorem exists_recordVerification_of_mem {row : StoredVerification}
    (h : row ∈ (after operations).verifications) :
    ∃ verification, .recordVerification verification ∈ operations ∧
      row.generation = verification.generation ∧ row.document = verification.encode.text ∧
      row.hasDiscrepancy = verification.hasDiscrepancy := by
  induction operations using List.reverseRecOn generalizing row with
  | nil => cases h
  | append_singleton before operation ih =>
      rw [after_concat] at h
      rcases mem_verifications_perform h with ⟨old, hold, hrow⟩ | ⟨verification, rfl, rfl⟩
      · obtain ⟨verification, hmem, hgeneration, hdocument, hdiscrepancy⟩ := ih hold
        refine ⟨verification, List.mem_append_left _ hmem, ?_⟩
        rcases hrow with rfl | rfl
        · exact ⟨hgeneration, hdocument, hdiscrepancy⟩
        · exact ⟨hgeneration, hdocument, hdiscrepancy⟩
      · exact ⟨verification, List.mem_append_right _ List.mem_cons_self, rfl, rfl, rfl⟩

theorem verification?_of_mem {row : StoredVerification}
    (h : row ∈ (after operations).verifications) :
    (after operations).verification? row.generation = some row :=
  find?_of_nodup (nodup_verifications operations) h (beq_self_eq_true _)
    fun _ hother => beq_iff_eq.1 hother

end Documents

/-! ### What is kept and what is given back -/

/-- The result was written, and its text stands under its key. -/
structure KeepsRun (operations : List Operation) (result : RunResult) : Prop where
  written : .upsertRun result ∈ operations
  stands : ∃ row, (after operations).run? result.generation result.backend = some row ∧
    row.document = result.encode.text

/-- The verification was recorded, and its text stands under its candidate. -/
structure KeepsVerification (operations : List Operation) (verification : Verification) :
    Prop where
  written : .recordVerification verification ∈ operations
  stands : ∃ row, (after operations).verification? verification.generation = some row ∧
    row.document = verification.encode.text

variable (store : Store)

/-- The results of the candidate are loaded, and this one is among them but for its flag. -/
def ReturnsRun (result : RunResult) : Prop :=
  ∃ results, store.loadRuns result.generation = .ok results ∧
    ∃ found ∈ results, { found with isHandled := result.isHandled } = result

/-- The verification of the candidate is loaded, and is this one but for its flag. -/
def ReturnsVerification (verification : Verification) : Prop :=
  ∃ found, store.loadVerification verification.generation = .ok (some found) ∧
    { found with loggedToFile := verification.loggedToFile } = verification

/-- If the verification has a discrepancy that is not logged, it is among those that are listed. -/
def ListsVerification (verification : Verification) : Prop :=
  ∀ row, store.verification? verification.generation = some row → row.logged = false →
    verification.hasDiscrepancy = true →
      ∃ listed, store.unloggedDiscrepancies = .ok listed ∧
        ∃ found ∈ listed, { found with loggedToFile := verification.loggedToFile } = verification

/-- Everything that is kept is given back. -/
structure ReadsBack (operations : List Operation) : Prop where
  runs : ∀ result, KeepsRun operations result → (after operations).ReturnsRun result
  verifications : ∀ verification, KeepsVerification operations verification →
    (after operations).ReturnsVerification verification ∧
      (after operations).ListsVerification verification

/-! ### Results -/

variable {store} {operations : List Operation}

theorem durable_of_returnsRun {result : RunResult} (hkept : KeepsRun operations result)
    (h : (after operations).ReturnsRun result) : result.Durable := by
  obtain ⟨row, hrow, hdocument⟩ := hkept.stands
  obtain ⟨results, hload, found, hfound, heq⟩ := h
  obtain ⟨other, hother, hdecode, -⟩ :=
    (sound_after operations).exists_run?_of_mem_loadRuns hload hfound
  have hgeneration : found.generation = result.generation := by rw [← heq]
  have hbackend : found.backend = result.backend := by rw [← heq]
  rw [hgeneration, hbackend, hrow] at hother
  obtain rfl := Option.some.inj hother
  obtain ⟨read, hread, rfl⟩ := decodeRun_eq_ok_iff.1 hdecode
  rw [hdocument] at hread
  -- the flag in the text is that of the result
  have hflag := (RunResult.read?_encode_eq_some_iff.1 hread).2.2.2
  have hsame : read = result := by
    rw [← heq, hflag]
  rwa [hsame, RunResult.read?_encode_self_iff] at hread

theorem exists_loadRuns_eq_ok (h : ∀ result, KeepsRun operations result → result.Durable)
    (generation : String) : ∃ results, (after operations).loadRuns generation = .ok results := by
  refine exists_mapM_eq_ok fun row hrow => ?_
  obtain ⟨hrow, -⟩ := mem_runsOf_iff.1 hrow
  obtain ⟨result, hwritten, hkey, hdocument⟩ := exists_upsertRun_of_mem hrow
  obtain ⟨hgeneration, hbackend⟩ := Prod.mk.inj hkey
  have hfound := (sound_after operations).run?_of_mem hrow
  rw [hgeneration, hbackend] at hfound
  exact ⟨_, decodeRun_of_document (h result ⟨hwritten, row, hfound, hdocument⟩) hdocument⟩

theorem returnsRun_of_durable (h : ∀ result, KeepsRun operations result → result.Durable)
    {result : RunResult} (hkept : KeepsRun operations result) :
    (after operations).ReturnsRun result := by
  obtain ⟨results, hload⟩ := exists_loadRuns_eq_ok h result.generation
  obtain ⟨row, hrow, hdocument⟩ := hkept.stands
  have hdecode := decodeRun_of_document (h result hkept) hdocument
  refine ⟨results, hload, _, (mem_loadRuns_iff hload).2 ⟨row, List.mem_of_find?_eq_some hrow,
    (run?_eq_some_key hrow).1, hdecode⟩, rfl⟩

/-! ### Verifications -/

theorem decodeVerification_eq_ok_iff {row : StoredVerification} {verification : Verification} :
    decodeVerification row = .ok verification ↔
      ∃ read, Verification.decoder.read? row.document = some read ∧
        { read with loggedToFile := row.logged } = verification := by
  unfold decodeVerification decode
  cases Verification.decoder.read? row.document with
  | none => simp
  | some read => simp

theorem loadVerification_eq_ok_some_iff {generation : String} {verification : Verification} :
    store.loadVerification generation = .ok (some verification) ↔
      ∃ row, store.verification? generation = some row ∧
        decodeVerification row = .ok verification := by
  unfold loadVerification
  cases store.verification? generation with
  | none => simp
  | some row => cases h : decodeVerification row <;> simp [h]

theorem durable_of_returnsVerification {verification : Verification}
    (hkept : KeepsVerification operations verification)
    (h : (after operations).ReturnsVerification verification) : verification.Durable := by
  obtain ⟨row, hrow, hdocument⟩ := hkept.stands
  obtain ⟨found, hload, heq⟩ := h
  obtain ⟨other, hother, hdecode⟩ := loadVerification_eq_ok_some_iff.1 hload
  obtain rfl := Option.some.inj (hrow.symm.trans hother)
  obtain ⟨read, hread, rfl⟩ := decodeVerification_eq_ok_iff.1 hdecode
  rw [hdocument] at hread
  -- the flag that is read is the one that was written
  have hflag := (Verification.read?_encode_eq_some_iff.1 hread).2.2.2
  have hsame : read = verification := by
    rw [← heq, hflag]
  rwa [hsame, Verification.read?_encode_self_iff] at hread

theorem decodeVerification_of_document {row : StoredVerification} {verification : Verification}
    (hdurable : verification.Durable) (hdocument : row.document = verification.encode.text) :
    decodeVerification row = .ok { verification with loggedToFile := row.logged } :=
  decodeVerification_eq_ok_iff.2
    ⟨verification, hdocument ▸ Verification.read?_encode hdurable, rfl⟩

theorem returnsVerification_of_durable {verification : Verification}
    (hdurable : verification.Durable) (hkept : KeepsVerification operations verification) :
    (after operations).ReturnsVerification verification := by
  obtain ⟨row, hrow, hdocument⟩ := hkept.stands
  exact ⟨_, loadVerification_eq_ok_some_iff.2
    ⟨row, hrow, decodeVerification_of_document hdurable hdocument⟩, rfl⟩

theorem exists_unloggedDiscrepancies_eq_ok
    (h : ∀ verification, KeepsVerification operations verification → verification.Durable) :
    ∃ listed, (after operations).unloggedDiscrepancies = .ok listed := by
  refine exists_mapM_eq_ok fun row hrow => ?_
  have hmem := List.mem_of_mem_filter hrow
  obtain ⟨verification, hwritten, hgeneration, hdocument, -⟩ := exists_recordVerification_of_mem hmem
  have hfound := verification?_of_mem hmem
  rw [hgeneration] at hfound
  exact ⟨_, decodeVerification_of_document (h verification ⟨hwritten, row, hfound, hdocument⟩)
    hdocument⟩

theorem listsVerification_of_durable
    (h : ∀ verification, KeepsVerification operations verification → verification.Durable)
    {verification : Verification} (hkept : KeepsVerification operations verification) :
    (after operations).ListsVerification verification := by
  intro row hrow hlogged hdiscrepancy
  obtain ⟨listed, hlisted⟩ := exists_unloggedDiscrepancies_eq_ok h
  obtain ⟨standing, hstanding, hdocument⟩ := hkept.stands
  obtain rfl := Option.some.inj (hrow.symm.trans hstanding)
  have hdurable := h verification hkept
  have hmem := List.mem_of_find?_eq_some hrow
  -- whatever was recorded with this text is the verification itself
  obtain ⟨other, hwritten, hgeneration, htext, hother⟩ := exists_recordVerification_of_mem hmem
  have hsame : other = verification := by
    have hkey : row.generation = verification.generation := by simpa using List.find?_some hrow
    have hotherKept : KeepsVerification operations other :=
      ⟨hwritten, row, by rwa [← hgeneration, hkey], htext⟩
    have hread := Verification.read?_encode (h other hotherKept)
    rw [← htext, hdocument, Verification.read?_encode hdurable] at hread
    exact (Option.some.inj hread).symm
  have hopen : row ∈ (after operations).verifications.filter
      fun row => row.hasDiscrepancy && !row.logged := by
    rw [List.mem_filter]
    exact ⟨hmem, by rw [hother, hsame, hdiscrepancy, hlogged]; rfl⟩
  refine ⟨listed, hlisted, _, (mem_mapM_iff hlisted).2 ⟨row, hopen,
    decodeVerification_of_document hdurable hdocument⟩, rfl⟩

/-- **Everything kept is given back exactly if everything kept is durable.** -/
theorem readsBack_iff_durable (operations : List Operation) :
    ReadsBack operations ↔
      (∀ result, KeepsRun operations result → result.Durable) ∧
        ∀ verification, KeepsVerification operations verification → verification.Durable := by
  constructor
  · intro h
    exact ⟨fun result hkept => durable_of_returnsRun hkept (h.runs result hkept),
      fun verification hkept => durable_of_returnsVerification hkept
        (h.verifications verification hkept).1⟩
  · rintro ⟨hruns, hverifications⟩
    refine ⟨fun result hkept => returnsRun_of_durable hruns hkept, fun verification hkept => ?_⟩
    exact ⟨returnsVerification_of_durable (hverifications verification hkept) hkept,
      listsVerification_of_durable hverifications hkept⟩

end Concord.Store
