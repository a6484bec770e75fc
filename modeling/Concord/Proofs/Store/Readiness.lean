import Mathlib
import Concord.Proofs.Comparison
import Concord.Proofs.Recorded
import Concord.Proofs.Store.Waiting

/-!
# Who is asked for and who can be verified

The query for candidates that are ready counts their open rows, the comparison looks a result up for
each backend. Both mean the same, and the query answers in the order of the last writes, as long as
no backend is named twice and all of them fit in one query.
-/

namespace Concord.Store

variable {store : Store} {backends : List String} {id : String} {results : List RunResult}
  {operations : List Operation} {operation : Operation}

/-- Each of the backends has a result of the candidate that is not handled. -/
def OpenFor (store : Store) (backends : List String) (id : String) : Prop :=
  ∀ backend ∈ backends, ∃ row, store.run? id backend = some row ∧ row.handled = false

/-! ### What can be verified -/

theorem Sound.isSome_resultOf?_unhandled_iff (hsound : store.Sound)
    (hload : store.loadRuns id = .ok results) (backend : String) :
    (Comparison.resultOf? id (results.filter fun result => !result.isHandled) backend).isSome ↔
      ∃ row, store.run? id backend = some row ∧ row.handled = false := by
  rw [hsound.isSome_resultOf?_iff hload]
  constructor
  · rintro ⟨row, result, hrow, hread, hopen⟩
    obtain ⟨read, -, rfl⟩ := decodeRun_eq_ok_iff.1 hread
    exact ⟨row, hrow, by simpa using hopen⟩
  · rintro ⟨row, hrow, hopen⟩
    obtain ⟨result, hread⟩ := exists_decodeRun_of_run? hload hrow
    obtain ⟨read, -, rfl⟩ := decodeRun_eq_ok_iff.1 hread
    exact ⟨row, _, hrow, hread, by simpa using hopen⟩

/-- What is not handled of a candidate can be compared exactly if each backend has such a result. -/
theorem Sound.isSome_verification?_unhandled_iff (hsound : store.Sound)
    (hload : store.loadRuns id = .ok results) (rule : Comparison) (backends : List String) :
    (rule.verification? id (results.filter fun result => !result.isHandled) backends).isSome ↔
      store.OpenFor backends id := by
  rw [Comparison.isSome_verification?_iff]
  exact forall₂_congr fun backend _ => hsound.isSome_resultOf?_unhandled_iff hload backend

/-! ### Backends that are named twice -/

/-- Rows are counted by backend, and no more backends are found than are named. -/
theorem Sound.length_openRuns_le (hsound : store.Sound) (backends : List String) (id : String) :
    ((store.openRuns backends).filter (·.generation == id)).length ≤ backends.dedup.length := by
  rw [← List.length_map (·.backend)]
  refine (List.subperm_of_subset hsound.nodup_openBackends fun backend hbackend => ?_).length_le
  obtain ⟨row, hrow, rfl⟩ := List.mem_map.1 hbackend
  have hcounts := (List.mem_filter.1 (List.mem_filter.1 hrow).1).2
  rw [List.mem_dedup]
  simpa using (Bool.and_eq_true_iff.1 hcounts).2

/-- A backend that is named twice is waited for in vain. -/
theorem Sound.waiting_of_repeated (hsound : store.Sound) (hrepeated : ¬backends.Nodup) :
    store.waiting backends = [] := by
  have hinhabited : backends ≠ [] := by
    rintro rfl
    exact hrepeated List.nodup_nil
  have hfewer : backends.dedup.length < backends.length := by
    refine (List.dedup_sublist backends).length_le.lt_of_ne fun hlength => hrepeated ?_
    exact List.dedup_eq_self.1 ((List.dedup_sublist backends).eq_of_length hlength)
  rw [waiting_eq hinhabited, List.filter_eq_nil_iff]
  intro id _
  rw [beq_iff_eq]
  exact ((hsound.length_openRuns_le backends id).trans_lt hfewer).ne

/-! ### The order of the last writes -/

/-- Every write under the key of `first` is followed by one under the key of `second`. -/
def WrittenBefore (operations : List Operation) (first second : StoredRun) : Prop :=
  ∀ before result rest, operations = before ++ .upsertRun result :: rest →
    (StoredRun.ofResult result).key = first.key →
      ∃ later, .upsertRun later ∈ rest ∧ (StoredRun.ofResult later).key = second.key

theorem writtenBefore_concat {first second : StoredRun}
    (hlast : ∀ result, operation = .upsertRun result →
      (StoredRun.ofResult result).key ≠ first.key)
    (h : WrittenBefore operations first second ∨
      ∃ later, operation = .upsertRun later ∧ (StoredRun.ofResult later).key = second.key) :
    WrittenBefore (operations ++ [operation]) first second := by
  intro before result rest hsplit hkey
  cases rest using List.reverseRecOn with
  | nil =>
      obtain ⟨-, hoperation⟩ := List.append_inj' hsplit rfl
      exact absurd hkey (hlast result (List.singleton_inj.1 hoperation))
  | append_singleton rest last =>
      rw [← List.cons_append, ← List.append_assoc] at hsplit
      obtain ⟨hbefore, hoperation⟩ := List.append_inj' hsplit rfl
      obtain rfl := List.singleton_inj.1 hoperation
      rcases h with h | ⟨later, rfl, hlater⟩
      · obtain ⟨later, hmem, hlater⟩ := h _ _ _ hbefore hkey
        exact ⟨later, List.mem_append_left _ hmem, hlater⟩
      · exact ⟨later, List.mem_append_right _ List.mem_cons_self, hlater⟩

/-- A write puts its row behind the others, whose order it leaves. -/
theorem pairwise_writtenBefore_append {rows : List StoredRun} {result : RunResult}
    (h : rows.Pairwise (WrittenBefore operations))
    (hother : ∀ row ∈ rows, row.isAt result.generation result.backend = false) :
    (rows ++ [StoredRun.ofResult result]).Pairwise
      (WrittenBefore (operations ++ [.upsertRun result])) := by
  have hlast : ∀ row ∈ rows, ∀ written,
      Operation.upsertRun result = Operation.upsertRun written →
        (StoredRun.ofResult written).key ≠ row.key := by
    rintro row hrow _ ⟨⟩ hkey
    refine absurd (hother row hrow) ?_
    rw [Bool.not_eq_false, StoredRun.isAt_iff]
    exact Prod.ext_iff.1 hkey.symm
  rw [List.pairwise_append]
  refine ⟨?_, List.pairwise_singleton _ _, ?_⟩
  · refine h.imp_of_mem fun hfirst _ hbefore => ?_
    exact writtenBefore_concat (hlast _ hfirst) (Or.inl hbefore)
  · intro row hrow last hmem
    rw [List.mem_singleton.1 hmem]
    exact writtenBefore_concat (hlast row hrow) (Or.inr ⟨result, rfl, rfl⟩)

theorem pairwise_writtenBefore_upsertRun
    (h : ((after operations).runs.filter fun row => !row.handled).Pairwise
      (WrittenBefore operations)) (result : RunResult) :
    (((after operations).upsertRun result).runs.filter fun row => !row.handled).Pairwise
      (WrittenBefore (operations ++ [.upsertRun result])) := by
  cases hold : (after operations).run? result.generation result.backend with
  | none =>
      rw [runs_upsertRun_of_none hold, List.filter_append]
      apply pairwise_writtenBefore_append h
      intro row hrow
      exact Bool.eq_false_iff.2 (List.find?_eq_none.1 hold row (List.mem_of_mem_filter hrow))
  | some old =>
      cases hhandled : old.handled with
      | false =>
          rw [runs_upsertRun_of_open hold hhandled, List.filter_append, List.filter_comm]
          apply pairwise_writtenBefore_append (h.sublist List.filter_sublist)
          intro row hrow
          simpa using (List.mem_filter.1 hrow).2
      | true =>
          -- the write is refused, and no open row has its key
          rw [upsertRun_of_handled hold hhandled]
          refine h.imp_of_mem fun {first second} hfirst _ hbefore => ?_
          refine writtenBefore_concat ?_ (Or.inl hbefore)
          rintro _ ⟨⟩ hkey
          obtain ⟨hmem, hopen⟩ := List.mem_filter.1 hfirst
          have hfound := (sound_after operations).run?_of_mem hmem
          obtain ⟨hgeneration, hbackend⟩ := Prod.mk.inj hkey
          rw [← hgeneration, ← hbackend] at hfound
          obtain rfl := Option.some.inj (hfound.symm.trans hold)
          simp [hhandled] at hopen

/-- **Rows stand in the order of their last writes**, as far as they are open. -/
theorem pairwise_writtenBefore (operations : List Operation) :
    ((after operations).runs.filter fun row => !row.handled).Pairwise
      (WrittenBefore operations) := by
  induction operations using List.reverseRecOn with
  | nil => exact .nil
  | append_singleton operations operation ih =>
      rw [after_concat]
      have hkeep : (∀ result, operation ≠ .upsertRun result) →
          ((after operations).runs.filter fun row => !row.handled).Pairwise
            (WrittenBefore (operations ++ [operation])) := by
        intro hnoWrite
        refine ih.imp fun hbefore => ?_
        exact writtenBefore_concat (fun result heq => absurd heq (hnoWrite result))
          (Or.inl hbefore)
      cases operation with
      | upsertRun result => exact pairwise_writtenBefore_upsertRun ih result
      | recordVerification verification =>
          unfold perform
          rw [unhandled_recordVerification]
          exact (hkeep (by simp)).sublist List.filter_sublist
      | insertGeneration generation =>
          rw [(runs_insertGeneration (after operations) generation).1]
          exact hkeep (by simp)
      | _ => exact hkeep (by simp)

/-- Ids at their last places are in the order in which rows come after all rows of another id. -/
theorem pairwise_lastIds {related : StoredRun → StoredRun → Prop} {rows : List StoredRun}
    (h : rows.Pairwise related) :
    (lastIds rows).Pairwise fun first second => ∀ row ∈ rows, row.generation = first →
      ∃ later ∈ rows, later.generation = second ∧ related row later := by
  induction rows with
  | nil => exact .nil
  | cons row rest ih =>
      obtain ⟨hrow, hrest⟩ := List.pairwise_cons.1 h
      have hlater : ∀ id ∈ lastIds rest,
          ∃ later ∈ row :: rest, later.generation = id ∧ related row later := by
        intro id hid
        obtain ⟨later, hmem, hgeneration⟩ := mem_lastIds.1 hid
        exact ⟨later, List.mem_cons_of_mem row hmem, hgeneration, hrow later hmem⟩
      have hids : (lastIds rest).Pairwise fun first second => ∀ other ∈ row :: rest,
          other.generation = first →
            ∃ later ∈ row :: rest, later.generation = second ∧ related other later := by
        refine (ih hrest).imp_of_mem fun {first second} _ hsecond hbefore other hother hfirst => ?_
        rcases List.mem_cons.1 hother with rfl | hother
        · exact hlater second hsecond
        · obtain ⟨later, hmem, hgeneration, hrelated⟩ := hbefore other hother hfirst
          exact ⟨later, List.mem_cons_of_mem row hmem, hgeneration, hrelated⟩
      unfold lastIds
      split
      · exact hids
      · next hlast =>
          refine List.pairwise_cons.2 ⟨fun second hsecond other hother hfirst => ?_, hids⟩
          rcases List.mem_cons.1 hother with rfl | hother
          · exact hlater second hsecond
          · exact (hlast (List.any_eq_true.2 ⟨other, hother, beq_iff_eq.2 hfirst⟩)).elim

/-! ### Answers -/

/-- Every result of `first` for one of the backends was written before one of `second`. -/
def LastWrittenBefore (backends : List String) (operations : List Operation)
    (first second : String) : Prop :=
  ∀ before result rest, operations = before ++ .upsertRun result :: rest →
    result.generation = first → result.backend ∈ backends →
      ∃ later, .upsertRun later ∈ rest ∧ later.generation = second ∧ later.backend ∈ backends

/-- What the query for candidates that are ready is to answer after these writes. -/
structure Answers (backends : List String) (operations : List Operation)
    (listed : List String) : Prop where
  /-- A limit cuts the list off, and none that covers the candidates does. -/
  query : ∀ limit, (after operations).pendingWithin backends limit = .ok (listed.take limit)
  length_le : listed.length ≤ ((after operations).runs.map (·.generation)).dedup.length
  mem_iff : ∀ id, id ∈ listed ↔ (after operations).OpenFor backends id
  /-- Who is listed is who can be verified, by whatever rule. -/
  verifiable_iff : ∀ id results, (after operations).loadRuns id = .ok results →
    ∀ rule : Comparison, id ∈ listed ↔ (rule.verification? id
      (results.filter fun result => !result.isHandled) backends).isSome
  nodup : listed.Nodup
  ordered : listed.Pairwise (LastWrittenBefore backends operations)

theorem pairwise_waiting (hinhabited : backends ≠ []) (hnodup : backends.Nodup)
    (operations : List Operation) :
    ((after operations).waiting backends).Pairwise (LastWrittenBefore backends operations) := by
  have hrows : ((after operations).openRuns backends).Pairwise (WrittenBefore operations) := by
    rw [openRuns_eq]
    exact (pairwise_writtenBefore operations).sublist List.filter_sublist
  have hids := (pairwise_lastIds hrows).sublist
    (waiting_eq hinhabited ▸ List.filter_sublist :
      ((after operations).waiting backends).Sublist _)
  refine hids.imp_of_mem fun {first second} hfirst _ h before result rest hsplit hof hcounts => ?_
  -- the result has an open row, as each of the backends does
  obtain ⟨row, hrow, hopen⟩ := (mem_waiting_iff (sound_after operations) hinhabited hnodup).1
    hfirst result.backend hcounts
  obtain ⟨hgeneration, hbackend⟩ := run?_eq_some_key hrow
  have hmem : row ∈ (after operations).openRuns backends := by
    refine List.mem_filter.2 ⟨List.mem_of_find?_eq_some hrow, ?_⟩
    simpa [hopen, hbackend] using hcounts
  obtain ⟨last, hlast, hsecond, hbefore⟩ := h row hmem hgeneration
  have hkey : (StoredRun.ofResult result).key = row.key :=
    Prod.ext (hof.trans hgeneration.symm) hbackend.symm
  obtain ⟨later, hlater, hlaterKey⟩ := hbefore before result rest hsplit hkey
  obtain ⟨hlaterGeneration, hlaterBackend⟩ := Prod.mk.inj hlaterKey
  refine ⟨later, hlater, hlaterGeneration.trans hsecond, ?_⟩
  have hlastCounts := (Bool.and_eq_true_iff.1 (List.mem_filter.1 hlast).2).2
  rw [show later.backend = last.backend from hlaterBackend]
  simpa using hlastCounts

theorem answers_of_nodup (hinhabited : backends ≠ []) (hnodup : backends.Nodup)
    (hatMost : backends.length ≤ backendsAtMost) (operations : List Operation) :
    Answers backends operations ((after operations).waiting backends) where
  query limit := by
    unfold pendingWithin
    rw [if_neg hatMost.not_gt, pending_eq_take]
  length_le := by
    refine (List.subperm_of_subset (nodup_waiting _ _) fun id hid => ?_).length_le
    rw [waiting_eq hinhabited] at hid
    obtain ⟨row, hrow, hgeneration⟩ := mem_lastIds.1 (List.mem_of_mem_filter hid)
    rw [List.mem_dedup, ← hgeneration]
    exact List.mem_map_of_mem (List.mem_of_mem_filter hrow)
  mem_iff id := mem_waiting_iff (sound_after operations) hinhabited hnodup
  verifiable_iff id results hload rule := by
    rw [mem_waiting_iff (sound_after operations) hinhabited hnodup]
    exact ((sound_after operations).isSome_verification?_unhandled_iff hload rule backends).symm
  nodup := nodup_waiting _ _
  ordered := pairwise_waiting hinhabited hnodup operations

/-- A list that names a backend twice gets the empty answer. -/
theorem answers_of_repeated (hrepeated : ¬backends.Nodup)
    (hatMost : backends.length ≤ backendsAtMost)
    (hnone : ∀ id, ¬(after operations).OpenFor backends id) :
    Answers backends operations [] where
  query limit := by
    unfold pendingWithin
    rw [if_neg hatMost.not_gt, pending_eq_take,
      (sound_after operations).waiting_of_repeated hrepeated]
  length_le := Nat.zero_le _
  mem_iff id := iff_of_false List.not_mem_nil (hnone id)
  verifiable_iff id results hload rule := by
    rw [(sound_after operations).isSome_verification?_unhandled_iff hload rule backends]
    exact iff_of_false List.not_mem_nil (hnone id)
  nodup := List.nodup_nil
  ordered := .nil

/-- **When readiness and verification agree.** The query answers as it should exactly if all the
backends fit in it and, where some candidate is ready, no backend is named twice. -/
theorem exists_answers_iff (hinhabited : backends ≠ []) (operations : List Operation) :
    (∃ listed, Answers backends operations listed) ↔
      backends.length ≤ backendsAtMost ∧
        (backends.Nodup ∨ ∀ id, ¬(after operations).OpenFor backends id) := by
  constructor
  · rintro ⟨listed, h⟩
    have hatMost : backends.length ≤ backendsAtMost := by
      by_contra hmany
      have hquery := h.query 0
      rw [pendingWithin, if_pos (not_le.1 hmany)] at hquery
      cases hquery
    refine ⟨hatMost, or_iff_not_imp_left.2 fun hrepeated id hopen => ?_⟩
    have hquery := h.query listed.length
    rw [pendingWithin, if_neg hatMost.not_gt, pending_eq_take,
      (sound_after operations).waiting_of_repeated hrepeated, List.take_nil,
      List.take_length] at hquery
    rw [← h.mem_iff, ← Except.ok.inj hquery] at hopen
    exact List.not_mem_nil hopen
  · rintro ⟨hatMost, hready⟩
    by_cases hnodup : backends.Nodup
    · exact ⟨_, answers_of_nodup hinhabited hnodup hatMost operations⟩
    · exact ⟨[], answers_of_repeated hnodup hatMost (hready.resolve_left hnodup)⟩

/-- Two candidates are ready on both backends, the one that came first was written last. -/
theorem answers_of_two :
    ∃ listed, Answers ["ivy", "boa"] [.upsertRun ⟨"g", "ivy", [], false⟩,
      .upsertRun ⟨"h", "boa", [], false⟩, .upsertRun ⟨"h", "ivy", [], false⟩,
      .upsertRun ⟨"g", "boa", [], false⟩] listed :=
  (exists_answers_iff (by decide) _).2 ⟨by decide, Or.inl (by decide)⟩

/-- A backend that is required twice has reported, and the candidate is not listed. -/
theorem not_answers_of_repeated :
    ¬∀ backends operations, backends ≠ [] →
      (∀ id, ∃ results, (after operations).loadRuns id = .ok results) →
        ∃ listed, Answers backends operations listed := by
  intro h
  have hread : ∀ id, ∃ results,
      (after [.upsertRun ⟨"g", "ivy", [], false⟩]).loadRuns id = .ok results := by
    intro id
    by_cases hid : id = "g"
    · subst hid
      exact ⟨_, mapM_eq_ok_iff.2
        (.cons (decodeRun_of_durable (durable_of_no_calls "g" "ivy") false) .nil)⟩
    · have hrows : (after [.upsertRun ⟨"g", "ivy", [], false⟩]).runsOf id = [] := by
        rw [List.eq_nil_iff_forall_not_mem]
        intro row hrow
        obtain ⟨hmem, hgeneration⟩ := mem_runsOf_iff.1 hrow
        obtain rfl := List.mem_singleton.1 hmem
        exact hid hgeneration.symm
      exact ⟨[], by rw [loadRuns, hrows]; rfl⟩
  obtain ⟨listed, hlisted⟩ := h ["ivy", "ivy"] _ (by decide) hread
  have hmem : "g" ∈ listed := by
    rw [hlisted.mem_iff]
    intro backend hbackend
    obtain rfl : backend = "ivy" := by simpa using hbackend
    exact ⟨.ofResult ⟨"g", "ivy", [], false⟩, rfl, rfl⟩
  have hquery := hlisted.query listed.length
  rw [List.take_length, pendingWithin, if_neg (by decide), pending_eq_take,
    (sound_after _).waiting_of_repeated (by decide), List.take_nil] at hquery
  rw [← Except.ok.inj hquery] at hmem
  cases hmem

end Concord.Store
