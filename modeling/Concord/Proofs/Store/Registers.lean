import Mathlib
import Concord.Proofs.Store.Readback
import Concord.Proofs.Store.Exclusivity
import Concord.Proofs.Store.Waiting

/-!
# Results as registers

The result of a candidate on a backend is a register: each report is written over the last one, until
a verification of the candidate is recorded. What stands there is told from the history alone. It is
loaded as it was reported exactly if it can be read back from its text.
-/

namespace Concord

theorem RunResult.eq_of_flagged {a b : RunResult} {flag : Bool}
    (h : ({ a with isHandled := flag } : RunResult) = { b with isHandled := flag })
    (hflag : a.isHandled = b.isHandled) : a = b := by
  cases a
  cases b
  cases h
  cases hflag
  rfl

namespace Store

/-! ### Registers of a history -/

namespace Operation

def candidate : Operation → String
  | .insertGeneration generation => generation.id
  | .markEnqueued id | .markCrashLogged id | .markDiscrepancyLogged id => id
  | .upsertRun result => result.generation
  | .recordVerification verification => verification.generation

/-- The result that is reported for a candidate and a backend, if one is. -/
def report? (generation backend : String) : Operation → Option RunResult
  | .upsertRun result =>
      if result.generation = generation ∧ result.backend = backend then some result else none
  | _ => none

/-- Is a verification of the candidate recorded? -/
def closes (generation : String) : Operation → Bool
  | .recordVerification verification => verification.generation == generation
  | _ => false

end Operation

section Histories

variable (generation backend : String) (operations : List Operation)

/-- The writes from the first report on. -/
def sinceReport : List Operation :=
  operations.dropWhile fun operation => (operation.report? generation backend).isNone

/-- A verification of the candidate is recorded behind the first report. -/
def isClosed : Bool :=
  (sinceReport generation backend operations).any (·.closes generation)

/-- The last report before the first verification that is recorded behind the first report. -/
def standing? : Option RunResult :=
  (((sinceReport generation backend operations).takeWhile fun operation =>
    !operation.closes generation).filterMap (·.report? generation backend)).getLast?

end Histories

/-- The results are those of the backends that have reported, in the order of the backends. Each is
what stands for its backend, and flagged if that is closed. -/
structure Registers (operations : List Operation) (generation : String)
    (results : List RunResult) : Prop where
  ascending : results.Pairwise fun a b => a.backend < b.backend
  reported : ∀ backend, backend ∈ results.map (·.backend) ↔
    ∃ result, .upsertRun result ∈ operations ∧ result.generation = generation ∧
      result.backend = backend
  standing : ∀ result ∈ results, ∃ last,
    standing? generation result.backend operations = some last ∧
      result = { last with isHandled := isClosed generation result.backend operations }

variable {generation backend : String} {operations : List Operation} {store : Store}

theorem Operation.report?_eq_some_iff {operation : Operation} {result : RunResult} :
    operation.report? generation backend = some result ↔
      operation = .upsertRun result ∧ result.generation = generation ∧
        result.backend = backend := by
  cases operation with
  | upsertRun reported =>
      rw [report?, Option.ite_none_right_eq_some, upsertRun.injEq, Option.some.injEq]
      constructor
      · rintro ⟨hkey, rfl⟩
        exact ⟨rfl, hkey⟩
      · rintro ⟨rfl, hkey⟩
        exact ⟨hkey, rfl⟩
  | _ => simp [report?]

theorem Operation.report?_isSome_iff {operation : Operation} :
    (operation.report? generation backend).isSome ↔
      ∃ result, operation = .upsertRun result ∧ result.generation = generation ∧
        result.backend = backend := by
  simp only [Option.isSome_iff_exists, report?_eq_some_iff]

theorem Operation.report?_of_closes {operation : Operation} (h : operation.closes generation)
    (backend : String) : operation.report? generation backend = none := by
  cases operation with
  | recordVerification verification => rfl
  | _ => cases h

/-! ### What stands in a row -/

/-- The row of a result, closed or open. -/
def rowOf (result : RunResult) (closed : Bool) : StoredRun :=
  { StoredRun.ofResult result with handled := closed }

/-- What one write makes of an open row. -/
theorem run?_perform_of_open {result : RunResult}
    (h : store.run? generation backend = some (rowOf result false)) (operation : Operation) :
    (store.perform operation).run? generation backend =
      some (rowOf ((operation.report? generation backend).getD result)
        (operation.closes generation)) := by
  obtain ⟨hgeneration, -⟩ := run?_eq_some_key h
  rw [run?_perform]
  cases operation with
  | upsertRun reported =>
      dsimp only [Operation.report?, Operation.closes]
      split
      · rw [h]
        rfl
      · exact h
  | recordVerification verification =>
      dsimp only [Operation.report?, Operation.closes]
      rw [h, Option.map_some, hgeneration]
      by_cases heq : generation = verification.generation
      · rw [if_pos heq, heq, beq_self_eq_true]
        rfl
      · rw [if_neg heq, beq_false_of_ne (Ne.symm heq)]
        rfl
  | _ => exact h

/-- An open row holds the last report until it is closed, and stays as it is from then on. -/
theorem run?_performAll_of_open {result : RunResult}
    (h : store.run? generation backend = some (rowOf result false))
    (operations : List Operation) :
    (store.performAll operations).run? generation backend =
      some (rowOf ((((operations.takeWhile fun operation => !operation.closes generation).filterMap
        (·.report? generation backend)).getLast?).getD result)
          (operations.any (·.closes generation))) := by
  induction operations generalizing store result with
  | nil => exact h
  | cons operation operations ih =>
      have hstep := run?_perform_of_open h operation
      rw [performAll, List.foldl_cons, ← performAll, List.any_cons]
      cases hcloses : operation.closes generation with
      | true =>
          rw [hcloses] at hstep
          rw [run?_performAll_of_handled operations hstep rfl,
            Operation.report?_of_closes hcloses backend,
            List.takeWhile_cons_of_neg (by simp [hcloses])]
          rfl
      | false =>
          rw [hcloses] at hstep
          rw [ih hstep, List.takeWhile_cons_of_pos (by simp [hcloses]), Bool.false_or]
          cases hreport : operation.report? generation backend with
          | none => rw [List.filterMap_cons_none hreport, Option.getD_none]
          | some reported =>
              rw [List.filterMap_cons_some hreport, List.getLast?_cons, Option.getD_some,
                Option.getD_some]

theorem run?_performAll_of_unreported (h : store.run? generation backend = none)
    (hnone : ∀ operation ∈ operations, operation.report? generation backend = none) :
    (store.performAll operations).run? generation backend = none := by
  by_contra hsome
  obtain ⟨result, hmem, hkey⟩ :=
    exists_upsertRun_of_run? (Option.ne_none_iff_isSome.1 hsome) h
  have hreport := hnone _ hmem
  rw [Operation.report?, if_pos hkey] at hreport
  cases hreport

/-- **What stands in a row.** The row of a candidate and a backend holds the text of what stands in
their register, and is handled exactly if the register is closed. -/
theorem run?_after (generation backend : String) (operations : List Operation) :
    (after operations).run? generation backend =
      (standing? generation backend operations).map fun result =>
        rowOf result (isClosed generation backend operations) := by
  have hsplit := List.takeWhile_append_dropWhile (l := operations)
    (p := fun operation => (operation.report? generation backend).isNone)
  have hearly : ((after (operations.takeWhile fun operation =>
      (operation.report? generation backend).isNone)).run? generation backend) = none := by
    refine run?_performAll_of_unreported rfl fun operation hmem => ?_
    have hunreported := List.mem_takeWhile_imp hmem
    exact Option.isNone_iff_eq_none.1 hunreported
  unfold standing? isClosed
  cases hsince : sinceReport generation backend operations with
  | nil =>
      rw [← hsplit, ← sinceReport, hsince, List.append_nil]
      exact hearly
  | cons first rest =>
      -- the first report makes the row, and it is open for the writes behind it
      have hfirst := List.head?_dropWhile_not
        (fun operation : Operation => (operation.report? generation backend).isNone) operations
      rw [← sinceReport, hsince] at hfirst
      obtain ⟨result, rfl, hkey⟩ := Operation.report?_isSome_iff.1 (by simpa using hfirst)
      have hrow : ((after (operations.takeWhile fun operation =>
          (operation.report? generation backend).isNone)).perform (.upsertRun result)).run?
            generation backend = some (rowOf result false) := by
        rw [run?_perform, hearly]
        exact if_pos hkey
      have hreport : Operation.report? generation backend (.upsertRun result) = some result :=
        if_pos hkey
      rw [← hsplit, ← sinceReport, hsince, after_cons_append, after_concat,
        run?_performAll_of_open hrow, List.takeWhile_cons_of_pos rfl,
        List.filterMap_cons_some hreport, List.getLast?_cons, Option.map_some, List.any_cons]
      rfl

theorem isSome_standing?_iff :
    (standing? generation backend operations).isSome ↔
      ∃ result, .upsertRun result ∈ operations ∧ result.generation = generation ∧
        result.backend = backend := by
  have hrow : (standing? generation backend operations).isSome =
      ((after operations).run? generation backend).isSome := by
    rw [run?_after, Option.isSome_map]
  rw [hrow]
  constructor
  · exact fun h => exists_upsertRun_of_run? h rfl
  · rintro ⟨result, hmem, rfl, rfl⟩
    exact run?_performAll_isSome_of_upsertRun hmem

theorem mem_of_standing? {last : RunResult}
    (h : standing? generation backend operations = some last) :
    .upsertRun last ∈ operations := by
  obtain ⟨operation, hmem, hreport⟩ := List.mem_filterMap.1 (List.mem_of_getLast? h)
  obtain ⟨rfl, -⟩ := Operation.report?_eq_some_iff.1 hreport
  exact (List.dropWhile_suffix _).subset ((List.takeWhile_prefix _).subset hmem)

/-! ### The order of the rows -/

theorem pairwise_insertByBackend {row : StoredRun} {rows : List StoredRun}
    (h : rows.Pairwise fun a b => a.backend ≤ b.backend) :
    (insertByBackend row rows).Pairwise fun a b => a.backend ≤ b.backend := by
  induction rows with
  | nil => exact List.pairwise_singleton _ _
  | cons head rest ih =>
      obtain ⟨hhead, hrest⟩ := List.pairwise_cons.1 h
      unfold insertByBackend
      split
      · next hlt =>
          have hle : row.backend ≤ head.backend := String.not_lt.1 (String.lt_asymm hlt)
          refine List.pairwise_cons.2 ⟨fun other hother => ?_, h⟩
          rcases List.mem_cons.1 hother with rfl | hother
          · exact hle
          · exact String.le_trans hle (hhead other hother)
      · next hlt =>
          refine List.pairwise_cons.2 ⟨fun other hother => ?_, ih hrest⟩
          rcases List.mem_cons.1 ((insertByBackend_perm row rest).mem_iff.1 hother) with rfl | hother
          · exact String.not_lt.1 hlt
          · exact hhead other hother

theorem pairwise_runsOf (store : Store) (generation : String) :
    (store.runsOf generation).Pairwise fun a b => a.backend ≤ b.backend := by
  unfold runsOf
  induction store.runs.filter (·.generation == generation) with
  | nil => exact List.Pairwise.nil
  | cons row rows ih => exact pairwise_insertByBackend ih

theorem Sound.ascending_runsOf (hsound : store.Sound) (generation : String) :
    (store.runsOf generation).Pairwise fun a b => a.backend < b.backend := by
  have hnodup : ((store.runsOf generation).map StoredRun.key).Nodup := by
    rw [((store.runsOf_perm generation).map StoredRun.key).nodup_iff]
    exact hsound.runs_nodup.sublist (List.filter_sublist.map _)
  rw [List.Nodup, List.pairwise_map] at hnodup
  -- rows in order with different keys are in strict order, since the candidate is the same
  refine ((pairwise_runsOf store generation).and hnodup).imp_of_mem fun {a b} ha hb h => ?_
  obtain ⟨hle, hkey⟩ := h
  have hne : a.backend ≠ b.backend := fun heq =>
    hkey (Prod.ext ((mem_runsOf_iff.1 ha).2.trans (mem_runsOf_iff.1 hb).2.symm) heq)
  exact lt_of_not_lt_of_ne hne.symm (String.not_lt.2 hle)

theorem Sound.backends_loadRuns (hsound : store.Sound) {results : List RunResult}
    (hload : store.loadRuns generation = .ok results) :
    results.map (·.backend) = (store.runsOf generation).map (·.backend) := by
  have hread : List.Forall₂ (fun row result => decodeRun row = .ok result)
      (store.runsOf generation) results := mapM_eq_ok_iff.1 hload
  have hmem : ∀ row ∈ store.runsOf generation, row ∈ store.runs := fun row hrow =>
    (mem_runsOf_iff.1 hrow).1
  clear hload
  generalize store.runsOf generation = rows at hread hmem
  induction hread with
  | nil => rfl
  | cons hfirst _ ih =>
      rw [List.forall_mem_cons] at hmem
      rw [List.map_cons, List.map_cons, ih hmem.2, (hsound.decodeRun_key hmem.1 hfirst).2]

/-! ### What is loaded -/

/-- A row is read as the result that was written in it exactly if this is durable. -/
theorem decodeRun_rowOf_iff {result : RunResult} (closed : Bool) :
    decodeRun (rowOf result closed) = .ok { result with isHandled := closed } ↔
      result.Durable := by
  constructor
  · intro h
    obtain ⟨read, hread, heq⟩ := decodeRun_eq_ok_iff.1 h
    have htext : RunResult.decoder.read? result.encode.text = some read := hread
    -- the flag in the text is that of the result, whatever the row says
    have hflag := (RunResult.read?_encode_eq_some_iff.1 htext).2.2.2
    have hsame : read = result := RunResult.eq_of_flagged heq hflag.symm
    rwa [hsame, RunResult.read?_encode_self_iff] at htext
  · exact fun h => decodeRun_of_document h rfl

theorem exists_standing?_of_mem_runsOf {row : StoredRun}
    (h : row ∈ (after operations).runsOf generation) :
    ∃ last, standing? generation row.backend operations = some last ∧
      row = rowOf last (isClosed generation row.backend operations) := by
  obtain ⟨hrow, rfl⟩ := mem_runsOf_iff.1 h
  have hfound := (sound_after operations).run?_of_mem hrow
  rw [run?_after] at hfound
  obtain ⟨last, hlast, heq⟩ := Option.map_eq_some_iff.1 hfound
  exact ⟨last, hlast, heq.symm⟩

theorem mem_runsOf_of_standing? {last : RunResult}
    (h : standing? generation backend operations = some last) :
    rowOf last (isClosed generation backend operations) ∈ (after operations).runsOf generation ∧
      last.backend = backend := by
  have hrow : (after operations).run? generation backend =
      some (rowOf last (isClosed generation backend operations)) := by
    rw [run?_after, h, Option.map_some]
  obtain ⟨hgeneration, hbackend⟩ := run?_eq_some_key hrow
  exact ⟨mem_runsOf_iff.2 ⟨List.mem_of_find?_eq_some hrow, hgeneration⟩, hbackend⟩

theorem registers_of_durable
    (h : ∀ backend last, standing? generation backend operations = some last → last.Durable) :
    ∃ results, (after operations).loadRuns generation = .ok results ∧
      Registers operations generation results := by
  have hread : ∀ row ∈ (after operations).runsOf generation, ∃ last,
      standing? generation row.backend operations = some last ∧
        decodeRun row = .ok
          { last with isHandled := isClosed generation row.backend operations } := by
    intro row hrow
    obtain ⟨last, hlast, heq⟩ := exists_standing?_of_mem_runsOf hrow
    have hdecode := (decodeRun_rowOf_iff (isClosed generation row.backend operations)).2
      (h row.backend last hlast)
    rw [← heq] at hdecode
    exact ⟨last, hlast, hdecode⟩
  obtain ⟨results, hload⟩ := exists_mapM_eq_ok fun row hrow =>
    let ⟨_, _, hdecode⟩ := hread row hrow
    ⟨_, hdecode⟩
  have hbackends := (sound_after operations).backends_loadRuns hload
  refine ⟨results, hload, ?_, fun backend => ?_, fun result hresult => ?_⟩
  · have hascending := (sound_after operations).ascending_runsOf generation
    rwa [← List.pairwise_map, ← hbackends, List.pairwise_map] at hascending
  · rw [hbackends, ← isSome_standing?_iff, List.mem_map]
    constructor
    · rintro ⟨row, hrow, rfl⟩
      obtain ⟨last, hlast, -⟩ := exists_standing?_of_mem_runsOf hrow
      exact Option.isSome_of_eq_some hlast
    · intro hsome
      obtain ⟨last, hlast⟩ := Option.isSome_iff_exists.1 hsome
      obtain ⟨hmem, hbackend⟩ := mem_runsOf_of_standing? hlast
      exact ⟨_, hmem, hbackend⟩
  · obtain ⟨row, hrow, hdecode⟩ := (mem_mapM_iff hload).1 hresult
    obtain ⟨last, hlast, hother⟩ := hread row hrow
    have hbackend :=
      ((sound_after operations).decodeRun_key (mem_runsOf_iff.1 hrow).1 hdecode).2
    rw [hbackend]
    exact ⟨last, hlast, Except.ok.inj (hdecode.symm.trans hother)⟩

theorem durable_of_registers {results : List RunResult}
    (hload : (after operations).loadRuns generation = .ok results)
    (h : Registers operations generation results) {last : RunResult}
    (hlast : standing? generation backend operations = some last) : last.Durable := by
  obtain ⟨hrow, rfl⟩ := mem_runsOf_of_standing? hlast
  obtain ⟨result, hresult, hdecode⟩ := exists_of_mem_mapM hload hrow
  obtain ⟨hgeneration, hbackend⟩ :=
    (sound_after operations).decodeRun_key (mem_runsOf_iff.1 hrow).1 hdecode
  obtain ⟨other, hother, heq⟩ := h.standing result hresult
  -- the loaded result is the one for the backend of the row, so it is what stands there
  have hresultBackend : result.backend = last.backend := hbackend
  rw [hresultBackend] at hother heq
  obtain rfl : last = other := Option.some.inj (hlast.symm.trans hother)
  rw [heq] at hdecode
  exact (decodeRun_rowOf_iff _).1 hdecode

/-! ### Writes for other candidates -/

theorem loadRuns_upsertRun {result : RunResult} (h : result.generation ≠ generation) :
    (store.upsertRun result).loadRuns generation = store.loadRuns generation := by
  have hnew : [StoredRun.ofResult result].filter (·.generation == generation) = [] := by
    simp [StoredRun.ofResult, h]
  have hrows : (store.upsertRun result).runs.filter (·.generation == generation) =
      store.runs.filter (·.generation == generation) := by
    cases hold : store.run? result.generation result.backend with
    | none => rw [runs_upsertRun_of_none hold, List.filter_append, hnew, List.append_nil]
    | some old =>
        cases hhandled : old.handled with
        | true => rw [upsertRun_of_handled hold hhandled]
        | false =>
            rw [runs_upsertRun_of_open hold hhandled, List.filter_append, hnew, List.append_nil,
              List.filter_filter]
            refine List.filter_congr fun row _ => ?_
            by_cases hrow : row.generation = generation
            · simp [StoredRun.isAt, hrow, h.symm]
            · simp [hrow]
  unfold loadRuns runsOf
  rw [hrows]

theorem loadRuns_perform_of_ne {operation : Operation} (h : operation.candidate ≠ generation) :
    (store.perform operation).loadRuns generation = store.loadRuns generation := by
  cases operation with
  | insertGeneration inserted =>
      unfold loadRuns runsOf
      rw [(runs_insertGeneration store inserted).1]
  | upsertRun result => exact loadRuns_upsertRun h
  | recordVerification verification => exact loadRuns_recordVerification h.symm
  | _ => rfl

/-- **Results are registers that close at a verification.** The row of a backend holds the text of
its last report before a verification closed it. The results of a candidate are loaded as these
reports, one for each backend that has reported, exactly if all of them are durable. Writes for other
candidates never change what is loaded. -/
theorem registers_iff (operations : List Operation) (generation : String) :
    (∀ backend, (after operations).run? generation backend =
      (standing? generation backend operations).map fun last =>
        rowOf last (isClosed generation backend operations)) ∧
    ((∃ results, (after operations).loadRuns generation = .ok results ∧
        Registers operations generation results) ↔
      ∀ backend last, standing? generation backend operations = some last → last.Durable) ∧
    ∀ operation : Operation, operation.candidate ≠ generation →
      (after (operations ++ [operation])).loadRuns generation =
        (after operations).loadRuns generation := by
  refine ⟨fun backend => run?_after generation backend operations, ⟨?_, registers_of_durable⟩,
    fun operation hother => ?_⟩
  · rintro ⟨results, hload, hregisters⟩ backend last hlast
    exact durable_of_registers hload hregisters hlast
  · rw [after_concat]
    exact loadRuns_perform_of_ne hother

/-- A result is written over until a verification is recorded, and a backend that comes late is still
open. -/
theorem registers_despite_late_report :
    let history : List Operation := [.upsertRun ⟨"g", "ivy", [⟨0, "f", []⟩], false⟩,
      .upsertRun ⟨"g", "boa", [], true⟩, .upsertRun ⟨"g", "ivy", [], true⟩,
      .recordVerification ⟨"g", ["ivy", "boa"], [], false⟩,
      .upsertRun ⟨"g", "ivy", [⟨0, "f", []⟩], false⟩, .upsertRun ⟨"g", "asp", [], true⟩]
    (∀ backend last, standing? "g" backend history = some last → last.Durable) ∧
      standing? "g" "ivy" history = some ⟨"g", "ivy", [], true⟩ ∧
      isClosed "g" "ivy" history = true ∧ isClosed "g" "asp" history = false ∧
      (∃ results, (after history).loadRuns "g" = .ok results ∧ Registers history "g" results) ∧
      (after (history ++ [.upsertRun ⟨"h", "ivy", [], false⟩])).loadRuns "g" =
        (after history).loadRuns "g" := by
  intro history
  have hdurable : ∀ backend last, standing? "g" backend history = some last → last.Durable := by
    intro backend last hlast
    have hmem := mem_of_standing? hlast
    simp only [history, List.mem_cons, Operation.upsertRun.injEq, List.not_mem_nil, or_false,
      reduceCtorEq, false_or] at hmem
    have hcalls : FunctionCalls.Durable ⟨0, "f", []⟩ :=
      ⟨by decide, fun outcome hnone => absurd hnone List.not_mem_nil⟩
    rcases hmem with rfl | rfl | rfl | rfl | rfl
    · exact List.forall_mem_singleton.2 hcalls
    · exact durable_of_no_calls "g" "boa"
    · exact durable_of_no_calls "g" "ivy"
    · exact List.forall_mem_singleton.2 hcalls
    · exact durable_of_no_calls "g" "asp"
  obtain ⟨-, hiff, hother⟩ := registers_iff history "g"
  exact ⟨hdurable, rfl, rfl, rfl, hiff.2 hdurable,
    hother (.upsertRun ⟨"h", "ivy", [], false⟩) (by decide)⟩

/-- A result with a third of 310 in its state. -/
def thirdOf310 : RunResult :=
  ⟨"g", "ivy", [⟨0, "f", [.success
    ⟨⟨[⟨"s", .number (.float ⟨false, 7271436898358613, -46⟩)⟩]⟩, none, none, "42"⟩]⟩], false⟩

/-- The text of a third of 310 is read as the number below it. -/
theorem not_registers_of_third :
    ¬∃ results, (after [.upsertRun thirdOf310]).loadRuns "g" = .ok results ∧
      Registers [.upsertRun thirdOf310] "g" results := by
  rintro ⟨results, hload, hregisters⟩
  have hstanding : standing? "g" "ivy" [.upsertRun thirdOf310] = some thirdOf310 := rfl
  have hcalls := durable_of_registers hload hregisters hstanding _ List.mem_cons_self
  have hobserved := hcalls.outcomes _ List.mem_cons_self _ rfl
  have hnumber : Number.Durable (.float ⟨false, 7271436898358613, -46⟩) :=
    (hobserved.state _ List.mem_cons_self).value
  exact absurd hnumber (by decide +kernel)

end Store

end Concord
