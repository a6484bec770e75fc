import Mathlib
import Concord.Proofs.Outcome
import Concord.Proofs.Pipeline
import Concord.Verifier

/-!
# Verified candidates are frozen

Nodes write to the store and verify candidates in any order, and accesses may fail in between. A
candidate that is verified stays as it is, and verifying it again changes nothing.
-/

namespace Concord

/-! ### Loading results -/

/-- A row is read as the result in its document, handled as the row is. -/
theorem Store.decodeRun_eq_ok_iff {row : StoredRun} {result : RunResult} :
    decodeRun row = .ok result ↔
      ∃ read, RunResult.decoder.read? row.document = some read ∧
        { read with isHandled := row.handled } = result := by
  unfold decodeRun decode
  cases RunResult.decoder.read? row.document with
  | none => simp
  | some read => simp

theorem Store.mem_loadRuns_iff {store : Store} {generation : String} {results : List RunResult}
    (h : store.loadRuns generation = .ok results) {result : RunResult} :
    result ∈ results ↔
      ∃ row ∈ store.runs, row.generation = generation ∧ decodeRun row = .ok result := by
  rw [mem_mapM_iff h]
  simp only [mem_runsOf_iff, and_assoc]

/-- Results are handled as their rows are. -/
theorem Store.any_isHandled_iff {store : Store} {generation : String} {results : List RunResult}
    (h : store.loadRuns generation = .ok results) :
    results.any (·.isHandled) = true ↔
      ∃ row ∈ store.runs, row.generation = generation ∧ row.handled = true := by
  rw [List.any_eq_true]
  constructor
  · rintro ⟨result, hmem, hhandled⟩
    obtain ⟨row, hrow, hgeneration, hread⟩ := (mem_loadRuns_iff h).1 hmem
    obtain ⟨read, -, rfl⟩ := decodeRun_eq_ok_iff.1 hread
    exact ⟨row, hrow, hgeneration, hhandled⟩
  · rintro ⟨row, hrow, hgeneration, hhandled⟩
    obtain ⟨result, hmem, hread⟩ := exists_of_mem_mapM h (mem_runsOf_iff.2 ⟨hrow, hgeneration⟩)
    obtain ⟨read, -, rfl⟩ := decodeRun_eq_ok_iff.1 hread
    exact ⟨_, hmem, hhandled⟩

namespace Verifier

variable {context : Context} {rule : Comparison} {generation : String} {pipeline : Pipeline}

/-- Verifying loads the results first, which leaves the store as it is. -/
theorem verify_apply (context : Context) (rule : Comparison) (generation : String)
    (pipeline : Pipeline) :
    (∃ failure later, later.store = pipeline.store ∧
        (verify context rule generation).run pipeline = (.error failure, later)) ∨
      ∃ results later, later.store = pipeline.store ∧
        pipeline.store.loadRuns generation = .ok results ∧
        (verify context rule generation).run pipeline =
          (if results.any (·.isHandled) then (.ok .alreadyHandled, later)
          else
            match rule.verification? generation results context.backends with
            | none => (.ok .incomplete, later)
            | some verification => (record context verification).run later) := by
  have hsettled := context.needStore_settled "document store unavailable" "load run results"
    .loadRunResults (Pipeline.readable (·.loadRuns generation)) pipeline
  unfold verify
  rw [Attempt.bind_apply]
  change Pipeline.Settled _ _ ((context.needStore _ _ (Pipeline.loadRunResults generation)).run
    pipeline) at hsettled
  cases h : (context.needStore "document store unavailable" "load run results"
      (Pipeline.loadRunResults generation)).run pipeline with
  | mk answer later =>
      rw [h] at hsettled
      cases answer with
      | error failure => exact Or.inl ⟨failure, later, hsettled, rfl⟩
      | ok results =>
          obtain ⟨hload, hstore⟩ := Pipeline.readable_eq_ok_iff.1 hsettled
          refine Or.inr ⟨results, later, hstore, hload, ?_⟩
          dsimp only
          split
          · rfl
          · cases rule.verification? generation results context.backends <;> rfl

/-- Recording does what the store does, or nothing. -/
theorem store_record (context : Context) (verification : Verification) (pipeline : Pipeline) :
    ((record context verification).run pipeline).2.store = pipeline.store ∨
      ((record context verification).run pipeline).2.store =
        pipeline.store.perform (.recordVerification verification) := by
  have hsettled := context.needStore_settled "failed to record verification" "record verification"
    .recordVerification (fun store => .ok (store.recordVerification verification)) pipeline
  change Pipeline.Settled _ _ ((context.needStore _ _
    (Pipeline.recordVerification verification)).run pipeline) at hsettled
  unfold record
  rw [Attempt.bind_apply]
  cases h : (context.needStore "failed to record verification" "record verification"
      (Pipeline.recordVerification verification)).run pipeline with
  | mk answer later =>
      rw [h] at hsettled
      cases answer with
      | error failure => exact Or.inl hsettled
      | ok won =>
          have hstore : pipeline.store.recordVerification verification = (won, later.store) :=
            Except.ok.inj hsettled
          exact Or.inr (congrArg Prod.snd hstore).symm

/-- Verifying writes one verification, or nothing. -/
theorem store_verify (context : Context) (rule : Comparison) (generation : String)
    (pipeline : Pipeline) :
    ((verify context rule generation).run pipeline).2.store = pipeline.store ∨
      ∃ verification, ((verify context rule generation).run pipeline).2.store =
        pipeline.store.perform (.recordVerification verification) := by
  rcases verify_apply context rule generation pipeline with
    ⟨failure, later, hstore, hrun⟩ | ⟨results, later, hstore, -, hrun⟩
  · rw [hrun]
    exact Or.inl hstore
  · rw [hrun]
    split
    · exact Or.inl hstore
    · split
      · exact Or.inl hstore
      · next verification _ =>
          rw [← hstore]
          exact (store_record context verification later).imp_right fun h => ⟨verification, h⟩

/-- A candidate with a handled row is left alone. -/
theorem verify_of_handled (context : Context) (rule : Comparison)
    (hhandled : ∃ row ∈ pipeline.store.runs, row.generation = generation ∧ row.handled = true) :
    ((verify context rule generation).run pipeline).2.store = pipeline.store ∧
      ∀ progress, ((verify context rule generation).run pipeline).1 = .ok progress →
        progress = .alreadyHandled := by
  rcases verify_apply context rule generation pipeline with
    ⟨failure, later, hstore, hrun⟩ | ⟨results, later, hstore, hload, hrun⟩
  · rw [hrun]
    exact ⟨hstore, by rintro progress ⟨⟩⟩
  · rw [hrun, if_pos ((Store.any_isHandled_iff hload).2 hhandled)]
    refine ⟨hstore, ?_⟩
    rintro progress ⟨⟩
    rfl

/-- Where the results can be loaded, it is found to be handled. -/
theorem verify_of_handled_of_load (context : Context) (rule : Comparison)
    (hhandled : ∃ row ∈ pipeline.store.runs, row.generation = generation ∧ row.handled = true)
    {results : List RunResult} (hload : pipeline.store.loadRuns generation = .ok results)
    (hfates : pipeline.fates.get? Access.loadRunResults.name = none) :
    (verify context rule generation).run pipeline = (.ok .alreadyHandled, pipeline) := by
  have hattempt : Pipeline.loadRunResults generation pipeline = (.ok results, pipeline) := by
    unfold Pipeline.loadRunResults
    rw [Pipeline.onStore_of_no_fates _ rfl hfates, Pipeline.operate,
      Pipeline.readable_eq_ok_iff.2 ⟨hload, rfl⟩]
  unfold verify Context.needStore
  rw [Attempt.bind_apply, Context.need_of_ok hattempt]
  dsimp only
  rw [if_pos ((Store.any_isHandled_iff hload).2 hhandled)]
  rfl

end Verifier

/-! ### Steps of a pipeline -/

namespace Pipeline

/-- A write as a node makes it, whatever becomes of it. -/
def write (pipeline : Pipeline) : Store.Operation → Pipeline
  | .insertGeneration generation => (insertGeneration generation pipeline).2
  | .markEnqueued id => (markEnqueued id pipeline).2
  | .markCrashLogged id => (markCrashLogged id pipeline).2
  | .upsertRun result => (upsertRunResult result pipeline).2
  | .recordVerification verification => (recordVerification verification pipeline).2
  | .markDiscrepancyLogged generation => (markDiscrepancyLogged generation pipeline).2

/-- One step of the nodes of a pipeline. Reading, waiting, using the queue and running into trouble
leave the store alone. -/
inductive Step : Pipeline → Pipeline → Prop
  | write (pipeline : Pipeline) (operation : Store.Operation) :
      Step pipeline (pipeline.write operation)
  | verify (pipeline : Pipeline) (context : Context) (rule : Comparison) (generation : String) :
      Step pipeline ((Verifier.verify context rule generation).run pipeline).2
  | aside {pipeline later : Pipeline} (h : later.store = pipeline.store) : Step pipeline later

def Steps : Pipeline → Pipeline → Prop :=
  Relation.ReflTransGen Step

/-- A pipeline that started with an empty store. -/
def Reachable (pipeline : Pipeline) : Prop :=
  ∃ start : Pipeline, start.store = {} ∧ Steps start pipeline

theorem store_write (pipeline : Pipeline) (operation : Store.Operation) :
    (pipeline.write operation).store = pipeline.store ∨
      (pipeline.write operation).store = pipeline.store.perform operation := by
  cases operation with
  | insertGeneration generation =>
      have hsettled := onStore_settled .insertGeneration (·.insertGeneration generation) pipeline
      change Settled _ _ (insertGeneration generation pipeline) at hsettled
      unfold write
      dsimp only
      cases h : insertGeneration generation pipeline with
      | mk answer later =>
          rw [h] at hsettled
          cases answer with
          | error fault => exact Or.inl hsettled
          | ok _ =>
              refine Or.inr ?_
              have hinsert : pipeline.store.insertGeneration generation = .ok ((), later.store) :=
                hsettled
              rw [Store.perform, hinsert]
  | markEnqueued id => exact store_onStore_ok .markEnqueued pipeline
  | markCrashLogged id => exact store_onStore_ok .markCrashLogged pipeline
  | upsertRun result => exact store_onStore_ok .upsertRunResult pipeline
  | recordVerification verification => exact store_onStore_ok .recordVerification pipeline
  | markDiscrepancyLogged generation => exact store_onStore_ok .markDiscrepancyLogged pipeline

theorem exists_performAll_of_steps {pipeline later : Pipeline} (h : Steps pipeline later) :
    ∃ operations, later.store = pipeline.store.performAll operations := by
  induction h with
  | refl => exact ⟨[], rfl⟩
  | @tail middle later _ hstep ih =>
      obtain ⟨operations, hmiddle⟩ := ih
      have hperform : ∀ {operation}, later.store = middle.store.perform operation →
          ∃ operations, later.store = pipeline.store.performAll operations := fun {operation} h =>
        ⟨operations ++ [operation], by
          rw [h, hmiddle, Store.performAll, Store.performAll, List.foldl_append]
          rfl⟩
      cases hstep with
      | write operation =>
          rcases store_write middle operation with h | h
          · exact ⟨operations, h.trans hmiddle⟩
          · exact hperform h
      | verify context rule generation =>
          rcases Verifier.store_verify context rule generation middle with h | ⟨verification, h⟩
          · exact ⟨operations, h.trans hmiddle⟩
          · exact hperform h
      | aside h => exact ⟨operations, h.trans hmiddle⟩

/-! ### Frozen candidates -/

/-- What holds of a candidate that is verified, or will be. -/
structure Frozen (pipeline : Pipeline) (generation : String) : Prop where
  /-- It is verified exactly if one of its rows is handled. -/
  verified_iff : (pipeline.store.verification? generation).isSome ↔
    ∃ backend row, pipeline.store.run? generation backend = some row ∧ row.handled = true
  /-- A handled row stays as it is. -/
  run_stays : ∀ {later backend row}, Steps pipeline later →
    pipeline.store.run? generation backend = some row → row.handled = true →
      later.store.run? generation backend = some row
  /-- A verification stays but for its flag, which stays once it is set. -/
  verification_stays : ∀ {later row}, Steps pipeline later →
    pipeline.store.verification? generation = some row →
      ∃ kept, later.store.verification? generation = some kept ∧
        kept.generation = row.generation ∧ kept.document = row.document ∧
        kept.hasDiscrepancy = row.hasDiscrepancy ∧ (row.logged = true → kept.logged = true)
  /-- Verifying it again changes nothing. -/
  verify_again : ∀ context rule, (pipeline.store.verification? generation).isSome →
    ((Verifier.verify context rule generation).run pipeline).2.store = pipeline.store ∧
      ∀ progress, ((Verifier.verify context rule generation).run pipeline).1 = .ok progress →
        progress = .alreadyHandled
  /-- Where its results are readable and nothing fails, it is found to be handled. -/
  verify_undisturbed : ∀ context rule {results},
    (pipeline.store.verification? generation).isSome →
      pipeline.store.loadRuns generation = .ok results →
      pipeline.fates.get? Access.loadRunResults.name = none →
        (Verifier.verify context rule generation).run pipeline = (.ok .alreadyHandled, pipeline)

/-- **Verified candidates are frozen**, in whatever order nodes write and verify. -/
theorem frozen_of_reachable {pipeline : Pipeline} (h : Reachable pipeline) (generation : String) :
    Frozen pipeline generation := by
  obtain ⟨start, hstart, hsteps⟩ := h
  obtain ⟨operations, hstore⟩ := exists_performAll_of_steps hsteps
  rw [hstart] at hstore
  have hverified : (pipeline.store.verification? generation).isSome ↔
      ∃ backend row, pipeline.store.run? generation backend = some row ∧ row.handled = true := by
    rw [hstore]
    exact Store.verification?_isSome_iff operations generation
  have hrow : (pipeline.store.verification? generation).isSome →
      ∃ row ∈ pipeline.store.runs, row.generation = generation ∧ row.handled = true := by
    intro hsome
    obtain ⟨backend, row, hfound, hhandled⟩ := hverified.1 hsome
    exact ⟨row, List.mem_of_find?_eq_some hfound, (Store.run?_eq_some_key hfound).1, hhandled⟩
  refine ⟨hverified, ?_, ?_, ?_, ?_⟩
  · intro later backend row hlater hfound hhandled
    obtain ⟨writes, hwrites⟩ := exists_performAll_of_steps hlater
    rw [hwrites]
    exact Store.run?_performAll_of_handled writes hfound hhandled
  · intro later row hlater hfound
    obtain ⟨writes, hwrites⟩ := exists_performAll_of_steps hlater
    rw [hwrites]
    rcases Store.verification?_performAll_of_some writes hfound with hkept | hkept
    · exact ⟨row, hkept, rfl, rfl, rfl, id⟩
    · exact ⟨row.log, hkept, rfl, rfl, rfl, fun _ => rfl⟩
  · exact fun context rule hsome => Verifier.verify_of_handled context rule (hrow hsome)
  · exact fun context rule _ hsome hload hfates =>
      Verifier.verify_of_handled_of_load context rule (hrow hsome) hload hfates

/-- A verified candidate is found to be handled although another backend has reported since. -/
theorem frozen_despite_late_report :
    let pipeline := ((({} : Pipeline).write (.upsertRun ⟨"g", "ivy", [], false⟩)).write
      (.recordVerification ⟨"g", ["ivy"], [], false⟩)).write (.upsertRun ⟨"g", "boa", [], false⟩)
    Reachable pipeline ∧ Frozen pipeline "g" ∧
      (pipeline.store.run? "g" "boa").map (·.handled) = some false ∧
      (Verifier.verify ⟨["ivy", "boa"], .standard⟩ {} "g").run pipeline =
        (.ok .alreadyHandled, pipeline) := by
  intro pipeline
  have hreachable : Reachable pipeline :=
    ⟨{}, rfl, ((Relation.ReflTransGen.single (.write _ _)).tail (.write _ _)).tail (.write _ _)⟩
  have hfrozen : Frozen pipeline "g" := frozen_of_reachable hreachable "g"
  have hread : ∀ result : RunResult, result.calls = [] →
      RunResult.decoder.read? result.encode.text = some result :=
    fun result hcalls => RunResult.read?_encode (by simp [RunResult.Durable, hcalls])
  have hload : pipeline.store.loadRuns "g" =
      .ok [⟨"g", "boa", [], false⟩, ⟨"g", "ivy", [], true⟩] :=
    mapM_eq_ok_iff.2 (.cons (Store.decodeRun_eq_ok_iff.2 ⟨_, hread ⟨"g", "boa", [], false⟩ rfl, rfl⟩)
      (.cons (Store.decodeRun_eq_ok_iff.2 ⟨_, hread ⟨"g", "ivy", [], false⟩ rfl, rfl⟩) .nil))
  have hverified : (pipeline.store.verification? "g").isSome := by decide
  exact ⟨hreachable, hfrozen, by decide, hfrozen.verify_undisturbed _ _ hverified hload rfl⟩

end Pipeline

end Concord
