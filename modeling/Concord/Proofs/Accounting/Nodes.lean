import Mathlib
import Concord.Dispatcher
import Concord.Proofs.Accounting.Contents
import Concord.Proofs.Attempt
import Concord.Proofs.Store.Candidates

/-!
# What nodes keep

A dispatcher, a runner and a verifier keep what is stored and queued consistent, also where they
fail half-way.
-/

namespace Concord

open Setup

variable {setup : Setup} {held : List Delivery}

/-! ### Loading candidates -/

theorem Setup.Stored.exists_record_of_load {store : Store} (h : setup.Stored store) {id : String}
    {generation : Generation} (hload : store.loadGeneration id = .ok (some generation)) :
    ∃ record ∈ setup.records, record.id = id ∧
      Generation.decoder.read? record.encode.text = some generation := by
  rw [Store.loadGeneration_eq_ok_iff] at hload
  cases hrow : store.generation? id with
  | none =>
      rw [hrow] at hload
      cases hload
  | some row =>
      rw [hrow] at hload
      obtain ⟨read, hread, heq⟩ := hload
      obtain ⟨record, hrecord, hid, hdocument⟩ := h.exists_record (List.mem_of_find?_eq_some hrow)
      have hkey : row.id = id := by simpa using List.find?_some hrow
      refine ⟨record, hrecord, hid.trans hkey, ?_⟩
      rw [hdocument, hread, heq]

theorem Setup.Stored.loadGeneration_ne_none {store : Store} (h : setup.Stored store)
    {record : Generation} (hrecord : record ∈ setup.records) :
    store.loadGeneration record.id ≠ .ok none := by
  have hmem : (record.id, record.encode.text) ∈
      store.generations.map fun row => (row.id, row.document) :=
    h.records ▸ List.mem_map_of_mem hrecord
  obtain ⟨row, hrow, heq⟩ := List.mem_map.1 hmem
  have hsome : (store.generation? record.id).isSome :=
    List.find?_isSome.2 ⟨row, hrow, beq_iff_eq.2 (Prod.mk.inj heq).1⟩
  obtain ⟨found, hfound⟩ := Option.isSome_iff_exists.1 hsome
  rw [ne_eq, Store.loadGeneration_eq_ok_iff, hfound]
  rintro ⟨read, -, ⟨⟩⟩

/-- Loading a candidate changes nothing. -/
theorem leads_loadGeneration (context : Context) (id : String) :
    Attempt.Leads (setup.Consistent held)
      (context.needStore "document store unavailable" "load generation"
        (Pipeline.loadGeneration id))
      (fun found contents => setup.Consistent held contents ∧
        contents.1.loadGeneration id = .ok found) (setup.Consistent held) := by
  refine context.leads_needStore _ _ _ ?_ fun _ h => h
  intro store queue found later h hload
  obtain ⟨hload, rfl⟩ := Pipeline.readable_eq_ok_iff.1 hload
  exact ⟨h, hload⟩

/-! ### The dispatcher -/

namespace Dispatcher

/-- Backends are served once their jobs are out. -/
theorem leads_publishJobs (context : Context) {record : Generation}
    (hrecord : record ∈ setup.runnable) (served rest : List String)
    (hrest : ∀ backend ∈ rest, backend ∈ setup.backends) :
    Attempt.Leads
      (fun contents => setup.Consistent held contents ∧
        ∀ backend ∈ served, Served contents record.id backend)
      (publishJobs context record.id rest)
      (fun _ contents => setup.Consistent held contents ∧
        ∀ backend ∈ served ++ rest, Served contents record.id backend)
      (setup.Consistent held) := by
  -- on the backends left; those already served stay so while the others get their jobs
  induction rest generalizing served with
  | nil =>
      apply Attempt.Leads.pure
      rw [List.append_nil]
      exact fun _ h => h
  | cons backend rest ih =>
      obtain ⟨hbackend, hrest⟩ := List.forall_mem_cons.1 hrest
      rw [publishJobs, List.append_cons]
      refine Attempt.Leads.bind ?_ fun _ => ih (served ++ [backend]) hrest
      refine context.leads_needQueue _ _ _ ?_ fun _ h => h.1
      rintro store queue _ later ⟨h, hserved⟩ ⟨⟩
      refine ⟨h.of_publish hrecord hbackend, ?_⟩
      intro name hname
      rcases List.mem_append.1 hname with hname | hname
      · refine (hserved name hname).mono id ?_
        exact fun message hmem => ⟨message, List.mem_append_left _ hmem, rfl, rfl⟩
      · rw [List.mem_singleton.1 hname]
        exact Or.inr ⟨_, List.mem_append_right _ (List.mem_singleton_self _), rfl, rfl⟩

/-- A candidate is marked after its jobs are out, or without them if it did not compile. -/
theorem leads_markEnqueued (context : Context) {id : String} :
    Attempt.Leads
      (fun contents => setup.Consistent held contents ∧ ∀ record ∈ setup.runnable, record.id = id →
        ∀ backend ∈ setup.backends, Served contents id backend)
      (context.needStore "document store unavailable" "mark enqueued" (Pipeline.markEnqueued id))
      (fun _ => setup.Consistent held) (setup.Consistent held) := by
  refine context.leads_needStore _ _ _ ?_ fun _ h => h.1
  rintro store queue value later ⟨h, hserved⟩ hmark
  have hlater : later = (store.markEnqueued id).2 := (Prod.mk.inj (Except.ok.inj hmark)).2.symm
  rw [hlater]
  exact h.of_markEnqueued hserved

/-- Handing on a candidate that compiled, or only marking one that did not. -/
theorem leads_handOn {context : Context} (hbackends : context.backends = setup.backends)
    {record generation : Generation} (hrecord : record ∈ setup.records)
    (hread : Generation.decoder.read? record.encode.text = some generation) :
    Attempt.Leads (setup.Consistent held)
      (do
        if generation.compileError.isNone then publishJobs context record.id context.backends
        context.needStore "document store unavailable" "mark enqueued"
          (Pipeline.markEnqueued record.id))
      (fun _ => setup.Consistent held) (setup.Consistent held) := by
  have herror := (Generation.of_read?_encode hread).2.1
  by_cases hcompiled : generation.compileError.isNone
  · have hrunnable : record ∈ setup.runnable := by
      rw [mem_runnable]
      refine ⟨hrecord, ?_⟩
      rw [← Option.not_isSome_iff_eq_none, ← herror]
      simpa using hcompiled
    rw [if_pos hcompiled, hbackends]
    refine Attempt.Leads.of_imp ?_ fun contents h =>
      (⟨h, fun _ hmem => absurd hmem List.not_mem_nil⟩ : setup.Consistent held contents ∧
        ∀ backend ∈ ([] : List String), Served contents record.id backend)
    refine Attempt.Leads.bind (leads_publishJobs context hrunnable [] setup.backends fun _ h => h)
      fun _ => ?_
    refine (leads_markEnqueued context).of_imp ?_
    rintro contents ⟨h, hserved⟩
    exact ⟨h, fun _ _ _ => hserved⟩
  · rw [if_neg hcompiled]
    refine (leads_markEnqueued context).of_imp ?_
    intro contents h
    refine ⟨h, fun other hother hid => absurd (mem_runnable.1 hother).2 ?_⟩
    rw [eq_of_id_eq (mem_runnable.1 hother).1 hrecord hid, ← ne_eq, Option.ne_none_iff_isSome,
      ← herror, ← Option.ne_none_iff_isSome]
    simpa using hcompiled

theorem leads_dispatch {context : Context} (hbackends : context.backends = setup.backends)
    (id : String) :
    Attempt.Leads (setup.Consistent held) (dispatch context id) (fun _ => setup.Consistent held)
      (setup.Consistent held) := by
  unfold dispatch
  refine Attempt.Leads.bind (leads_loadGeneration context id) fun found => ?_
  cases found with
  | none => exact Attempt.Leads.pure fun _ h => h.1
  | some generation =>
      intro pipeline hpipeline
      obtain ⟨h, hload⟩ := hpipeline
      obtain ⟨record, hrecord, rfl, hread⟩ := h.stored.exists_record_of_load hload
      exact leads_handOn hbackends hrecord hread pipeline h

theorem leads_dispatchAll {context : Context} (hbackends : context.backends = setup.backends)
    (ids : List String) :
    Attempt.Leads (setup.Consistent held) (dispatchAll context ids)
      (fun _ => setup.Consistent held) (setup.Consistent held) := by
  induction ids with
  | nil => exact Attempt.Leads.pure fun _ h => h
  | cons id rest ih =>
      rw [dispatchAll]
      refine Attempt.Leads.bind (leads_dispatch hbackends id) fun _ => ?_
      exact Attempt.Leads.bind ih fun _ => Attempt.Leads.pure fun _ h => h

theorem leads_dispatchOnce {context : Context} (hbackends : context.backends = setup.backends)
    (batch : Nat) :
    Attempt.Leads (setup.Consistent held) (dispatchOnce context batch)
      (fun _ => setup.Consistent held) (setup.Consistent held) := by
  unfold dispatchOnce
  refine Attempt.Leads.bind ?_ fun ids => leads_dispatchAll hbackends ids
  refine context.leads_needStore _ _ _ ?_ fun _ h => h
  rintro store queue ids later h ⟨⟩
  exact h

end Dispatcher

/-! ### Runners -/

namespace Runner

variable {σ : Type}

/-- A result that a runner stores is there afterwards. -/
theorem leads_execute (context : Context) {config : RunConfig} (executor : Executor σ)
    {record generation : Generation} (hrecord : record ∈ setup.runnable)
    (hread : Generation.decoder.read? record.encode.text = some generation)
    (hbackend : config.backend ∈ setup.backends)
    (hcap : config.inputsPerFunction = setup.inputsPerFunction) :
    Step.Leads (setup.Consistent held) (execute context config executor generation)
      (fun _ contents => setup.Consistent held contents ∧
        (contents.1.run? record.id config.backend).isSome)
      (setup.Consistent held) := by
  obtain ⟨hid, -, hshape⟩ := Generation.of_read?_encode hread
  let answers (result : RunResult) : Prop :=
    result.generation = record.id ∧ result.backend = config.backend ∧
      result.shape = record.shape setup.inputsPerFunction
  have hanswers : ∀ state, answers (generation.execute executor config state).1 := by
    intro state
    refine ⟨hid, rfl, ?_⟩
    rw [generation.shape_execute, hcap, hshape]
  unfold execute
  refine Step.Leads.bind (Step.leads_onExecutor answers hanswers) fun result => ?_
  refine Step.Leads.bind (Step.leads_onPipeline ?_) fun _ => Step.Leads.pure fun _ h => h
  refine context.leads_needStore _ _ _ ?_ fun _ h => h.2
  rintro store queue _ later ⟨⟨hgeneration, hresultBackend, hresultShape⟩, h⟩ ⟨⟩
  refine ⟨h.of_upsertRun hrecord hgeneration (hresultBackend ▸ hbackend) hresultShape, ?_⟩
  dsimp only
  rw [Store.run?_upsertRun, if_pos ⟨hgeneration, hresultBackend⟩]
  rfl

theorem leads_handleJob (context : Context) {config : RunConfig} (executor : Executor σ)
    {record : Generation} (hrecord : record ∈ setup.runnable) (backend : String)
    (hbackend : config.backend ∈ setup.backends)
    (hcap : config.inputsPerFunction = setup.inputsPerFunction) :
    Step.Leads (setup.Consistent held) (handleJob context config executor ⟨record.id, backend⟩)
      (fun _ contents => setup.Consistent held contents ∧
        (contents.1.run? record.id config.backend).isSome)
      (setup.Consistent held) := by
  obtain ⟨hmem, hcompiled⟩ := mem_runnable.1 hrecord
  unfold handleJob
  refine Step.Leads.bind (Step.leads_onPipeline (leads_loadGeneration context record.id))
    fun found => ?_
  rintro state pipeline ⟨h, hload⟩
  cases found with
  | none => exact absurd hload (h.stored.loadGeneration_ne_none hmem)
  | some generation =>
      obtain ⟨loaded, hloaded, hid, hread⟩ := h.stored.exists_record_of_load hload
      rw [eq_of_id_eq hloaded hmem hid] at hread
      have herror : ¬generation.compileError.isSome = true := by
        rw [(Generation.of_read?_encode hread).2.1, hcompiled]
        rintro ⟨⟩
      dsimp only
      rw [if_neg herror]
      exact leads_execute context executor hrecord hread hbackend hcap state pipeline h

/-- A delivery is handled by the runner of its backend. -/
theorem leads_handle (context : Context) {config : RunConfig} (policy : PoisonPolicy)
    (executor : Executor σ) {delivery : Delivery} (hheld : delivery ∈ held)
    (hbackend : config.backend = delivery.queue)
    (hcap : config.inputsPerFunction = setup.inputsPerFunction) :
    Step.Leads (setup.Consistent held) (handle context config policy executor delivery)
      (fun _ => setup.Consistent held) (setup.Consistent held) := by
  intro state pipeline hpipeline
  -- every delivery that was given is a job, so none is rejected
  obtain ⟨record, hrecord, hqueue, hbody⟩ := (hpipeline.queued.held delivery hheld).1
  have hjob : delivery.job? = some ⟨record.id, delivery.queue⟩ := by
    rw [Delivery.job?, hbody, Job.read?_encode]
  have hhandle : Step.Leads (setup.Consistent held)
      (do
        let disposal ← handleJob context config executor ⟨record.id, delivery.queue⟩
        onPipeline (ack context delivery)
        pure disposal)
      (fun _ => setup.Consistent held) (setup.Consistent held) := by
    refine Step.Leads.bind (leads_handleJob context executor hrecord delivery.queue
      (hbackend ▸ hqueue) hcap) fun disposal => ?_
    refine Step.Leads.bind (Step.leads_onPipeline (leads_ack context delivery ?_ fun _ h => h.1))
      fun _ => Step.Leads.pure fun _ h => h
    rintro store queue later ⟨h, hran⟩ hack
    refine h.of_ack hack fun message hmem hleased other hother hother_body => ?_
    -- what is held under the tag is the job that was handled
    obtain ⟨hmessageQueue, hmessageBody⟩ :=
      (h.queued.held delivery hheld).2.2 message hmem hleased
    have hsame : (Job.mk other.id message.queue) = ⟨record.id, delivery.queue⟩ :=
      Job.text_injective (hother_body.symm.trans (hmessageBody.trans hbody))
    obtain ⟨hid, -⟩ := Job.mk.inj hsame
    rw [hid, hmessageQueue, ← hbackend]
    exact hran
  unfold handle
  rw [hjob]
  exact hhandle state pipeline hpipeline

end Runner

/-! ### The verifier -/

namespace Verifier

/-- A verification that compares what is stored may be recorded. -/
theorem leads_record (context : Context) {rule : Comparison} {verification : Verification}
    {results : List RunResult}
    (hcompared : rule.verification? verification.generation results setup.backends =
      some verification) :
    Attempt.Leads
      (fun contents => setup.Consistent held contents ∧
        contents.1.loadRuns verification.generation = .ok results)
      (record context verification) (fun _ => setup.Consistent held) (setup.Consistent held) := by
  unfold record
  refine Attempt.Leads.bind ?_ fun _ => Attempt.Leads.pure fun _ h => h
  refine context.leads_needStore _ _ _ ?_ fun _ h => h.1
  rintro store queue won later ⟨h, hload⟩ hrecord
  have hlater : later = (store.recordVerification verification).2 :=
    (congrArg Prod.snd (Except.ok.inj hrecord)).symm
  rw [hlater]
  exact h.of_recordVerification hload hcompared

theorem leads_verify {context : Context} (hbackends : context.backends = setup.backends)
    (rule : Comparison) (id : String) :
    Attempt.Leads (setup.Consistent held) (verify context rule id) (fun _ => setup.Consistent held)
      (setup.Consistent held) := by
  have hload : Attempt.Leads (setup.Consistent held)
      (context.needStore "document store unavailable" "load run results"
        (Pipeline.loadRunResults id))
      (fun results contents => setup.Consistent held contents ∧ contents.1.loadRuns id = .ok results)
      (setup.Consistent held) := by
    refine context.leads_needStore _ _ _ ?_ fun _ h => h
    intro store queue results later h hread
    obtain ⟨hread, rfl⟩ := Pipeline.readable_eq_ok_iff.1 hread
    exact ⟨h, hread⟩
  unfold verify
  refine Attempt.Leads.bind hload fun results => ?_
  split
  · exact Attempt.Leads.pure fun _ h => h.1
  · rw [hbackends]
    cases hcompared : rule.verification? id results setup.backends with
    | none => exact Attempt.Leads.pure fun _ h => h.1
    | some verification =>
        have hid : verification.generation = id := by
          unfold Comparison.verification? at hcompared
          obtain ⟨found, -, heq⟩ := Option.bind_eq_some_iff.1 hcompared
          exact (congrArg Verification.generation (Option.some.inj heq)).symm
        subst hid
        exact leads_record context hcompared

theorem leads_verifyAll {context : Context} (hbackends : context.backends = setup.backends)
    (rule : Comparison) (ids : List String) :
    Attempt.Leads (setup.Consistent held) (verifyAll context rule ids)
      (fun _ => setup.Consistent held) (setup.Consistent held) := by
  induction ids with
  | nil => exact Attempt.Leads.pure fun _ h => h
  | cons id rest ih =>
      rw [verifyAll]
      refine Attempt.Leads.bind (leads_verify hbackends rule id) fun _ => ?_
      exact Attempt.Leads.bind ih fun _ => Attempt.Leads.pure fun _ h => h

theorem leads_pollOnce {context : Context} (hbackends : context.backends = setup.backends)
    (rule : Comparison) (batch : Nat) :
    Attempt.Leads (setup.Consistent held) (pollOnce context rule batch)
      (fun _ => setup.Consistent held) (setup.Consistent held) := by
  unfold pollOnce
  refine Attempt.Leads.bind ?_ fun ids => leads_verifyAll hbackends rule ids
  refine context.leads_needStore _ _ _ ?_ fun _ h => h
  intro store queue ids later h hread
  obtain ⟨-, rfl⟩ := Pipeline.readable_eq_ok_iff.1 hread
  exact h

end Verifier

end Concord
