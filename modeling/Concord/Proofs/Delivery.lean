import Mathlib
import Concord.Executor.Script
import Concord.Proofs.Shared
import Concord.Proofs.Store.Candidates

/-!
# Persist before acknowledging

A runner settles a delivery only after what the message asks for is stored. Where it fails on the
way, it has left the queue to the others, and the message comes back.
-/

namespace Concord

namespace Shared

/-! ### What time brings -/

/-- The others took turns, and the runner did nothing. -/
def Waited (shared later : Shared) : Prop :=
  ∃ taken : List (List Move), shared.turns = taken ++ later.turns ∧
    later.moved = shared.moved ++ taken.flatten ∧
    later.pipeline.contents = (shared.pipeline.moveAll taken.flatten).contents ∧
    later.deeds = shared.deeds

theorem Waited.refl (shared : Shared) : Waited shared shared :=
  ⟨[], rfl, (List.append_nil _).symm, rfl, rfl⟩

theorem Waited.trans {shared middle later : Shared} (h : Waited shared middle)
    (hrest : Waited middle later) : Waited shared later := by
  obtain ⟨taken, hturns, hmoved, hcontents, hdeeds⟩ := h
  obtain ⟨more, hmoreTurns, hmoreMoved, hmoreContents, hmoreDeeds⟩ := hrest
  refine ⟨taken ++ more, ?_, ?_, ?_, hmoreDeeds.trans hdeeds⟩
  · rw [hturns, hmoreTurns, List.append_assoc]
  · rw [hmoreMoved, hmoved, List.flatten_append, List.append_assoc]
  · rw [hmoreContents, List.flatten_append, Pipeline.moveAll_append]
    exact Pipeline.contents_moveAll hcontents _

theorem waited_turn (shared : Shared) : Waited shared shared.turn := by
  unfold turn
  cases hturns : shared.turns with
  | nil => exact Waited.refl shared
  | cons moves rest =>
      refine ⟨[moves], hturns, ?_, ?_, rfl⟩
      · rw [List.flatten_singleton]
      · rw [List.flatten_singleton]

/-- An access of the runner went through. -/
structure Acted (effect : Store × Queue → Store × Queue → Prop) (deed : Deed)
    (shared later : Shared) : Prop where
  turns : later.turns = shared.turns
  moved : later.moved = shared.moved
  deeds : later.deeds = shared.deeds ++ [deed]
  effect : effect shared.pipeline.contents later.pipeline.contents

section Trying

variable {ε α : Type} [Transient ε] {attempt : StateM Pipeline (Except ε α)}
  {effect : Store × Queue → α → Store × Queue → Prop} {deed : α → Deed}

omit [Transient ε] in
theorem waited_of_access_error
    (h : ∀ pipeline, Pipeline.Answered effect pipeline (attempt pipeline)) {shared later : Shared}
    {error : ε} (haccess : access deed attempt shared = (.error error, later)) :
    Waited shared later := by
  unfold access at haccess
  have hanswered := h shared.turn.pipeline
  cases hattempt : attempt shared.turn.pipeline with
  | mk answer pipeline =>
      rw [hattempt] at haccess hanswered
      cases answer with
      | ok value => cases haccess
      | error fault =>
          cases haccess
          obtain ⟨taken, hturns, hmoved, hcontents, hdeeds⟩ := waited_turn shared
          exact ⟨taken, hturns, hmoved, Eq.trans hanswered hcontents, hdeeds⟩

omit [Transient ε] in
theorem acted_of_access_ok (h : ∀ pipeline, Pipeline.Answered effect pipeline (attempt pipeline))
    {shared later : Shared} {value : α}
    (haccess : access deed attempt shared = (.ok value, later)) :
    Acted (effect · value ·) (deed value) shared.turn later := by
  unfold access at haccess
  have hanswered := h shared.turn.pipeline
  cases hattempt : attempt shared.turn.pipeline with
  | mk answer pipeline =>
      rw [hattempt] at haccess hanswered
      cases answer with
      | error fault => cases haccess
      | ok found =>
          cases haccess
          exact ⟨rfl, rfl, rfl, hanswered⟩

/-- However often it is tried, an access goes through once, after the others took turns, or it has
no effect. -/
def Tried (effect : Store × Queue → α → Store × Queue → Prop) (deed : α → Deed) (shared : Shared) :
    Except Failure (Except (RetryError ε) α) × Shared → Prop
  | (.ok (.ok value), later) =>
      ∃ middle, Waited shared middle ∧ Acted (effect · value ·) (deed value) middle later
  | (.ok (.error _), later) => Waited shared later
  | (.error _, later) => Waited shared later

theorem tried (deed : α → Deed)
    (h : ∀ pipeline, Pipeline.Answered effect pipeline (attempt pipeline)) (context : Context)
    (operation : String) (shared : Shared) :
    Tried effect deed shared ((context.trying operation (access deed attempt)).run shared) := by
  have htrans : ∀ a b c : Shared, Waited a b → Waited b c → Waited a c := fun _ _ _ => Waited.trans
  have hfail : ∀ state error next, access deed attempt state = (.error error, next) →
      Waited state next := fun _ _ _ => waited_of_access_error h
  have hended := Context.trying_ended htrans Waited.refl hfail context operation shared
  generalize (context.trying operation (access deed attempt)).run shared = result at hended
  rcases result with ⟨failure | (error | value), later⟩
  · exact hended
  · exact hended
  · obtain ⟨middle, hwaited, haccess⟩ := hended
    exact ⟨middle.turn, hwaited.trans (waited_turn middle), acted_of_access_ok h haccess⟩

end Trying

/-! ### Where a step leads -/

/-- Why a delivery is given up: the store could not be reached, or the queue could not. Under a
policy that runs out of delays, there may also be none before another attempt to reach them. -/
def GivenUp (policy : RetryPolicy) (failure : Failure) : Prop :=
  (∃ error, failure.cause = .storeRetries error) ∨
    (∃ fault, failure.cause = .queue (.database fault)) ∨
      ¬ policy.Lasting ∧ ∃ fault, failure.cause = .noDelay fault

namespace Step

variable {σ α β : Type} {before : Shared → Prop} {failed : Failure → Shared → Prop}

/-- From where `before` holds, a step leads to where `after` holds if it succeeds, and to where
`failed` holds if it does not, whatever the executor makes of it. -/
def Leads (before : Shared → Prop) (step : Step σ α) (after : α → Shared → Prop)
    (failed : Failure → Shared → Prop) : Prop :=
  ∀ (state : σ) (shared : Shared), before shared →
    match (step.run state).run shared with
    | ((.ok value, _), later) => after value later
    | ((.error failure, _), later) => failed failure later

theorem Leads.bind {first : Step σ α} {next : α → Step σ β} {middle : α → Shared → Prop}
    {after : β → Shared → Prop} (hfirst : Leads before first middle failed)
    (hnext : ∀ value, Leads (middle value) (next value) after failed) :
    Leads before (first >>= next) after failed := by
  intro state shared hbefore
  have hmiddle := hfirst state shared hbefore
  rw [Runner.Step.bind_apply]
  cases h : (first.run state).run shared with
  | mk answer later =>
      rw [h] at hmiddle
      obtain ⟨answer, state⟩ := answer
      cases answer with
      | error failure => exact hmiddle
      | ok value => exact hnext value state later hmiddle

theorem Leads.pure {after : α → Shared → Prop} {value : α}
    (h : ∀ shared, before shared → after value shared) :
    Leads before (Pure.pure value : Step σ α) after failed :=
  fun _ shared hbefore => h shared hbefore

theorem leads_onExecutor {step : StateM σ α} (answers : α → Prop)
    (h : ∀ state, answers (step state).1) :
    Leads before (onExecutor step) (fun value shared => answers value ∧ before shared) failed :=
  fun state _ hbefore => ⟨h state, hbefore⟩

theorem leads_needStore {context : Context} {task name : String} {deed : α → Deed} {access : Access}
    {operation : Store → Except Store.Fault (α × Store)} (after : α → Shared → Prop)
    (hwaited : ∀ shared later, before shared → Waited shared later → before later)
    (hacted : ∀ shared value later, before shared →
      Acted (Pipeline.storeEffect operation · value ·) (deed value) shared later →
      after value later)
    (hfailed : ∀ shared failure, before shared → GivenUp context.retry failure →
      failed failure shared) :
    Leads before
      (needStore context task name deed (Pipeline.onStore access operation) : Step σ α) after
      failed := by
  intro state shared hbefore
  have htried := tried deed (Pipeline.onStore_answered access operation) context name shared
  unfold needStore
  rw [onShared_apply, Context.need_apply]
  rcases htrying : (context.trying name (Shared.access deed (Pipeline.onStore access operation))).run
    shared with ⟨failure | (error | value), later⟩ <;> rw [htrying] at htried
  · exact hfailed later failure (hwaited shared later hbefore htried)
      (Or.inr (Or.inr (Context.of_trying_error htrying)))
  · exact hfailed later _ (hwaited shared later hbefore htried) (Or.inl ⟨error, rfl⟩)
  · obtain ⟨middle, hmiddle, hlater⟩ := htried
    exact hacted middle value later (hwaited shared middle hbefore hmiddle) hlater

end Step

/-! ### Handling a delivery -/

/-- The job is done as far as it can be: its candidate is not there, did not compile, or has a
result that was stored. -/
def Served (config : RunConfig) (job : Job) (deeds : List Deed) : Prop :=
  .loaded job.generation none ∈ deeds ∨
    ∃ generation, .loaded job.generation (some generation) ∈ deeds ∧
      (generation.compileError.isSome = true ∨
        ∃ result, .stored result ∈ deeds ∧ result.generation = generation.id ∧
          result.backend = config.backend)

/-- What must have been done before a delivery is settled. -/
def Warranted (config : RunConfig) (policy : PoisonPolicy) (delivery : Delivery)
    (deeds : List Deed) : Queue.Settlement → Prop
  | .ack => (delivery.job? = none ∧ policy = .drop) ∨
      ∃ job, delivery.job? = some job ∧ Served config job deeds
  | .reject requeue => requeue = false ∧ delivery.job? = none ∧ policy = .deadLetter

/-- What stays true while a delivery is handled: nobody else settles it, what was loaded was there,
and what was stored is. -/
structure Kept (start : Pipeline) (tag : DeliveryTag) (shared : Shared) : Prop where
  coming : ∀ moves ∈ shared.turns, ∀ move ∈ moves, move.Spares tag
  gone : ∀ move ∈ shared.moved, move.Spares tag
  loaded : ∀ id found, .loaded id found ∈ shared.deeds → ∃ moves rest,
    shared.moved = moves ++ rest ∧ (start.moveAll moves).store.loadGeneration id = .ok found
  stored : ∀ result, .stored result ∈ shared.deeds →
    (shared.pipeline.store.run? result.generation result.backend).isSome = true

/-- The runner did nothing yet. -/
structure Fresh (start : Pipeline) (tag : DeliveryTag) (shared : Shared) : Prop
    extends Kept start tag shared where
  idle : shared.deeds = []
  contents : shared.pipeline.contents = (start.moveAll shared.moved).contents

/-- The runner did nothing to the queue yet. -/
structure Open (start : Pipeline) (tag : DeliveryTag) (shared : Shared) : Prop
    extends Kept start tag shared where
  unsettled : ∀ settlement, .settled settlement ∉ shared.deeds
  queue : shared.pipeline.queue = start.queue.performAll (queueSteps shared.moved)

/-- The runner settled the delivery, which it could. -/
structure Closed (start : Pipeline) (config : RunConfig) (policy : PoisonPolicy)
    (delivery : Delivery) (shared : Shared) : Prop extends Kept start delivery.tag shared where
  settled : ∃ settlement before, shared.deeds = before ++ [.settled settlement] ∧
    (∀ other, .settled other ∉ before) ∧ Warranted config policy delivery before settlement ∧
    (start.queue.performAll (queueSteps shared.moved)).settleBy delivery.tag settlement =
      .ok ((), shared.pipeline.queue)

section Handling

variable {σ : Type} {start : Pipeline} {tag : DeliveryTag} {shared later : Shared}

theorem Kept.waited (h : Kept start tag shared) (hwaited : Waited shared later) :
    Kept start tag later := by
  obtain ⟨taken, hturns, hmoved, hcontents, hdeeds⟩ := hwaited
  have hcoming := h.coming
  rw [hturns] at hcoming
  refine ⟨fun moves hmem => hcoming moves (List.mem_append_right _ hmem), ?_, ?_, ?_⟩
  · intro move hmove
    rw [hmoved] at hmove
    rcases List.mem_append.1 hmove with hgone | htaken
    · exact h.gone move hgone
    · obtain ⟨moves, hmoves, hmem⟩ := List.mem_flatten.1 htaken
      exact hcoming moves (List.mem_append_left _ hmoves) move hmem
  · intro id found hmem
    rw [hdeeds] at hmem
    obtain ⟨moves, rest, hsplit, hload⟩ := h.loaded id found hmem
    exact ⟨moves, rest ++ taken.flatten, by rw [hmoved, hsplit, List.append_assoc], hload⟩
  · intro result hmem
    rw [hdeeds] at hmem
    rw [show later.pipeline.store = _ from congrArg Prod.fst hcontents]
    exact Pipeline.store_moveAll
      (fun store => (store.run? result.generation result.backend).isSome = true)
      (fun _ operation => Store.run?_perform_isSome operation) (h.stored result hmem) _

/-- An access of the runner keeps what was stored, and its own deed is true. -/
theorem Kept.acted (h : Kept start tag shared) {effect : Store × Queue → Store × Queue → Prop}
    {deed : Deed} (hacted : Acted effect deed shared later)
    (hloaded : ∀ id found, deed = .loaded id found → ∃ moves rest,
      shared.moved = moves ++ rest ∧ (start.moveAll moves).store.loadGeneration id = .ok found)
    (hstored : ∀ result, deed = .stored result →
      (later.pipeline.store.run? result.generation result.backend).isSome = true)
    (hruns : ∀ generation backend, (shared.pipeline.store.run? generation backend).isSome = true →
      (later.pipeline.store.run? generation backend).isSome = true) :
    Kept start tag later where
  coming := hacted.turns ▸ h.coming
  gone := hacted.moved ▸ h.gone
  loaded := by
    intro id found hmem
    rw [hacted.deeds] at hmem
    rw [hacted.moved]
    rcases List.mem_append.1 hmem with hmem | hmem
    · exact h.loaded id found hmem
    · exact hloaded id found (List.mem_singleton.1 hmem).symm
  stored := by
    intro result hmem
    rw [hacted.deeds] at hmem
    rcases List.mem_append.1 hmem with hmem | hmem
    · exact hruns _ _ (h.stored result hmem)
    · exact hstored result (List.mem_singleton.1 hmem).symm

theorem Fresh.waited (h : Fresh start tag shared) (hwaited : Waited shared later) :
    Fresh start tag later := by
  refine ⟨h.toKept.waited hwaited, ?_, ?_⟩
  · obtain ⟨taken, -, -, -, hdeeds⟩ := hwaited
    exact hdeeds.trans h.idle
  · obtain ⟨taken, -, hmoved, hcontents, -⟩ := hwaited
    rw [hcontents, hmoved, Pipeline.moveAll_append]
    exact Pipeline.contents_moveAll h.contents _

theorem Open.waited (h : Open start tag shared) (hwaited : Waited shared later) :
    Open start tag later := by
  refine ⟨h.toKept.waited hwaited, ?_, ?_⟩
  · obtain ⟨taken, -, -, -, hdeeds⟩ := hwaited
    exact hdeeds ▸ h.unsettled
  · obtain ⟨taken, -, hmoved, hcontents, -⟩ := hwaited
    have hqueue : later.pipeline.queue = (shared.pipeline.moveAll taken.flatten).queue :=
      congrArg Prod.snd hcontents
    rw [hqueue, Pipeline.queue_moveAll, h.queue, hmoved, queueSteps, queueSteps, queueSteps,
      List.filterMap_append]
    exact List.foldl_append.symm

theorem Fresh.opened (h : Fresh start tag shared) : Open start tag shared := by
  refine ⟨h.toKept, ?_, ?_⟩
  · rw [h.idle]
    exact fun settlement => List.not_mem_nil
  · rw [← Pipeline.queue_moveAll]
    exact congrArg Prod.snd h.contents

/-- What was loaded is what the others had left in the store. -/
theorem Fresh.loaded_acted (h : Fresh start tag shared) {id : String} {found : Option Generation}
    (hacted : Acted (Pipeline.storeEffect (Pipeline.readable (·.loadGeneration id)) · found ·)
      (.loaded id found) shared later) : Open start tag later ∧ .loaded id found ∈ later.deeds := by
  obtain ⟨hload, hqueue⟩ := hacted.effect
  obtain ⟨value, hvalue, hsame⟩ : ∃ value,
      shared.pipeline.store.loadGeneration id = .ok value ∧
        (value, shared.pipeline.store) = (found, later.pipeline.store) := by
    change (·, shared.pipeline.store) <$> shared.pipeline.store.loadGeneration id =
      .ok (found, later.pipeline.store) at hload
    cases hvalue : shared.pipeline.store.loadGeneration id with
    | error fault =>
        rw [hvalue] at hload
        cases hload
    | ok value =>
        rw [hvalue] at hload
        exact ⟨value, rfl, Except.ok.inj hload⟩
  obtain ⟨rfl, hstore⟩ := Prod.mk.inj hsame
  have hthere : (start.moveAll shared.moved).store.loadGeneration id = .ok value := by
    rw [← show shared.pipeline.store = (start.moveAll shared.moved).store from
      congrArg Prod.fst h.contents]
    exact hvalue
  refine ⟨⟨h.toKept.acted hacted ?_ ?_ ?_, ?_, ?_⟩, ?_⟩
  · rintro id found ⟨⟩
    exact ⟨shared.moved, [], (List.append_nil _).symm, hthere⟩
  · rintro result ⟨⟩
  · exact hstore ▸ fun _ _ hsome => hsome
  · rw [hacted.deeds, h.idle]
    simp
  · rw [hacted.moved, ← h.opened.queue]
    exact hqueue
  · rw [hacted.deeds]
    exact List.mem_append_right _ (List.mem_singleton_self _)

theorem Open.stored_acted (h : Open start tag shared) {result : RunResult}
    (hacted : Acted (Pipeline.storeEffect (fun store => .ok ((), store.upsertRun result)) · () ·)
      (.stored result) shared later) :
    Open start tag later ∧ .stored result ∈ later.deeds ∧
      ∀ deed ∈ shared.deeds, deed ∈ later.deeds := by
  obtain ⟨hwrite, hqueue⟩ := hacted.effect
  obtain hstore : shared.pipeline.store.upsertRun result = later.pipeline.store :=
    congrArg Prod.snd (Except.ok.inj hwrite)
  refine ⟨⟨h.toKept.acted hacted ?_ ?_ ?_, ?_, ?_⟩, ?_, ?_⟩
  · rintro id found ⟨⟩
  · rintro result ⟨⟩
    rw [← hstore, Store.run?_upsertRun, if_pos ⟨rfl, rfl⟩]
    rfl
  · intro generation backend hsome
    rw [← hstore]
    exact Store.run?_perform_isSome (.upsertRun result) hsome
  · intro settlement hmem
    rw [hacted.deeds] at hmem
    rcases List.mem_append.1 hmem with hmem | hmem
    · exact h.unsettled settlement hmem
    · cases List.mem_singleton.1 hmem
  · rw [hacted.moved, ← h.queue]
    exact hqueue
  · rw [hacted.deeds]
    exact List.mem_append_right _ (List.mem_singleton_self _)
  · rw [hacted.deeds]
    exact fun deed hmem => List.mem_append_left _ hmem

theorem leads_execute (context : Context) (config : RunConfig) (executor : Executor σ) (job : Job)
    (generation : Generation) :
    Step.Leads
      (fun shared => Open start tag shared ∧
        .loaded job.generation (some generation) ∈ shared.deeds)
      (execute context config executor generation)
      (fun _ shared => Open start tag shared ∧ Served config job shared.deeds)
      (fun failure shared => Open start tag shared ∧ GivenUp context.retry failure) := by
  unfold execute
  refine Step.Leads.bind (Step.leads_onExecutor
    (fun result => result.generation = generation.id ∧ result.backend = config.backend)
    fun state => ⟨rfl, rfl⟩) fun result => ?_
  refine Step.Leads.bind (Step.leads_needStore
    (fun _ shared => Open start tag shared ∧ Served config job shared.deeds) ?_ ?_ ?_) fun _ =>
    Step.Leads.pure fun _ => id
  · rintro shared later ⟨hresult, hopen, hloaded⟩ hwaited
    refine ⟨hresult, hopen.waited hwaited, ?_⟩
    obtain ⟨taken, -, -, -, hdeeds⟩ := hwaited
    exact hdeeds ▸ hloaded
  · rintro shared ⟨⟩ later ⟨⟨hgeneration, hbackend⟩, hopen, hloaded⟩ hacted
    obtain ⟨hlater, hstored, hdeeds⟩ := hopen.stored_acted hacted
    exact ⟨hlater, Or.inr ⟨generation, hdeeds _ hloaded,
      Or.inr ⟨result, hstored, hgeneration, hbackend⟩⟩⟩
  · rintro shared failure ⟨-, hopen, -⟩ hgivenUp
    exact ⟨hopen, hgivenUp⟩

theorem leads_handleJob (context : Context) (config : RunConfig) (executor : Executor σ)
    (job : Job) :
    Step.Leads (Fresh start tag) (handleJob context config executor job)
      (fun _ shared => Open start tag shared ∧ Served config job shared.deeds)
      (fun failure shared => Open start tag shared ∧ GivenUp context.retry failure) := by
  unfold handleJob
  refine Step.Leads.bind (Step.leads_needStore (fun found shared =>
    Open start tag shared ∧ .loaded job.generation found ∈ shared.deeds) ?_ ?_ ?_) fun found => ?_
  · exact fun shared later hfresh hwaited => hfresh.waited hwaited
  · exact fun shared found later hfresh hacted => hfresh.loaded_acted hacted
  · exact fun shared failure hfresh hgivenUp => ⟨hfresh.opened, hgivenUp⟩
  · cases found with
    | none =>
        refine Step.Leads.pure ?_
        rintro shared ⟨hopen, hloaded⟩
        exact ⟨hopen, Or.inl hloaded⟩
    | some generation =>
        dsimp only
        split
        · next herror =>
            refine Step.Leads.pure ?_
            rintro shared ⟨hopen, hloaded⟩
            exact ⟨hopen, Or.inr ⟨generation, hloaded, Or.inl herror⟩⟩
        · exact leads_execute context config executor job generation

theorem settlementOf_answered (tag : DeliveryTag) (settlement : Queue.Settlement)
    (pipeline : Pipeline) :
    Pipeline.Answered (Pipeline.queueEffect (·.settleBy tag settlement)) pipeline
      ((settlementOf tag settlement).2 pipeline) := by
  cases settlement with
  | ack => exact Pipeline.onQueue_answered .ack (·.ack tag) pipeline
  | reject requeue => exact Pipeline.onQueue_answered .reject (·.reject tag requeue) pipeline

theorem Open.settled_acted {config : RunConfig} {policy : PoisonPolicy} {delivery : Delivery}
    {settlement : Queue.Settlement} (h : Open start delivery.tag shared)
    (hwarranted : Warranted config policy delivery shared.deeds settlement)
    (hacted : Acted (Pipeline.queueEffect (·.settleBy delivery.tag settlement) · () ·)
      (.settled settlement) shared later) : Closed start config policy delivery later := by
  obtain ⟨hsettle, hstore⟩ := hacted.effect
  have hstore : later.pipeline.store = shared.pipeline.store := hstore
  refine ⟨h.toKept.acted hacted ?_ ?_ ?_, settlement, shared.deeds, hacted.deeds, h.unsettled,
    hwarranted, ?_⟩
  · rintro id found ⟨⟩
  · rintro result ⟨⟩
  · exact hstore ▸ fun _ _ hsome => hsome
  · rw [hacted.moved, ← h.queue]
    exact hsettle

theorem leads_settle (context : Context) (config : RunConfig) (policy : PoisonPolicy)
    (delivery : Delivery) (settlement : Queue.Settlement) :
    Step.Leads
      (fun shared => Open start delivery.tag shared ∧
        Warranted config policy delivery shared.deeds settlement)
      (settle context delivery settlement : Step σ Unit)
      (fun _ shared => Open start delivery.tag shared ∨ Closed start config policy delivery shared)
      (fun failure shared => Open start delivery.tag shared ∧ GivenUp context.retry failure) := by
  rintro state shared ⟨hopen, hwarranted⟩
  have htried := tried (fun _ => .settled settlement)
    (settlementOf_answered delivery.tag settlement) context
    (settlementOf delivery.tag settlement).1 shared
  unfold settle
  rw [onShared_apply, Runner.settle_apply]
  rcases htrying : (context.trying (settlementOf delivery.tag settlement).1
    (access (fun _ => .settled settlement) (settlementOf delivery.tag settlement).2)).run shared with
    ⟨failure | (error | value), later⟩ <;> rw [htrying] at htried
  · exact ⟨hopen.waited htried, Or.inr (Or.inr (Context.of_trying_error htrying))⟩
  · have hlater : Open start delivery.tag later := hopen.waited htried
    dsimp only [Except.bind, Runner.settled]
    cases error.inner with
    | unknownDelivery other => exact Or.inl hlater
    | database fault => exact ⟨hlater, Or.inr (Or.inl ⟨fault, rfl⟩)⟩
  · obtain ⟨middle, hmiddle, hlater⟩ := htried
    refine Or.inr ((hopen.waited hmiddle).settled_acted ?_ hlater)
    obtain ⟨taken, -, -, -, hdeeds⟩ := hmiddle
    exact hdeeds ▸ hwarranted

theorem leads_handle (context : Context) (config : RunConfig) (policy : PoisonPolicy)
    (executor : Executor σ) (delivery : Delivery) :
    Step.Leads (Fresh start delivery.tag) (handle context config policy executor delivery)
      (fun _ shared => Open start delivery.tag shared ∨ Closed start config policy delivery shared)
      (fun failure shared => Open start delivery.tag shared ∧ GivenUp context.retry failure) := by
  unfold handle
  cases hjob : delivery.job? with
  | none =>
      refine fun state shared hfresh => Step.Leads.bind
        (leads_settle context config policy delivery (disposal policy))
        (fun _ => Step.Leads.pure fun _ => id) state shared ⟨hfresh.opened, ?_⟩
      cases policy with
      | deadLetter => exact ⟨rfl, hjob, rfl⟩
      | drop => exact Or.inl ⟨hjob, rfl⟩
  | some job =>
      refine Step.Leads.bind (leads_handleJob context config executor job) fun disposal => ?_
      rintro state shared ⟨hopen, hserved⟩
      exact Step.Leads.bind (leads_settle context config policy delivery .ack)
        (fun _ => Step.Leads.pure fun _ => id) state shared ⟨hopen, Or.inr ⟨job, hjob, hserved⟩⟩

end Handling

/-! ### Persist before acknowledging -/

/-- A delivery is handled while others take turns. -/
def amid {σ : Type} (context : Context) (config : RunConfig) (policy : PoisonPolicy)
    (executor : Executor σ) (delivery : Delivery) (state : σ) (start : Pipeline)
    (turns : List (List Move)) : (Except Failure Runner.Disposal × σ) × Shared :=
  ((handle context config policy executor delivery).run state).run { pipeline := start, turns }

/-- The messages that others were given in the meantime. -/
def othersGiven (start : Pipeline) (later : Shared) : List Message :=
  Queue.collect Queue.deliveredBy start.queue (queueSteps later.moved)

/-- What the others alone would have made of the queue. -/
def othersQueue (start : Pipeline) (later : Shared) : Queue :=
  start.queue.performAll (queueSteps later.moved)

/-- How handling a delivery ended, from a pipeline that others use too. -/
structure Handled (retry : RetryPolicy) (start : Pipeline) (config : RunConfig)
    (policy : PoisonPolicy) (delivery : Delivery) (answer : Except Failure Runner.Disposal)
    (later : Shared) : Prop where
  /-- The delivery was settled only after everything that the message asks for was done. -/
  warranted : ∀ before settlement rest, later.deeds = before ++ .settled settlement :: rest →
    Warranted config policy delivery before settlement
  /-- Nothing else was done to the queue. -/
  settled : ∀ settlement, .settled settlement ∈ later.deeds →
    (othersQueue start later).settleBy delivery.tag settlement = .ok ((), later.pipeline.queue)
  unsettled : (∀ settlement, .settled settlement ∉ later.deeds) →
    later.pipeline.queue = othersQueue start later
  /-- What was loaded was in the store at some time, under its own id if the store was in order. -/
  loaded : ∀ id found, .loaded id found ∈ later.deeds → ∃ moves rest,
    later.moved = moves ++ rest ∧ (start.moveAll moves).store.loadGeneration id = .ok found
  named : start.store.Filed → ∀ id generation, .loaded id (some generation) ∈ later.deeds →
    generation.id = id
  /-- What was stored is in the store. -/
  stored : ∀ result, .stored result ∈ later.deeds →
    (later.pipeline.store.run? result.generation result.backend).isSome = true
  /-- The store or the queue could not be reached where the delivery was given up, and it was not
  settled then. -/
  failed : ∀ failure, answer = .error failure →
    GivenUp retry failure ∧ ∀ settlement, .settled settlement ∉ later.deeds
  /-- A message that was given up and that nobody else received is under the same lease, which
  lets it come back as it runs out. -/
  kept : ∀ failure, answer = .error failure → ∀ message ∈ start.queue.messages,
    message.leasedAs delivery.tag = true →
    (∀ given ∈ othersGiven start later, given.number ≠ message.number) →
      ∃ lapsed, { message with state := .leased delivery.tag lapsed } ∈
          later.pipeline.queue.messages ∧
        { message with state := .leased delivery.tag true } ∈
          (later.pipeline.queue.lapse delivery.tag).messages ∧
        ({ message with state := .leased delivery.tag true } : Message).WaitsIn message.queue
  /-- A message that another consumer received is left to that consumer. -/
  taken : ∀ message ∈ start.queue.messages, message.leasedAs delivery.tag = true →
    ∀ given ∈ othersGiven start later, given.number = message.number →
      (∀ settlement, .settled settlement ∉ later.deeds) ∧
        later.pipeline.queue = othersQueue start later

section Ending

variable {σ : Type} {retry : RetryPolicy} {start : Pipeline} {config : RunConfig}
  {policy : PoisonPolicy} {delivery : Delivery} {later : Shared}

theorem Kept.queueSteps_spare {tag : DeliveryTag} (h : Kept start tag later) :
    ∀ step ∈ queueSteps later.moved, step.Spares tag := by
  intro step hmem
  obtain ⟨move, hmove, hstep⟩ := List.mem_filterMap.1 hmem
  have hspares := h.gone move hmove
  cases move with
  | store operation => cases hstep
  | queue other =>
      obtain rfl := Option.some.inj hstep
      exact hspares

theorem Kept.named {tag : DeliveryTag} (h : Kept start tag later) (hfiled : start.store.Filed)
    {id : String} {generation : Generation} (hmem : .loaded id (some generation) ∈ later.deeds) :
    generation.id = id := by
  obtain ⟨moves, rest, -, hload⟩ := h.loaded id _ hmem
  have hlater : (start.moveAll moves).store.Filed :=
    Pipeline.store_moveAll Store.Filed (fun _ operation hkept => hkept.perform operation) hfiled
      moves
  exact hlater.loadGeneration hload

/-- The lease of a message that was taken by nobody else is still there. -/
theorem Kept.held {tag : DeliveryTag} (h : Kept start tag later) (hsound : start.queue.Sound)
    {message : Message} (hmem : message ∈ start.queue.messages)
    (hheld : message.leasedAs tag = true)
    (hothers : ∀ given ∈ othersGiven start later, given.number ≠ message.number) :
    ∃ lapsed,
      { message with state := .leased tag lapsed } ∈ (othersQueue start later).messages := by
  obtain ⟨lapsed, hstate⟩ := Message.exists_of_leasedAs hheld
  have hstart : { message with state := .leased tag lapsed } ∈ start.queue.messages := by
    rw [← hstate]
    exact hmem
  rcases hsound.held_performAll h.queueSteps_spare hstart with ⟨given, hgiven, hnumber⟩ | hstill
  · exact absurd hnumber (hothers given hgiven)
  · exact hstill

/-- A delivery whose message went to another consumer cannot be settled. -/
theorem Kept.refused {tag : DeliveryTag} (h : Kept start tag later) (hsound : start.queue.Sound)
    {message given : Message} (hmem : message ∈ start.queue.messages)
    (hheld : message.leasedAs tag = true) (hgiven : given ∈ othersGiven start later)
    (hnumber : given.number = message.number) (settlement : Queue.Settlement) :
    (othersQueue start later).settleBy tag settlement = .error (.unknownDelivery tag) := by
  obtain ⟨lapsed, hstate⟩ := Message.exists_of_leasedAs hheld
  have hstart : { message with state := .leased tag lapsed } ∈ start.queue.messages := by
    rw [← hstate]
    exact hmem
  exact (hsound.spent_performAll h.queueSteps_spare hstart hgiven hnumber).refused settlement

theorem Open.handled (h : Open start delivery.tag later) (hsound : start.queue.Sound)
    {answer : Except Failure Runner.Disposal}
    (hfailed : ∀ failure, answer = .error failure → GivenUp retry failure) :
    Handled retry start config policy delivery answer later where
  warranted := by
    intro before settlement rest hdeeds
    refine absurd ?_ (h.unsettled settlement)
    rw [hdeeds]
    exact List.mem_append_right _ List.mem_cons_self
  settled := fun settlement hmem => absurd hmem (h.unsettled settlement)
  unsettled := fun _ => h.queue
  loaded := h.loaded
  named := fun hfiled _ _ => h.named hfiled
  stored := h.stored
  failed := fun failure hanswer => ⟨hfailed failure hanswer, h.unsettled⟩
  kept := by
    intro failure _ message hmem hheld hothers
    obtain ⟨lapsed, hstill⟩ := h.toKept.held hsound hmem hheld hothers
    rw [show othersQueue start later = later.pipeline.queue from h.queue.symm] at hstill
    refine ⟨lapsed, hstill, List.mem_map.2 ⟨_, hstill, if_pos ?_⟩, rfl, rfl⟩
    exact beq_self_eq_true delivery.tag
  taken := fun _ _ _ _ _ _ => ⟨h.unsettled, h.queue⟩

theorem Closed.handled (h : Closed start config policy delivery later) (hsound : start.queue.Sound)
    (disposal : Runner.Disposal) :
    Handled retry start config policy delivery (.ok disposal) later := by
  obtain ⟨settlement, before, hdeeds, hunsettled, hwarranted, hsettle⟩ := h.settled
  have hdone : .settled settlement ∈ later.deeds := by
    rw [hdeeds]
    exact List.mem_append_right _ (List.mem_singleton_self _)
  have honly : ∀ other, .settled other ∈ later.deeds → other = settlement := by
    intro other hmem
    rw [hdeeds] at hmem
    rcases List.mem_append.1 hmem with hmem | hmem
    · exact absurd hmem (hunsettled other)
    · exact Deed.settled.inj (List.mem_singleton.1 hmem)
  refine ⟨?_, ?_, ?_, h.loaded, fun hfiled _ _ => h.named hfiled, h.stored, ?_, ?_, ?_⟩
  · intro earlier other rest hsplit
    obtain rfl := honly other (hsplit ▸ List.mem_append_right _ List.mem_cons_self)
    -- what comes before the only settlement is what came before this one
    rw [hdeeds] at hsplit
    rcases List.append_eq_append_iff.1 hsplit with ⟨more, rfl, hmore⟩ | ⟨more, rfl, hmore⟩
    · cases more with
      | nil => rwa [List.append_nil]
      | cons deed more => simp at hmore
    · cases more with
      | nil => rwa [List.append_nil] at hwarranted
      | cons deed more =>
          obtain rfl := (List.cons.inj hmore).1
          exact absurd (List.mem_append_right _ List.mem_cons_self) (hunsettled other)
  · intro other hmem
    rw [honly other hmem]
    exact hsettle
  · exact fun hnone => absurd hdone (hnone settlement)
  · intro failure hanswer
    cases hanswer
  · intro failure hanswer
    cases hanswer
  · intro message hmem hheld given hgiven hnumber
    have hrefused := h.toKept.refused hsound hmem hheld hgiven hnumber settlement
    rw [othersQueue, hsettle] at hrefused
    cases hrefused

/-- **Persist before acknowledging.** Whatever fails and whatever others do in the meantime, a
runner settles a delivery only after what the message asks for is stored; one that it gives up comes
back; and one that went to another consumer is left to it. -/
theorem persists_before_settling (context : Context) (config : RunConfig) (policy : PoisonPolicy)
    (executor : Executor σ) (delivery : Delivery) (state : σ) {start : Pipeline}
    {turns : List (List Move)} (hsound : start.queue.Sound)
    (hspares : ∀ moves ∈ turns, ∀ move ∈ moves, move.Spares delivery.tag) :
    Handled context.retry start config policy delivery
        (amid context config policy executor delivery state start turns).1.1
        (amid context config policy executor delivery state start turns).2 ∧
      (turns = [] →
        ((amid context config policy executor delivery state start turns).1,
          (amid context config policy executor delivery state start turns).2.pipeline) =
        ((Runner.handle context config policy executor delivery).run state).run start) := by
  have hfresh : Fresh start delivery.tag { pipeline := start, turns } :=
    ⟨⟨hspares, by simp, by simp, by simp⟩, rfl, rfl⟩
  have hleads := leads_handle context config policy executor delivery state _ hfresh
  have halone := mirrors_handle context config policy executor delivery state
    { pipeline := start, turns }
  unfold amid
  cases hrun : ((handle context config policy executor delivery).run state).run
      { pipeline := start, turns } with
  | mk result later =>
      obtain ⟨answer, next⟩ := result
      rw [hrun] at hleads halone
      refine ⟨?_, ?_⟩
      · cases answer with
        | ok disposal =>
            rcases hleads with hopen | hclosed
            · exact hopen.handled hsound nofun
            · exact hclosed.handled hsound disposal
        | error failure =>
            obtain ⟨hopen, hgivenUp⟩ := hleads
            refine hopen.handled hsound ?_
            rintro _ ⟨⟩
            exact hgivenUp
      · intro hnone
        obtain ⟨deeds, hsame⟩ := halone hnone
        obtain ⟨hanswer, rfl⟩ := Prod.mk.inj hsame
        exact Prod.ext hanswer rfl

end Ending

/-! A runner is so slow that its lease runs out and another one receives the message. -/

namespace Handover

def body : String :=
  (Job.mk "g" "ivy").encode.text

def received : List Queue.Step :=
  [.publish "ivy" body, .receive "ivy"]

def start : Pipeline where
  queue := Queue.after received

/-- The others take over after the runner looked for the candidate. -/
def turns : List (List Move) :=
  [[], [.queue (.lapse ⟨0⟩), .queue (.receive "ivy")]]

def delivery : Delivery :=
  ⟨⟨0⟩, "ivy", body, 1⟩

def ran : (Except Failure Runner.Disposal × Executor.Script) × Shared :=
  amid ⟨["ivy"], .standard⟩ { backend := "ivy" } .drop Executor.Script.executor delivery {} start
    turns

/-- The second consumer has the message, and the first one is done with it. -/
theorem persists_before_settling_of_handover :
    (start.queue.Sound ∧ ∀ moves ∈ turns, ∀ move ∈ moves, move.Spares delivery.tag) ∧
      Handled .standard start { backend := "ivy" } .drop delivery ran.1.1 ran.2 ∧
      ran.1.1.isOk = true ∧
      ran.2.pipeline.queue.messages = [⟨0, "ivy", body, .leased ⟨1⟩ false, 2⟩] := by
  have hsound : start.queue.Sound := Queue.sound_after received
  have hspares : ∀ moves ∈ turns, ∀ move ∈ moves, move.Spares delivery.tag := by
    simp only [turns, List.mem_cons, List.not_mem_nil, or_false, forall_eq_or_imp, forall_eq,
      false_implies, implies_true, true_and]
    constructor <;> intro settlement <;> cases settlement <;> nofun
  have hhandled := persists_before_settling ⟨["ivy"], .standard⟩ { backend := "ivy" } .drop
    Executor.Script.executor delivery {} hsound hspares
  refine ⟨⟨hsound, hspares⟩, ?_, by decide +kernel⟩
  unfold ran
  exact hhandled.1

end Handover

end Shared

end Concord
