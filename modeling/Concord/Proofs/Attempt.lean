import Mathlib
import Concord.Proofs.Pipeline
import Concord.Runner

/-!
# Where a step of a node leads

An access changes what is stored or what is queued, once, or it changes neither. So what a node does
is told by what holds of both before it, after it, and where it fails.
-/

namespace Concord

namespace Pipeline

variable {α ε : Type}

/-- What is stored and what is queued. -/
def contents (pipeline : Pipeline) : Store × Queue :=
  (pipeline.store, pipeline.queue)

theorem contents_fate (access : Access) (pipeline : Pipeline) :
    (fate access pipeline).2.contents = pipeline.contents := by
  rw [fate_apply]
  unfold nextFate
  split <;> rfl

/-- An answer: a value as an effect gave it, or an error that had none. -/
def Answered (effect : Store × Queue → α → Store × Queue → Prop) (pipeline : Pipeline) :
    Except ε α × Pipeline → Prop
  | (.ok value, later) => effect pipeline.contents value later.contents
  | (.error _, later) => later.contents = pipeline.contents

/-- An operation of the store, which leaves the queue as it is. -/
def storeEffect (operation : Store → Except Store.Fault (α × Store)) (before : Store × Queue)
    (value : α) (later : Store × Queue) : Prop :=
  operation before.1 = .ok (value, later.1) ∧ later.2 = before.2

/-- An operation of the queue, which leaves the store as it is. -/
def queueEffect (operation : Queue → Except Queue.Fault (α × Queue)) (before : Store × Queue)
    (value : α) (later : Store × Queue) : Prop :=
  operation before.2 = .ok (value, later.2) ∧ later.1 = before.1

theorem Answered.of_contents {effect : Store × Queue → α → Store × Queue → Prop}
    {pipeline later : Pipeline} {result : Except ε α × Pipeline}
    (h : later.contents = pipeline.contents) (hanswered : Answered effect later result) :
    Answered effect pipeline result := by
  obtain ⟨answer, last⟩ := result
  cases answer with
  | ok value =>
      change effect pipeline.contents _ _
      rw [← h]
      exact hanswered
  | error error => exact Eq.trans hanswered h

theorem onStore_answered (access : Access) (operation : Store → Except Store.Fault (α × Store))
    (pipeline : Pipeline) :
    Answered (storeEffect operation) pipeline (onStore access operation pipeline) := by
  have hoperate : ∀ later : Pipeline,
      Answered (storeEffect operation) later (operate operation later) := by
    intro later
    unfold operate
    cases h : operation later.store with
    | error fault => exact rfl
    | ok result => exact ⟨h, rfl⟩
  have hcontents := contents_fate access pipeline
  rw [onStore_apply]
  cases h : fate access pipeline with
  | mk fate later =>
      rw [h] at hcontents
      cases fate with
      | fail fault => exact hcontents
      | pass => exact (hoperate later).of_contents hcontents
      | stop => exact (hoperate later).of_contents hcontents

theorem onQueue_answered (access : Access) (operation : Queue → Except Queue.Fault (α × Queue))
    (pipeline : Pipeline) :
    Answered (queueEffect operation) pipeline (onQueue access operation pipeline) := by
  have hcontents := contents_fate access pipeline
  cases h : fate access pipeline with
  | mk fate later =>
      rw [h] at hcontents
      unfold onQueue
      simp only [bind, StateT.bind, h]
      cases fate with
      | fail fault => exact hcontents
      | pass | stop =>
          refine Answered.of_contents hcontents ?_
          dsimp only
          cases hoperation : operation later.queue with
          | error fault => exact rfl
          | ok result => exact ⟨hoperation, rfl⟩

end Pipeline

/-! ### Steps of nodes -/

namespace Attempt

variable {α β : Type} {before : Store × Queue → Prop} {kept : Store × Queue → Prop}

/-- From where `before` holds, a step leads to where `after` holds if it succeeds, and to where
`kept` holds if it does not. -/
def Leads (before : Store × Queue → Prop) (attempt : Attempt α)
    (after : α → Store × Queue → Prop) (kept : Store × Queue → Prop) : Prop :=
  ∀ pipeline : Pipeline, before pipeline.contents →
    match attempt.run pipeline with
    | (.ok value, later) => after value later.contents
    | (.error _, later) => kept later.contents

theorem Leads.bind {first : Attempt α} {next : α → Attempt β}
    {middle : α → Store × Queue → Prop} {after : β → Store × Queue → Prop}
    (hfirst : Leads before first middle kept)
    (hnext : ∀ value, Leads (middle value) (next value) after kept) :
    Leads before (first >>= next) after kept := by
  intro pipeline hbefore
  have hmiddle := hfirst pipeline hbefore
  rw [bind_apply]
  cases h : first.run pipeline with
  | mk answer later =>
      rw [h] at hmiddle
      cases answer with
      | error failure => exact hmiddle
      | ok value => exact hnext value later hmiddle

theorem Leads.pure {after : α → Store × Queue → Prop} {value : α}
    (h : ∀ contents, before contents → after value contents) :
    Leads before (Pure.pure value) after kept :=
  fun pipeline hbefore => h pipeline.contents hbefore

theorem Leads.of_imp {start : Store × Queue → Prop} {attempt : Attempt α}
    {after : α → Store × Queue → Prop} (h : Leads before attempt after kept)
    (hstart : ∀ contents, start contents → before contents) : Leads start attempt after kept :=
  fun pipeline hbefore => h pipeline (hstart _ hbefore)

end Attempt

namespace Context

variable {α : Type} {before : Store × Queue → Prop} {kept : Store × Queue → Prop}
  {after : α → Store × Queue → Prop}

/-- However often it is tried, an access has its effect once or not at all. -/
theorem trying_answered {ε : Type} [Transient ε] (context : Context) (operation : String)
    {attempt : StateM Pipeline (Except ε α)} {effect : Store × Queue → α → Store × Queue → Prop}
    (h : ∀ pipeline, Pipeline.Answered effect pipeline (attempt pipeline)) (pipeline : Pipeline) :
    match (context.trying operation attempt).run pipeline with
    | (.ok answer, later) => Pipeline.Answered effect pipeline (answer, later)
    | (.error _, later) => later.contents = pipeline.contents := by
  have htrans : ∀ a b c : Pipeline, b.contents = a.contents → c.contents = b.contents →
      c.contents = a.contents := fun _ _ _ hfirst hnext => hnext.trans hfirst
  have hfail : ∀ (state : Pipeline) error next, attempt state = (.error error, next) →
      next.contents = state.contents := by
    intro state error next hattempt
    have hanswer := h state
    rwa [hattempt] at hanswer
  -- attempts that failed changed nothing, so the last one starts from the same contents
  have hended := trying_ended htrans (fun _ => rfl) hfail context operation pipeline
  generalize (context.trying operation attempt).run pipeline = result at hended
  rcases result with ⟨failure | (error | value), later⟩
  · exact hended
  · exact hended
  · obtain ⟨state, hstate, hattempt⟩ := hended
    have hanswer := h state
    rw [hattempt] at hanswer
    exact hanswer.of_contents hstate

theorem need_answered {ε : Type} [Transient ε] (context : Context) (cause : RetryError ε → Cause)
    (task operation : String) {attempt : StateM Pipeline (Except ε α)}
    {effect : Store × Queue → α → Store × Queue → Prop}
    (h : ∀ pipeline, Pipeline.Answered effect pipeline (attempt pipeline)) (pipeline : Pipeline) :
    Pipeline.Answered effect pipeline
      ((context.need cause task operation attempt).run pipeline) := by
  have hanswer := context.trying_answered operation h pipeline
  rw [need_apply]
  generalize (context.trying operation attempt).run pipeline = result at hanswer
  rcases result with ⟨failure | (error | value), later⟩ <;> exact hanswer

/-- What an answer is made of is what it leads to. -/
theorem leads_of_answered {attempt : Attempt α} {effect : Store × Queue → α → Store × Queue → Prop}
    (hanswered : ∀ pipeline, Pipeline.Answered effect pipeline (attempt.run pipeline))
    (hafter : ∀ contents value later, before contents → effect contents value later →
      after value later)
    (hkept : ∀ contents, before contents → kept contents) :
    Attempt.Leads before attempt after kept := by
  intro pipeline hbefore
  have hanswer := hanswered pipeline
  cases h : attempt.run pipeline with
  | mk answer later =>
      rw [h] at hanswer
      cases answer with
      | ok value => exact hafter _ _ _ hbefore hanswer
      | error failure =>
          change kept later.contents
          rw [show later.contents = pipeline.contents from hanswer]
          exact hkept _ hbefore

theorem needStore_answered (context : Context) (task name : String) (access : Access)
    (operation : Store → Except Store.Fault (α × Store)) (pipeline : Pipeline) :
    Pipeline.Answered (Pipeline.storeEffect operation) pipeline
      ((context.needStore task name (Pipeline.onStore access operation)).run pipeline) :=
  context.need_answered .storeRetries task name (Pipeline.onStore_answered access operation)
    pipeline

theorem leads_needStore (context : Context) (task name : String) (access : Access)
    {operation : Store → Except Store.Fault (α × Store)}
    (hafter : ∀ (store : Store) (queue : Queue) value later, before (store, queue) →
      operation store = .ok (value, later) → after value (later, queue))
    (hkept : ∀ contents, before contents → kept contents) :
    Attempt.Leads before (context.needStore task name (Pipeline.onStore access operation)) after
      kept := by
  refine leads_of_answered (context.needStore_answered task name access operation) ?_ hkept
  rintro ⟨store, queue⟩ value ⟨later, rest⟩ hbefore ⟨hoperation, rfl⟩
  exact hafter store rest value later hbefore hoperation

theorem needQueue_answered (context : Context) (task name : String) (access : Access)
    (operation : Queue → Except Queue.Fault (α × Queue)) (pipeline : Pipeline) :
    Pipeline.Answered (Pipeline.queueEffect operation) pipeline
      ((context.needQueue task name (Pipeline.onQueue access operation)).run pipeline) :=
  context.need_answered .queueRetries task name (Pipeline.onQueue_answered access operation)
    pipeline

theorem leads_needQueue (context : Context) (task name : String) (access : Access)
    {operation : Queue → Except Queue.Fault (α × Queue)}
    (hafter : ∀ (store : Store) (queue : Queue) value later, before (store, queue) →
      operation queue = .ok (value, later) → after value (store, later))
    (hkept : ∀ contents, before contents → kept contents) :
    Attempt.Leads before (context.needQueue task name (Pipeline.onQueue access operation)) after
      kept := by
  refine leads_of_answered (context.needQueue_answered task name access operation) ?_ hkept
  rintro ⟨store, queue⟩ value ⟨rest, later⟩ hbefore ⟨hoperation, rfl⟩
  exact hafter rest queue value later hbefore hoperation

end Context

namespace Runner

theorem onPipeline_apply {σ α : Type} (attempt : Attempt α) (state : σ) (pipeline : Pipeline) :
    ((onPipeline attempt : Step σ α).run state).run pipeline =
      (((attempt.run pipeline).1, state), (attempt.run pipeline).2) :=
  rfl

theorem settle_apply {τ : Type} (context : Context) (operation : String)
    (attempt : StateM τ (Except Queue.Fault Unit)) (state : τ) :
    (settle context operation attempt).run state =
      (((context.trying operation attempt).run state).1.bind settled,
        ((context.trying operation attempt).run state).2) := by
  unfold settle
  rw [Attempt.bind_apply]
  rcases (context.trying operation attempt).run state with ⟨failure | result, later⟩ <;> rfl

theorem settle_same {τ υ : Type} {alike : τ → υ → Prop}
    {attempt : StateM τ (Except Queue.Fault Unit)} {other : StateM υ (Except Queue.Fault Unit)}
    (hattempt : ∀ state mirror, alike state mirror →
      RetryPolicy.Same alike (attempt state) (other mirror))
    (context : Context) (operation : String) {state : τ} {mirror : υ} (h : alike state mirror) :
    RetryPolicy.Same alike ((settle context operation attempt).run state)
      ((settle context operation other).run mirror) := by
  obtain ⟨hanswer, hlater⟩ := Context.trying_same hattempt context operation h
  rw [settle_apply, settle_apply]
  exact ⟨congrArg (Except.bind · _) hanswer, hlater⟩

/-- A delivery is acknowledged, or its lease went to another consumer. -/
theorem leads_ack (context : Context) (delivery : Delivery) {before after : Store × Queue → Prop}
    (hacked : ∀ (store : Store) (queue : Queue) later, before (store, queue) →
      queue.ack delivery.tag = .ok ((), later) → after (store, later))
    (hafter : ∀ contents, before contents → after contents) :
    Attempt.Leads before (ack context delivery) (fun _ => after) after := by
  intro pipeline hbefore
  have hacks : ∀ pipeline, Pipeline.Answered (Pipeline.queueEffect (·.ack delivery.tag)) pipeline
      (Pipeline.ack delivery.tag pipeline) := Pipeline.onQueue_answered .ack _
  have hanswer := context.trying_answered "ack job" hacks pipeline
  have hkept : ∀ later : Pipeline, later.contents = pipeline.contents → after later.contents := by
    intro later hlater
    rw [hlater]
    exact hafter _ hbefore
  unfold ack
  rw [settle_apply]
  generalize (context.trying "ack job" (Pipeline.ack delivery.tag)).run pipeline = result
    at hanswer ⊢
  rcases result with ⟨failure | (error | value), later⟩
  · exact hkept later hanswer
  · dsimp only [Except.bind, settled]
    cases error.inner <;> exact hkept later hanswer
  · obtain ⟨hoperation, hstore⟩ := hanswer
    have hacked := hacked pipeline.store pipeline.queue later.queue hbefore hoperation
    rw [← show later.store = pipeline.store from hstore] at hacked
    exact hacked

namespace Step

variable {σ α β : Type} {before kept : Store × Queue → Prop}

/-- Where a step of a runner leads, whatever the executor makes of it. -/
def Leads (before : Store × Queue → Prop) (step : Step σ α) (after : α → Store × Queue → Prop)
    (kept : Store × Queue → Prop) : Prop :=
  ∀ (state : σ) (pipeline : Pipeline), before pipeline.contents →
    match (step.run state).run pipeline with
    | ((.ok value, _), later) => after value later.contents
    | ((.error _, _), later) => kept later.contents

/-- The first step that fails ends a run, whatever is behind the executor. -/
theorem bind_apply {τ : Type} (first : ExceptT Failure (StateT σ (StateM τ)) α)
    (next : α → ExceptT Failure (StateT σ (StateM τ)) β) (state : σ) (behind : τ) :
    ((first >>= next).run state).run behind =
      match (first.run state).run behind with
      | ((.ok value, state), later) => ((next value).run state).run later
      | ((.error failure, state), later) => ((.error failure, state), later) := by
  simp only [Bind.bind, ExceptT.bind, ExceptT.run, ExceptT.mk, StateT.bind, StateT.run]
  cases first state behind with
  | mk answer later =>
      obtain ⟨answer, state⟩ := answer
      cases answer <;> rfl

theorem Leads.bind {first : Step σ α} {next : α → Step σ β} {middle : α → Store × Queue → Prop}
    {after : β → Store × Queue → Prop} (hfirst : Leads before first middle kept)
    (hnext : ∀ value, Leads (middle value) (next value) after kept) :
    Leads before (first >>= next) after kept := by
  intro state pipeline hbefore
  have hmiddle := hfirst state pipeline hbefore
  rw [bind_apply]
  cases h : (first.run state).run pipeline with
  | mk answer later =>
      rw [h] at hmiddle
      obtain ⟨answer, state⟩ := answer
      cases answer with
      | error failure => exact hmiddle
      | ok value => exact hnext value state later hmiddle

theorem Leads.pure {after : α → Store × Queue → Prop} {value : α}
    (h : ∀ contents, before contents → after value contents) :
    Leads before (Pure.pure value : Step σ α) after kept :=
  fun _ pipeline hbefore => h pipeline.contents hbefore

theorem leads_onPipeline {attempt : Attempt α} {after : α → Store × Queue → Prop}
    (h : Attempt.Leads before attempt after kept) :
    Leads before (onPipeline attempt : Step σ α) after kept := by
  intro state pipeline hbefore
  have hattempt := h pipeline hbefore
  rw [onPipeline_apply]
  cases hanswer : attempt.run pipeline with
  | mk answer later =>
      rw [hanswer] at hattempt
      cases answer <;> exact hattempt

/-- An executor answers as it will, and what is stored and queued stays. -/
theorem leads_onExecutor {step : StateM σ α} (answers : α → Prop)
    (h : ∀ state, answers (step state).1) :
    Leads before (onExecutor step) (fun value contents => answers value ∧ before contents) kept :=
  fun state _ hbefore => ⟨h state, hbefore⟩

end Step

end Runner

end Concord
