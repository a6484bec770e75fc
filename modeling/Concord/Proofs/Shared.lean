import Mathlib
import Concord.Proofs.Attempt
import Concord.Proofs.Queue.Tags
import Concord.Proofs.Store.Histories

/-!
# Runners among others

The pipeline of a runner is used by others too: before each of its accesses, attempts that failed
included, they may do to the store and to the queue what they like. Where nobody does anything, a
runner handles a delivery as it does alone.
-/

namespace Concord

/-- What another node does to a pipeline. -/
inductive Move where
  | store (operation : Store.Operation)
  | queue (step : Queue.Step)

namespace Move

def queueStep? : Move → Option Queue.Step
  | store _ => none
  | queue step => some step

/-- Nobody settles a delivery that was not given to them. -/
def Spares (tag : DeliveryTag) : Move → Prop
  | store _ => True
  | queue step => step.Spares tag

end Move

/-- What was done to the queue. -/
def queueSteps (moves : List Move) : List Queue.Step :=
  moves.filterMap Move.queueStep?

namespace Pipeline

def move (pipeline : Pipeline) : Move → Pipeline
  | .store operation => { pipeline with store := pipeline.store.perform operation }
  | .queue step => { pipeline with queue := pipeline.queue.perform step }

def moveAll (pipeline : Pipeline) (moves : List Move) : Pipeline :=
  moves.foldl move pipeline

theorem queue_moveAll (pipeline : Pipeline) (moves : List Move) :
    (pipeline.moveAll moves).queue = pipeline.queue.performAll (queueSteps moves) := by
  induction moves generalizing pipeline with
  | nil => rfl
  | cons move moves ih =>
      cases move with
      | store operation => exact ih _
      | queue step => exact ih _

/-- What every write to the store keeps, the others keep. -/
theorem store_moveAll (kept : Store → Prop)
    (hkept : ∀ store operation, kept store → kept (store.perform operation)) {pipeline : Pipeline}
    (h : kept pipeline.store) (moves : List Move) : kept (pipeline.moveAll moves).store := by
  induction moves generalizing pipeline with
  | nil => exact h
  | cons move moves ih =>
      cases move with
      | store operation => exact @ih (pipeline.move (.store operation)) (hkept _ _ h)
      | queue step => exact @ih (pipeline.move (.queue step)) h

theorem contents_moveAll {pipeline other : Pipeline} (h : pipeline.contents = other.contents)
    (moves : List Move) : (pipeline.moveAll moves).contents = (other.moveAll moves).contents := by
  induction moves generalizing pipeline other with
  | nil => exact h
  | cons move moves ih =>
      obtain ⟨hstore, hqueue⟩ := Prod.mk.inj h
      refine ih ?_
      cases move with
      | store operation => exact Prod.ext (congrArg (Store.perform · operation) hstore) hqueue
      | queue step => exact Prod.ext hstore (congrArg (Queue.perform · step) hqueue)

theorem moveAll_append (pipeline : Pipeline) (before rest : List Move) :
    pipeline.moveAll (before ++ rest) = (pipeline.moveAll before).moveAll rest :=
  List.foldl_append

end Pipeline

/-- What a runner has done. -/
inductive Deed where
  | loaded (id : String) (found : Option Generation)
  | stored (result : RunResult)
  | settled (settlement : Queue.Settlement)

/-- A pipeline that others use too: what they do before each access to come, which is nothing where
the list ends, what they did, and what the runner did. -/
structure Shared where
  pipeline : Pipeline
  turns : List (List Move)
  moved : List Move := []
  deeds : List Deed := []

namespace Shared

/-- The others take a turn. -/
def turn (shared : Shared) : Shared :=
  match shared.turns with
  | [] => shared
  | moves :: rest =>
      { shared with
        pipeline := shared.pipeline.moveAll moves
        turns := rest
        moved := shared.moved ++ moves }

/-- An access, which is a deed if it goes through. -/
def access {ε α : Type} (deed : α → Deed) (attempt : StateM Pipeline (Except ε α)) :
    StateM Shared (Except ε α) := fun shared =>
  match attempt shared.turn.pipeline with
  | (.ok value, pipeline) =>
      (.ok value, { shared.turn with pipeline, deeds := shared.turn.deeds ++ [deed value] })
  | (.error error, pipeline) => (.error error, { shared.turn with pipeline })

/-- A step of a runner, on the state of its executor and the pipeline. -/
abbrev Step (σ α : Type) := ExceptT Failure (StateT σ (StateM Shared)) α

variable {σ : Type}

def onExecutor {α : Type} (step : StateM σ α) : Step σ α := fun state =>
  let (value, state) := step state
  pure (.ok value, state)

/-- A step that leaves the executor alone. -/
def onShared {α : Type} (attempt : ExceptT Failure (StateM Shared) α) : Step σ α := fun state => do
  let result ← attempt.run
  pure (result, state)

def needStore {α : Type} (context : Context) (task operation : String) (deed : α → Deed)
    (attempt : StateM Pipeline (Except Store.Fault α)) : Step σ α :=
  onShared (context.need .storeRetries task operation (access deed attempt))

/-- How the queue is asked to settle a delivery. -/
def settlementOf (tag : DeliveryTag) :
    Queue.Settlement → String × StateM Pipeline (Except Queue.Fault Unit)
  | .ack => ("ack job", Pipeline.ack tag)
  | .reject requeue => ("reject job", Pipeline.reject tag requeue)

def settle (context : Context) (delivery : Delivery) (settlement : Queue.Settlement) :
    Step σ Unit :=
  onShared (Runner.settle context (settlementOf delivery.tag settlement).1
    (access (fun _ => .settled settlement) (settlementOf delivery.tag settlement).2))

def execute (context : Context) (config : RunConfig) (executor : Executor σ)
    (generation : Generation) : Step σ Runner.Disposal := do
  let result ← onExecutor (generation.execute executor config)
  needStore context "failed to persist run result" "persist run result" (fun _ => .stored result)
    (Pipeline.upsertRunResult result)
  pure (.persisted (result.calls.foldr (fun calls count => calls.outcomes.length + count) 0))

def handleJob (context : Context) (config : RunConfig) (executor : Executor σ) (job : Job) :
    Step σ Runner.Disposal := do
  let found ← needStore context "document store unavailable" "load generation"
    (.loaded job.generation) (Pipeline.loadGeneration job.generation)
  match found with
  | none => pure .missingGeneration
  | some generation =>
      if generation.compileError.isSome then pure .compileError
      else execute context config executor generation

/-- How a message that is no job is put out of the way. -/
def disposal : PoisonPolicy → Queue.Settlement
  | .deadLetter => .reject false
  | .drop => .ack

def handle (context : Context) (config : RunConfig) (policy : PoisonPolicy)
    (executor : Executor σ) (delivery : Delivery) : Step σ Runner.Disposal :=
  match delivery.job? with
  | none => do
      settle context delivery (disposal policy)
      pure .poisoned
  | some job => do
      let disposal ← handleJob context config executor job
      settle context delivery .ack
      pure disposal

/-! ### Alone -/

section Alone

variable {α β : Type}

theorem turn_of_alone {shared : Shared} (h : shared.turns = []) : shared.turn = shared := by
  unfold turn
  rw [h]

/-- Where nobody takes a turn, a step does what another one does on the pipeline alone. -/
def Mirrors (step : Step σ α) (plain : Runner.Step σ α) : Prop :=
  ∀ (state : σ) (shared : Shared), shared.turns = [] → ∃ deeds,
    (step.run state).run shared =
      (((plain.run state).run shared.pipeline).1,
        { shared with pipeline := ((plain.run state).run shared.pipeline).2, deeds })

theorem Mirrors.bind {first : Step σ α} {next : α → Step σ β} {plain : Runner.Step σ α}
    {plainNext : α → Runner.Step σ β} (hfirst : Mirrors first plain)
    (hnext : ∀ value, Mirrors (next value) (plainNext value)) :
    Mirrors (first >>= next) (plain >>= plainNext) := by
  intro state shared halone
  obtain ⟨deeds, hrun⟩ := hfirst state shared halone
  rw [Runner.Step.bind_apply, Runner.Step.bind_apply, hrun]
  cases hplain : (plain.run state).run shared.pipeline with
  | mk answer pipeline =>
      obtain ⟨answer, state⟩ := answer
      cases answer with
      | error failure => exact ⟨deeds, rfl⟩
      | ok value => exact hnext value state { shared with pipeline, deeds } halone

theorem Mirrors.pure (value : α) : Mirrors (Pure.pure value : Step σ α) (Pure.pure value) :=
  fun _ shared _ => ⟨shared.deeds, rfl⟩

theorem mirrors_onExecutor (step : StateM σ α) :
    Mirrors (onExecutor step) (Runner.onExecutor step) :=
  fun _ shared _ => ⟨shared.deeds, rfl⟩

theorem onShared_apply (attempt : ExceptT Failure (StateM Shared) α) (state : σ)
    (shared : Shared) :
    ((onShared attempt : Step σ α).run state).run shared =
      (((attempt.run shared).1, state), (attempt.run shared).2) :=
  rfl

/-- The same pipeline, but for what the runner did. -/
def Alike (shared : Shared) (pipeline : Pipeline) (mirror : Shared) : Prop :=
  ∃ deeds, mirror = { shared with pipeline, deeds }

theorem access_same {ε : Type} (deed : α → Deed) (attempt : StateM Pipeline (Except ε α))
    {shared : Shared} (halone : shared.turns = []) :
    ∀ pipeline mirror, Alike shared pipeline mirror →
      RetryPolicy.Same (Alike shared) (attempt pipeline) (access deed attempt mirror) := by
  rintro pipeline mirror ⟨deeds, rfl⟩
  have hturn : ({ shared with pipeline, deeds } : Shared).turn = { shared with pipeline, deeds } :=
    turn_of_alone halone
  rw [access, hturn]
  cases attempt pipeline with
  | mk answer later => cases answer <;> exact ⟨rfl, _, rfl⟩

theorem mirrors_onShared {attempt : ExceptT Failure (StateM Shared) α} {plain : Attempt α}
    (h : ∀ shared : Shared, shared.turns = [] → Alike shared shared.pipeline shared →
      RetryPolicy.Same (Alike shared) (plain.run shared.pipeline) (attempt.run shared)) :
    Mirrors (onShared attempt : Step σ α) (Runner.onPipeline plain) := by
  intro state shared halone
  obtain ⟨hanswer, deeds, hlater⟩ := h shared halone ⟨shared.deeds, rfl⟩
  refine ⟨deeds, ?_⟩
  rw [onShared_apply, Runner.onPipeline_apply, hanswer, hlater]

theorem mirrors_needStore (context : Context) (task operation : String) (deed : α → Deed)
    (attempt : StateM Pipeline (Except Store.Fault α)) :
    Mirrors (needStore context task operation deed attempt : Step σ α)
      (Runner.onPipeline (context.needStore task operation attempt)) :=
  mirrors_onShared fun _ halone =>
    Context.need_same (access_same deed attempt halone) context .storeRetries task operation

theorem mirrors_settle (context : Context) (delivery : Delivery) (settlement : Queue.Settlement) :
    Mirrors (settle context delivery settlement : Step σ Unit)
      (Runner.onPipeline (Runner.settle context (settlementOf delivery.tag settlement).1
        (settlementOf delivery.tag settlement).2)) :=
  mirrors_onShared fun _ halone => Runner.settle_same
    (access_same (fun _ => .settled settlement) (settlementOf delivery.tag settlement).2 halone)
    context (settlementOf delivery.tag settlement).1

theorem mirrors_execute (context : Context) (config : RunConfig) (executor : Executor σ)
    (generation : Generation) :
    Mirrors (execute context config executor generation)
      (Runner.execute context config executor generation) := by
  unfold execute Runner.execute
  refine (mirrors_onExecutor _).bind fun result => ?_
  exact (mirrors_needStore context _ _ _ _).bind fun _ => Mirrors.pure _

theorem mirrors_handleJob (context : Context) (config : RunConfig) (executor : Executor σ)
    (job : Job) :
    Mirrors (handleJob context config executor job)
      (Runner.handleJob context config executor job) := by
  unfold handleJob Runner.handleJob
  refine (mirrors_needStore context _ _ _ _).bind fun found => ?_
  cases found with
  | none => exact Mirrors.pure _
  | some generation =>
      dsimp only
      split
      · exact Mirrors.pure _
      · exact mirrors_execute context config executor generation

/-- **Alone.** Where the others do nothing, a delivery is handled as by a runner alone. -/
theorem mirrors_handle (context : Context) (config : RunConfig) (policy : PoisonPolicy)
    (executor : Executor σ) (delivery : Delivery) :
    Mirrors (handle context config policy executor delivery)
      (Runner.handle context config policy executor delivery) := by
  unfold handle Runner.handle
  cases delivery.job? with
  | none =>
      dsimp only
      cases policy with
      | deadLetter =>
          exact (mirrors_settle context delivery (.reject false)).bind fun _ => Mirrors.pure _
      | drop => exact (mirrors_settle context delivery .ack).bind fun _ => Mirrors.pure _
  | some job =>
      refine (mirrors_handleJob context config executor job).bind fun disposal => ?_
      exact (mirrors_settle context delivery .ack).bind fun _ => Mirrors.pure _

end Alone

end Shared

end Concord
