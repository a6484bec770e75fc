import Concord.Execution
import Concord.Pipeline

/-!
Running the jobs of one backend. A delivery is settled only after what it asked for is stored, so a
job that is lost half-way comes back.
-/

namespace Concord

/-- What to do with a message that is no job. -/
inductive PoisonPolicy where
  | deadLetter
  | drop
  deriving DecidableEq, Repr

namespace Runner

/-- What became of a delivery; `outcomes` counts the calls that were made. -/
inductive Disposal where
  | persisted (outcomes : Nat)
  | missingGeneration
  | compileError
  | poisoned
  deriving DecidableEq, Repr

/-- A step of a runner, on the state of its executor and the pipeline. -/
abbrev Step (σ α : Type) := ExceptT Failure (StateT σ (StateM Pipeline)) α

variable {σ : Type}

/-- A step that leaves the executor alone. -/
def onPipeline {α : Type} (attempt : Attempt α) : Step σ α :=
  fun state => do
    let result ← attempt.run
    pure (result, state)

/-- A step of the executor alone. -/
def onExecutor {α : Type} (step : StateM σ α) : Step σ α :=
  fun state =>
    let (value, state) := step state
    pure (.ok value, state)

/-- A lease that went to another consumer in the meantime needs no settling. -/
def settled (result : Except (RetryError Queue.Fault) Unit) : Except Failure Unit :=
  match result with
  | .ok () => .ok ()
  | .error error =>
      match error.inner with
      | .unknownDelivery _ => .ok ()
      | fault => .error ⟨some "failed to settle delivery", .queue fault⟩

/-- Tries to settle a delivery. -/
def settle {τ : Type} (context : Context) (operation : String)
    (attempt : StateM τ (Except Queue.Fault Unit)) : ExceptT Failure (StateM τ) Unit := do
  let result ← context.trying operation attempt
  ExceptT.mk (pure (settled result))

def ack (context : Context) (delivery : Delivery) : Attempt Unit :=
  settle context "ack job" (Pipeline.ack delivery.tag)

def reject (context : Context) (delivery : Delivery) : Attempt Unit :=
  settle context "reject job" (Pipeline.reject delivery.tag false)

/-- Runs a candidate and stores the result. -/
def execute (context : Context) (config : RunConfig) (executor : Executor σ)
    (generation : Generation) : Step σ Disposal := do
  let result ← onExecutor (generation.execute executor config)
  onPipeline (context.needStore "failed to persist run result" "persist run result"
    (Pipeline.upsertRunResult result))
  pure (.persisted (result.calls.foldr (fun calls count => calls.outcomes.length + count) 0))

def handleJob (context : Context) (config : RunConfig) (executor : Executor σ) (job : Job) :
    Step σ Disposal := do
  let found ← onPipeline (context.needStore "document store unavailable" "load generation"
    (Pipeline.loadGeneration job.generation))
  match found with
  | none => pure .missingGeneration
  | some generation =>
      if generation.compileError.isSome then pure .compileError
      else execute context config executor generation

/-- Puts a message that is no job out of the way. -/
def dispose (context : Context) (policy : PoisonPolicy) (delivery : Delivery) : Attempt Unit :=
  match policy with
  | .deadLetter => reject context delivery
  | .drop => ack context delivery

def handle (context : Context) (config : RunConfig) (policy : PoisonPolicy)
    (executor : Executor σ) (delivery : Delivery) : Step σ Disposal :=
  match delivery.job? with
  | none => do
      onPipeline (dispose context policy delivery)
      pure .poisoned
  | some job => do
      let disposal ← handleJob context config executor job
      onPipeline (ack context delivery)
      pure disposal

/-- Handles a job if there is one, and tells whether there was. -/
def pollOnce (context : Context) (config : RunConfig) (policy : PoisonPolicy)
    (executor : Executor σ) : Step σ Bool := do
  let found ← onPipeline (context.needQueue "job queue unavailable" "receive job"
    (Pipeline.receive config.backend))
  match found with
  | none => pure false
  | some delivery => do
      let _ ← handle context config policy executor delivery
      pure true

/-- Up to `count` polls, or as many as it takes to fail. -/
def polls (context : Context) (config : RunConfig) (policy : PoisonPolicy)
    (executor : Executor σ) : Nat → StateT σ (StateM Pipeline) (Option Failure)
  | 0 => pure none
  | count + 1 => do
      match ← (pollOnce context config policy executor).run with
      | .ok _ => polls context config policy executor count
      | .error failure => pure (some failure)

/-- Polls without end. A poll that does not fail takes up a fate or settles a message, or all that
follow are like it; then there is no failure. -/
def run (context : Context) (config : RunConfig) (policy : PoisonPolicy)
    (executor : Executor σ) : StateT σ (StateM Pipeline) (Option Failure) := do
  let pipeline ← (get : StateM Pipeline Pipeline)
  polls context config policy executor (pipeline.fatesLeft + pipeline.workLeft + 1)

end Runner

end Concord
