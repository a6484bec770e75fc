import Concord.Executor
import Concord.Generation

/-!
Running a candidate on one backend. Every failure becomes the outcome of the calls that it keeps
from succeeding, so a run always has the same shape.
-/

namespace Concord

/-- How a backend is run: which one, with how many inputs of each function (all if `none`), and how
much of the state and the memory is kept. -/
structure RunConfig where
  backend : String
  inputsPerFunction : Option Nat := none
  snapshotSlots : Nat := 10
  memoryBytes : Nat := 1280
  deriving Repr

namespace Execution

variable {σ : Type}

def selected (config : RunConfig) (inputs : List (List Json)) : List (List Json) :=
  match config.inputsPerFunction with
  | some limit => inputs.take limit
  | none => inputs

def observed (config : RunConfig) (trace : Trace) (slots : List Slot) : Success where
  state := Snapshot.bounded slots config.snapshotSlots
  memory := trace.memory.map fun bytes => Text.Hex.encode (bytes.take config.memoryBytes)
  gasUsed := trace.gasUsed
  returnValue := trace.returnValue.text

/-- One call, and the state after it if it succeeds. -/
def invoke (executor : Executor σ) (config : RunConfig) (handle function : String)
    (args : List Json) : StateM σ Outcome := do
  match ← executor.call handle function args with
  | .error fault => pure (.runtimeError fault.message)
  | .ok trace =>
      match ← executor.dumpState handle with
      | .error fault => pure (.runtimeError fault.message)
      | .ok slots => pure (.success (observed config trace slots))

/-- The calls of one function of a deployment whose exports, or the lack of them, are known. -/
def callFunction (executor : Executor σ) (config : RunConfig) (handle : String)
    (exports : Except Executor.Fault (List Export)) (constructorIndex : Nat)
    (function : String × List (List Json)) : StateM σ FunctionCalls := do
  let (name, inputs) := function
  let outcomes ← (selected config inputs).mapM fun args =>
    match exports with
    | .error fault => pure (.runtimeError fault.message)
    | .ok exports =>
        if exports.any (·.name == name) then invoke executor config handle name args
        else pure (.runtimeError ("function " ++ name ++ " is not exported"))
  pure ⟨constructorIndex, name, outcomes⟩

/-- The calls of one function of a candidate that could not be deployed. -/
def undeployed (config : RunConfig) (fault : Executor.Fault) (constructorIndex : Nat)
    (function : String × List (List Json)) : FunctionCalls :=
  ⟨constructorIndex, function.1,
    (selected config function.2).map fun _ => .deployError fault.message⟩

/-- Deploys with one list of constructor arguments and calls every function. -/
def deployment (executor : Executor σ) (config : RunConfig) (generation : Generation)
    (constructorIndex : Nat) (args : List Json) : StateM σ (List FunctionCalls) := do
  let functions := generation.functionInputs.entries
  match ← executor.deploy (generation.sourceFor config.backend) args with
  | .error fault => pure (functions.map (undeployed config fault constructorIndex))
  | .ok handle =>
      let exports ← executor.manifest handle
      functions.mapM (callFunction executor config handle exports constructorIndex)

/-- The deployments from `constructorIndex` on. -/
def deployments (executor : Executor σ) (config : RunConfig) (generation : Generation)
    (constructorIndex : Nat) : List (List Json) → StateM σ (List FunctionCalls)
  | [] => pure []
  | args :: rest => do
      let calls ← deployment executor config generation constructorIndex args
      let more ← deployments executor config generation (constructorIndex + 1) rest
      pure (calls ++ more)

end Execution

/-- Runs every call of a candidate and resets the backend at the end, whether or not it can be. -/
def Generation.execute {σ : Type} (generation : Generation) (executor : Executor σ)
    (config : RunConfig) : StateM σ RunResult := do
  let calls ← Execution.deployments executor config generation 0 generation.constructorSets
  let _ ← executor.reset
  pure ⟨generation.id, config.backend, calls, false⟩

end Concord
