import Concord.Outcome

/-!
Executors: the capability of a backend to deploy a candidate and to call it. Every operation may
fail, and none of its failures stops a run.
-/

namespace Concord

namespace Executor

/-- A failure reported by a backend, or of the channel to it. -/
inductive Fault where
  | deploy (message : String)
  | runtime (message : String)
  | bridge (message : String)
  deriving DecidableEq, Repr

def Fault.message : Fault → String
  | deploy message => message
  | runtime message => message
  | bridge message => "backend bridge failure: " ++ message

end Executor

/-- A function that a deployed candidate exports. -/
structure Export where
  name : String
  inputs : List String
  deriving DecidableEq, Repr

namespace Export

def decoder : Decoder Export :=
  .record "FunctionDescriptor" ["name", "inputs"] fun r =>
    mk <$> r.required "name" .text <*> r.withDefault "inputs" (.list .text) []

def encode (function : Export) : Json :=
  .obj [("name", .str function.name), ("inputs", .list .str function.inputs)]

end Export

/-- What a successful call produced. -/
structure Trace where
  returnValue : Json
  gasUsed : Option Nat
  memory : Option (List UInt8)

namespace Trace

def decoder : Decoder Trace :=
  .record "CallTrace" ["return_value", "gas_used", "memory"] fun r =>
    mk <$> r.required "return_value" .json
      <*> r.optional "gas_used" .word64
      <*> r.optional "memory" (.list .byte)

def encode (trace : Trace) : Json :=
  .obj [
    ("return_value", trace.returnValue),
    ("gas_used", .option .nat trace.gasUsed),
    ("memory", .option (.list fun byte => .nat byte.toNat) trace.memory)]

end Trace

/-- The operations of a backend with state `σ`. A deployment is known by its handle; `reset` drops
every deployment. -/
structure Executor (σ : Type) where
  deploy : String → List Json → StateM σ (Except Executor.Fault String)
  manifest : String → StateM σ (Except Executor.Fault (List Export))
  call : String → String → List Json → StateM σ (Except Executor.Fault Trace)
  dumpState : String → StateM σ (Except Executor.Fault (List Slot))
  reset : StateM σ (Except Executor.Fault Unit)

namespace Executor

/-- One use of an executor. -/
inductive Use where
  | deploy (source : String) (args : List Json)
  | manifest (handle : String)
  | call (handle function : String) (args : List Json)
  | dumpState (handle : String)
  | reset

/-- Runs a step of the executor and notes its use behind those noted so far. -/
def noting {σ α : Type} (use : Use) (step : StateM σ α) : StateM (σ × List Use) α := fun state =>
  let (answer, next) := step state.1
  (answer, (next, state.2 ++ [use]))

/-- The same executor, with its uses noted in order. -/
def noted {σ : Type} (executor : Executor σ) : Executor (σ × List Use) where
  deploy source args := noting (.deploy source args) (executor.deploy source args)
  manifest handle := noting (.manifest handle) (executor.manifest handle)
  call handle function args :=
    noting (.call handle function args) (executor.call handle function args)
  dumpState handle := noting (.dumpState handle) (executor.dumpState handle)
  reset := noting .reset executor.reset

end Executor

end Concord
