import Concord.Json.Decode

/-!
What calling the functions of a candidate gave on one backend.
-/

namespace Concord

/-- One entry of a state dump. -/
structure Slot where
  slot : String
  value : Json

namespace Slot

def decoder : Decoder Slot :=
  .record "StorageSlot" ["slot", "value"] fun r =>
    mk <$> r.required "slot" .text <*> r.required "value" .json

def encode (slot : Slot) : Json :=
  .obj [("slot", .str slot.slot), ("value", slot.value)]

def same (a b : Slot) : Bool :=
  a.slot == b.slot && a.value.same b.value

end Slot

/-- A state dump taken after a call, in the order of the backend. -/
structure Snapshot where
  slots : List Slot

namespace Snapshot

/-- Keeps the first slots. -/
def bounded (slots : List Slot) (limit : Nat) : Snapshot :=
  ⟨slots.take limit⟩

def decoder : Decoder Snapshot := fun allowance raw =>
  mk <$> Decoder.list Slot.decoder allowance raw

def encode (snapshot : Snapshot) : Json :=
  .list Slot.encode snapshot.slots

def sameSlots : List Slot → List Slot → Bool
  | [], [] => true
  | a :: as, b :: bs => a.same b && sameSlots as bs
  | _, _ => false

def same (a b : Snapshot) : Bool :=
  sameSlots a.slots b.slots

end Snapshot

/-- What can be seen of a call that succeeded. `memory` is in hexadecimal digits, `returnValue` is
a JSON text. -/
structure Success where
  state : Snapshot
  memory : Option String
  gasUsed : Option Nat
  returnValue : String

inductive Outcome where
  | success (observed : Success)
  | deployError (message : String)
  | runtimeError (message : String)

namespace Success

def decoder : Decoder Success :=
  .record "CallSuccess" ["state", "memory", "gas_used", "return_value"] fun r =>
    (fun state memory gasUsed returnValue => ⟨state, memory, gasUsed, returnValue⟩)
      <$> r.required "state" Snapshot.decoder
      <*> r.optional "memory" .text
      <*> r.optional "gas_used" .word64
      <*> r.required "return_value" .text

def fields (observed : Success) : List (String × Json) :=
  [("state", observed.state.encode),
    ("memory", .option .str observed.memory),
    ("gas_used", .option .nat observed.gasUsed),
    ("return_value", .str observed.returnValue)]

end Success

namespace Outcome

def isError : Outcome → Bool
  | success _ => false
  | _ => true

def errorMessage : Outcome → Option String
  | success _ => none
  | deployError message => some message
  | runtimeError message => some message

def kind : Outcome → String
  | success _ => "success"
  | deployError _ => "deploy error"
  | runtimeError _ => "runtime error"

def errorDecoder (title : String) (make : String → Outcome) : Decoder Outcome :=
  .record title ["message"] fun r => make <$> r.required "message" .text

def variant (name : String) : Option (Decoder Outcome) :=
  if name = "success" then
    some fun allowance raw => success <$> Success.decoder allowance raw
  else if name = "deploy_error" then some (errorDecoder "DeployError" deployError)
  else if name = "runtime_error" then some (errorDecoder "RuntimeError" runtimeError)
  else none

def decoder : Decoder Outcome :=
  .tagged "kind" variant

def encode : Outcome → Json
  | success observed => .obj (("kind", .str "success") :: observed.fields)
  | deployError message => .obj [("kind", .str "deploy_error"), ("message", .str message)]
  | runtimeError message => .obj [("kind", .str "runtime_error"), ("message", .str message)]

end Outcome

/-- The calls of one function after one deployment, in the order of the inputs. -/
structure FunctionCalls where
  constructorIndex : Nat
  function : String
  outcomes : List Outcome

namespace FunctionCalls

def decoder : Decoder FunctionCalls :=
  .record "FunctionCalls" ["constructor_index", "function", "outcomes"] fun r =>
    mk <$> r.required "constructor_index" .word64
      <*> r.required "function" .text
      <*> r.required "outcomes" (.list Outcome.decoder)

def encode (calls : FunctionCalls) : Json :=
  .obj [
    ("constructor_index", .nat calls.constructorIndex),
    ("function", .str calls.function),
    ("outcomes", .list Outcome.encode calls.outcomes)]

end FunctionCalls

/-- One candidate run on one backend. A result is handled once the candidate is verified. -/
structure RunResult where
  generation : String
  backend : String
  calls : List FunctionCalls
  isHandled : Bool

namespace RunResult

def decoder : Decoder RunResult :=
  .record "RunResult" ["generation_id", "backend", "calls", "is_handled"] fun r =>
    mk <$> r.required "generation_id" .text
      <*> r.required "backend" .text
      <*> r.required "calls" (.list FunctionCalls.decoder)
      <*> r.withDefault "is_handled" .flag false

def encode (result : RunResult) : Json :=
  .obj [
    ("generation_id", .str result.generation),
    ("backend", .str result.backend),
    ("calls", .list FunctionCalls.encode result.calls),
    ("is_handled", .bool result.isHandled)]

end RunResult

end Concord
