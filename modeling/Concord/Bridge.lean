import Concord.Executor
import Concord.Text.Utf8

/-!
A backend in a child process, with one request a line on its input and one reply a line on its
output. Requests are numbered over all children, and a reply repeats the number of its request, so
other output, and replies that come too late, are passed over.
-/

namespace Concord

namespace Bridge

/-- A line of output, without its end. -/
abbrev Line := List UInt8

/-- What a child has printed since it was started, and whether it has exited. -/
structure Output where
  lines : List Line
  exited : Bool
  deriving DecidableEq, Repr

/-- A program that can be started as a child; `refusal` is why it cannot, if it cannot. What a child
prints depends on the lines that it was sent, each with the number of its request. Once it takes no
more lines, writing to it may fail, which is `unwritable`, and reading may fail behind what it has
printed, which is `unreadable`. -/
structure Program where
  name : String
  refusal : Option String
  output : List (Nat × String) → Output
  unwritable : List (Nat × String) → Option String := fun _ => none
  unreadable : List (Nat × String) → Option String := fun _ => none

/-- A program that answers each request by some lines, or exits. -/
def Program.answering (answer : Nat → Option (List Line)) : Program where
  name := ""
  refusal := none
  output heard :=
    let answers := heard.map fun (id, _) => answer id
    { lines := ((answers.takeWhile Option.isSome).filterMap id).flatten
      exited := answers.any Option.isNone }

/-- A child that was started and not given up: the lines that it was sent, and how many of those
that it has printed were read. -/
structure Child where
  heard : List (Nat × String) := []
  read : Nat := 0
  deriving DecidableEq, Repr

/-- What the children of a bridge have seen. -/
inductive Sight where
  | start
  | request (line : String)
  deriving DecidableEq, Repr

def reply : Decoder (Option Nat × Option Json × Option String) :=
  .record "Response" ["id", "ok", "error"] fun r =>
    (fun id ok error => (id, ok, error))
      <$> r.optional "id" .word64
      <*> r.optional "ok" .json
      <*> r.optional "error" .text

/-- What a backend answers to a request: a value, or an error of its own. -/
abbrev Answer := Except String Json

/-- The answer in a line, if the line is the reply to request `id`. An error stands over a value,
and a reply without either is a null. -/
def answerIn? (id : Nat) (text : String) : Option Answer :=
  match reply.read? text with
  | some (found, value, error) =>
      if found = some id then
        match error with
        | some message => some (.error message)
        | none => some (.ok (value.getD .null))
      else none
  | none => none

inductive Awaited where
  | answered (answer : Answer) (unread : List Line)
  | invalid (fault : Text.Utf8.Fault)
  | closed

/-- Reads lines up to the reply to request `id`. -/
def await (id : Nat) : List Line → Awaited
  | [] => .closed
  | line :: rest =>
      match Text.Utf8.decode (line ++ [0x0A]) with
      | .error fault => .invalid fault
      | .ok text =>
          match answerIn? id text with
          | some answer => .answered answer rest
          | none => await id rest

/-- A request is its operation, and what the operation needs. -/
structure Request where
  operation : String
  content : List (String × Json)

namespace Request

def deploy (source : String) (args : List Json) : Request :=
  ⟨"deploy", [("source", .str source), ("args", .arr args)]⟩

def manifest (handle : String) : Request :=
  ⟨"manifest", [("handle", .str handle)]⟩

def call (handle function : String) (args : List Json) : Request :=
  ⟨"call", [("handle", .str handle), ("function", .str function), ("args", .arr args)]⟩

def dumpState (handle : String) : Request :=
  ⟨"dump_state", [("handle", .str handle)]⟩

def reset : Request :=
  ⟨"reset", []⟩

/-- The line of a request with its number. -/
def line (request : Request) (id : Nat) : String :=
  (Json.obj (("id", .nat id) :: ("op", .str request.operation) :: request.content)).text

end Request

end Bridge

/-- A program, the number of requests made, the child if there is one, and what all children have
seen. -/
structure Bridge where
  program : Bridge.Program
  requests : Nat := 0
  child : Option Bridge.Child := none
  sights : List Bridge.Sight := []

namespace Bridge

/-- The child, started if there is none. -/
def withChild (bridge : Bridge) : Except String (Child × Bridge) :=
  match bridge.child, bridge.program.refusal with
  | some child, _ => .ok (child, bridge)
  | none, some reason =>
      .error ("failed to start " ++ bridge.program.name ++ ": " ++ reason)
  | none, none =>
      let child : Child := {}
      .ok (child, { bridge with child := some child, sights := bridge.sights ++ [.start] })

/-- Hands a line to the child, unless it has exited. -/
def send (bridge : Bridge) (child : Child) (line : String) : Child × Bridge :=
  if (bridge.program.output child.heard).exited then (child, bridge)
  else
    ({ child with heard := child.heard ++ [(bridge.requests, line)] },
      { bridge with sights := bridge.sights ++ [.request line] })

/-- Why a line cannot be written to the child, if it cannot. -/
def writeFault? (bridge : Bridge) (child : Child) : Option String :=
  if (bridge.program.output child.heard).exited then bridge.program.unwritable child.heard else none

/-- What the child has printed that was not read yet. -/
def unread (bridge : Bridge) (child : Child) : List Line :=
  (bridge.program.output child.heard).lines.drop child.read

/-- Why there is nothing more to read from the child. -/
def silence (bridge : Bridge) (child : Child) : String :=
  (bridge.program.unreadable child.heard).getD "backend process exited"

def giveUp (bridge : Bridge) : Bridge :=
  { bridge with child := none }

/-- One request and its answer. The child is given up when the request cannot be written, or when
its output ends, fails or breaks the encoding before it has answered. -/
def exchange (request : Request) : StateM Bridge (Except Executor.Fault Answer) := fun bridge =>
  let id := bridge.requests + 1
  let counted := { bridge with requests := id }
  match counted.withChild with
  | .error message => (.error (.bridge message), counted)
  | .ok (child, started) =>
      match started.writeFault? child with
      | some reason => (.error (.bridge reason), started.giveUp)
      | none =>
          let (child, sent) := started.send child (request.line id)
          let unread := sent.unread child
          match await id unread with
          | .answered answer rest =>
              let read := child.read + (unread.length - rest.length)
              (.ok answer, { sent with child := some { child with read } })
          | .invalid fault => (.error (.bridge fault.message), sent.giveUp)
          | .closed => (.error (.bridge (sent.silence child)), sent.giveUp)

/-- Reads what the backend said; a value of another shape gives the child up. -/
def payload {α : Type} (fault : String → Executor.Fault) (decode : Decoder α) (answer : Answer) :
    StateM Bridge (Except Executor.Fault α) := fun bridge =>
  match answer with
  | .error message => (.error (fault message), bridge)
  | .ok value =>
      match decode.take value with
      | .ok found => (.ok found, bridge)
      | .error mismatch =>
          (.error (.bridge ("unexpected backend payload: " ++ mismatch.message)), bridge.giveUp)

def ask {α : Type} (fault : String → Executor.Fault) (decode : Decoder α) (request : Request) :
    StateM Bridge (Except Executor.Fault α) := do
  match ← exchange request with
  | .error fault => pure (.error fault)
  | .ok answer => payload fault decode answer

def handle : Decoder String :=
  .record "Deployed" ["handle"] fun r => r.required "handle" .text

/-- The result of a call, with the memory still in digits. -/
structure CallReply where
  returnValue : Json
  gasUsed : Option Nat
  memory : Option String

def callReply : Decoder CallReply :=
  .record "CallReply" ["return_value", "gas_used", "memory"] fun r =>
    CallReply.mk <$> r.withDefault "return_value" .json .null
      <*> r.optional "gas_used" .word64
      <*> r.optional "memory" .text

def CallReply.trace (found : CallReply) : Except Executor.Fault Trace :=
  match found.memory with
  | none => .ok ⟨found.returnValue, found.gasUsed, none⟩
  | some digits =>
      match Text.Hex.decode digits with
      | .ok bytes => .ok ⟨found.returnValue, found.gasUsed, some bytes⟩
      | .error fault => .error (.bridge ("memory is not hex: " ++ fault.message))

/-- Nothing is asked of what a reset answers. -/
def anything : Decoder Unit := fun _ _ =>
  .ok ()

def executor : Executor Bridge where
  deploy source args := ask .deploy handle (.deploy source args)
  manifest handle := ask .runtime (.list Export.decoder) (.manifest handle)
  call handle function args := do
    let found ← ask .runtime callReply (.call handle function args)
    pure (found.bind CallReply.trace)
  dumpState handle := ask .runtime (.list Slot.decoder) (.dumpState handle)
  reset := ask .runtime anything .reset

end Bridge

end Concord
