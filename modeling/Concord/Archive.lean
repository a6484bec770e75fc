import Concord.Pipeline

/-!
A pipeline between two runs of its programs: the store and the queue as one JSON text.
-/

namespace Concord

namespace StoredGeneration

def decoder : Decoder StoredGeneration :=
  .record "StoredGeneration"
      ["id", "document", "compile_error", "enqueued", "crash_logged"] fun r =>
    mk <$> r.required "id" .text
      <*> r.required "document" .text
      <*> r.optional "compile_error" .text
      <*> r.required "enqueued" .flag
      <*> r.required "crash_logged" .flag

def encode (row : StoredGeneration) : Json :=
  .obj [
    ("id", .str row.id),
    ("document", .str row.document),
    ("compile_error", .option .str row.compileError),
    ("enqueued", .bool row.enqueued),
    ("crash_logged", .bool row.crashLogged)]

end StoredGeneration

namespace StoredRun

def decoder : Decoder StoredRun :=
  .record "StoredRun" ["generation", "backend", "document", "handled"] fun r =>
    mk <$> r.required "generation" .text
      <*> r.required "backend" .text
      <*> r.required "document" .text
      <*> r.required "handled" .flag

def encode (row : StoredRun) : Json :=
  .obj [
    ("generation", .str row.generation),
    ("backend", .str row.backend),
    ("document", .str row.document),
    ("handled", .bool row.handled)]

end StoredRun

namespace StoredVerification

def decoder : Decoder StoredVerification :=
  .record "StoredVerification" ["generation", "document", "has_discrepancy", "logged"] fun r =>
    mk <$> r.required "generation" .text
      <*> r.required "document" .text
      <*> r.required "has_discrepancy" .flag
      <*> r.required "logged" .flag

def encode (row : StoredVerification) : Json :=
  .obj [
    ("generation", .str row.generation),
    ("document", .str row.document),
    ("has_discrepancy", .bool row.hasDiscrepancy),
    ("logged", .bool row.logged)]

end StoredVerification

namespace Store

def decoder : Decoder Store :=
  .record "Store" ["generations", "runs", "verifications"] fun r =>
    mk <$> r.required "generations" (.list StoredGeneration.decoder)
      <*> r.required "runs" (.list StoredRun.decoder)
      <*> r.required "verifications" (.list StoredVerification.decoder)

def encode (store : Store) : Json :=
  .obj [
    ("generations", .list StoredGeneration.encode store.generations),
    ("runs", .list StoredRun.encode store.runs),
    ("verifications", .list StoredVerification.encode store.verifications)]

end Store

namespace MessageState

def leaseDecoder : Decoder MessageState :=
  .record "Lease" ["tag", "lapsed"] fun r =>
    (fun tag lapsed => leased ⟨tag⟩ lapsed)
      <$> r.required "tag" .word64
      <*> r.required "lapsed" .flag

def variant (name : String) : Option (Decoder MessageState) :=
  if name = "ready" then some (.bare ready)
  else if name = "leased" then some leaseDecoder
  else if name = "dead" then some (.bare dead)
  else none

def decoder : Decoder MessageState :=
  .tagged "state" variant

def encode : MessageState → Json
  | ready => .obj [("state", .str "ready")]
  | leased tag lapsed =>
      .obj [("state", .str "leased"), ("tag", .nat tag.number), ("lapsed", .bool lapsed)]
  | dead => .obj [("state", .str "dead")]

end MessageState

namespace Message

def decoder : Decoder Message :=
  .record "Message" ["number", "queue", "body", "state", "deliveries"] fun r =>
    mk <$> r.required "number" .word64
      <*> r.required "queue" .text
      <*> r.required "body" .text
      <*> r.required "state" MessageState.decoder
      <*> r.required "deliveries" .word64

def encode (message : Message) : Json :=
  .obj [
    ("number", .nat message.number),
    ("queue", .str message.queue),
    ("body", .str message.body),
    ("state", message.state.encode),
    ("deliveries", .nat message.deliveries)]

end Message

namespace Queue

def decoder : Decoder Queue :=
  .record "Queue" ["messages", "published", "delivered"] fun r =>
    mk <$> r.required "messages" (.list Message.decoder)
      <*> r.required "published" .word64
      <*> r.required "delivered" .word64

def encode (queue : Queue) : Json :=
  .obj [
    ("messages", .list Message.encode queue.messages),
    ("published", .nat queue.published),
    ("delivered", .nat queue.delivered)]

end Queue

namespace Pipeline

/-- The fates of accesses are not kept. -/
def decoder : Decoder Pipeline :=
  .record "Pipeline" ["store", "queue"] fun r =>
    (fun store queue => { store, queue })
      <$> r.required "store" Store.decoder
      <*> r.required "queue" Queue.decoder

def encode (pipeline : Pipeline) : Json :=
  .obj [("store", pipeline.store.encode), ("queue", pipeline.queue.encode)]

end Pipeline

end Concord
