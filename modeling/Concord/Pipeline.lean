import Concord.Database.Image
import Concord.Files
import Concord.Queue
import Concord.Retry
import Concord.Store

/-!
The store and the queue as the nodes of a pipeline reach them: every access may fail, and those that
fail without need are tried again.
-/

namespace Concord

/-- The operations of the store and the queue that nodes use. -/
inductive Access where
  | insertGeneration
  | loadGeneration
  | unqueuedGenerations
  | markEnqueued
  | upsertRunResult
  | loadRunResults
  | pendingGenerations
  | recordVerification
  | loadVerification
  | counters
  | unloggedCrashes
  | markCrashLogged
  | unloggedDiscrepancies
  | markDiscrepancyLogged
  | verifiedGenerations
  | publish
  | receive
  | ack
  | reject
  | depth
  deriving DecidableEq, Repr

def Access.name : Access → String
  | insertGeneration => "insert_generation"
  | loadGeneration => "load_generation"
  | unqueuedGenerations => "unqueued_generations"
  | markEnqueued => "mark_enqueued"
  | upsertRunResult => "upsert_run_result"
  | loadRunResults => "load_run_results"
  | pendingGenerations => "pending_generations"
  | recordVerification => "record_verification"
  | loadVerification => "load_verification"
  | counters => "counters"
  | unloggedCrashes => "unlogged_compiler_crashes"
  | markCrashLogged => "mark_crash_logged"
  | unloggedDiscrepancies => "unlogged_discrepancies"
  | markDiscrepancyLogged => "mark_discrepancy_logged"
  | verifiedGenerations => "verified_generations"
  | publish => "publish"
  | receive => "receive"
  | ack => "ack"
  | reject => "reject"
  | depth => "depth"

/-- Does an access change the database, or at least begin to? -/
def Access.writes : Access → Bool
  | insertGeneration => true
  | markEnqueued => true
  | upsertRunResult => true
  | recordVerification => true
  | markCrashLogged => true
  | markDiscrepancyLogged => true
  | publish => true
  | receive => true
  | ack => true
  | reject => true
  | _ => false

/-- What becomes of one access: it goes through, it fails, or whoever makes it is stopped there. -/
inductive Fate where
  | pass
  | fail (fault : Database.Fault)
  | stop
  deriving DecidableEq, Repr

/-- The store and the queue, and by access name what becomes of the next accesses. Accesses without
a fate go through, unless they write to a database that is only to be read. -/
structure Pipeline where
  store : Store := {}
  queue : Queue := {}
  fates : Table (List Fate) := .empty
  readOnly : Bool := false

namespace Pipeline

/-- Takes the next fate of an access. -/
def nextFate (access : Access) : StateM Pipeline Fate := fun pipeline =>
  match pipeline.fates.get? access.name with
  | some (fate :: rest) =>
      (fate, { pipeline with fates := pipeline.fates.insert access.name rest })
  | _ => (.pass, pipeline)

/-- What becomes of an access. -/
def fate (access : Access) : StateM Pipeline Fate := do
  let fate ← nextFate access
  if fate = .pass && access.writes && (← get).readOnly then pure (.fail Database.readOnlyWrite)
  else pure fate

/-- One access to the store, which leaves it as it is if it fails. -/
def onStore {α : Type} (access : Access) (operation : Store → Except Store.Fault (α × Store)) :
    StateM Pipeline (Except Store.Fault α) := do
  match ← fate access with
  | .fail fault => pure (.error (.database fault))
  | _ => fun pipeline =>
      match operation pipeline.store with
      | .ok (value, store) => (.ok value, { pipeline with store })
      | .error fault => (.error fault, pipeline)

/-- One access to the queue, which leaves it as it is if it fails. -/
def onQueue {α : Type} (access : Access) (operation : Queue → Except Queue.Fault (α × Queue)) :
    StateM Pipeline (Except Queue.Fault α) := do
  match ← fate access with
  | .fail fault => pure (.error (.database fault))
  | _ => fun pipeline =>
      match operation pipeline.queue with
      | .ok (value, queue) => (.ok value, { pipeline with queue })
      | .error fault => (.error fault, pipeline)

/-- A look at the store that cannot go wrong by itself. -/
def look {α : Type} (view : Store → α) (store : Store) : Except Store.Fault (α × Store) :=
  .ok (view store, store)

/-- A look at the store that finds documents which may not be readable. -/
def readable {α : Type} (view : Store → Except Store.Fault α) (store : Store) :
    Except Store.Fault (α × Store) :=
  (·, store) <$> view store

/-! ### Accesses to the store -/

def insertGeneration (generation : Generation) : StateM Pipeline (Except Store.Fault Unit) :=
  onStore .insertGeneration (·.insertGeneration generation)

def loadGeneration (id : String) : StateM Pipeline (Except Store.Fault (Option Generation)) :=
  onStore .loadGeneration (readable (·.loadGeneration id))

def unqueuedGenerations (limit : Nat) : StateM Pipeline (Except Store.Fault (List String)) :=
  onStore .unqueuedGenerations (look (·.unqueued limit))

def markEnqueued (id : String) : StateM Pipeline (Except Store.Fault Bool) :=
  onStore .markEnqueued fun store => .ok (store.markEnqueued id)

def upsertRunResult (result : RunResult) : StateM Pipeline (Except Store.Fault Unit) :=
  onStore .upsertRunResult fun store => .ok ((), store.upsertRun result)

def loadRunResults (generation : String) : StateM Pipeline (Except Store.Fault (List RunResult)) :=
  onStore .loadRunResults (readable (·.loadRuns generation))

def pendingGenerations (backends : List String) (limit : Nat) :
    StateM Pipeline (Except Store.Fault (List String)) :=
  onStore .pendingGenerations (readable (·.pendingWithin backends limit))

def recordVerification (verification : Verification) :
    StateM Pipeline (Except Store.Fault Bool) :=
  onStore .recordVerification fun store => .ok (store.recordVerification verification)

def loadVerification (generation : String) :
    StateM Pipeline (Except Store.Fault (Option Verification)) :=
  onStore .loadVerification (readable (·.loadVerification generation))

def counters (backends : List String) : StateM Pipeline (Except Store.Fault Totals) :=
  onStore .counters (look (·.counters backends))

def unloggedCrashes (markers : List String) :
    StateM Pipeline (Except Store.Fault (List Store.Crash)) :=
  onStore .unloggedCrashes (readable (·.crashesWithin markers))

def markCrashLogged (id : String) : StateM Pipeline (Except Store.Fault Bool) :=
  onStore .markCrashLogged fun store => .ok (store.markCrashLogged id)

def unloggedDiscrepancies : StateM Pipeline (Except Store.Fault (List Verification)) :=
  onStore .unloggedDiscrepancies (readable (·.unloggedDiscrepancies))

def markDiscrepancyLogged (generation : String) : StateM Pipeline (Except Store.Fault Bool) :=
  onStore .markDiscrepancyLogged fun store => .ok (store.markDiscrepancyLogged generation)

def verifiedGenerations : StateM Pipeline (Except Store.Fault (List String)) :=
  onStore .verifiedGenerations (look (·.verified))

/-! ### Accesses to the queue -/

def publish (name : String) (job : Job) : StateM Pipeline (Except Queue.Fault Unit) :=
  onQueue .publish fun queue => .ok ((), queue.publish name job)

def receive (name : String) : StateM Pipeline (Except Queue.Fault (Option Delivery)) :=
  onQueue .receive fun queue => .ok (queue.receive name)

def ack (tag : DeliveryTag) : StateM Pipeline (Except Queue.Fault Unit) :=
  onQueue .ack (·.ack tag)

def reject (tag : DeliveryTag) (requeue : Bool) : StateM Pipeline (Except Queue.Fault Unit) :=
  onQueue .reject (·.reject tag requeue)

def depth (name : String) : StateM Pipeline (Except Queue.Fault Nat) :=
  onQueue .depth fun queue => .ok (queue.depth name, queue)

/-! ### Bounds -/

/-- How many accesses still have a fate. -/
def fatesLeft (pipeline : Pipeline) : Nat :=
  pipeline.fates.entries.foldr (fun entry count => entry.2.length + count) 0

/-- How many flags of the store are not set yet, and how many messages the queue holds. -/
def workLeft (pipeline : Pipeline) : Nat :=
  (pipeline.store.generations.filter fun row => !row.enqueued).length +
    (pipeline.store.runs.filter fun row => !row.handled).length + pipeline.queue.messages.length

end Pipeline

/-- What all nodes of a pipeline know: its backends, the first of which is the reference, and how
often accesses are tried. -/
structure Context where
  backends : List String
  retry : RetryPolicy
  deriving Repr

/-- Why a node could not go on. -/
inductive Cause where
  | store (fault : Store.Fault)
  | queue (fault : Queue.Fault)
  | storeRetries (error : RetryError Store.Fault)
  | queueRetries (error : RetryError Queue.Fault)
  | noDelay (fault : DelayFault)
  | files (fault : Files.Fault)
  deriving DecidableEq, Repr

/-- A failure of the database is reported with its own causes, which say the same again. -/
def Cause.ofDatabase (headline : String) (fault : Database.Fault) : String :=
  ": ".intercalate ([headline, fault.message] ++ fault.reason?.toList)

def Cause.message : Cause → String
  | store (.database fault) => ofDatabase (Store.Fault.database fault).message fault
  | store fault => fault.message
  | queue (.database fault) => ofDatabase (Queue.Fault.database fault).message fault
  | queue fault => fault.message
  | storeRetries error => error.message
  | queueRetries error => error.message
  | noDelay fault => fault.message
  | files fault => fault.message

/-- What a node was about, if it tells so, and what went wrong. -/
structure Failure where
  task : Option String
  cause : Cause
  deriving DecidableEq, Repr

def Failure.message (failure : Failure) : String :=
  match failure.task with
  | some task => task ++ ": " ++ failure.cause.message
  | none => failure.cause.message

/-- A step of a node, which may fail. -/
abbrev Attempt (α : Type) := ExceptT Failure (StateM Pipeline) α

namespace Context

/-- Waiting has no effect on what an operation works on. -/
def pause {σ : Type} (_ : Nat) : StateM σ Unit :=
  pure ()

/-- Tries an operation as often as the context tells. A node that finds no delay between two attempts
breaks off. -/
def trying {σ ε α : Type} [Transient ε] (context : Context) (operation : String)
    (attempt : StateM σ (Except ε α)) : ExceptT Failure (StateM σ) (Except (RetryError ε) α) :=
  ExceptT.mk do
    match ← context.retry.tryAll pause operation attempt with
    | .ok result => pure (.ok result)
    | .error fault => pure (.error ⟨none, .noDelay fault⟩)

/-- Tries an operation for a task, which fails with it. -/
def need {σ ε α : Type} [Transient ε] (context : Context) (cause : RetryError ε → Cause)
    (task operation : String) (attempt : StateM σ (Except ε α)) :
    ExceptT Failure (StateM σ) α := do
  match ← context.trying operation attempt with
  | .ok value => pure value
  | .error error => throw ⟨some task, cause error⟩

/-- Tries an access to the store for a task. -/
def needStore {α : Type} (context : Context) (task operation : String)
    (attempt : StateM Pipeline (Except Store.Fault α)) : Attempt α :=
  context.need .storeRetries task operation attempt

/-- Tries an access to the queue for a task. -/
def needQueue {α : Type} (context : Context) (task operation : String)
    (attempt : StateM Pipeline (Except Queue.Fault α)) : Attempt α :=
  context.need .queueRetries task operation attempt

end Context

end Concord
