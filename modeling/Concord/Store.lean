import Concord.Database
import Concord.Generation
import Concord.Outcome
import Concord.Text.Search
import Concord.Totals
import Concord.Verdict

/-!
The document store. Documents are kept as the texts they were written as, beside the few facts that
are asked of them without reading them. The flags only ever go from false to true.
-/

namespace Concord

/-- A candidate as it was inserted. -/
structure StoredGeneration where
  id : String
  document : String
  compileError : Option String
  enqueued : Bool
  crashLogged : Bool
  deriving DecidableEq, Repr

/-- The result of a candidate on a backend. -/
structure StoredRun where
  generation : String
  backend : String
  document : String
  handled : Bool
  deriving DecidableEq, Repr

structure StoredVerification where
  generation : String
  document : String
  hasDiscrepancy : Bool
  logged : Bool
  deriving DecidableEq, Repr

/-- Generations and verifications in the order in which they came, one for each id; runs in the
order of their last write, one for each id and backend. -/
structure Store where
  generations : List StoredGeneration := []
  runs : List StoredRun := []
  verifications : List StoredVerification := []
  deriving DecidableEq, Repr

namespace Store

inductive Fault where
  | duplicate (id : String)
  | malformed (id : String)
  | database (fault : Database.Fault)
  deriving DecidableEq, Repr

namespace Fault

/-- Why a document cannot be read is left out. -/
def message : Fault → String
  | duplicate id => "generation already exists: " ++ id
  | malformed id => "malformed document " ++ id ++ ": *"
  | database fault => "database error: " ++ fault.message

def transient : Fault → Bool
  | database fault => fault.transient
  | _ => false

instance : Transient Fault := ⟨transient⟩

instance : Explained Fault := ⟨message⟩

end Fault

/-- The record in a document of the generation `id`. -/
def decode {α : Type} (decoder : Decoder α) (id document : String) : Except Fault α :=
  match decoder.read? document with
  | some record => .ok record
  | none => .error (.malformed id)

/-- Sets a flag where it is not set, and tells whether that was anywhere. -/
def latch {α : Type} (holds set : α → Bool) (flip : α → α) (rows : List α) : Bool × List α :=
  (rows.any fun row => holds row && !set row,
    rows.map fun row => if holds row && !set row then flip row else row)

variable (store : Store)

/-! ### Generations -/

def generation? (id : String) : Option StoredGeneration :=
  store.generations.find? (·.id == id)

def insertGeneration (generation : Generation) : Except Fault (Unit × Store) :=
  if (store.generation? generation.id).isSome then .error (.duplicate generation.id)
  else
    let row : StoredGeneration :=
      ⟨generation.id, generation.encode.text, generation.compileError, false, false⟩
    .ok ((), { store with generations := store.generations ++ [row] })

def loadGeneration (id : String) : Except Fault (Option Generation) :=
  match store.generation? id with
  | none => .ok none
  | some row => some <$> decode Generation.decoder id row.document

/-- The first candidates that no queue has had. -/
def unqueued (limit : Nat) : List String :=
  ((store.generations.filter fun row => !row.enqueued).take limit).map (·.id)

def markEnqueued (id : String) : Bool × Store :=
  let (flipped, generations) :=
    latch (·.id == id) (·.enqueued) (fun row => { row with enqueued := true }) store.generations
  (flipped, { store with generations })

/-- A compile error that is worth reporting. -/
structure Crash where
  generation : String
  message : String
  deriving DecidableEq, Repr

/-- The crash of a candidate, if its compile error contains a marker and was not logged yet. -/
def crashOf? (markers : List String) (row : StoredGeneration) : Option Crash :=
  match row.compileError with
  | some message =>
      if !row.crashLogged && markers.any (Text.contains message) then some ⟨row.id, message⟩
      else none
  | none => none

def unloggedCrashes (markers : List String) : List Crash :=
  store.generations.filterMap (crashOf? markers)

/-- How many markers one query can look for: each adds a level to a condition that may be a thousand
levels deep. -/
def markersAtMost : Nat := 997

def crashesWithin (markers : List String) : Except Fault (List Crash) :=
  if markersAtMost < markers.length then
    .error (.database (.ofCode 1 "Expression tree is too large (maximum depth 1000)"))
  else .ok (store.unloggedCrashes markers)

def markCrashLogged (id : String) : Bool × Store :=
  let (flipped, generations) :=
    latch (·.id == id) (·.crashLogged) (fun row => { row with crashLogged := true })
      store.generations
  (flipped, { store with generations })

/-! ### Runs -/

def run? (generation backend : String) : Option StoredRun :=
  store.runs.find? fun row => row.generation == generation && row.backend == backend

/-- Writes a result over an older one, unless that was handled. -/
def upsertRun (result : RunResult) : Store :=
  let row : StoredRun := ⟨result.generation, result.backend, result.encode.text, false⟩
  let others := store.runs.filter fun row =>
    !(row.generation == result.generation && row.backend == result.backend)
  match store.run? result.generation result.backend with
  | some old => if old.handled then store else { store with runs := others ++ [row] }
  | none => { store with runs := store.runs ++ [row] }

def decodeRun (row : StoredRun) : Except Fault RunResult :=
  (fun result => { result with isHandled := row.handled })
    <$> decode RunResult.decoder row.generation row.document

/-- Puts a row behind the rows whose backend comes first. -/
def insertByBackend (row : StoredRun) : List StoredRun → List StoredRun
  | [] => [row]
  | head :: rest =>
      if row.backend < head.backend then row :: head :: rest
      else head :: insertByBackend row rest

/-- The runs of a candidate by backend. -/
def runsOf (generation : String) : List StoredRun :=
  (store.runs.filter (·.generation == generation)).foldr insertByBackend []

def loadRuns (generation : String) : Except Fault (List RunResult) :=
  (store.runsOf generation).mapM decodeRun

/-- The runs that count towards the verification of a candidate by these backends. -/
def openRuns (backends : List String) : List StoredRun :=
  store.runs.filter fun row => !row.handled && backends.contains row.backend

/-- The ids of rows, each at its last place. -/
def lastIds : List StoredRun → List String
  | [] => []
  | row :: rest =>
      if rest.any (·.generation == row.generation) then lastIds rest
      else row.generation :: lastIds rest

/-- The candidates with an open run for each of the backends, in the order of the last write among
these runs. A backend that is listed twice is waited for in vain. -/
def pending (backends : List String) (limit : Nat) : List String :=
  let rows := store.openRuns backends
  let ready (id : String) := (rows.filter (·.generation == id)).length == backends.length
  if backends.isEmpty then [] else ((lastIds rows).filter ready).take limit

/-- How many backends one query can name: it has 32766 places, two of which are taken. -/
def backendsAtMost : Nat := 32764

def pendingWithin (backends : List String) (limit : Nat) : Except Fault (List String) :=
  if backendsAtMost < backends.length then
    .error (.database (.ofCode 1 "too many SQL variables"))
  else .ok (store.pending backends limit)

/-! ### Verifications -/

def verification? (generation : String) : Option StoredVerification :=
  store.verifications.find? (·.generation == generation)

/-- Closes the open runs of a candidate and keeps its verification, if there is such a run. -/
def recordVerification (verification : Verification) : Bool × Store :=
  let id := verification.generation
  let (flipped, runs) :=
    latch (·.generation == id) (·.handled) (fun row => { row with handled := true }) store.runs
  let row : StoredVerification :=
    ⟨id, verification.encode.text, verification.hasDiscrepancy, false⟩
  let verifications :=
    if (store.verification? id).isSome then store.verifications else store.verifications ++ [row]
  if flipped then (true, { store with runs, verifications }) else (false, store)

def decodeVerification (row : StoredVerification) : Except Fault Verification :=
  (fun verification => { verification with loggedToFile := row.logged })
    <$> decode Verification.decoder row.generation row.document

def loadVerification (generation : String) : Except Fault (Option Verification) :=
  match store.verification? generation with
  | none => .ok none
  | some row => some <$> decodeVerification row

def unloggedDiscrepancies : Except Fault (List Verification) :=
  (store.verifications.filter fun row => row.hasDiscrepancy && !row.logged).mapM decodeVerification

def markDiscrepancyLogged (generation : String) : Bool × Store :=
  let (flipped, verifications) :=
    latch (·.generation == generation) (·.logged) (fun row => { row with logged := true })
      store.verifications
  (flipped, { store with verifications })

def verified : List String :=
  store.verifications.map (·.generation)

/-! ### Counts -/

def counters (backends : List String) : Totals where
  generated := store.generations.length
  compilerErrors := (store.generations.filter (·.compileError.isSome)).length
  runs := .ofList (backends.map fun backend =>
    (backend, (store.runs.filter (·.backend == backend)).length))
  verified := store.verifications.length

/-! ### Damage -/

inductive Collection where
  | generations
  | runs
  | verifications
  deriving DecidableEq, Repr

/-- Puts another text in place of the documents of a candidate, and counts them. -/
def corrupt (collection : Collection) (id document : String) : Nat × Store :=
  match collection with
  | .generations =>
      ((store.generations.filter (·.id == id)).length,
        { store with generations := store.generations.map fun row =>
            if row.id = id then { row with document } else row })
  | .runs =>
      ((store.runs.filter (·.generation == id)).length,
        { store with runs := store.runs.map fun row =>
            if row.generation = id then { row with document } else row })
  | .verifications =>
      ((store.verifications.filter (·.generation == id)).length,
        { store with verifications := store.verifications.map fun row =>
            if row.generation = id then { row with document } else row })

end Store

end Concord
