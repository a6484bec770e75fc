import Concord.Pipeline
import Concord.Text.Blank

/-!
Handing every new candidate to every backend, and loading candidates from a file.
-/

namespace Concord.Dispatcher

/-- Puts one job for each backend on the queue of that backend. -/
def publishJobs (context : Context) (id : String) : List String → Attempt Unit
  | [] => pure ()
  | backend :: rest => do
      context.needQueue "job queue unavailable" "publish job"
        (Pipeline.publish backend ⟨id, backend⟩)
      publishJobs context id rest

/-- Hands on one candidate and tells whether this node was the one to do so. Candidates that did not
compile are only marked. -/
def dispatch (context : Context) (id : String) : Attempt Bool := do
  let found ← context.needStore "document store unavailable" "load generation"
    (Pipeline.loadGeneration id)
  match found with
  | none => pure false
  | some generation =>
      if generation.compileError.isNone then publishJobs context id context.backends
      context.needStore "document store unavailable" "mark enqueued" (Pipeline.markEnqueued id)

/-- Hands on candidates in order, and counts those that this node marked. -/
def dispatchAll (context : Context) : List String → Attempt Nat
  | [] => pure 0
  | id :: rest => do
      let marked ← dispatch context id
      let more ← dispatchAll context rest
      pure ((if marked then 1 else 0) + more)

/-- One batch of new candidates. -/
def dispatchOnce (context : Context) (batch : Nat) : Attempt Nat := do
  let ids ← context.needStore "document store unavailable" "poll new generations"
    (Pipeline.unqueuedGenerations batch)
  dispatchAll context ids

def readDepths (context : Context) : List String → Attempt Unit
  | [] => pure ()
  | backend :: rest => do
      let _ ← context.needQueue "job queue unavailable" "read queue depth" (Pipeline.depth backend)
      readDepths context rest

def round (context : Context) (batch : Nat) : Attempt Unit := do
  let _ ← dispatchOnce context batch
  readDepths context context.backends

/-- Up to `rounds` rounds, or as many as it takes to fail. -/
def rounds (context : Context) (batch : Nat) : Nat → StateM Pipeline (Option Failure)
  | 0 => pure none
  | count + 1 => do
      match ← (round context batch).run with
      | .ok _ => rounds context batch count
      | .error failure => pure (some failure)

/-- Rounds without end. A round that does not fail takes up a fate or marks a candidate, or it
leaves the pipeline as it found it and will be followed by its like for ever; then there is no
failure. -/
def run (context : Context) (batch : Nat) : StateM Pipeline (Option Failure) := do
  let pipeline ← get
  rounds context batch (pipeline.fatesLeft + pipeline.workLeft + 1)

end Dispatcher

namespace Ingest

/-- How many lines of a file were new candidates, known ones, and not candidates at all. -/
structure Report where
  inserted : Nat := 0
  duplicates : Nat := 0
  malformed : Nat := 0
  deriving DecidableEq, Repr

/-- What a line is. -/
inductive Line where
  | blank
  | malformed
  | generation (record : Generation)

def Line.ofText (text : String) : Line :=
  if Text.trim text.toList = [] then .blank
  else
    match Generation.decoder.read? text with
    | some record => .generation record
    | none => .malformed

/-- Inserts a candidate, or finds that it is there. -/
def insert (context : Context) (record : Generation) (report : Report) : Attempt Report := do
  match ← context.trying "insert generation" (Pipeline.insertGeneration record) with
  | .ok () => pure { report with inserted := report.inserted + 1 }
  | .error error =>
      match error.inner with
      | .duplicate _ => pure { report with duplicates := report.duplicates + 1 }
      | fault => throw ⟨none, .store fault⟩

def step (context : Context) (report : Report) (text : String) : Attempt Report :=
  match Line.ofText text with
  | .blank => pure report
  | .malformed => pure { report with malformed := report.malformed + 1 }
  | .generation record => insert context record report

/-- Loads lines one after the other, each of them from its bytes. -/
def lines (context : Context) (report : Report) : List (List UInt8) → Attempt Report
  | [] => pure report
  | bytes :: rest =>
      match Text.Utf8.decode bytes with
      | .error fault => throw ⟨none, .files (.notText fault)⟩
      | .ok text => do
          let report ← step context report text
          lines context report rest

/-- The lines of a file, with their ends. -/
def splitLines : List UInt8 → List (List UInt8)
  | [] => []
  | byte :: rest =>
      if byte = 0x0A then [byte] :: splitLines rest
      else
        match splitLines rest with
        | [] => [[byte]]
        | line :: more => (byte :: line) :: more

/-- Loads the candidates in a file of one record a line. -/
def content (context : Context) (bytes : List UInt8) : Attempt Report :=
  lines context {} (splitLines bytes)

/-- Loads the candidates in the file at a path. -/
def file (context : Context) (files : Files) (path : String) : Attempt Report :=
  match files.read path with
  | .ok bytes => content context bytes
  | .error .isDirectory => throw ⟨none, .files .isDirectory⟩
  | .error fault => throw ⟨some ("cannot open " ++ path), .files fault⟩

end Ingest

end Concord
