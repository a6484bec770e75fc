import Concord.Host

/-!
Views of a pipeline for whoever runs it: the counters, and every verified candidate in a file.
-/

namespace Concord.Report

/-- Reads the store once, without a second attempt. -/
def asking {α : Type} (step : StateM Pipeline (Except Store.Fault α)) :
    ExceptT Failure (StateM Host) α :=
  ExceptT.mk do
    match ← Host.onPipeline step with
    | .ok value => pure (.ok value)
    | .error fault => pure (.error ⟨none, .store fault⟩)

/-- Writes for a task. -/
def writing (task : String) (step : StateM Disk (Except Files.Fault Unit)) :
    ExceptT Failure (StateM Host) Unit :=
  ExceptT.mk do
    match ← Host.onDisk step with
    | .ok () => pure (.ok ())
    | .error fault => pure (.error ⟨some task, .files fault⟩)

def stats (context : Context) : ExceptT Failure (StateM Host) Totals :=
  asking (Pipeline.counters context.backends)

/-- All that is known of a verified candidate. -/
def document (id : String) (generation : Generation) (results : List RunResult)
    (verification : Option Verification) : Json :=
  .obj [
    ("id", .str id),
    ("source_sha256", .str generation.fingerprint),
    ("generation", generation.encode),
    ("results", .list RunResult.encode results),
    ("verification", .option Verification.encode verification)]

def dumpPath (directory id : String) : String :=
  Files.join directory (id ++ ".json")

/-- Writes a candidate to a file of its own, if there is a record of it, and tells so. -/
def dumpOne (directory id : String) : ExceptT Failure (StateM Host) Bool := do
  match ← asking (Pipeline.loadGeneration id) with
  | none => pure false
  | some generation => do
      let results ← asking (Pipeline.loadRunResults id)
      let verification ← asking (Pipeline.loadVerification id)
      let path := dumpPath directory id
      let text := (document id generation results verification).sorted.prettyText
      writing ("cannot write " ++ path) (Disk.write path (Text.Utf8.encode text))
      pure true

def dumpAll (directory : String) : List String → ExceptT Failure (StateM Host) Nat
  | [] => pure 0
  | id :: rest => do
      let written ← dumpOne directory id
      let more ← dumpAll directory rest
      pure ((if written then 1 else 0) + more)

/-- Writes the verified candidates to a directory, and counts them. -/
def dump (directory : String) : ExceptT Failure (StateM Host) Nat := do
  writing ("cannot create " ++ directory) (Disk.makeDirectories directory)
  let ids ← asking Pipeline.verifiedGenerations
  dumpAll directory ids

end Concord.Report
