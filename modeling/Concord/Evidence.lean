import Concord.Files
import Concord.Text.Integer
import Concord.Text.Search

/-!
The files in which a monitor leaves what it finds. Every start of the monitor, and every reset,
takes a new set of files with a number of its own.
-/

namespace Concord

/-- A set of evidence files below a directory. -/
structure Evidence where
  root : String
  sequence : Nat
  deriving DecidableEq, Repr

namespace Evidence

def benchDirectory (root : String) : String :=
  Files.join root "bench"

/-- Blocks of metrics. -/
def bench (evidence : Evidence) : String :=
  Files.join (benchDirectory evidence.root) ("data" ++ toString evidence.sequence ++ ".txt")

/-- Events of the monitor, and what its scripts print. -/
def metadata (evidence : Evidence) : String :=
  Files.join (benchDirectory evidence.root)
    ("bench-metadata" ++ toString evidence.sequence ++ ".txt")

/-- Compiler crashes. -/
def crashes (evidence : Evidence) : String :=
  Files.join (Files.join evidence.root "crashes")
    ("crash" ++ toString evidence.sequence ++ ".txt")

/-- Discrepancies between backends. -/
def discrepancies (evidence : Evidence) : String :=
  Files.join (Files.join evidence.root "storage-diff")
    ("diff" ++ toString evidence.sequence ++ ".txt")

/-- The four files. -/
def paths (evidence : Evidence) : List String :=
  [evidence.bench, evidence.metadata, evidence.crashes, evidence.discrepancies]

/-- The directories of the four files. -/
def directories (evidence : Evidence) : List String :=
  [benchDirectory evidence.root, benchDirectory evidence.root,
    Files.join evidence.root "crashes", Files.join evidence.root "storage-diff"]

def makeAll : List String → StateM Disk (Except Files.Fault Unit)
  | [] => pure (.ok ())
  | path :: rest => do
      match ← Disk.makeDirectories path with
      | .ok () => makeAll rest
      | .error fault => pure (.error fault)

def startAll : List String → StateM Disk (Except Files.Fault Unit)
  | [] => pure (.ok ())
  | path :: rest => do
      match ← Disk.write path [] with
      | .ok () => startAll rest
      | .error fault => pure (.error fault)

/-- Makes the directories, and empty files for metrics and metadata. -/
def create (evidence : Evidence) : StateM Disk (Except Files.Fault Unit) := do
  match ← makeAll evidence.directories with
  | .ok () => startAll [evidence.bench, evidence.metadata]
  | .error fault => pure (.error fault)

/-- The number in the name of a metrics file. -/
def number? (name : String) : Option Nat := do
  let rest ← Text.dropLabel? "data".toList name.toList
  let reversed ← Text.dropLabel? ".txt".toList.reverse rest.reverse
  Text.natural? 64 (String.ofList reversed.reverse)

/-- One past the highest number among names of metrics files. -/
def following (names : List String) : Nat :=
  (names.filterMap number?).foldl max 0 + 1

/-- The first number that is free below `root`. -/
def discover (files : Files) (root : String) : Except Files.Fault Nat :=
  let directory := benchDirectory root
  if files.hasSomething directory then following <$> files.list directory else .ok 1

end Evidence

end Concord
