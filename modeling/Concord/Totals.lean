import Concord.Json.Decode

/-!
Totals of the pipeline at a moment, and how they moved between two moments.
-/

namespace Concord

/-- Counts of candidates, of those that did not compile, of run results for each backend, and of
verified candidates. Each is below 2^64. -/
structure Totals where
  generated : Nat
  compilerErrors : Nat
  runs : Table Nat
  verified : Nat

structure Movement where
  generated : Int
  compilerErrors : Int
  runs : Table Int
  verified : Int

namespace Totals

def zero : Totals :=
  ⟨0, 0, .empty, 0⟩

/-- A count of 64 bits read as a signed number. -/
def signed (count : Nat) : Int :=
  Int.bmod count (Nat.pow 2 64)

def moved (now before : Nat) : Int :=
  signed now - signed before

/-- What was added since `previous`; a backend that it does not list counts from zero. -/
def since (now previous : Totals) : Movement where
  generated := moved now.generated previous.generated
  compilerErrors := moved now.compilerErrors previous.compilerErrors
  runs := now.runs.mapEntries fun backend count => moved count ((previous.runs.get? backend).getD 0)
  verified := moved now.verified previous.verified

def decoder : Decoder Totals :=
  .record "MonitorSnapshot" ["generated", "compiler_errors", "runs", "verified"] fun r =>
    mk <$> r.required "generated" .word64
      <*> r.required "compiler_errors" .word64
      <*> r.required "runs" (.table .word64)
      <*> r.required "verified" .word64

def encode (totals : Totals) : Json :=
  .obj [
    ("generated", .nat totals.generated),
    ("compiler_errors", .nat totals.compilerErrors),
    ("runs", .table .nat totals.runs),
    ("verified", .nat totals.verified)]

/-- One line for each count. -/
def report (totals : Totals) : String :=
  let line (label : String) (count : Nat) := label ++ ": " ++ toString count ++ "\n"
  line "generated" totals.generated ++ line "compiler errors" totals.compilerErrors ++
    String.join (totals.runs.entries.map fun entry => line (entry.1 ++ " runs") entry.2) ++
    line "verified" totals.verified

end Totals

namespace Movement

def runsFor (movement : Movement) (backend : String) : Int :=
  (movement.runs.get? backend).getD 0

def decoder : Decoder Movement :=
  .record "SnapshotDelta" ["generated", "compiler_errors", "runs", "verified"] fun r =>
    mk <$> r.required "generated" .signed64
      <*> r.required "compiler_errors" .signed64
      <*> r.required "runs" (.table .signed64)
      <*> r.required "verified" .signed64

def encode (movement : Movement) : Json :=
  .obj [
    ("generated", .int movement.generated),
    ("compiler_errors", .int movement.compilerErrors),
    ("runs", .table .int movement.runs),
    ("verified", .int movement.verified)]

end Movement

end Concord
