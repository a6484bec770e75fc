import Concord.Comparison
import Concord.Pipeline

/-!
Comparing the results of candidates once every backend has reported, and recording each comparison
once.
-/

namespace Concord.Verifier

/-- What became of the verification of a candidate. It is already handled if another pass did it,
and incomplete while a backend has not reported. -/
inductive Progress where
  | recorded (discrepancies : Nat)
  | alreadyHandled
  | incomplete
  deriving DecidableEq, Repr

def Progress.isRecorded : Progress → Bool
  | recorded _ => true
  | _ => false

/-- Records a comparison, unless another pass was first. -/
def record (context : Context) (verification : Verification) : Attempt Progress := do
  let won ← context.needStore "failed to record verification" "record verification"
    (Pipeline.recordVerification verification)
  pure (if won then .recorded verification.discrepancies.length else .alreadyHandled)

def verify (context : Context) (rule : Comparison) (generation : String) : Attempt Progress := do
  let results ← context.needStore "document store unavailable" "load run results"
    (Pipeline.loadRunResults generation)
  if results.any (·.isHandled) then pure .alreadyHandled
  else
    match rule.verification? generation results context.backends with
    | none => pure .incomplete
    | some verification => record context verification

/-- Verifies candidates in order, and counts those recorded. -/
def verifyAll (context : Context) (rule : Comparison) : List String → Attempt Nat
  | [] => pure 0
  | generation :: rest => do
      let progress ← verify context rule generation
      let more ← verifyAll context rule rest
      pure ((if progress.isRecorded then 1 else 0) + more)

/-- Verifies one batch of candidates that are ready. -/
def pollOnce (context : Context) (rule : Comparison) (batch : Nat) : Attempt Nat := do
  let pending ← context.needStore "document store unavailable" "poll pending generations"
    (Pipeline.pendingGenerations context.backends batch)
  verifyAll context rule pending

/-- Up to `count` polls, or as many as it takes to fail. -/
def polls (context : Context) (rule : Comparison) (batch : Nat) :
    Nat → StateM Pipeline (Option Failure)
  | 0 => pure none
  | count + 1 => do
      match ← (pollOnce context rule batch).run with
      | .ok _ => polls context rule batch count
      | .error failure => pure (some failure)

/-- Polls without end. A poll that does not fail takes up a fate or closes a run, or all that follow
are like it; then there is no failure. -/
def run (context : Context) (rule : Comparison) (batch : Nat) :
    StateM Pipeline (Option Failure) := do
  let pipeline ← get
  polls context rule batch (pipeline.fatesLeft + pipeline.workLeft + 1)

end Concord.Verifier
