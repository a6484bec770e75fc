import Concord.Database
import Concord.Json.Binary64

/-!
Trying again after failures that may pass, a bounded number of times.
-/

namespace Concord

/-- How often something is tried, and how long to wait in between. Delays are in nanoseconds; after
each wait the delay is multiplied by `backoff`, up to `maxDelay`. The factor is finite: infinite ones
and those that are not a number, which leave no delay after any wait, are not covered. -/
structure RetryPolicy where
  maxAttempts : Nat
  initialDelay : Nat
  maxDelay : Nat
  backoff : Binary64
  deriving DecidableEq, Repr

/-- How trying ended without success. -/
inductive RetryError (ε : Type) where
  | exhausted (operation : String) (attempts : Nat) (last : ε)
  | permanent (operation : String) (error : ε)
  deriving DecidableEq, Repr

namespace RetryError

variable {ε : Type}

/-- The error of the last attempt. -/
def inner : RetryError ε → ε
  | exhausted _ _ last => last
  | permanent _ error => error

def message [Explained ε] : RetryError ε → String
  | exhausted operation attempts last =>
      operation ++ " failed after " ++ toString attempts ++ " attempts: " ++ Explained.message last
  | permanent operation error => operation ++ " failed: " ++ Explained.message error

end RetryError

/-- Why a number of seconds is no delay. -/
inductive DelayFault where
  | negative
  | tooLong
  deriving DecidableEq, Repr

def DelayFault.message : DelayFault → String
  | negative => "cannot convert float seconds to Duration: value is negative"
  | tooLong => "cannot convert float seconds to Duration: value is either too big or NaN"

namespace RetryPolicy

def one : Binary64 :=
  ⟨false, Nat.pow 2 52, -52⟩

/-- The same delay before every new attempt. -/
def fixed (maxAttempts delay : Nat) : RetryPolicy :=
  ⟨maxAttempts, delay, delay, one⟩

def second : Nat := 1000000000

/-- Twenty attempts, five seconds apart. -/
def standard : RetryPolicy :=
  fixed 20 (5 * second)

/-- A delay in seconds. -/
def seconds? (delay : Nat) : Option Binary64 := do
  let whole ← Binary64.ofNat (delay / second)
  let part ← Binary64.ofRatio false (delay % second) second
  whole.addMagnitudes part

/-- Delays are shorter than this number of seconds. -/
def secondsBelow : Nat :=
  Nat.pow 2 64

/-- A delay times the factor, in seconds and then rounded to nanoseconds. -/
def grown (policy : RetryPolicy) (delay : Nat) : Except DelayFault Nat :=
  match (seconds? delay).bind (·.mul policy.backoff) with
  | none => .error (if policy.backoff.negative then .negative else .tooLong)
  | some product =>
      if product.negative && product.significand != 0 then .error .negative
      else if secondsBelow * product.ratio.2 ≤ product.ratio.1 then .error .tooLong
      else .ok (Binary64.roundQuotient (product.ratio.1 * second) product.ratio.2)

/-- The delay after `delay`. What it grows to has to be a delay before it is cut down. -/
def next (policy : RetryPolicy) (delay : Nat) : Except DelayFault Nat :=
  (min · policy.maxDelay) <$> policy.grown delay

variable {σ ε α β : Type} [Transient ε]

/-- Makes an attempt, of which `made` came before, and up to `spare` more if it fails. After each
wait `next` gives the delay for the one after, or ends it all. -/
def attemptsWith (next : Nat → Except β Nat) (wait : Nat → StateM σ Unit) (operation : String)
    (attempt : StateM σ (Except ε α)) :
    (spare made delay : Nat) → StateM σ (Except β (Except (RetryError ε) α))
  | spare, made, delay => do
      match ← attempt with
      | .ok value => pure (.ok (.ok value))
      | .error error =>
          if Transient.transient error then
            match spare with
            | 0 => pure (.ok (.error (.exhausted operation (made + 1) error)))
            | spare + 1 =>
                wait delay
                match next delay with
                | .ok longer => attemptsWith next wait operation attempt spare (made + 1) longer
                | .error fault => pure (.error fault)
          else pure (.ok (.error (.permanent operation error)))

/-- Tries until it succeeds, fails for good, or has failed `maxAttempts` times; once at least. Where
there is no delay after a wait, trying breaks off. -/
def tryAll (policy : RetryPolicy) (wait : Nat → StateM σ Unit) (operation : String)
    (attempt : StateM σ (Except ε α)) : StateM σ (Except DelayFault (Except (RetryError ε) α)) :=
  attemptsWith policy.next wait operation attempt (policy.maxAttempts - 1) 0 policy.initialDelay

end RetryPolicy

end Concord
