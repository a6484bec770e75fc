import Concord.Retry

/-!
Retries on a clock that ticks in milliseconds, with the times at which attempts start.
-/

namespace Concord

/-- The time, how many attempts were made, and when each was started, the last one first. -/
structure Clock where
  now : Nat := 0
  made : Nat := 0
  starts : List Nat := []
  deriving DecidableEq, Repr

namespace Clock

/-- The longest sleep in ticks: thirty years of 365 days. -/
def longestSleep : Nat :=
  30 * 365 * 86400 * 1000

/-- Sleeps for some nanoseconds and wakes at the next tick, or when the longest sleep is over. -/
def sleep (delay : Nat) : StateM Clock Unit :=
  modify fun clock =>
    { clock with now := clock.now + min ((delay + 999999) / 1000000) longestSleep }

def start : StateM Clock Unit :=
  modify fun clock =>
    { clock with made := clock.made + 1, starts := clock.now :: clock.starts }

/-- An attempt that gives the next of some results, and past the end the last one again. -/
def attempt {ε α : Type} (results : List (Except ε α)) (last : Except ε α) :
    StateM Clock (Except ε α) := do
  let clock ← get
  start
  pure (results[clock.made]?.getD last)

/-- Tries a scripted operation, from time 0 on; the times are given in their order. Trying may break
off for lack of a delay. -/
def retryAll {ε α : Type} [Transient ε] (policy : RetryPolicy) (operation : String)
    (results : List (Except ε α)) (last : Except ε α) :
    Except DelayFault (Except (RetryError ε) α × List Nat) :=
  let (result, clock) := policy.tryAll sleep operation (attempt results last) {}
  (·, clock.starts.reverse) <$> result

end Clock

end Concord
