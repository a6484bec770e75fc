import Mathlib
import Concord.Proofs.Retry

/-!
# What trying again does with a sequence of results

An operation gives one result after the other. Trying stops at the first one that settles it, or
where all attempts are used up, with one wait between two attempts and none behind the last. It
breaks off before that only where a wait is to be followed by another attempt and has no next delay.
-/

namespace Concord.RetryPolicy

variable {ε α β : Type} [Transient ε]

/-! ### Acts -/

/-- What is done while an operation is tried. -/
inductive Act where
  | attempt
  | wait (delay : Nat)
  deriving DecidableEq, Repr

/-- An attempt that gives the next one of a sequence of results. -/
def noteAttempt (results : Nat → Except ε α) : StateM (List Act) (Except ε α) := fun acts =>
  (results (acts.count .attempt), acts ++ [.attempt])

def noteWait (delay : Nat) : StateM (List Act) Unit := fun acts =>
  ((), acts ++ [.wait delay])

/-- What trying comes to, and what was done. -/
def play (policy : RetryPolicy) (operation : String) (results : Nat → Except ε α) :
    Except DelayFault (Except (RetryError ε) α) × List Act :=
  policy.tryAll noteWait operation (noteAttempt results) []

/-- Attempts with a wait behind each but the last one. -/
def spaced (delays : List Nat) : List Act :=
  delays.flatMap (fun delay => [.attempt, .wait delay]) ++ [.attempt]

@[simp] theorem spaced_nil : spaced [] = [.attempt] :=
  rfl

@[simp] theorem spaced_cons (delay : Nat) (delays : List Nat) :
    spaced (delay :: delays) = .attempt :: .wait delay :: spaced delays :=
  rfl

/-- How often an operation is tried at most. -/
def bound (policy : RetryPolicy) : Nat :=
  max 1 policy.maxAttempts

/-- What is given back for a result that settles it: success, or a failure that will not pass. -/
def answer? (operation : String) : Except ε α → Option (Except (RetryError ε) α)
  | .ok value => some (.ok value)
  | .error error =>
      if Transient.transient error then none else some (.error (.permanent operation error))

/-! ### One attempt -/

section Attempts

variable {operation : String} {results : Nat → Except ε α} {next : Nat → Except β Nat}
  {acts : List Act} {spare made delay : Nat}

theorem attemptsWith_of_settled {answer : Except (RetryError ε) α}
    (hmade : acts.count .attempt = made)
    (hanswer : answer? operation (results made) = some answer) :
    attemptsWith next noteWait operation (noteAttempt results) spare made delay acts =
      (.ok answer, acts ++ [.attempt]) := by
  rw [attemptsWith_apply, noteAttempt, hmade]
  cases hresult : results made with
  | ok value =>
      rw [hresult] at hanswer
      obtain rfl := Option.some.inj hanswer
      rfl
  | error error =>
      rw [hresult, answer?] at hanswer
      split at hanswer
      · cases hanswer
      · next htransient =>
          obtain rfl := Option.some.inj hanswer
          exact if_neg htransient

theorem exists_transient (h : answer? operation (results made) = none) :
    ∃ error, results made = .error error ∧ Transient.transient error = true := by
  cases hresult : results made with
  | ok value =>
      rw [hresult] at h
      cases h
  | error error =>
      rw [hresult, answer?] at h
      split at h
      · next htransient => exact ⟨error, rfl, htransient⟩
      · cases h

theorem attemptsWith_of_last {last : ε} (hmade : acts.count .attempt = made)
    (hnone : answer? operation (results made) = none) (hlast : results made = .error last) :
    attemptsWith next noteWait operation (noteAttempt results) 0 made delay acts =
      (.ok (.error (.exhausted operation (made + 1) last)), acts ++ [.attempt]) := by
  obtain ⟨error, herror, htransient⟩ := exists_transient hnone
  obtain rfl := Except.error.inj (hlast.symm.trans herror)
  rw [attemptsWith_apply, noteAttempt, hmade, hlast]
  exact if_pos htransient

theorem attemptsWith_of_transient (hmade : acts.count .attempt = made)
    (hnone : answer? operation (results made) = none) :
    attemptsWith next noteWait operation (noteAttempt results) (spare + 1) made delay acts =
      match next delay with
      | .ok longer =>
          attemptsWith next noteWait operation (noteAttempt results) spare (made + 1) longer
            (acts ++ [.attempt, .wait delay])
      | .error fault => (.error fault, acts ++ [.attempt, .wait delay]) := by
  obtain ⟨error, herror, htransient⟩ := exists_transient hnone
  rw [attemptsWith_apply, noteAttempt, hmade, herror]
  refine (if_pos htransient).trans ?_
  rw [noteWait, List.append_assoc]
  cases next delay <;> rfl

theorem count_failed (hmade : acts.count .attempt = made) (delay : Nat) :
    (acts ++ [Act.attempt, Act.wait delay]).count Act.attempt = made + 1 := by
  rw [List.count_append, hmade]
  rfl

/-! ### All attempts -/

theorem waits_succ_eq_ok {count : Nat} {delays : List Nat}
    (h : waits next (count + 1) delay = .ok delays) :
    ∃ longer rest, next delay = .ok longer ∧ waits next count longer = .ok rest ∧
      delays = delay :: rest := by
  rw [waits] at h
  cases hnext : next delay with
  | error fault =>
      rw [hnext] at h
      cases h
  | ok longer =>
      rw [hnext] at h
      dsimp only at h
      cases hrest : waits next count longer with
      | error fault =>
          rw [hrest] at h
          cases h
      | ok rest =>
          rw [hrest] at h
          exact ⟨longer, rest, rfl, hrest, (Except.ok.inj h).symm⟩

variable (spare) in
/-- Failures that may pass lead to another attempt, after the waits that there are. -/
theorem attemptsWith_of_waits {count : Nat} {delays : List Nat}
    (hwaits : waits next count delay = .ok delays) (hmade : acts.count .attempt = made)
    (hnone : ∀ j < count, answer? operation (results (made + j)) = none) :
    ∃ longer before, before.count .attempt = made + count ∧
      before ++ [.attempt] = acts ++ spaced delays ∧ delays.length = count ∧
      attemptsWith next noteWait operation (noteAttempt results) (spare + count) made delay acts =
        attemptsWith next noteWait operation (noteAttempt results) spare (made + count) longer
          before := by
  -- The failed attempts are taken off from the front, so what was done before is arbitrary.
  induction count generalizing made delay acts delays with
  | zero =>
      obtain rfl := Except.ok.inj hwaits
      exact ⟨delay, acts, hmade, rfl, rfl, rfl⟩
  | succ count ih =>
      obtain ⟨longer, rest, hnext, hrest, rfl⟩ := waits_succ_eq_ok hwaits
      have hlater : ∀ j < count, answer? operation (results (made + 1 + j)) = none := by
        intro j hj
        rw [Nat.add_assoc, Nat.add_comm 1 j]
        exact hnone (j + 1) (Nat.succ_lt_succ hj)
      obtain ⟨last, before, hcount, hacts, hlength, hrun⟩ :=
        ih hrest (count_failed hmade delay) hlater
      have hsum : made + 1 + count = made + (count + 1) := by omega
      refine ⟨last, before, hcount.trans hsum, ?_, congrArg (· + 1) hlength, ?_⟩
      · rw [hacts, spaced_cons, List.append_assoc]
        rfl
      · rw [← Nat.add_assoc, attemptsWith_of_transient hmade (hnone 0 (Nat.succ_pos count)), hnext,
          ← hsum]
        exact hrun

/-- Where a delay is missing, trying breaks off. -/
theorem attemptsWith_of_fault {count : Nat} {fault : β}
    (hwaits : waits next count delay = .error fault) (hmade : acts.count .attempt = made)
    (hnone : ∀ j < count, answer? operation (results (made + j)) = none) :
    ∃ later, attemptsWith next noteWait operation (noteAttempt results) (spare + count) made delay
      acts = (.error fault, later) := by
  induction count generalizing made delay acts with
  | zero => cases hwaits
  | succ count ih =>
      rw [← Nat.add_assoc, attemptsWith_of_transient hmade (hnone 0 (Nat.succ_pos count))]
      rw [waits] at hwaits
      cases hnext : next delay with
      | error found =>
          rw [hnext] at hwaits
          obtain rfl := Except.error.inj hwaits
          exact ⟨_, rfl⟩
      | ok longer =>
          rw [hnext] at hwaits
          dsimp only at hwaits
          cases hrest : waits next count longer with
          | ok rest =>
              rw [hrest] at hwaits
              cases hwaits
          | error found =>
              rw [hrest] at hwaits
              obtain rfl := Except.error.inj hwaits
              refine ih hrest (count_failed hmade delay) fun j hj => ?_
              rw [Nat.add_assoc, Nat.add_comm 1 j]
              exact hnone (j + 1) (Nat.succ_lt_succ hj)

end Attempts

/-! ### The whole -/

section Play

variable {policy : RetryPolicy} {operation : String} {results : Nat → Except ε α}

/-- The attempt with this number, counted from 0, is to be made: there may be so many, and all
before it fail in a way that may pass. -/
structure Called (policy : RetryPolicy) (operation : String) (results : Nat → Except ε α)
    (i : Nat) : Prop where
  within : i < policy.bound
  passing : ∀ j < i, answer? operation (results j) = none

theorem bound_eq (policy : RetryPolicy) : policy.bound = policy.maxAttempts - 1 + 1 := by
  unfold bound
  omega

theorem Called.spare {i : Nat} (h : Called policy operation results i) :
    policy.maxAttempts - 1 = policy.bound - 1 - i + i := by
  have hwithin := h.within
  have hbound := policy.bound_eq
  omega

theorem Called.passing_from {i : Nat} (h : Called policy operation results i) :
    ∀ j < i, answer? operation (results (0 + j)) = none := by
  intro j hj
  rw [Nat.zero_add]
  exact h.passing j hj

/-- An attempt that is to be made is made, behind as many waits as attempts. -/
theorem Called.exists_play {i : Nat} {delays : List Nat} (h : Called policy operation results i)
    (hwaits : waits policy.next i policy.initialDelay = .ok delays) :
    ∃ longer before, before.count .attempt = i ∧ before ++ [.attempt] = spaced delays ∧
      delays.length = i ∧ policy.play operation results = attemptsWith policy.next noteWait operation
        (noteAttempt results) (policy.bound - 1 - i) i longer before := by
  have hstart : ([] : List Act).count .attempt = 0 := rfl
  obtain ⟨longer, before, hcount, hacts, hlength, hrun⟩ :=
    attemptsWith_of_waits (policy.bound - 1 - i) hwaits hstart h.passing_from
  rw [Nat.zero_add] at hcount hrun
  rw [← h.spare] at hrun
  exact ⟨longer, before, hcount, hacts, hlength, hrun⟩

theorem Called.play_of_fault {i : Nat} {fault : DelayFault} (h : Called policy operation results i)
    (hwaits : waits policy.next i policy.initialDelay = .error fault) :
    ∃ acts, policy.play operation results = (.error fault, acts) := by
  rw [play, tryAll, h.spare]
  exact attemptsWith_of_fault hwaits rfl h.passing_from

theorem Called.play_of_settled {i : Nat} {answer : Except (RetryError ε) α} {delays : List Nat}
    (h : Called policy operation results i)
    (hanswer : answer? operation (results i) = some answer)
    (hwaits : waits policy.next i policy.initialDelay = .ok delays) :
    delays.length = i ∧ policy.play operation results = (.ok answer, spaced delays) := by
  obtain ⟨longer, before, hcount, hacts, hlength, hrun⟩ := h.exists_play hwaits
  refine ⟨hlength, ?_⟩
  rw [hrun, attemptsWith_of_settled hcount hanswer, hacts]

theorem called_last (hnone : ∀ j < policy.bound, answer? operation (results j) = none) :
    Called policy operation results (policy.bound - 1) := by
  have hbound := policy.bound_eq
  exact ⟨by omega, fun j hj => hnone j (by omega)⟩

theorem play_of_exhausted {last : ε} {delays : List Nat}
    (hnone : ∀ j < policy.bound, answer? operation (results j) = none)
    (hlast : results (policy.bound - 1) = .error last)
    (hwaits : waits policy.next (policy.bound - 1) policy.initialDelay = .ok delays) :
    delays.length + 1 = policy.bound ∧ policy.play operation results =
      (.ok (.error (.exhausted operation policy.bound last)), spaced delays) := by
  have hcalled := called_last hnone
  have hsucc : policy.bound - 1 + 1 = policy.bound := by
    have hbound := policy.bound_eq
    omega
  obtain ⟨longer, before, hcount, hacts, hlength, hrun⟩ := hcalled.exists_play hwaits
  refine ⟨(congrArg (· + 1) hlength).trans hsucc, ?_⟩
  rw [hrun, Nat.sub_self, attemptsWith_of_last hcount (hnone _ hcalled.within) hlast, hacts, hsucc]

/-- Trying ends with the first attempt that settles it, or with the last one there may be, and gives
back what that attempt came to. Between two attempts there is one wait, and none behind the last. -/
structure Faithful (policy : RetryPolicy) (operation : String) (results : Nat → Except ε α) :
    Prop where
  settled : ∀ i answer, i < policy.bound → (∀ j < i, answer? operation (results j) = none) →
    answer? operation (results i) = some answer →
    ∃ delays, delays.length = i ∧ policy.play operation results = (.ok answer, spaced delays)
  exhausted : ∀ last, (∀ j < policy.bound, answer? operation (results j) = none) →
    results (policy.bound - 1) = .error last →
    ∃ delays, delays.length + 1 = policy.bound ∧ policy.play operation results =
      (.ok (.error (.exhausted operation policy.bound last)), spaced delays)

/-- Something is given back at least. -/
theorem Faithful.exists_play (h : Faithful policy operation results) :
    ∃ answer acts, policy.play operation results = (.ok answer, acts) := by
  classical
  by_cases hsettled : ∃ i, i < policy.bound ∧ answer? operation (results i) ≠ none
  · obtain ⟨hwithin, hne⟩ := Nat.find_spec hsettled
    obtain ⟨answer, hanswer⟩ := Option.ne_none_iff_exists'.1 hne
    have hbefore : ∀ j < Nat.find hsettled, answer? operation (results j) = none := by
      intro j hj
      by_contra hne'
      exact Nat.find_min hsettled hj ⟨hj.trans hwithin, hne'⟩
    obtain ⟨delays, -, hplay⟩ := h.settled _ answer hwithin hbefore hanswer
    exact ⟨_, _, hplay⟩
  · have hnone : ∀ j < policy.bound, answer? operation (results j) = none := by
      intro j hj
      by_contra hne
      exact hsettled ⟨j, hj, hne⟩
    obtain ⟨last, hlast, -⟩ := exists_transient (hnone _ (called_last hnone).within)
    obtain ⟨delays, -, hplay⟩ := h.exhausted last hnone hlast
    exact ⟨_, _, hplay⟩

theorem Faithful.exists_waits (h : Faithful policy operation results) {i : Nat}
    (hcalled : Called policy operation results i) :
    ∃ delays, waits policy.next i policy.initialDelay = .ok delays := by
  cases hwaits : waits policy.next i policy.initialDelay with
  | ok delays => exact ⟨delays, rfl⟩
  | error fault =>
      obtain ⟨later, hlater⟩ := hcalled.play_of_fault hwaits
      obtain ⟨answer, acts, hanswer⟩ := h.exists_play
      cases hlater.symm.trans hanswer

theorem faithful_of_waits (h : ∀ i, Called policy operation results i →
    ∃ delays, waits policy.next i policy.initialDelay = .ok delays) :
    Faithful policy operation results := by
  refine ⟨fun i answer hwithin hbefore hanswer => ?_, fun last hnone hlast => ?_⟩
  · have hcalled : Called policy operation results i := ⟨hwithin, hbefore⟩
    obtain ⟨delays, hdelays⟩ := h i hcalled
    exact ⟨delays, hcalled.play_of_settled hanswer hdelays⟩
  · obtain ⟨delays, hdelays⟩ := h _ (called_last hnone)
    exact ⟨delays, play_of_exhausted hnone hlast hdelays⟩

/-- **Retries are bounded and faithful where there are delays.** For every policy and every sequence
of results, trying ends as it should exactly if each attempt that is to be made finds a next delay
behind each of the waits before it. -/
theorem faithful_iff (policy : RetryPolicy) (operation : String) (results : Nat → Except ε α) :
    Faithful policy operation results ↔ ∀ i, Called policy operation results i →
      ∃ delays, waits policy.next i policy.initialDelay = .ok delays :=
  ⟨fun h _ hcalled => h.exists_waits hcalled, faithful_of_waits⟩

/-- A policy whose delay grows beyond all delays behind the first wait, before it is cut down to
five seconds. -/
def steep : RetryPolicy :=
  ⟨2, second, 5 * second, ⟨false, Nat.pow 2 52, 48⟩⟩

/-- Two attempts at a pool that stays busy break off between them. -/
theorem steep_not_faithful :
    ¬ Faithful steep "poll" fun _ => (.error .poolTimedOut : Except Database.Fault Unit) := by
  intro hfaithful
  obtain ⟨delays, hdelays⟩ := hfaithful.exists_waits (i := 1) ⟨by decide, fun j _ => rfl⟩
  have htooLong : steep.next second = .error .tooLong := by decide +kernel
  obtain ⟨longer, -, hnext, -⟩ := waits_succ_eq_ok hdelays
  cases htooLong.symm.trans hnext

/-! ### Steady policies -/

/-- Where the first delay is kept, it is the delay of all waits. -/
theorem waits_of_steady {next : Nat → Except β Nat} {delay : Nat} (h : next delay = .ok delay)
    (count : Nat) : waits next count delay = .ok (List.replicate count delay) := by
  induction count with
  | zero => rfl
  | succ count ih =>
      rw [waits, h]
      dsimp only
      rw [ih]
      rfl

theorem lasting_of_steady (h : policy.next policy.initialDelay = .ok policy.initialDelay) :
    policy.Lasting :=
  fun count => ⟨_, waits_of_steady h count⟩

theorem faithful_of_lasting (h : policy.Lasting) : Faithful policy operation results :=
  faithful_of_waits fun i _ => h i

theorem standard_lasting : Lasting standard := by
  refine lasting_of_steady ?_
  decide +kernel

/-- What the nodes do by default ends as it should, whatever the results are. -/
theorem standard_faithful : Faithful standard operation results :=
  faithful_of_lasting standard_lasting

end Play

end Concord.RetryPolicy
