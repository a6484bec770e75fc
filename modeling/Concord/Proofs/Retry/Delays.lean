import Mathlib
import Concord.Proofs.Retry.Schedule

/-!
# How long the waits are

What a delay grows to is cut down to the longest delay that the policy allows, but the first delay
is taken as it is. So the first wait is as long as the first delay and all others are short enough.
-/

namespace Concord.RetryPolicy

variable {ε α β : Type} [Transient ε]

/-! ### The waits among the acts -/

def Act.delay? : Act → Option Nat
  | .attempt => none
  | .wait delay => some delay

def delays (acts : List Act) : List Nat :=
  acts.filterMap Act.delay?

/-- A wait of this length has an attempt right before it and another one right behind it. -/
def Between (acts : List Act) (delay : Nat) : Prop :=
  [.attempt, .wait delay, .attempt] <:+: acts

theorem Between.mem_delays {acts : List Act} {delay : Nat} (h : Between acts delay) :
    delay ∈ delays acts := by
  have hmem : Act.wait delay ∈ acts := h.subset (by simp)
  exact List.mem_filterMap.2 ⟨_, hmem, rfl⟩

theorem Between.three_le_length {acts : List Act} {delay : Nat} (h : Between acts delay) :
    3 ≤ acts.length :=
  h.length_le

/-- The waits of a run: the first of them, if there is one, is `first`, and the others are at most
`limit`. -/
structure Bounded (first limit : Nat) (waited : List Nat) : Prop where
  head : ∀ delay ∈ waited.head?, delay = first
  tail : ∀ delay ∈ waited.tail, delay ≤ limit

theorem bounded_nil (first limit : Nat) : Bounded first limit [] :=
  ⟨nofun, nofun⟩

theorem Bounded.cons {longer limit : Nat} {waited : List Nat} (h : Bounded longer limit waited)
    (hlonger : longer ≤ limit) (first : Nat) : Bounded first limit (first :: waited) where
  head delay hdelay := (Option.some.inj hdelay).symm
  tail delay hdelay := by
    rw [List.tail_cons] at hdelay
    cases waited with
    | nil => cases hdelay
    | cons second rest =>
        rcases List.mem_cons.1 hdelay with rfl | hrest
        · exact (h.head delay rfl).trans_le hlonger
        · exact h.tail delay hrest

theorem Bounded.le {first limit delay : Nat} {waited : List Nat} (h : Bounded first limit waited)
    (hfirst : first ≤ limit) (hdelay : delay ∈ waited) : delay ≤ limit := by
  cases waited with
  | nil => cases hdelay
  | cons second rest =>
      rcases List.mem_cons.1 hdelay with rfl | hrest
      · exact (h.head delay rfl).trans_le hfirst
      · exact h.tail delay hrest

/-! ### The waits of a run -/

section Attempts

variable {operation : String} {results : Nat → Except ε α} {next : Nat → Except β Nat}
  {limit : Nat}

variable (operation results) in
/-- First there is an attempt. What comes behind it keeps to the limit from the second wait on, if
every delay but the first does. -/
theorem exists_acts (hnext : ∀ delay longer, next delay = .ok longer → longer ≤ limit)
    (spare made delay : Nat) (acts : List Act) :
    ∃ more, (attemptsWith next noteWait operation (noteAttempt results) spare made delay acts).2 =
        acts ++ .attempt :: more ∧ Bounded delay limit (delays more) := by
  induction spare generalizing made delay acts with
  | zero =>
      refine ⟨[], ?_, bounded_nil delay limit⟩
      rw [attemptsWith_apply, noteAttempt]
      cases results (acts.count .attempt) with
      | ok value => rfl
      | error error =>
          dsimp only
          split <;> rfl
  | succ spare ih =>
      rw [attemptsWith_apply, noteAttempt]
      cases results (acts.count .attempt) with
      | ok value => exact ⟨[], rfl, bounded_nil delay limit⟩
      | error error =>
          dsimp only
          split
          · cases hlonger : next delay with
            | error fault =>
                refine ⟨[.wait delay], ?_, (bounded_nil 0 limit).cons (Nat.zero_le limit) delay⟩
                rw [noteWait, List.append_assoc]
                rfl
            | ok longer =>
                obtain ⟨more, hmore, hbounded⟩ :=
                  ih (made + 1) longer (acts ++ [.attempt, .wait delay])
                refine ⟨.wait delay :: .attempt :: more, ?_,
                  hbounded.cons (hnext delay longer hlonger) delay⟩
                rw [noteWait, List.append_assoc]
                rw [List.append_assoc] at hmore
                exact hmore
          · exact ⟨[], rfl, bounded_nil delay limit⟩

end Attempts

theorem next_le {policy : RetryPolicy} {delay longer : Nat} (h : policy.next delay = .ok longer) :
    longer ≤ policy.maxDelay := by
  unfold next at h
  cases hgrown : policy.grown delay with
  | error fault =>
      rw [hgrown] at h
      cases h
  | ok grown =>
      rw [hgrown] at h
      obtain rfl := Except.ok.inj h
      exact min_le_right grown policy.maxDelay

section Play

variable {policy : RetryPolicy} {operation : String} {results : Nat → Except ε α}

theorem bounded_play (policy : RetryPolicy) (operation : String) (results : Nat → Except ε α) :
    Bounded policy.initialDelay policy.maxDelay (delays (policy.play operation results).2) := by
  obtain ⟨more, hmore, hbounded⟩ := exists_acts operation results
    (fun _ _ => next_le) (policy.maxAttempts - 1) 0 policy.initialDelay []
  rw [play, tryAll, hmore]
  exact hbounded

/-- No wait between two attempts is longer than the policy allows. -/
def Capped (policy : RetryPolicy) (operation : String) (results : Nat → Except ε α) : Prop :=
  ∀ delay, Between (policy.play operation results).2 delay → delay ≤ policy.maxDelay

/-- The first delay is too long, and it is waited for before a second attempt. -/
structure Overlong (policy : RetryPolicy) (operation : String) (results : Nat → Except ε α) :
    Prop where
  exceeds : policy.maxDelay < policy.initialDelay
  called : Called policy operation results 1
  goesOn : ∃ longer, policy.next policy.initialDelay = .ok longer

theorem Called.between {longer : Nat} (h : Called policy operation results 1)
    (hnext : policy.next policy.initialDelay = .ok longer) :
    Between (policy.play operation results).2 policy.initialDelay := by
  have hwaits : waits policy.next 1 policy.initialDelay = .ok [policy.initialDelay] := by
    rw [waits, hnext]
    rfl
  obtain ⟨delay, before, -, hbefore, -, hplay⟩ := h.exists_play hwaits
  obtain ⟨more, hmore, -⟩ := exists_acts operation results
    (fun _ _ => next_le) (policy.bound - 1 - 1) 1 delay before
  refine ⟨[], more, ?_⟩
  rw [hplay, hmore, ← List.singleton_append (l := more), ← List.append_assoc, hbefore]
  rfl

theorem Overlong.not_capped (h : Overlong policy operation results) :
    ¬ Capped policy operation results := by
  intro hcapped
  obtain ⟨longer, hlonger⟩ := h.goesOn
  exact absurd (hcapped _ (h.called.between hlonger)) (Nat.not_le.2 h.exceeds)

theorem Between.overlong {delay : Nat} (h : Between (policy.play operation results).2 delay)
    (hexceeds : policy.maxDelay < policy.initialDelay) : Overlong policy operation results := by
  have hstart : ([] : List Act).count .attempt = 0 := rfl
  have hlength := h.three_le_length
  rw [play, tryAll] at hlength
  cases hanswer : answer? operation (results 0) with
  | some answer =>
      rw [attemptsWith_of_settled hstart hanswer] at hlength
      exact absurd hlength (by simp)
  | none =>
      cases hspare : policy.maxAttempts - 1 with
      | zero =>
          obtain ⟨error, herror, -⟩ := exists_transient hanswer
          rw [hspare, attemptsWith_of_last hstart hanswer herror] at hlength
          exact absurd hlength (by simp)
      | succ spare =>
          have hbound := policy.bound_eq
          have hcalled : Called policy operation results 1 := by
            refine ⟨by omega, fun j hj => ?_⟩
            obtain rfl : j = 0 := Nat.lt_one_iff.1 hj
            exact hanswer
          refine ⟨hexceeds, hcalled, ?_⟩
          cases hnext : policy.next policy.initialDelay with
          | ok longer => exact ⟨longer, rfl⟩
          | error fault =>
              -- the run breaks off behind the wait, which leaves no room for a second attempt
              rw [hspare, attemptsWith_of_transient hstart hanswer, hnext] at hlength
              exact absurd hlength (by simp)

/-- **Only the first wait can be too long.** For every policy and every sequence of results, the
first wait is as long as the first delay and every other one at most as long as the longest delay
that the policy allows. So each wait between two attempts keeps to that, except exactly if the first
delay is longer and a second attempt is made behind it. -/
theorem capped_iff (policy : RetryPolicy) (operation : String) (results : Nat → Except ε α) :
    Bounded policy.initialDelay policy.maxDelay (delays (policy.play operation results).2) ∧
      (Capped policy operation results ↔ ¬ Overlong policy operation results) := by
  have hbounded := bounded_play policy operation results
  refine ⟨hbounded, fun hcapped hoverlong => hoverlong.not_capped hcapped, ?_⟩
  intro hshort delay hbetween
  apply hbounded.le _ hbetween.mem_delays
  by_contra hexceeds
  exact hshort (hbetween.overlong (Nat.lt_of_not_le hexceeds))

/-- A policy whose first delay is ten times the longest one. -/
def sluggish : RetryPolicy :=
  ⟨2, 10 * second, second, one⟩

theorem sluggish_not_capped :
    ¬ Capped sluggish "poll" fun _ => (.error .poolTimedOut : Except Database.Fault Unit) := by
  refine Overlong.not_capped ⟨by decide, ⟨by decide, fun j _ => rfl⟩, second, ?_⟩
  decide +kernel

theorem fixed_capped (maxAttempts delay : Nat) :
    Capped (fixed maxAttempts delay) operation results := by
  intro waited hbetween
  exact (bounded_play _ operation results).le (Nat.le_refl delay) hbetween.mem_delays

end Play

end Concord.RetryPolicy
