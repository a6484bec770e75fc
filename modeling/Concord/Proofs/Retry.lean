import Mathlib
import Concord.Retry

/-!
# What trying again can do

Trying an operation a number of times comes down to failed attempts, waits, and at most one attempt
that succeeds, which is the last one. It breaks off only under a policy that runs out of delays.
-/

namespace Concord.RetryPolicy

variable {σ ε α β : Type} [Transient ε]

/-- The attempts from a state on, by what the next attempt gives there. -/
theorem attemptsWith_apply (next : Nat → Except β Nat) (wait : Nat → StateM σ Unit)
    (operation : String) (attempt : StateM σ (Except ε α)) (spare made delay : Nat) (state : σ) :
    attemptsWith next wait operation attempt spare made delay state =
      match attempt state with
      | (.ok value, last) => (.ok (.ok value), last)
      | (.error error, failed) =>
          if Transient.transient error then
            match spare with
            | 0 => (.ok (.error (.exhausted operation (made + 1) error)), failed)
            | spare + 1 =>
                match next delay with
                | .ok longer => attemptsWith next wait operation attempt spare (made + 1) longer
                    (wait delay failed).2
                | .error fault => (.error fault, (wait delay failed).2)
          else (.ok (.error (.permanent operation error)), failed) := by
  cases hattempt : attempt state with
  | mk answer failed =>
      conv_lhs => unfold attemptsWith
      cases answer with
      | ok value => simp [bind, StateT.bind, hattempt, pure, StateT.pure]
      | error error =>
          simp only [bind, StateT.bind, hattempt]
          split
          · cases spare with
            | zero => rfl
            | succ spare => cases next delay <;> rfl
          · rfl

/-! ### The delays of a policy -/

/-- The first waits from a delay on, each of which has a next delay. -/
def waits (next : Nat → Except β Nat) : (count delay : Nat) → Except β (List Nat)
  | 0, _ => .ok []
  | count + 1, delay =>
      match next delay with
      | .ok longer => (delay :: ·) <$> waits next count longer
      | .error fault => .error fault

/-- A policy that always has another delay. -/
def Lasting (policy : RetryPolicy) : Prop :=
  ∀ count, ∃ delays, waits policy.next count policy.initialDelay = .ok delays

variable {next : Nat → Except β Nat} {wait : Nat → StateM σ Unit} {operation : String}
  {attempt : StateM σ (Except ε α)} {spare made delay : Nat} {start : σ}

/-- Trying breaks off behind its first wait, or behind a later one. -/
theorem next_of_attemptsWith_error {fault : β}
    (h : (attemptsWith next wait operation attempt spare made delay start).1 = .error fault) :
    ∃ left, spare = left + 1 ∧ (next delay = .error fault ∨
      ∃ longer state, next delay = .ok longer ∧
        (attemptsWith next wait operation attempt left (made + 1) longer state).1 =
          .error fault) := by
  rw [attemptsWith_apply] at h
  rcases hattempt : attempt start with ⟨error | value, failed⟩ <;> rw [hattempt] at h
  · dsimp only at h
    split at h
    · cases spare with
      | zero => cases h
      | succ left =>
          refine ⟨left, rfl, ?_⟩
          cases hnext : next delay with
          | error found =>
              rw [hnext] at h
              exact .inl (congrArg Except.error (Except.error.inj h))
          | ok longer =>
              rw [hnext] at h
              exact .inr ⟨longer, _, rfl, h⟩
    · cases h
  · cases h

/-- Trying breaks off only where there is no next delay. -/
theorem exists_waits_of_attemptsWith_error {fault : β}
    (h : (attemptsWith next wait operation attempt spare made delay start).1 = .error fault) :
    ∃ count, waits next count delay = .error fault := by
  induction spare generalizing made delay start with
  | zero =>
      obtain ⟨left, hleft, -⟩ := next_of_attemptsWith_error h
      cases hleft
  | succ spare ih =>
      obtain ⟨left, ⟨⟩, hnext | ⟨longer, state, hnext, hrest⟩⟩ := next_of_attemptsWith_error h
      · exact ⟨1, by rw [waits, hnext]⟩
      · obtain ⟨count, hcount⟩ := ih hrest
        refine ⟨count + 1, ?_⟩
        rw [waits, hnext]
        dsimp only
        rw [hcount]
        rfl

theorem Lasting.tryAll_ne_error {policy : RetryPolicy} (h : policy.Lasting) (fault : DelayFault) :
    (policy.tryAll wait operation attempt start).1 ≠ .error fault := by
  intro herror
  obtain ⟨count, hcount⟩ := exists_waits_of_attemptsWith_error herror
  obtain ⟨delays, hdelays⟩ := h count
  cases hcount.symm.trans hdelays

/-! ### What trying keeps -/

/-- A relation leads from the start to the attempt that succeeded, or to the end where none did. -/
def Ended (related : σ → σ → Prop) (attempt : StateM σ (Except ε α)) (start : σ) :
    Except β (Except (RetryError ε) α) × σ → Prop
  | (.ok (.ok value), last) => ∃ state, related start state ∧ attempt state = (.ok value, last)
  | (.ok (.error _), last) => related start last
  | (.error _, last) => related start last

variable {related : σ → σ → Prop}

omit [Transient ε] in
theorem Ended.of_related (htrans : ∀ a b c, related a b → related b c → related a c)
    {start middle : σ} (h : related start middle)
    {result : Except β (Except (RetryError ε) α) × σ}
    (hended : Ended related attempt middle result) : Ended related attempt start result := by
  obtain ⟨answer, last⟩ := result
  rcases answer with fault | (error | value)
  · exact htrans _ _ _ h hended
  · exact htrans _ _ _ h hended
  · obtain ⟨state, hstate, hattempt⟩ := hended
    exact ⟨state, htrans _ _ _ h hstate, hattempt⟩

/-- One attempt keeps what failures and waits keep, if the attempts that are left do. -/
theorem attemptsWith_ended_of_rest (htrans : ∀ a b c, related a b → related b c → related a c)
    (hrefl : ∀ state, related state state)
    (hfail : ∀ state error next, attempt state = (.error error, next) → related state next)
    (hwait : ∀ delay state, related state (wait delay state).2)
    (hrest : ∀ left, spare = left + 1 → ∀ delay state, Ended related attempt state
      (attemptsWith next wait operation attempt left (made + 1) delay state)) :
    Ended related attempt start
      (attemptsWith next wait operation attempt spare made delay start) := by
  rw [attemptsWith_apply]
  cases hattempt : attempt start with
  | mk answer failed =>
      cases answer with
      | ok value => exact ⟨start, hrefl start, hattempt⟩
      | error error =>
          have hfailed : related start failed := hfail _ _ _ hattempt
          dsimp only
          split
          · cases spare with
            | zero => exact hfailed
            | succ left =>
                have hwaited : related start (wait delay failed).2 :=
                  htrans _ _ _ hfailed (hwait delay failed)
                dsimp only
                cases next delay with
                | ok longer => exact Ended.of_related htrans hwaited (hrest left rfl _ _)
                | error fault => exact hwaited
          · exact hfailed

/-- What failed attempts and waits keep, trying keeps up to the attempt that succeeds. -/
theorem attemptsWith_ended (htrans : ∀ a b c, related a b → related b c → related a c)
    (hrefl : ∀ state, related state state)
    (hfail : ∀ state error next, attempt state = (.error error, next) → related state next)
    (hwait : ∀ delay state, related state (wait delay state).2) :
    Ended related attempt start
      (attemptsWith next wait operation attempt spare made delay start) := by
  induction spare generalizing made delay start with
  | zero =>
      apply attemptsWith_ended_of_rest htrans hrefl hfail hwait
      intro left hleft
      cases hleft
  | succ spare ih =>
      apply attemptsWith_ended_of_rest htrans hrefl hfail hwait
      rintro left ⟨⟩ delay state
      exact ih

section Alike

variable {τ : Type} {alike : σ → τ → Prop} {other : StateM τ (Except ε α)}
  {pause : Nat → StateM τ Unit}

def Same {γ : Type} (alike : σ → τ → Prop) (result : γ × σ) (mirrored : γ × τ) : Prop :=
  mirrored.1 = result.1 ∧ alike result.2 mirrored.2

/-- One attempt gives the same on states that are alike, if the attempts that are left do. -/
theorem attemptsWith_same_of_rest
    (hattempt : ∀ state mirror, alike state mirror → Same alike (attempt state) (other mirror))
    (hwait : ∀ delay state mirror, alike state mirror →
      alike (wait delay state).2 (pause delay mirror).2)
    {state : σ} {mirror : τ} (h : alike state mirror)
    (hrest : ∀ left, spare = left + 1 → ∀ delay state mirror, alike state mirror →
      Same alike (attemptsWith next wait operation attempt left (made + 1) delay state)
        (attemptsWith next pause operation other left (made + 1) delay mirror)) :
    Same alike (attemptsWith next wait operation attempt spare made delay state)
      (attemptsWith next pause operation other spare made delay mirror) := by
  have hsame := hattempt state mirror h
  rw [attemptsWith_apply, attemptsWith_apply]
  generalize attempt state = result at hsame
  generalize other mirror = mirrored at hsame
  obtain ⟨answer, after⟩ := result
  obtain ⟨answer', after'⟩ := mirrored
  obtain ⟨hanswer, hafter⟩ := hsame
  obtain rfl : answer' = answer := hanswer
  cases answer' with
  | ok value => exact ⟨rfl, hafter⟩
  | error error =>
      dsimp only
      split
      · cases spare with
        | zero => exact ⟨rfl, hafter⟩
        | succ left =>
            dsimp only
            cases next delay with
            | ok longer => exact hrest left rfl _ _ _ (hwait delay after after' hafter)
            | error fault => exact ⟨rfl, hwait delay after after' hafter⟩
      · exact ⟨rfl, hafter⟩

/-- Trying gives the same on states that are alike, if each attempt does. -/
theorem attemptsWith_same
    (hattempt : ∀ state mirror, alike state mirror → Same alike (attempt state) (other mirror))
    (hwait : ∀ delay state mirror, alike state mirror →
      alike (wait delay state).2 (pause delay mirror).2)
    {state : σ} {mirror : τ} (h : alike state mirror) :
    Same alike (attemptsWith next wait operation attempt spare made delay state)
      (attemptsWith next pause operation other spare made delay mirror) := by
  induction spare generalizing made delay state mirror with
  | zero =>
      apply attemptsWith_same_of_rest hattempt hwait h
      intro left hleft
      cases hleft
  | succ spare ih =>
      apply attemptsWith_same_of_rest hattempt hwait h
      rintro left ⟨⟩ delay state mirror hrest
      exact ih hrest

end Alike

end Concord.RetryPolicy
