import Mathlib
import Concord.Options
import Concord.Proofs.Markers

/-!
# Looser rules and further checks

Markers that are put behind the others, and letting identical errors pass, leave every check that
passes as it is: the first marker in a message stays the first. The checks on memory and gas come to
those that are made anyway, where both calls succeeded.
-/

namespace Concord

namespace Comparison

/-- The rule with further markers behind its own, and letting identical errors pass if it is to. -/
def loosened (rule : Comparison) (more : List String) (identical : Bool) : Comparison :=
  { rule with
    markers := rule.markers ++ more
    identicalErrors := rule.identicalErrors || identical }

/-- The rule with the optional checks that are to be made besides its own. -/
def extended (rule : Comparison) (memory gas : Bool) : Comparison :=
  { rule with memory := rule.memory || memory, gas := rule.gas || gas }

/-- The checks that come new with these options. -/
def switchedOn (rule : Comparison) (memory gas : Bool) : List Check :=
  (if memory && !rule.memory then [.memory] else []) ++ if gas && !rule.gas then [.gas] else []

end Comparison

/-- What the options of a command line make of the rule with the markers that it names. -/
theorem VerifierCommand.rule_ofParsed (parsed : Arguments.Parsed) :
    ∃ markers, (ofParsed parsed).rule =
      (({ markers } : Comparison).loosened
        (if parsed.flag "common-markers" then Comparison.broadMarkers else [])
        (parsed.flag "identical-errors")).extended
          (parsed.flag "check-memory") (parsed.flag "check-gas") :=
  ⟨_, rfl⟩

namespace Verdict

def site (verdict : Verdict) : Site :=
  ⟨verdict.constructorIndex, verdict.function⟩

/-- Both calls that the verdict is about succeeded, by the results of their backends. -/
def BothSucceeded (generation : String) (results : List RunResult) (verdict : Verdict) : Prop :=
  ∃ reference candidate a b,
    Comparison.resultOf? generation results verdict.reference = some reference ∧
    Comparison.resultOf? generation results verdict.candidate = some candidate ∧
    (reference.outcomesAt verdict.site)[verdict.inputIndex]? = some (.success a) ∧
    (candidate.outcomesAt verdict.site)[verdict.inputIndex]? = some (.success b)

/-- All checks are kept as they were, and some are new exactly where both calls succeeded. -/
structure Extended (generation : String) (results : List RunResult) (checks : List Check)
    (before after : Verdict) : Prop where
  kept : ∀ check outcome, before.checks.get? check = some outcome →
    after.checks.get? check = some outcome
  added_iff : ∀ check, (before.checks.get? check = none ∧ (after.checks.get? check).isSome) ↔
    check ∈ checks ∧ before.BothSucceeded generation results

end Verdict

namespace Comparison

variable (rule : Comparison) (more : List String) (identical memory gas : Bool)

/-! ### Looser rules -/

theorem markerIn_loosened {message marker : String} (h : rule.markerIn message = some marker) :
    (rule.loosened more identical).markerIn message = some marker := by
  unfold markerIn at h ⊢
  rw [loosened, List.find?_append, h, Option.some_or]

theorem correlated_loosened {ours theirs : String} (h : rule.correlated ours theirs = true) :
    (rule.loosened more identical).correlated ours theirs = true := by
  rw [correlated_iff] at h ⊢
  rcases h with ⟨hidentical, rfl⟩ | ⟨marker, hours, htheirs⟩
  · exact Or.inl ⟨by rw [loosened, hidentical, Bool.true_or], rfl⟩
  · exact Or.inr ⟨marker, rule.markerIn_loosened more identical hours,
      rule.markerIn_loosened more identical htheirs⟩

theorem eased_compare_loosened (a b : Outcome) :
    (rule.compare a b).Eased ((rule.loosened more identical).compare a b) := by
  obtain ⟨ours, theirs, hours, htheirs⟩ | hsuccess := errors_or_success a b
  · rw [compare_of_errors _ hours htheirs, compare_of_errors _ hours htheirs]
    apply Checks.eased_errorCorrelation
    rw [unlessEqual_eq_pass_iff, unlessEqual_eq_pass_iff]
    exact rule.correlated_loosened more identical
  · have hsame : (rule.loosened more identical).compare a b = rule.compare a b :=
      compare_of_success hsuccess rfl rfl
    rw [hsame]
    exact ⟨fun _ => rfl, fun _ => id⟩

theorem eased_compareAt_loosened (a b : Option Outcome) :
    (rule.compareAt a b).Eased ((rule.loosened more identical).compareAt a b) := by
  cases a <;> cases b
  case some.some a b => exact rule.eased_compare_loosened more identical a b
  all_goals exact Checks.eased_errorCorrelation id

/-! ### Further checks -/

variable {rule memory gas}

theorem mem_switchedOn_iff {check : Check} :
    check ∈ rule.switchedOn memory gas ↔
      (check = .memory ∧ memory = true ∧ rule.memory = false) ∨
        (check = .gas ∧ gas = true ∧ rule.gas = false) := by
  simp only [switchedOn, List.mem_append, List.mem_ite_nil_right, List.mem_singleton,
    Bool.and_eq_true, Bool.not_eq_true']
  tauto

theorem get?_successes_extended {a b : Success} {check : Check} {outcome : CheckOutcome}
    (h : (rule.successes a b).get? check = some outcome) :
    ((rule.extended memory gas).successes a b).get? check = some outcome := by
  cases check with
  | memory =>
      obtain ⟨hmemory, houtcome⟩ := Option.ite_none_right_eq_some.1 h
      exact Option.ite_none_right_eq_some.2 ⟨by simp [extended, hmemory], houtcome⟩
  | gas =>
      obtain ⟨hgas, houtcome⟩ := Option.ite_none_right_eq_some.1 h
      exact Option.ite_none_right_eq_some.2 ⟨by simp [extended, hgas], houtcome⟩
  | _ => exact h

theorem added_successes_iff {a b : Success} {check : Check} :
    ((rule.successes a b).get? check = none ∧
        (((rule.extended memory gas).successes a b).get? check).isSome) ↔
      check ∈ rule.switchedOn memory gas := by
  rw [mem_switchedOn_iff]
  cases check with
  | memory => cases hmemory : rule.memory <;> simp [successes, extended, Checks.get?, hmemory]
  | gas => cases hgas : rule.gas <;> simp [successes, extended, Checks.get?, hgas]
  | _ => simp [successes, Checks.get?]

theorem compareAt_extended {a b : Option Outcome}
    (h : ¬∃ x y, a = some (.success x) ∧ b = some (.success y)) :
    (rule.extended memory gas).compareAt a b = rule.compareAt a b := by
  cases a <;> cases b
  case some.some a b =>
    cases a <;> cases b
    case success.success a b => exact absurd ⟨a, b, rfl, rfl⟩ h
    all_goals rfl
  all_goals rfl

variable {generation : String} {results : List RunResult} {backends : List String}

theorem bothSucceeded_judge_iff {pairings : List Pairing}
    (h : pairings? generation results backends = some pairings) {pairing : Pairing}
    (hmem : pairing ∈ pairings) :
    (rule.judge pairing).BothSucceeded generation results ↔
      ∃ a b, pairing.ours = some (.success a) ∧ pairing.theirs = some (.success b) := by
  obtain ⟨reference, candidate, hreference, hcandidate, hours, htheirs⟩ :=
    outcomes_of_mem_pairings? h hmem
  rw [hours, htheirs]
  constructor
  · rintro ⟨first, second, a, b, hfirst, hsecond, ha, hb⟩
    obtain rfl := Option.some.inj (hreference.symm.trans hfirst)
    obtain rfl := Option.some.inj (hcandidate.symm.trans hsecond)
    exact ⟨a, b, ha, hb⟩
  · rintro ⟨a, b, ha, hb⟩
    exact ⟨reference, candidate, a, b, hreference, hcandidate, ha, hb⟩

theorem extended_judge {pairings : List Pairing}
    (h : pairings? generation results backends = some pairings) {pairing : Pairing}
    (hmem : pairing ∈ pairings) :
    Verdict.Extended generation results (rule.switchedOn memory gas) (rule.judge pairing)
      ((rule.extended memory gas).judge pairing) := by
  have hsucceeded : (rule.judge pairing).BothSucceeded generation results ↔ _ :=
    bothSucceeded_judge_iff h hmem
  by_cases hboth : ∃ a b, pairing.ours = some (.success a) ∧ pairing.theirs = some (.success b)
  · rw [iff_true_right hboth] at hsucceeded
    obtain ⟨a, b, hours, htheirs⟩ := hboth
    have hchecks : ∀ rule : Comparison, (rule.judge pairing).checks = rule.successes a b := by
      intro rule
      rw [judge, hours, htheirs]
      rfl
    constructor <;> simp only [hchecks, hsucceeded, and_true]
    · exact fun _ _ => get?_successes_extended
    · exact fun _ => added_successes_iff
  · rw [iff_false_right hboth] at hsucceeded
    have hchecks : ((rule.extended memory gas).judge pairing).checks =
        (rule.judge pairing).checks := compareAt_extended hboth
    constructor
    · exact fun _ _ hcheck => hchecks ▸ hcheck
    · intro check
      rw [hchecks]
      refine iff_of_false ?_ fun hadded => hsucceeded hadded.2
      rintro ⟨hnone, hsome⟩
      rw [hnone] at hsome
      cases hsome

/-! ### Whole verifications -/

/-- **Looser rules silence, further checks add.** With further markers at the end, or with identical
errors passing, a verification judges the same calls by the same checks, and whatever passed passes.
With the checks on memory or gas switched on it judges the same calls as before, all checks come out
as they did, and the new ones are made exactly where both calls succeeded. -/
theorem eased_and_extended (rule : Comparison) (generation : String) (results : List RunResult)
    (backends : List String) :
    (∀ more identical, Option.Rel Verification.Eased
      (rule.verification? generation results backends)
      ((rule.loosened more identical).verification? generation results backends)) ∧
    ∀ memory gas, Option.Rel
      (Verification.Related (Verdict.Extended generation results (rule.switchedOn memory gas)))
      (rule.verification? generation results backends)
      ((rule.extended memory gas).verification? generation results backends) := by
  constructor
  · intro more identical
    apply related_verification?_of_rules
    intro pairings _ pairing _
    exact rule.eased_compareAt_loosened more identical pairing.ours pairing.theirs
  · intro memory gas
    apply related_verification?_of_rules
    intro pairings hpairings pairing hmem
    exact extended_judge hpairings hmem

end Comparison

end Concord
