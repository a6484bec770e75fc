import Mathlib
import Concord.Proofs.Pairings

/-!
# The order of the markers

Two errors correlate if the first marker in the one message is the first marker in the other. So
putting the markers in another order can make a difference, but only for messages that have a marker
in common and do not contain the same ones.
-/

namespace Concord.Comparison

variable (rule : Comparison)

/-- All markers in a message, ignoring case. -/
def markersIn (message : String) : List String :=
  rule.markers.filter fun marker => Text.contains (Text.lowercase message) (Text.lowercase marker)

def reordered (markers : List String) : Comparison :=
  { rule with markers }

/-- The messages have a marker in common, and one of them contains a marker that the other does
not. -/
def Overlapping (ours theirs : String) : Prop :=
  (∃ marker, marker ∈ rule.markersIn ours ∧ marker ∈ rule.markersIn theirs) ∧
    ∃ marker, ¬(marker ∈ rule.markersIn ours ↔ marker ∈ rule.markersIn theirs)

variable {rule} {ours theirs message marker : String} {markers : List String}

theorem markerIn_eq_head? : rule.markerIn message = (rule.markersIn message).head? :=
  List.head?_filter.symm

theorem mem_markersIn_of_markerIn (h : rule.markerIn message = some marker) :
    marker ∈ rule.markersIn message := by
  rw [markerIn_eq_head?] at h
  exact List.mem_of_head? h

theorem isSome_markerIn_of_mem (h : marker ∈ rule.markersIn message) :
    (rule.markerIn message).isSome := by
  obtain ⟨hmarker, hfound⟩ := List.mem_filter.1 h
  exact List.find?_isSome.2 ⟨marker, hmarker, hfound⟩

theorem correlated_iff :
    rule.correlated ours theirs = true ↔ (rule.identicalErrors = true ∧ ours = theirs) ∨
      ∃ marker, rule.markerIn ours = some marker ∧ rule.markerIn theirs = some marker := by
  simp only [correlated, Bool.or_eq_true, Bool.and_eq_true, beq_iff_eq, Option.isSome_iff_exists]
  apply or_congr_right
  constructor
  · rintro ⟨⟨marker, hours⟩, hsame⟩
    exact ⟨marker, hours, hsame ▸ hours⟩
  · rintro ⟨marker, hours, htheirs⟩
    exact ⟨⟨marker, hours⟩, hours.trans htheirs.symm⟩

theorem mem_markersIn_reordered (h : markers.Perm rule.markers) :
    marker ∈ (rule.reordered markers).markersIn message ↔ marker ∈ rule.markersIn message :=
  (h.filter _).mem_iff

/-- Every marker in a message is the first one there under some order. -/
theorem exists_order_first (h : marker ∈ rule.markers) :
    ∃ markers, markers.Perm rule.markers ∧ ∀ message, marker ∈ rule.markersIn message →
      (rule.reordered markers).markerIn message = some marker := by
  refine ⟨marker :: rule.markers.erase marker, (List.perm_cons_erase h).symm, ?_⟩
  intro message hmem
  exact List.find?_cons_of_pos (List.mem_filter.1 hmem).2

theorem exists_order_correlated_iff :
    (∃ markers, markers.Perm rule.markers ∧
        (rule.reordered markers).correlated ours theirs = true) ↔
      (rule.identicalErrors = true ∧ ours = theirs) ∨
        ∃ marker, marker ∈ rule.markersIn ours ∧ marker ∈ rule.markersIn theirs := by
  constructor
  · rintro ⟨markers, hperm, hcorrelated⟩
    refine (correlated_iff.1 hcorrelated).imp_right ?_
    rintro ⟨marker, hours, htheirs⟩
    exact ⟨marker, (mem_markersIn_reordered hperm).1 (mem_markersIn_of_markerIn hours),
      (mem_markersIn_reordered hperm).1 (mem_markersIn_of_markerIn htheirs)⟩
  · rintro (hidentical | ⟨marker, hours, htheirs⟩)
    · exact ⟨rule.markers, .refl _, correlated_iff.2 (Or.inl hidentical)⟩
    · obtain ⟨markers, hperm, hfirst⟩ := exists_order_first (List.mem_filter.1 hours).1
      exact ⟨markers, hperm,
        correlated_iff.2 (Or.inr ⟨marker, hfirst ours hours, hfirst theirs htheirs⟩)⟩

theorem markerIn_eq_of_same
    (h : ∀ marker, marker ∈ rule.markersIn ours ↔ marker ∈ rule.markersIn theirs) :
    rule.markerIn ours = rule.markerIn theirs := by
  have hfilter : rule.markersIn ours = rule.markersIn theirs := by
    apply List.filter_congr
    intro marker hmem
    have hiff := h marker
    simp only [markersIn, List.mem_filter, hmem, true_and] at hiff
    exact Bool.eq_iff_iff.2 hiff
  rw [markerIn_eq_head?, markerIn_eq_head?, hfilter]

theorem mem_markersIn_of_forall_order
    (h : ∀ markers, markers.Perm rule.markers →
      (rule.reordered markers).correlated ours theirs = true)
    (hidentical : ¬(rule.identicalErrors = true ∧ ours = theirs))
    (hmem : marker ∈ rule.markersIn ours) : marker ∈ rule.markersIn theirs := by
  obtain ⟨markers, hperm, hfirst⟩ := exists_order_first (List.mem_filter.1 hmem).1
  obtain hsame | ⟨found, hours, htheirs⟩ := correlated_iff.1 (h markers hperm)
  · exact absurd hsame hidentical
  · obtain rfl : marker = found := Option.some.inj ((hfirst ours hmem).symm.trans hours)
    exact (mem_markersIn_reordered hperm).1 (mem_markersIn_of_markerIn htheirs)

theorem forall_order_correlated_iff :
    (∀ markers, markers.Perm rule.markers →
        (rule.reordered markers).correlated ours theirs = true) ↔
      (rule.identicalErrors = true ∧ ours = theirs) ∨
        (∃ marker, marker ∈ rule.markersIn ours) ∧
          ∀ marker, marker ∈ rule.markersIn ours ↔ marker ∈ rule.markersIn theirs := by
  constructor
  · intro hall
    by_cases hidentical : rule.identicalErrors = true ∧ ours = theirs
    · exact Or.inl hidentical
    have hback : ∀ markers, markers.Perm rule.markers →
        (rule.reordered markers).correlated theirs ours = true :=
      fun markers hperm => correlated_symm (hall markers hperm)
    have hidentical' : ¬(rule.identicalErrors = true ∧ theirs = ours) :=
      fun h => hidentical ⟨h.1, h.2.symm⟩
    obtain hsame | ⟨found, hours, -⟩ := correlated_iff.1 (hall rule.markers (.refl _))
    · exact absurd hsame hidentical
    · exact Or.inr ⟨⟨found, mem_markersIn_of_markerIn hours⟩, fun marker =>
        ⟨mem_markersIn_of_forall_order hall hidentical,
          mem_markersIn_of_forall_order hback hidentical'⟩⟩
  · rintro (hidentical | ⟨⟨marker, hmem⟩, hsame⟩) markers hperm
    · exact correlated_iff.2 (Or.inl hidentical)
    · have heq : (rule.reordered markers).markerIn ours =
          (rule.reordered markers).markerIn theirs := by
        apply markerIn_eq_of_same
        intro marker
        rw [mem_markersIn_reordered hperm, mem_markersIn_reordered hperm, hsame]
      obtain ⟨first, hfirst⟩ := Option.isSome_iff_exists.1
        (isSome_markerIn_of_mem ((mem_markersIn_reordered hperm).2 hmem))
      exact correlated_iff.2 (Or.inr ⟨first, hfirst, heq ▸ hfirst⟩)

/-- The order of the markers has no say in whether two errors correlate, unless they overlap. -/
theorem correlated_reordered_iff :
    (∀ markers, markers.Perm rule.markers →
        (rule.reordered markers).correlated ours theirs = rule.correlated ours theirs) ↔
      ¬rule.Overlapping ours theirs := by
  constructor
  · rintro hfree ⟨hshared, other, hother⟩
    obtain ⟨markers, hperm, hcorrelated⟩ := exists_order_correlated_iff.2 (Or.inr hshared)
    rw [hfree markers hperm] at hcorrelated
    -- so they correlate under every order, which takes the same markers in both
    obtain ⟨-, rfl⟩ | ⟨-, hsame⟩ := forall_order_correlated_iff.1
      fun markers hperm => (hfree markers hperm).trans hcorrelated
    · exact hother Iff.rfl
    · exact hother (hsame other)
  · intro hoverlap
    -- what correlates under one order does so under all of them
    have hall : ∀ markers, markers.Perm rule.markers →
        (rule.reordered markers).correlated ours theirs = true →
          ∀ others, others.Perm rule.markers →
            (rule.reordered others).correlated ours theirs = true := by
      intro markers hperm hcorrelated
      apply forall_order_correlated_iff.2
      refine (exists_order_correlated_iff.1 ⟨markers, hperm, hcorrelated⟩).imp_right ?_
      intro hshared
      refine ⟨hshared.imp fun _ => And.left, fun marker => ?_⟩
      by_contra hdifferent
      exact hoverlap ⟨hshared, marker, hdifferent⟩
    intro markers hperm
    rw [Bool.eq_iff_iff]
    constructor
    · exact fun h => hall markers hperm h rule.markers (.refl _)
    · exact fun h => hall rule.markers (.refl _) h markers hperm

/-! ### Checks on two outcomes -/

variable {a b : Outcome}

theorem errors_or_success (a b : Outcome) :
    (∃ ours theirs, a.errorMessage = some ours ∧ b.errorMessage = some theirs) ∨
      (a.errorMessage = none ∨ b.errorMessage = none) := by
  cases ha : a.errorMessage with
  | none => exact Or.inr (Or.inl rfl)
  | some ours =>
      cases hb : b.errorMessage with
      | none => exact Or.inr (Or.inr rfl)
      | some theirs => exact Or.inl ⟨ours, theirs, rfl, rfl⟩

theorem compare_of_errors (rule : Comparison) (ha : a.errorMessage = some ours)
    (hb : b.errorMessage = some theirs) :
    rule.compare a b =
      { errorCorrelation := some (unlessEqual (rule.correlated ours theirs)
          (rule.uncorrelated ours theirs) a.encode b.encode) } := by
  cases a <;> cases ha <;> cases b <;> cases hb <;> rfl

/-- Only for two errors do the markers matter. -/
theorem compare_of_success {rule other : Comparison}
    (h : a.errorMessage = none ∨ b.errorMessage = none) (hmemory : other.memory = rule.memory)
    (hgas : other.gas = rule.gas) : other.compare a b = rule.compare a b := by
  cases a <;> cases b
  case success.success => simp only [compare, successes, hmemory, hgas]
  case success.deployError | success.runtimeError | deployError.success | runtimeError.success =>
    rfl
  all_goals rcases h with h | h <;> cases h

theorem checks_reordered (rule : Comparison) (a b : Outcome) (markers : List String)
    (check : Check) :
    (((rule.reordered markers).compare a b).get? check).isSome =
        ((rule.compare a b).get? check).isSome ∧
      (check ≠ .errorCorrelation →
        ((rule.reordered markers).compare a b).get? check = (rule.compare a b).get? check) := by
  obtain ⟨ours, theirs, hours, htheirs⟩ | hsuccess := errors_or_success a b
  · rw [compare_of_errors _ hours htheirs, compare_of_errors _ hours htheirs]
    cases check with
    | errorCorrelation => exact ⟨rfl, fun hne => absurd rfl hne⟩
    | _ => exact ⟨rfl, fun _ => rfl⟩
  · have hsame : (rule.reordered markers).compare a b = rule.compare a b :=
      compare_of_success hsuccess rfl rfl
    rw [hsame]
    exact ⟨rfl, fun _ => rfl⟩

theorem results_of_errors_iff {rule other : Comparison} (ha : a.errorMessage = some ours)
    (hb : b.errorMessage = some theirs) :
    (∀ check, ((other.compare a b).get? check).map CheckOutcome.isPass =
        ((rule.compare a b).get? check).map CheckOutcome.isPass) ↔
      other.correlated ours theirs = rule.correlated ours theirs := by
  rw [compare_of_errors _ ha hb, compare_of_errors _ ha hb]
  constructor
  · intro h
    have hpass := Option.some.inj (h .errorCorrelation)
    rwa [isPass_unlessEqual, isPass_unlessEqual] at hpass
  · intro h check
    cases check with
    | errorCorrelation =>
        refine congrArg some ?_
        rw [isPass_unlessEqual, isPass_unlessEqual, h]
    | _ => rfl

theorem results_reordered_iff (rule : Comparison) (a b : Outcome) :
    (∀ markers, markers.Perm rule.markers → ∀ check,
        (((rule.reordered markers).compare a b).get? check).map CheckOutcome.isPass =
          ((rule.compare a b).get? check).map CheckOutcome.isPass) ↔
      ∀ ours theirs, a.errorMessage = some ours → b.errorMessage = some theirs →
        ¬rule.Overlapping ours theirs := by
  obtain ⟨ours, theirs, hours, htheirs⟩ | hsuccess := errors_or_success a b
  · simp only [results_of_errors_iff hours htheirs, correlated_reordered_iff]
    constructor
    · intro h first second hfirst hsecond
      obtain rfl := Option.some.inj (hours.symm.trans hfirst)
      obtain rfl := Option.some.inj (htheirs.symm.trans hsecond)
      exact h
    · exact fun h => h ours theirs hours htheirs
  · refine iff_of_true (fun markers _ check => ?_) ?_
    · have hsame : (rule.reordered markers).compare a b = rule.compare a b :=
        compare_of_success hsuccess rfl rfl
      rw [hsame]
    · rintro ours theirs hours htheirs
      rw [hours, htheirs] at hsuccess
      rcases hsuccess with h | h <;> cases h

/-- **When the order of the markers matters.** Whatever the order, the same checks are made on two
outcomes, and only the one on errors looks at the markers. Each check comes out the same under every
order, except exactly where both outcomes are errors and their messages overlap. Two messages
correlate under every order if they contain the same markers, at least one, and under some order if
they have one in common. -/
theorem order_free_iff (rule : Comparison) (a b : Outcome) :
    (∀ markers, markers.Perm rule.markers → ∀ check,
      (((rule.reordered markers).compare a b).get? check).isSome =
          ((rule.compare a b).get? check).isSome ∧
        (check ≠ .errorCorrelation →
          ((rule.reordered markers).compare a b).get? check = (rule.compare a b).get? check)) ∧
    ((∀ markers, markers.Perm rule.markers → ∀ check,
        (((rule.reordered markers).compare a b).get? check).map CheckOutcome.isPass =
          ((rule.compare a b).get? check).map CheckOutcome.isPass) ↔
      ∀ ours theirs, a.errorMessage = some ours → b.errorMessage = some theirs →
        ¬rule.Overlapping ours theirs) ∧
    ∀ ours theirs,
      ((∀ markers, markers.Perm rule.markers →
          (rule.reordered markers).correlated ours theirs = true) ↔
        (rule.identicalErrors = true ∧ ours = theirs) ∨
          (∃ marker, marker ∈ rule.markersIn ours) ∧
            ∀ marker, marker ∈ rule.markersIn ours ↔ marker ∈ rule.markersIn theirs) ∧
      ((∃ markers, markers.Perm rule.markers ∧
          (rule.reordered markers).correlated ours theirs = true) ↔
        (rule.identicalErrors = true ∧ ours = theirs) ∨
          ∃ marker, marker ∈ rule.markersIn ours ∧ marker ∈ rule.markersIn theirs) :=
  ⟨fun markers _ => rule.checks_reordered a b markers, rule.results_reordered_iff a b,
    fun _ _ => ⟨forall_order_correlated_iff, exists_order_correlated_iff⟩⟩

/-- Two messages with the same two markers, each in its own order. -/
theorem order_free_of_same_markers :
    let rule : Comparison := { markers := ["revert", "assert"] }
    let a : Outcome := .runtimeError "revert in assert"
    let b : Outcome := .runtimeError "assert: Revert"
    ∀ markers, markers.Perm rule.markers →
      (((rule.reordered markers).compare a b).get? .errorCorrelation).map CheckOutcome.isPass =
        some true := by
  intro rule a b markers hperm
  have hours : rule.markersIn "revert in assert" = ["revert", "assert"] := by decide +kernel
  have htheirs : rule.markersIn "assert: Revert" = ["revert", "assert"] := by decide +kernel
  obtain ⟨-, hresults, -⟩ := rule.order_free_iff a b
  refine (hresults.2 ?_ markers hperm .errorCorrelation).trans (by decide +kernel)
  rintro _ _ ⟨⟩ ⟨⟩ ⟨-, marker, hdifferent⟩
  exact hdifferent (by rw [hours, htheirs])

/-- One message has both markers, the other one has the second. They correlate if that one comes
first. -/
theorem not_order_free_of_shared_marker :
    let rule : Comparison := { markers := ["revert", "assert"] }
    let a : Outcome := .runtimeError "revert in assert"
    let b : Outcome := .runtimeError "assert"
    ["assert", "revert"].Perm rule.markers ∧
      ((rule.compare a b).get? .errorCorrelation).map CheckOutcome.isPass = some false ∧
      (((rule.reordered ["assert", "revert"]).compare a b).get? .errorCorrelation).map
        CheckOutcome.isPass = some true := by
  refine ⟨by decide, ?_, ?_⟩ <;> decide +kernel

end Concord.Comparison
