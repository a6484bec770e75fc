import Mathlib
import Concord.Proofs.Lowercase
import Concord.Proofs.Markers
import Concord.Proofs.Text

/-!
# Markers that stand in a message

A message that a marker stands in is recognised, if the marker is lower-cased there as on its own.
That is so wherever it stands, exactly if no capital sigma of the marker can come to stand at
another place of a word.
-/

namespace Concord.Comparison

variable {rule : Comparison} {message marker : String}

/-- The message contains the marker, ignoring case. -/
def Holds (message marker : String) : Prop :=
  Text.contains (Text.lowercase message) (Text.lowercase marker) = true

/-- The first of the markers that the message contains, ignoring case, is found, and it comes no
later than `marker`. -/
def Finds (rule : Comparison) (message marker : String) : Prop :=
  ∃ earlier found later, rule.markers = earlier ++ found :: later ∧ Holds message found ∧
    (∀ other ∈ earlier, ¬ Holds message other) ∧ marker ∉ earlier ∧
    rule.markerIn message = some found

theorem holds_iff :
    Holds message marker ↔
      Text.lowerFrom [] marker.toList <:+: Text.lowerFrom [] message.toList := by
  unfold Holds Text.contains Text.lowercase
  rw [String.toList_ofList, String.toList_ofList, Option.isSome_iff_ne_none, ne_eq,
    Text.after?_eq_none_iff, not_not]

theorem Holds.finds (h : Holds message marker) (hmem : marker ∈ rule.markers) :
    Finds rule message marker := by
  obtain ⟨found, hfound⟩ := Option.isSome_iff_exists.1
    (isSome_markerIn_of_mem (List.mem_filter.2 ⟨hmem, h⟩))
  obtain ⟨hholds, earlier, later, hmarkers, hearlier⟩ := List.find?_eq_some_iff_append.1 hfound
  have hnone : ∀ other ∈ earlier, ¬ Holds message other := by
    intro other hother hholds
    have hnot := hearlier other hother
    rw [show Text.contains (Text.lowercase message) (Text.lowercase other) = true from hholds]
      at hnot
    cases hnot
  exact ⟨earlier, found, later, hmarkers, hholds, hnone, fun hmem => hnone marker hmem h, hfound⟩

theorem Finds.holds (h : Finds rule message marker) (hmarkers : rule.markers = [marker]) :
    Holds message marker := by
  obtain ⟨earlier, found, later, hsplit, hfound, -⟩ := h
  have hmem : found ∈ rule.markers := by
    rw [hsplit]
    exact List.mem_append_right earlier List.mem_cons_self
  rw [hmarkers] at hmem
  exact List.mem_singleton.1 hmem ▸ hfound

theorem Holds.markerIn_eq (h : Holds message marker) (hmarkers : rule.markers = [marker]) :
    rule.markerIn message = some marker := by
  unfold markerIn
  rw [hmarkers]
  exact List.find?_cons_of_pos h

/-! ### A marker where it stands -/

theorem holds_of_not_turned {before after : String}
    (h : ¬ Text.Turned before.toList after.toList marker.toList) :
    Holds (before ++ marker ++ after) marker := by
  rw [holds_iff, String.toList_append, String.toList_append]
  exact Text.infix_lowerFrom h

theorem compare_of_holds {a b : Outcome} {ours theirs : String} (hmarkers : rule.markers = [marker])
    (ha : a.errorMessage = some ours) (hb : b.errorMessage = some theirs)
    (hours : Holds ours marker) (htheirs : Holds theirs marker) :
    rule.compare a b = { errorCorrelation := some .pass } := by
  have hcorrelated : rule.correlated ours theirs = true :=
    correlated_iff.2 (.inr ⟨marker, hours.markerIn_eq hmarkers, htheirs.markerIn_eq hmarkers⟩)
  rw [compare_of_errors rule ha hb, hcorrelated]
  rfl

/-- Between the texts that are allowed before and behind it, the marker is recognised, whatever the
others in the list are; and two errors with it correlate if it is the only one. -/
structure Recognised (allowed : String → String → Prop) (marker : String) : Prop where
  finds : ∀ (rule : Comparison) (before after : String), marker ∈ rule.markers →
    allowed before after → Finds rule (before ++ marker ++ after) marker
  correlates : ∀ (rule : Comparison) (a b : Outcome) (before after earlier later : String),
    rule.markers = [marker] → allowed before after → allowed earlier later →
    a.errorMessage = some (before ++ marker ++ after) →
    b.errorMessage = some (earlier ++ marker ++ later) →
    rule.compare a b = { errorCorrelation := some .pass }

theorem recognised_of_holds {allowed : String → String → Prop}
    (h : ∀ before after, allowed before after → Holds (before ++ marker ++ after) marker) :
    Recognised allowed marker where
  finds _ before after hmem hallowed := (h before after hallowed).finds hmem
  correlates _ _ _ before after earlier later hmarkers hours htheirs ha hb :=
    compare_of_holds hmarkers ha hb (h before after hours) (h earlier later htheirs)

def Anywhere (_ _ : String) : Prop :=
  True

/-- The marker is lower-cased between the texts as on its own. -/
def Spares (marker before after : String) : Prop :=
  ¬ Text.Turned before.toList after.toList marker.toList

theorem Recognised.holds (h : Recognised Anywhere marker) (before after : String) :
    Holds (before ++ marker ++ after) marker :=
  (h.finds { markers := [marker] } before after List.mem_cons_self trivial).holds rfl

theorem Recognised.settled (h : Recognised Anywhere marker) : Text.Settled marker.toList := by
  apply Text.settled_of_infix
  intro before after
  have hholds := holds_iff.1 (h.holds (String.ofList before) (String.ofList after))
  rwa [String.toList_append, String.toList_append, String.toList_ofList, String.toList_ofList]
    at hholds

theorem recognised_of_settled (h : Text.Settled marker.toList) : Recognised Anywhere marker :=
  recognised_of_holds fun before after _ =>
    holds_of_not_turned (h.not_turned before.toList after.toList)

theorem recognised_of_not_mem (h : 'Σ' ∉ marker.toList) : Recognised Anywhere marker := by
  apply recognised_of_settled
  intro front back hmarker
  refine absurd ?_ h
  rw [hmarker]
  exact List.mem_append_right front List.mem_cons_self

/-- **Where a marker is recognised.** A marker that stands in a message is recognised, by itself or
by one before it in the list, unless one of its capital sigmas takes another form there. It is
recognised wherever it stands exactly if no sigma at its edges can take another form. -/
theorem recognised_iff (marker : String) :
    Recognised (Spares marker) marker ∧
      (Recognised Anywhere marker ↔ Text.Settled marker.toList) :=
  ⟨recognised_of_holds fun _ _ => holds_of_not_turned, Recognised.settled, recognised_of_settled⟩

/-- Before a letter the last sigma of the marker is not final, as it is on its own. -/
theorem final_sigma_not_recognised : ¬ Recognised Anywhere "ΛΑΘΟΣ" := by
  intro h
  have hholds : Holds "ΛΑΘΟΣE7" "ΛΑΘΟΣ" := h.holds "" "E7"
  unfold Holds at hholds
  exact absurd hholds (by decide +kernel)

end Concord.Comparison
