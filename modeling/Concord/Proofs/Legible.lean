import Mathlib
import Concord.Comparison
import Concord.Proofs.Bridge
import Concord.Proofs.Outcome
import Concord.Proofs.Verdict

/-!
# Which results and verifications can be read back

A result that was run over the bridge and a verification that compares results that were read keep
regular values only. Of these, only a value that is too deep for its place in the document, or a
float that is read as another one, cannot be read back; and indices have to fit in 64 bits.
-/

namespace Concord

/-- The value is no deeper than its place allows, and its floats are read as they are written. -/
structure Json.Legible (allowance : Nat) (value : Json) : Prop where
  depth : value.depth ≤ allowance
  floats : ∀ number ∈ value.numbers, number.isFloat = true → number.Durable

instance (allowance : Nat) (value : Json) : Decidable (value.Legible allowance) :=
  decidable_of_iff (value.depth ≤ allowance ∧
      ∀ number ∈ value.numbers, number.isFloat = true → number.Durable)
    ⟨fun h => ⟨h.1, h.2⟩, fun h => ⟨h.depth, h.floats⟩⟩

theorem Json.Regular.legible_iff {value : Json} (h : value.Regular) {allowance : Nat} :
    value.Legible allowance ↔ value.depth ≤ allowance ∧ value.Durable := by
  rw [h.durable_iff]
  exact ⟨fun hlegible => ⟨hlegible.depth, hlegible.floats⟩, fun ⟨hdepth, hfloats⟩ =>
    ⟨hdepth, hfloats⟩⟩

/-! ### Results -/

theorem Outcome.Regular.durable_iff {outcome : Outcome} (h : outcome.Regular) :
    outcome.Durable ↔ ∀ slot ∈ outcome.slots, slot.value.Legible Slot.allowance := by
  have hslot : ∀ slot ∈ outcome.slots, slot.Durable ↔ slot.value.Legible Slot.allowance := by
    intro slot hslot
    rw [(h.slots slot hslot).legible_iff]
    exact ⟨fun hdurable => ⟨hdurable.depth, hdurable.value⟩, fun ⟨hdepth, hvalue⟩ =>
      ⟨hdepth, hvalue⟩⟩
  cases outcome with
  | success observed =>
      rw [durable_success_iff]
      constructor
      · exact fun hdurable slot hmem => (hslot slot hmem).1 (hdurable.state slot hmem)
      · intro hlegible
        exact ⟨fun slot hmem => (hslot slot hmem).2 (hlegible slot hmem), h.gasUsed⟩
  | deployError message => exact iff_of_true (by rintro observed ⟨⟩) (by rintro slot ⟨⟩)
  | runtimeError message => exact iff_of_true (by rintro observed ⟨⟩) (by rintro slot ⟨⟩)

namespace RunResult

structure Legible (result : RunResult) : Prop where
  places : ∀ calls ∈ result.calls, calls.constructorIndex < 2 ^ 64
  slots : ∀ calls ∈ result.calls, ∀ outcome ∈ calls.outcomes, ∀ slot ∈ outcome.slots,
    slot.value.Legible Slot.allowance

/-- A result that keeps regular values is durable if its slots can be read back. -/
theorem Regular.durable_iff {result : RunResult} (h : result.Regular) :
    result.Durable ↔ result.Legible := by
  constructor
  · intro hdurable
    refine ⟨fun calls hcalls => (hdurable calls hcalls).constructorIndex, ?_⟩
    intro calls hcalls outcome houtcome
    exact (h calls hcalls outcome houtcome).durable_iff.1
      ((hdurable calls hcalls).outcomes outcome houtcome)
  · intro hlegible calls hcalls
    refine ⟨hlegible.places calls hcalls, fun outcome houtcome => ?_⟩
    exact (h calls hcalls outcome houtcome).durable_iff.2
      (hlegible.slots calls hcalls outcome houtcome)

end RunResult

/-! ### Results that were read -/

theorem Snapshot.decoder_yields :
    Snapshot.decoder.Yields fun snapshot => ∀ slot ∈ snapshot.slots, slot.value.Regular :=
  Slot.decoder_yields.list.map fun _ hslots => hslots

theorem Success.decoder_yields :
    Success.decoder.Yields fun observed => (Outcome.success observed).Regular := by
  refine Decoder.yields_record fun opened hopened observed hread => ?_
  simp only [Reading.gives_seq, Reading.gives_map] at hread
  obtain ⟨_, returned, ⟨_, gas, ⟨_, memory, ⟨state, hstate, rfl⟩, -, rfl⟩, hgas, rfl⟩, -, rfl⟩ := hread
  refine ⟨Snapshot.decoder_yields.of_required hopened hstate, fun used hused => ?_⟩
  exact Decoder.word64_yields.of_optional hopened hgas hused

theorem Outcome.errorDecoder_yields {title : String} {make : String → Outcome}
    (h : ∀ message, (make message).Regular) : (errorDecoder title make).Yields Regular := by
  refine Decoder.yields_record fun opened _ outcome hread => ?_
  simp only [Reading.gives_map] at hread
  obtain ⟨message, -, rfl⟩ := hread
  exact h message

theorem Outcome.decoder_yields : Outcome.decoder.Yields Regular := by
  refine Decoder.yields_tagged fun name decode hvariant => ?_
  unfold variant at hvariant
  split at hvariant
  · cases hvariant
    exact Success.decoder_yields.map fun _ hobserved => hobserved
  · split at hvariant
    · cases hvariant
      exact errorDecoder_yields fun _ => regular_of_failed rfl rfl
    · split at hvariant
      · cases hvariant
        exact errorDecoder_yields fun _ => regular_of_failed rfl rfl
      · cases hvariant

theorem FunctionCalls.decoder_yields :
    FunctionCalls.decoder.Yields fun calls => ∀ outcome ∈ calls.outcomes, outcome.Regular := by
  refine Decoder.yields_record fun opened hopened calls hread => ?_
  simp only [Reading.gives_seq, Reading.gives_map] at hread
  obtain ⟨_, outcomes, ⟨_, function, ⟨index, -, rfl⟩, -, rfl⟩, houtcomes, rfl⟩ := hread
  exact Outcome.decoder_yields.list.of_required hopened houtcomes

theorem RunResult.decoder_yields : RunResult.decoder.Yields RunResult.Regular := by
  refine Decoder.yields_record fun opened hopened result hread => ?_
  simp only [Reading.gives_seq, Reading.gives_map] at hread
  obtain ⟨_, handled, ⟨_, calls, ⟨_, backend, ⟨id, -, rfl⟩, -, rfl⟩, hcalls, rfl⟩, -, rfl⟩ := hread
  exact FunctionCalls.decoder_yields.list.of_required hopened hcalls

/-! ### Sides of differences -/

/-- Both sides of a difference, if there is one. -/
def CheckOutcome.sides : CheckOutcome → List Json
  | pass => []
  | discrepancy found => [found.reference, found.candidate]

/-- Both sides of all differences that the checks found. -/
def Checks.sides (checks : Checks) : List Json :=
  checks.entries.flatMap fun entry => entry.2.sides

theorem Checks.forall_sides_iff {checks : Checks} {property : Json → Prop} :
    (∀ side ∈ checks.sides, property side) ↔
      ∀ check outcome, checks.get? check = some outcome → ∀ side ∈ outcome.sides,
        property side := by
  unfold sides
  simp only [List.mem_flatMap]
  constructor
  · intro h check outcome hget side hside
    exact h side ⟨(check, outcome), mem_entries.2 hget, hside⟩
  · rintro h side ⟨⟨check, outcome⟩, hentry, hside⟩
    exact h check outcome (mem_entries.1 hentry) side hside

namespace Verification

structure Legible (verification : Verification) : Prop where
  places : ∀ verdict ∈ verification.verdicts,
    verdict.constructorIndex < 2 ^ 64 ∧ verdict.inputIndex < 2 ^ 64
  sides : ∀ verdict ∈ verification.verdicts, ∀ side ∈ verdict.checks.sides,
    side.Legible Discrepancy.allowance

/-- What is kept of every difference is as if it had been read. -/
def Regular (verification : Verification) : Prop :=
  ∀ verdict ∈ verification.verdicts, ∀ side ∈ verdict.checks.sides, side.Regular

end Verification

theorem Checks.durable_iff_of_regular {checks : Checks}
    (h : ∀ side ∈ checks.sides, side.Regular) :
    (∀ check found, checks.get? check = some (.discrepancy found) → found.Durable) ↔
      ∀ side ∈ checks.sides, side.Legible Discrepancy.allowance := by
  have hside : (∀ side ∈ checks.sides, side.Legible Discrepancy.allowance) ↔
      ∀ side ∈ checks.sides, side.depth ≤ Discrepancy.allowance ∧ side.Durable :=
    forall₂_congr fun side hside => (h side hside).legible_iff
  rw [hside, forall_sides_iff]
  constructor
  · intro hdurable check outcome hget side hside
    cases outcome with
    | pass => cases hside
    | discrepancy found =>
        obtain ⟨hreferenceDepth, hreference, hcandidateDepth, hcandidate⟩ :=
          hdurable check found hget
        rcases List.mem_pair.1 hside with rfl | rfl
        · exact ⟨hreferenceDepth, hreference⟩
        · exact ⟨hcandidateDepth, hcandidate⟩
  · intro hsides check found hget
    have hreference := hsides check _ hget found.reference (List.mem_pair.2 (Or.inl rfl))
    have hcandidate := hsides check _ hget found.candidate (List.mem_pair.2 (Or.inr rfl))
    exact ⟨hreference.1, hreference.2, hcandidate.1, hcandidate.2⟩

/-- A verification that keeps regular values is durable if its differences can be read back. -/
theorem Verification.Regular.durable_iff {verification : Verification}
    (h : verification.Regular) : verification.Durable ↔ verification.Legible := by
  constructor
  · intro hdurable
    refine ⟨fun verdict hverdict => ?_, fun verdict hverdict => ?_⟩
    · exact ⟨(hdurable verdict hverdict).constructorIndex, (hdurable verdict hverdict).inputIndex⟩
    · exact (Checks.durable_iff_of_regular (h verdict hverdict)).1 (hdurable verdict hverdict).checks
  · intro hlegible verdict hverdict
    obtain ⟨hconstructor, hinput⟩ := hlegible.places verdict hverdict
    exact ⟨hconstructor, hinput, (Checks.durable_iff_of_regular (h verdict hverdict)).2
      (hlegible.sides verdict hverdict)⟩

/-! ### Comparisons of regular results -/

section InRange

theorem Json.inRange_option {α : Type} {encode : α → Json} {value : Option α}
    (h : ∀ a, value = some a → (encode a).InRange) : (Json.option encode value).InRange := by
  cases value with
  | none => exact inRange_null
  | some a => exact h a rfl

theorem Snapshot.inRange_encode {snapshot : Snapshot}
    (h : ∀ slot ∈ snapshot.slots, slot.value.Regular) : snapshot.encode.InRange := by
  unfold encode Json.list
  rw [Json.inRange_arr_iff, List.forall_mem_map]
  intro slot hslot
  rw [Slot.encode, Json.inRange_obj_iff]
  simp only [List.forall_mem_cons]
  exact ⟨Json.inRange_str _, (h slot hslot).inRange, by rintro field ⟨⟩⟩

theorem Outcome.Regular.inRange_encode {outcome : Outcome} (h : outcome.Regular) :
    outcome.encode.InRange := by
  cases outcome with
  | success observed =>
      rw [encode, Success.fields, Json.inRange_obj_iff]
      simp only [List.forall_mem_cons]
      refine ⟨Json.inRange_str _, Snapshot.inRange_encode h.slots, ?_, ?_, Json.inRange_str _,
        by rintro field ⟨⟩⟩
      · exact Json.inRange_option fun digits _ => Json.inRange_str digits
      · exact Json.inRange_option fun gas hgas => Json.inRange_nat (h.gasUsed gas hgas)
  | deployError message =>
      rw [encode, Json.inRange_obj_iff]
      simp only [List.forall_mem_cons]
      exact ⟨Json.inRange_str _, Json.inRange_str _, by rintro field ⟨⟩⟩
  | runtimeError message =>
      rw [encode, Json.inRange_obj_iff]
      simp only [List.forall_mem_cons]
      exact ⟨Json.inRange_str _, Json.inRange_str _, by rintro field ⟨⟩⟩

end InRange

namespace Comparison

variable {rule : Comparison}

theorem inRange_returned (text : String) : (returned text).InRange := by
  unfold returned
  cases h : Json.read text with
  | none => exact Json.inRange_str text
  | some value => exact (Json.regular_of_read h).inRange

theorem regular_differ {detail : String} {reference candidate : Json}
    (hreference : reference.InRange) (hcandidate : candidate.InRange) :
    ∀ side ∈ (differ detail reference candidate).sides, side.Regular := by
  intro side hside
  rcases List.mem_pair.1 hside with rfl | rfl
  · exact Json.regular_sorted reference hreference
  · exact Json.regular_sorted candidate hcandidate

theorem regular_unlessEqual {equal : Bool} {detail : String} {reference candidate : Json}
    (hreference : reference.InRange) (hcandidate : candidate.InRange) :
    ∀ side ∈ (unlessEqual equal detail reference candidate).sides, side.Regular := by
  cases equal with
  | true => rintro side ⟨⟩
  | false => exact regular_differ hreference hcandidate

/-- Of failed or missing outcomes there is one check. -/
theorem forall_sides_errorCorrelation {outcome : CheckOutcome} {property : Json → Prop}
    (h : ∀ side ∈ outcome.sides, property side) :
    ∀ side ∈ ({ errorCorrelation := some outcome } : Checks).sides, property side := by
  rw [Checks.forall_sides_iff]
  rintro check found hget
  cases check with
  | errorCorrelation =>
      cases hget
      exact h
  | _ => cases hget

theorem regular_successes {a b : Success} (ha : (Outcome.success a).Regular)
    (hb : (Outcome.success b).Regular) : ∀ side ∈ (rule.successes a b).sides, side.Regular := by
  rw [Checks.forall_sides_iff]
  rintro check outcome hget
  cases check with
  | errorCorrelation => cases hget
  | storage =>
      cases hget
      exact regular_unlessEqual (Snapshot.inRange_encode ha.slots)
        (Snapshot.inRange_encode hb.slots)
  | returnValue =>
      cases hget
      exact regular_unlessEqual (inRange_returned _) (inRange_returned _)
  | memory =>
      obtain ⟨-, hget⟩ := Option.ite_none_right_eq_some.1 hget
      cases hget
      exact regular_unlessEqual (Json.inRange_option fun digits _ => Json.inRange_str digits)
        (Json.inRange_option fun digits _ => Json.inRange_str digits)
  | gas =>
      obtain ⟨-, hget⟩ := Option.ite_none_right_eq_some.1 hget
      cases hget
      exact regular_unlessEqual
        (Json.inRange_option fun gas hgas => Json.inRange_nat (ha.gasUsed gas hgas))
        (Json.inRange_option fun gas hgas => Json.inRange_nat (hb.gasUsed gas hgas))

theorem regular_compare {a b : Outcome} (ha : a.Regular) (hb : b.Regular) :
    ∀ side ∈ (rule.compare a b).sides, side.Regular := by
  cases a <;> cases b
  case success.success a b => exact regular_successes ha hb
  case deployError.deployError | deployError.runtimeError | runtimeError.deployError |
      runtimeError.runtimeError =>
    exact forall_sides_errorCorrelation (regular_unlessEqual ha.inRange_encode hb.inRange_encode)
  all_goals
    exact forall_sides_errorCorrelation (regular_differ ha.inRange_encode hb.inRange_encode)

theorem regular_compareAt {a b : Option Outcome} (ha : ∀ outcome, a = some outcome → outcome.Regular)
    (hb : ∀ outcome, b = some outcome → outcome.Regular) :
    ∀ side ∈ (rule.compareAt a b).sides, side.Regular := by
  have ours := Json.inRange_option fun outcome heq => (ha outcome heq).inRange_encode
  have theirs := Json.inRange_option fun outcome heq => (hb outcome heq).inRange_encode
  have hmissing : ∀ detail, ∀ side ∈ ({ errorCorrelation := some (differ detail
      (.option Outcome.encode a) (.option Outcome.encode b)) } : Checks).sides, side.Regular :=
    fun detail => forall_sides_errorCorrelation (regular_differ ours theirs)
  cases a with
  | none => exact hmissing _
  | some a =>
      cases b with
      | none => exact hmissing _
      | some b => exact regular_compare (ha a rfl) (hb b rfl)

end Comparison

theorem RunResult.Regular.outcomesAt {run : RunResult} (h : run.Regular) (site : Site) :
    ∀ outcome ∈ run.outcomesAt site, outcome.Regular := by
  unfold RunResult.outcomesAt
  split
  · next calls hfound =>
      exact h calls (List.mem_reverse.1 (List.mem_of_find?_eq_some hfound))
  · rintro outcome ⟨⟩

namespace Comparison

variable {rule : Comparison}

theorem regular_compareRuns {reference candidate : RunResult} (hreference : reference.Regular)
    (hcandidate : candidate.Regular) :
    ∀ verdict ∈ rule.compareRuns reference candidate, ∀ side ∈ verdict.checks.sides,
      side.Regular := by
  intro verdict hverdict
  obtain ⟨site, -, hsite⟩ := List.mem_flatMap.1 hverdict
  obtain ⟨index, -, rfl⟩ := List.mem_map.1 hsite
  refine regular_compareAt (fun outcome heq => ?_) (fun outcome heq => ?_)
  · exact hreference.outcomesAt site outcome (List.mem_of_getElem? heq)
  · exact hcandidate.outcomesAt site outcome (List.mem_of_getElem? heq)

/-- **What compares regular results keeps regular values.** -/
theorem regular_verification? {generation : String} {results : List RunResult}
    {backends : List String} {verification : Verification}
    (hresults : ∀ result ∈ results, result.Regular)
    (h : rule.verification? generation results backends = some verification) :
    verification.Regular := by
  obtain ⟨found, hfound, heq⟩ := Option.bind_eq_some_iff.1 h
  have hregular : ∀ result ∈ found, result.Regular := by
    rw [mapM_eq_some_iff] at hfound
    clear h heq
    induction hfound with
    | nil => rintro result ⟨⟩
    | cons hfirst _ ih =>
        rw [List.forall_mem_cons]
        exact ⟨hresults _ (List.mem_reverse.1 (List.mem_of_find?_eq_some hfirst)), ih⟩
  cases heq
  cases found with
  | nil => rintro verdict ⟨⟩
  | cons reference candidates =>
      intro verdict hverdict
      obtain ⟨candidate, hcandidate, hmem⟩ := List.mem_flatMap.1 hverdict
      exact regular_compareRuns (hregular reference List.mem_cons_self)
        (hregular candidate (List.mem_cons_of_mem _ hcandidate)) verdict hmem

end Comparison

end Concord
