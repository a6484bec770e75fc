import Mathlib
import Concord.Comparison
import Concord.Proofs.Alignment

/-!
# What is compared, apart from the rule

Which outcomes meet in a verification depends on the runs and the list of backends. The rule only
judges the pairs, one at a time. So two verifications that differ in their rules, or in the outcomes
but not in where these stand, are related verdict by verdict.
-/

namespace Concord

/-- The two sides of one call. -/
structure Pairing where
  site : Site
  inputIndex : Nat
  reference : String
  candidate : String
  ours : Option Outcome
  theirs : Option Outcome

def Pairing.mapOutcomes (f : Outcome → Outcome) (pairing : Pairing) : Pairing :=
  { pairing with ours := pairing.ours.map f, theirs := pairing.theirs.map f }

def FunctionCalls.mapOutcomes (f : Outcome → Outcome) (calls : FunctionCalls) : FunctionCalls :=
  { calls with outcomes := calls.outcomes.map f }

def RunResult.mapOutcomes (f : Outcome → Outcome) (run : RunResult) : RunResult :=
  { run with calls := run.calls.map (FunctionCalls.mapOutcomes f) }

theorem Pairing.mapOutcomes_id : Pairing.mapOutcomes id = id := by
  funext pairing
  simp [mapOutcomes]

theorem FunctionCalls.mapOutcomes_id : FunctionCalls.mapOutcomes id = id := by
  funext calls
  simp [mapOutcomes]

theorem RunResult.mapOutcomes_id : RunResult.mapOutcomes id = id := by
  funext run
  simp [mapOutcomes, FunctionCalls.mapOutcomes_id]

theorem RunResult.outcomesAt_mapOutcomes (f : Outcome → Outcome) (run : RunResult) (site : Site) :
    (run.mapOutcomes f).outcomesAt site = (run.outcomesAt site).map f := by
  have hfind : (run.mapOutcomes f).calls.reverse.find? (·.site == site) =
      (run.calls.reverse.find? (·.site == site)).map (FunctionCalls.mapOutcomes f) := by
    rw [mapOutcomes, ← List.map_reverse, List.find?_map]
    rfl
  rw [outcomesAt, outcomesAt, hfind]
  cases run.calls.reverse.find? (·.site == site) <;> rfl

namespace Comparison

/-- What the rule makes of a pair. -/
def judge (rule : Comparison) (pairing : Pairing) : Verdict where
  constructorIndex := pairing.site.constructorIndex
  function := pairing.site.function
  inputIndex := pairing.inputIndex
  reference := pairing.reference
  candidate := pairing.candidate
  checks := rule.compareAt pairing.ours pairing.theirs

def pairingsAt (reference candidate : RunResult) (site : Site) : List Pairing :=
  let (ours, theirs) := (reference.outcomesAt site, candidate.outcomesAt site)
  (List.range (max ours.length theirs.length)).map fun index =>
    ⟨site, index, reference.backend, candidate.backend, ours[index]?, theirs[index]?⟩

def pairingsOf (reference candidate : RunResult) : List Pairing :=
  (sites reference candidate).flatMap (pairingsAt reference candidate)

/-- The pairs of a verification, once all backends have a result. -/
def pairings? (generation : String) (results : List RunResult) (backends : List String) :
    Option (List Pairing) := do
  match ← backends.mapM (resultOf? generation results) with
  | [] => some []
  | reference :: candidates => some (candidates.flatMap (pairingsOf reference))

variable {generation : String} {results : List RunResult} {backends : List String}

theorem compareRuns_eq_map (rule : Comparison) (reference candidate : RunResult) :
    rule.compareRuns reference candidate = (pairingsOf reference candidate).map rule.judge := by
  rw [compareRuns, pairingsOf, List.map_flatMap]
  apply List.flatMap_congr
  intro site _
  rw [verdictsAt, pairingsAt, List.map_map]
  rfl

/-- **The rule judges pairs that do not depend on it.** -/
theorem verification?_eq_map (rule : Comparison) (generation : String) (results : List RunResult)
    (backends : List String) :
    rule.verification? generation results backends =
      (pairings? generation results backends).map fun pairings =>
        ⟨generation, backends, pairings.map rule.judge, false⟩ := by
  unfold verification? pairings?
  cases backends.mapM (resultOf? generation results) with
  | none => rfl
  | some found =>
      cases found with
      | nil => rfl
      | cons reference candidates =>
          change some _ = some _
          simp only [List.map_flatMap, ← compareRuns_eq_map]

/-- Each pair holds what two of the results have at its place. -/
theorem outcomes_of_mem_pairings? {pairings : List Pairing}
    (h : pairings? generation results backends = some pairings) {pairing : Pairing}
    (hmem : pairing ∈ pairings) :
    ∃ reference candidate,
      resultOf? generation results pairing.reference = some reference ∧
      resultOf? generation results pairing.candidate = some candidate ∧
      pairing.ours = (reference.outcomesAt pairing.site)[pairing.inputIndex]? ∧
      pairing.theirs = (candidate.outcomesAt pairing.site)[pairing.inputIndex]? := by
  obtain ⟨found, hfound, heq⟩ := Option.bind_eq_some_iff.1 h
  rw [mapM_eq_some_iff] at hfound
  have hresult : ∀ run ∈ found, resultOf? generation results run.backend = some run := by
    intro run hrun
    obtain ⟨index, hindex, rfl⟩ := List.getElem_of_mem hrun
    have hget := hfound.get (hfound.length_eq ▸ hindex) hindex
    have hkey := List.find?_some hget
    rw [Bool.and_eq_true, beq_iff_eq, beq_iff_eq] at hkey
    exact (congrArg (resultOf? generation results) hkey.2).trans hget
  cases found with
  | nil =>
      cases heq
      cases hmem
  | cons reference candidates =>
      cases heq
      obtain ⟨hreference, hcandidates⟩ := List.forall_mem_cons.1 hresult
      obtain ⟨candidate, hcandidate, hmem⟩ := List.mem_flatMap.1 hmem
      obtain ⟨site, -, hmem⟩ := List.mem_flatMap.1 hmem
      obtain ⟨index, -, rfl⟩ := List.mem_map.1 hmem
      exact ⟨reference, candidate, hreference, hcandidates candidate hcandidate, rfl, rfl⟩

/-! ### The same places with other outcomes -/

section Outcomes

variable (f : Outcome → Outcome)

theorem sites_mapOutcomes (reference candidate : RunResult) :
    sites (reference.mapOutcomes f) (candidate.mapOutcomes f) = sites reference candidate := by
  unfold sites RunResult.mapOutcomes
  rw [← List.map_append, List.foldl_map]
  rfl

theorem pairingsOf_mapOutcomes (reference candidate : RunResult) :
    pairingsOf (reference.mapOutcomes f) (candidate.mapOutcomes f) =
      (pairingsOf reference candidate).map (Pairing.mapOutcomes f) := by
  unfold pairingsOf
  rw [sites_mapOutcomes, List.map_flatMap]
  apply List.flatMap_congr
  intro site _
  simp only [pairingsAt, RunResult.outcomesAt_mapOutcomes, List.length_map, List.map_map,
    List.getElem?_map]
  rfl

theorem resultOf?_mapOutcomes (backend : String) :
    resultOf? generation (results.map (RunResult.mapOutcomes f)) backend =
      (resultOf? generation results backend).map (RunResult.mapOutcomes f) := by
  unfold resultOf?
  rw [← List.map_reverse, List.find?_map]
  rfl

theorem pairings?_mapOutcomes :
    pairings? generation (results.map (RunResult.mapOutcomes f)) backends =
      (pairings? generation results backends).map (List.map (Pairing.mapOutcomes f)) := by
  have hfound : backends.mapM (resultOf? generation (results.map (RunResult.mapOutcomes f))) =
      (backends.mapM (resultOf? generation results)).map (List.map (RunResult.mapOutcomes f)) := by
    rw [funext (resultOf?_mapOutcomes f)]
    induction backends with
    | nil => rfl
    | cons backend backends ih =>
        rw [List.mapM_cons, List.mapM_cons, ih]
        cases resultOf? generation results backend with
        | none => rfl
        | some run => cases backends.mapM (resultOf? generation results) <;> rfl
  unfold pairings?
  rw [hfound]
  cases backends.mapM (resultOf? generation results) with
  | none => rfl
  | some found =>
      cases found with
      | nil => rfl
      | cons reference candidates =>
          change some _ = some _
          simp only [List.flatMap_map, List.map_flatMap, pairingsOf_mapOutcomes]

end Outcomes

end Comparison

/-! ### Verifications without new differences -/

/-- The same checks are made, and what passed before still passes. -/
structure Checks.Eased (before after : Checks) : Prop where
  made : ∀ check, (after.get? check).isSome = (before.get? check).isSome
  pass : ∀ check, before.get? check = some .pass → after.get? check = some .pass

theorem Checks.eased_errorCorrelation {before after : CheckOutcome}
    (h : before = .pass → after = .pass) :
    Checks.Eased { errorCorrelation := some before } { errorCorrelation := some after } := by
  refine ⟨fun check => by cases check <;> rfl, fun check hpass => ?_⟩
  cases check with
  | errorCorrelation => exact congrArg some (h (Option.some.inj hpass))
  | _ => cases hpass

theorem Comparison.unlessEqual_eq_pass_iff {equal : Bool} {detail : String} {a b : Json} :
    unlessEqual equal detail a b = .pass ↔ equal = true := by
  cases equal <;> simp [unlessEqual, differ]

/-- The verdicts are about the same call of the same backends. -/
structure Verdict.Alike (before after : Verdict) : Prop where
  place : after.place = before.place
  reference : after.reference = before.reference
  candidate : after.candidate = before.candidate

/-- Verdict by verdict the same calls are judged, and the two judgements are related. -/
structure Verification.Related (related : Verdict → Verdict → Prop) (before after : Verification) :
    Prop where
  generation : after.generation = before.generation
  backends : after.backends = before.backends
  loggedToFile : after.loggedToFile = before.loggedToFile
  verdicts : List.Forall₂ (fun first second => first.Alike second ∧ related first second)
    before.verdicts after.verdicts

/-- No check is left out, none is new, and none that passed finds a difference. -/
def Verification.Eased : Verification → Verification → Prop :=
  Related fun before after => before.checks.Eased after.checks

/-- Verifications are related where the judgements of each pair are. -/
theorem Comparison.related_verification? {rule other : Comparison} {f : Outcome → Outcome}
    {related : Verdict → Verdict → Prop} {generation : String} {results : List RunResult}
    {backends : List String}
    (h : ∀ pairings, pairings? generation results backends = some pairings →
      ∀ pairing ∈ pairings, related (rule.judge pairing) (other.judge (pairing.mapOutcomes f))) :
    Option.Rel (Verification.Related related) (rule.verification? generation results backends)
      (other.verification? generation (results.map (RunResult.mapOutcomes f)) backends) := by
  rw [verification?_eq_map, verification?_eq_map, pairings?_mapOutcomes]
  cases hpairings : pairings? generation results backends with
  | none => exact .none
  | some pairings =>
      refine .some ⟨rfl, rfl, rfl, ?_⟩
      dsimp only
      rw [List.map_map, List.forall₂_map_left_iff, List.forall₂_map_right_iff, List.forall₂_same]
      exact fun pairing hmem => ⟨⟨rfl, rfl, rfl⟩, h pairings hpairings pairing hmem⟩

theorem Comparison.related_verification?_of_rules {rule other : Comparison}
    {related : Verdict → Verdict → Prop} {generation : String} {results : List RunResult}
    {backends : List String}
    (h : ∀ pairings, pairings? generation results backends = some pairings →
      ∀ pairing ∈ pairings, related (rule.judge pairing) (other.judge pairing)) :
    Option.Rel (Verification.Related related) (rule.verification? generation results backends)
      (other.verification? generation results backends) := by
  have hrelated := related_verification? (f := id) (by rwa [Pairing.mapOutcomes_id])
  rwa [RunResult.mapOutcomes_id, List.map_id] at hrelated

end Concord
