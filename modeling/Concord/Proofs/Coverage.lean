import Mathlib
import Concord.Proofs.Alignment
import Concord.Proofs.Recorded

/-!
# Which verdicts a verification holds

Any two runs are compared at every place where one of them has an outcome, and nowhere else. The
verdicts come in the order of their places, whatever calls the runs list and in whatever order, and
only the results of the backends that are compared matter.
-/

namespace Concord

/-! ### The order of sites -/

namespace Site

theorem before_trans {a b c : Site} (hab : a.before b = true) (hbc : b.before c = true) :
    a.before c = true := by
  rw [before_iff] at hab hbc ⊢
  rcases hab with hab | ⟨hab, hab'⟩ <;> rcases hbc with hbc | ⟨hbc, hbc'⟩
  · exact Or.inl (by omega)
  · exact Or.inl (by omega)
  · exact Or.inl (by omega)
  · exact Or.inr ⟨hab.trans hbc, String.lt_trans hab' hbc'⟩

theorem before_of_not_before {a b : Site} (hne : a ≠ b) (h : ¬a.before b = true) :
    b.before a = true := by
  obtain ⟨index, function⟩ := a
  obtain ⟨index', function'⟩ := b
  simp only [before_iff, not_or, not_and] at h ⊢
  by_cases hindex : index' < index
  · exact Or.inl hindex
  · have heq : index' = index := by omega
    refine Or.inr ⟨heq, ?_⟩
    rcases lt_trichotomy function function' with hlt | hfunction | hlt
    · exact absurd hlt (h.2 heq.symm)
    · exact absurd (by rw [heq, hfunction]) hne
    · exact hlt

theorem InOrder.insert {sites : List Site} (h : InOrder sites) (site : Site) :
    InOrder (site.insert sites) := by
  induction sites with
  | nil => exact List.pairwise_singleton _ site
  | cons head rest ih =>
      obtain ⟨hhead, hrest⟩ := List.pairwise_cons.1 h
      unfold Site.insert
      by_cases heq : site = head
      · rw [if_pos heq]
        exact h
      rw [if_neg heq]
      by_cases hbefore : site.before head = true
      · rw [if_pos hbefore]
        refine List.pairwise_cons.2 ⟨?_, h⟩
        rintro other (_ | ⟨_, hother⟩)
        · exact hbefore
        · exact before_trans hbefore (hhead other hother)
      · rw [if_neg hbefore]
        refine List.pairwise_cons.2 ⟨?_, ih hrest⟩
        intro other hother
        rcases Comparison.mem_insert_site.1 hother with rfl | hother
        · exact before_of_not_before heq hbefore
        · exact hhead other hother

end Site

theorem Comparison.inOrder_sites (a b : RunResult) : Site.InOrder (sites a b) := by
  have hfold : ∀ (calls : List FunctionCalls) (sorted : List Site), Site.InOrder sorted →
      Site.InOrder (calls.foldl (fun sites calls => calls.site.insert sites) sorted) := by
    intro calls
    induction calls with
    | nil => exact fun _ h => h
    | cons entry calls ih => exact fun sorted h => ih _ (h.insert entry.site)
  exact hfold _ [] .nil

/-! ### Outcomes at places -/

namespace RunResult

/-- The run has this outcome at the place. -/
def Has (run : RunResult) (place : Site × Nat) (outcome : Outcome) : Prop :=
  ∃ calls ∈ run.calls, calls.site = place.1 ∧ calls.outcomes[place.2]? = some outcome

/-- Where no function of a deployment is listed twice, there is one list of outcomes to look at. -/
theorem has_iff {run : RunResult} (hnodup : (run.calls.map FunctionCalls.site).Nodup)
    {place : Site × Nat} {outcome : Outcome} :
    run.Has place outcome ↔ (run.outcomesAt place.1)[place.2]? = some outcome := by
  obtain ⟨site, index⟩ := place
  by_cases hlisted : ∃ calls ∈ run.calls, calls.site = site
  · obtain ⟨calls, hcalls, rfl⟩ := hlisted
    rw [outcomesAt_of_mem hnodup hcalls]
    constructor
    · rintro ⟨others, hothers, hsite, houtcome⟩
      rwa [← List.inj_on_of_nodup_map hnodup hothers hcalls hsite]
    · exact fun houtcome => ⟨calls, hcalls, rfl, houtcome⟩
  · rw [Comparison.outcomesAt_of_notMem hlisted]
    refine iff_of_false ?_ (by simp)
    rintro ⟨calls, hcalls, hsite, -⟩
    exact hlisted ⟨calls, hcalls, hsite⟩

end RunResult

namespace Verdict

def Earlier (first second : Verdict) : Prop :=
  first.constructorIndex < second.constructorIndex ∨
    first.constructorIndex = second.constructorIndex ∧
      (first.function < second.function ∨
        first.function = second.function ∧ first.inputIndex < second.inputIndex)

theorem earlier_of_before {first second : Verdict}
    (h : first.place.1.before second.place.1 = true) : first.Earlier second := by
  rcases Site.before_iff.1 h with hlt | ⟨heq, hlt⟩
  · exact Or.inl hlt
  · exact Or.inr ⟨heq, Or.inl hlt⟩

theorem place_ne_of_earlier {first second : Verdict} (h : first.Earlier second) :
    first.place ≠ second.place := by
  intro heq
  have hsite : first.place.1 = second.place.1 := congrArg Prod.fst heq
  have hindex : first.inputIndex = second.inputIndex := congrArg Prod.snd heq
  have hconstructor : first.constructorIndex = second.constructorIndex :=
    congrArg Site.constructorIndex hsite
  have hfunction : first.function = second.function := congrArg Site.function hsite
  rcases h with hlt | ⟨-, hlt | ⟨-, hlt⟩⟩
  · omega
  · exact String.lt_irrefl _ (hfunction ▸ hlt)
  · omega

/-- In ascending order no place comes twice. -/
theorem eq_of_place {verdicts : List Verdict} (h : verdicts.Pairwise Earlier)
    {first second : Verdict} (hfirst : first ∈ verdicts) (hsecond : second ∈ verdicts)
    (hplace : first.place = second.place) : first = second := by
  have hnodup : (verdicts.map place).Nodup :=
    List.pairwise_map.2 (h.imp place_ne_of_earlier)
  exact List.inj_on_of_nodup_map hnodup hfirst hsecond hplace

end Verdict

namespace Comparison

variable {rule : Comparison} {a b reference candidate : RunResult}

/-! ### Two runs -/

/-- The only check where one side has no outcome. -/
def missing (reference candidate : Json) : Checks where
  errorCorrelation := some (.discrepancy ⟨"outcome missing on one backend", reference, candidate⟩)

/-- What is checked at a place where one of the runs has an outcome. -/
inductive Checked (rule : Comparison) (reference candidate : RunResult) (place : Site × Nat) :
    Checks → Prop
  | both {ours theirs : Outcome} (hours : reference.Has place ours)
      (htheirs : candidate.Has place theirs) :
      Checked rule reference candidate place (rule.compare ours theirs)
  | ours {ours : Outcome} (hours : reference.Has place ours)
      (hnone : ∀ theirs, ¬candidate.Has place theirs) :
      Checked rule reference candidate place (missing ours.encode.sorted .null)
  | theirs {theirs : Outcome} (hnone : ∀ ours, ¬reference.Has place ours)
      (htheirs : candidate.Has place theirs) :
      Checked rule reference candidate place (missing .null theirs.encode.sorted)

/-- The verdicts go once through the places where one of the runs has an outcome, in order. -/
structure Covers (rule : Comparison) (reference candidate : RunResult) (verdicts : List Verdict) :
    Prop where
  ascending : verdicts.Pairwise Verdict.Earlier
  unique_iff : ∀ place, (∃! verdict, verdict ∈ verdicts ∧ verdict.place = place) ↔
    ∃ outcome, reference.Has place outcome ∨ candidate.Has place outcome
  mem_iff : ∀ verdict, verdict ∈ verdicts ↔
    verdict.reference = reference.backend ∧ verdict.candidate = candidate.backend ∧
      Checked rule reference candidate verdict.place verdict.checks

theorem exists_checked_iff (rule : Comparison) {place : Site × Nat} :
    (∃ checks, Checked rule reference candidate place checks) ↔
      ∃ outcome, reference.Has place outcome ∨ candidate.Has place outcome := by
  constructor
  · rintro ⟨checks, hchecked⟩
    cases hchecked with
    | both hours _ => exact ⟨_, Or.inl hours⟩
    | ours hours _ => exact ⟨_, Or.inl hours⟩
    | theirs _ htheirs => exact ⟨_, Or.inr htheirs⟩
  · intro hhas
    by_cases hours : ∃ ours, reference.Has place ours
    · obtain ⟨ours, hours⟩ := hours
      by_cases htheirs : ∃ theirs, candidate.Has place theirs
      · obtain ⟨theirs, htheirs⟩ := htheirs
        exact ⟨_, .both hours htheirs⟩
      · exact ⟨_, .ours hours (not_exists.1 htheirs)⟩
    · obtain ⟨outcome, hreference | hcandidate⟩ := hhas
      · exact absurd ⟨outcome, hreference⟩ hours
      · exact ⟨_, .theirs (not_exists.1 hours) hcandidate⟩

section Runs

variable (hreference : (reference.calls.map FunctionCalls.site).Nodup)
  (hcandidate : (candidate.calls.map FunctionCalls.site).Nodup)

include hreference hcandidate

/-- Looking at both sides of a place gives the checks on it. -/
theorem checked_iff {place : Site × Nat} {checks : Checks} :
    Checked rule reference candidate place checks ↔
      place.2 < max (reference.outcomesAt place.1).length (candidate.outcomesAt place.1).length ∧
        checks = rule.compareAt (reference.outcomesAt place.1)[place.2]?
          (candidate.outcomesAt place.1)[place.2]? := by
  constructor
  · intro hchecked
    cases hchecked with
    | both hours htheirs =>
        rw [RunResult.has_iff hreference] at hours
        rw [RunResult.has_iff hcandidate] at htheirs
        have hlt := (List.getElem?_eq_some_iff.1 hours).1
        rw [hours, htheirs]
        exact ⟨lt_max_of_lt_left hlt, rfl⟩
    | ours hours hnone =>
        simp only [RunResult.has_iff hcandidate] at hnone
        rw [RunResult.has_iff hreference] at hours
        have hlt := (List.getElem?_eq_some_iff.1 hours).1
        rw [hours, Option.eq_none_iff_forall_ne_some.2 hnone]
        exact ⟨lt_max_of_lt_left hlt, rfl⟩
    | theirs hnone htheirs =>
        simp only [RunResult.has_iff hreference] at hnone
        rw [RunResult.has_iff hcandidate] at htheirs
        have hlt := (List.getElem?_eq_some_iff.1 htheirs).1
        rw [htheirs, Option.eq_none_iff_forall_ne_some.2 hnone]
        exact ⟨lt_max_of_lt_right hlt, rfl⟩
  · rintro ⟨hlt, rfl⟩
    cases hours : (reference.outcomesAt place.1)[place.2]? with
    | some ours =>
        have hhas := (RunResult.has_iff hreference).2 hours
        cases htheirs : (candidate.outcomesAt place.1)[place.2]? with
        | some theirs => exact .both hhas ((RunResult.has_iff hcandidate).2 htheirs)
        | none =>
            refine .ours hhas fun theirs hhas => ?_
            rw [RunResult.has_iff hcandidate, htheirs] at hhas
            cases hhas
    | none =>
        have hnone : ∀ ours, ¬reference.Has place ours := by
          intro ours hhas
          rw [RunResult.has_iff hreference, hours] at hhas
          cases hhas
        cases htheirs : (candidate.outcomesAt place.1)[place.2]? with
        | some theirs => exact .theirs hnone ((RunResult.has_iff hcandidate).2 htheirs)
        | none =>
            rw [List.getElem?_eq_none_iff] at hours htheirs
            omega

theorem mem_compareRuns_iff {verdict : Verdict} :
    verdict ∈ rule.compareRuns reference candidate ↔
      verdict.reference = reference.backend ∧ verdict.candidate = candidate.backend ∧
        Checked rule reference candidate verdict.place verdict.checks := by
  obtain ⟨constructorIndex, function, inputIndex, first, second, checks⟩ := verdict
  simp only [compareRuns, verdictsAt, List.mem_flatMap, List.mem_map, List.mem_range]
  constructor
  · rintro ⟨site, -, index, hindex, heq⟩
    cases heq
    exact ⟨rfl, rfl, (checked_iff hreference hcandidate).2 ⟨hindex, rfl⟩⟩
  · rintro ⟨rfl, rfl, hchecked⟩
    have hsite : ⟨constructorIndex, function⟩ ∈ sites reference candidate := by
      obtain ⟨outcome, ⟨calls, hcalls, hsite, -⟩ | ⟨calls, hcalls, hsite, -⟩⟩ :=
        (exists_checked_iff rule).1 ⟨checks, hchecked⟩
      · exact mem_sites_iff.2 ⟨calls, List.mem_append_left _ hcalls, hsite⟩
      · exact mem_sites_iff.2 ⟨calls, List.mem_append_right _ hcalls, hsite⟩
    obtain ⟨hindex, hchecks⟩ := (checked_iff hreference hcandidate).1 hchecked
    refine ⟨_, hsite, inputIndex, hindex, ?_⟩
    exact congrArg (Verdict.mk _ _ _ _ _) hchecks.symm

end Runs

theorem pairwise_compareRuns (rule : Comparison) (reference candidate : RunResult) :
    (rule.compareRuns reference candidate).Pairwise Verdict.Earlier := by
  have hsite : ∀ {site : Site} {verdict : Verdict},
      verdict ∈ rule.verdictsAt reference candidate site → verdict.place.1 = site := by
    intro site verdict hmem
    obtain ⟨index, -, rfl⟩ := List.mem_map.1 hmem
    rfl
  rw [compareRuns, List.pairwise_flatMap]
  constructor
  · intro site _
    -- at one site the verdicts are numbered
    refine List.pairwise_map.2 (List.pairwise_lt_range.imp ?_)
    exact fun hlt => Or.inr ⟨rfl, Or.inr ⟨rfl, hlt⟩⟩
  · refine (inOrder_sites reference candidate).imp ?_
    intro site other hbefore first hfirst second hsecond
    apply Verdict.earlier_of_before
    rwa [hsite hfirst, hsite hsecond]

/-- Comparing two runs looks exactly at the places where one of them has an outcome. -/
theorem covers_compareRuns (rule : Comparison)
    (hreference : (reference.calls.map FunctionCalls.site).Nodup)
    (hcandidate : (candidate.calls.map FunctionCalls.site).Nodup) :
    rule.Covers reference candidate (rule.compareRuns reference candidate) := by
  have hascending := rule.pairwise_compareRuns reference candidate
  refine ⟨hascending, ?_, fun verdict => mem_compareRuns_iff hreference hcandidate⟩
  intro place
  rw [← exists_checked_iff rule]
  constructor
  · rintro ⟨verdict, ⟨hmem, rfl⟩, -⟩
    exact ⟨_, ((mem_compareRuns_iff hreference hcandidate).1 hmem).2.2⟩
  · rintro ⟨checks, hchecked⟩
    let verdict : Verdict := ⟨place.1.constructorIndex, place.1.function, place.2,
      reference.backend, candidate.backend, checks⟩
    have hmem : verdict ∈ rule.compareRuns reference candidate :=
      (mem_compareRuns_iff hreference hcandidate).2 ⟨rfl, rfl, hchecked⟩
    refine ⟨verdict, ⟨hmem, rfl⟩, ?_⟩
    rintro other ⟨hother, hplace⟩
    exact Verdict.eq_of_place hascending hother hmem hplace

/-! ### The results that matter -/

variable {generation backend : String} {results others : List RunResult} {backends : List String}

theorem resultOf?_eq_none_iff :
    resultOf? generation results backend = none ↔
      ∀ result ∈ results, result.generation = generation → result.backend ≠ backend := by
  unfold resultOf?
  rw [List.find?_eq_none]
  simp

theorem verification?_eq_none_iff (rule : Comparison) :
    rule.verification? generation results backends = none ↔
      ∃ backend ∈ backends, ∀ result ∈ results,
        result.generation = generation → result.backend ≠ backend := by
  rw [← Option.not_isSome_iff_eq_none, isSome_verification?_iff]
  simp only [not_forall, exists_prop, Option.not_isSome_iff_eq_none, resultOf?_eq_none_iff]

/-- The results of the backends that are compared. -/
def relevant (generation : String) (backends : List String) (results : List RunResult) :
    List RunResult :=
  results.filter fun result => result.generation == generation && backends.contains result.backend

/-- No backend has two results for a generation, and no run lists a function of a deployment
twice. -/
structure Distinct (results : List RunResult) : Prop where
  keys : (results.map fun result => (result.generation, result.backend)).Nodup
  sites : ∀ result ∈ results, (result.calls.map FunctionCalls.site).Nodup

theorem resultOf?_relevant (hbackend : backend ∈ backends) (results : List RunResult) :
    resultOf? generation (relevant generation backends results) backend =
      resultOf? generation results backend := by
  unfold resultOf? relevant
  rw [← List.filter_reverse, List.find?_filter]
  congr 1
  funext result
  rw [Bool.eq_iff_iff]
  simp only [Bool.and_eq_true, beq_iff_eq, List.contains_iff_mem, decide_eq_true_eq]
  exact ⟨And.right, fun hkey => ⟨⟨hkey.1, hkey.2 ▸ hbackend⟩, hkey⟩⟩

section Keys

variable (hkeys : (results.map fun result => (result.generation, result.backend)).Nodup)

include hkeys

theorem eq_of_keys :
    ∀ a ∈ results, ∀ b ∈ results, a.generation = b.generation → a.backend = b.backend → a = b :=
  fun _ ha _ hb hgeneration hbackend =>
    List.inj_on_of_nodup_map hkeys ha hb (Prod.ext hgeneration hbackend)

theorem resultOf?_of_perm (hperm : others.Perm results) :
    resultOf? generation others backend = resultOf? generation results backend := by
  have hothers := (hperm.map _).nodup_iff.2 hkeys
  apply Option.ext
  intro result
  rw [resultOf?_eq_some_iff (eq_of_keys hothers), resultOf?_eq_some_iff (eq_of_keys hkeys),
    hperm.mem_iff]

end Keys

/-- Neither the order of the results matters, nor what else is among them. -/
theorem verification?_of_relevant (rule : Comparison)
    (hkeys : (results.map fun result => (result.generation, result.backend)).Nodup)
    (hperm : (relevant generation backends others).Perm (relevant generation backends results)) :
    rule.verification? generation others backends =
      rule.verification? generation results backends := by
  have hrelevant : ((relevant generation backends results).map
      fun result => (result.generation, result.backend)).Nodup :=
    hkeys.sublist (List.filter_sublist.map _)
  have hresult : ∀ backend ∈ backends,
      resultOf? generation others backend = resultOf? generation results backend := by
    intro backend hbackend
    calc resultOf? generation others backend
        = resultOf? generation (relevant generation backends others) backend :=
          (resultOf?_relevant hbackend others).symm
      _ = resultOf? generation (relevant generation backends results) backend :=
          resultOf?_of_perm hrelevant hperm
      _ = resultOf? generation results backend := resultOf?_relevant hbackend results
  unfold verification?
  rw [mapM_congr hresult]

/-! ### All backends -/

/-- For each backend but the first, the verification holds what its run shows against the first. -/
structure Exact (rule : Comparison) (generation : String) (results : List RunResult)
    (backends : List String) (verification : Verification) : Prop where
  generation_eq : verification.generation = generation
  backends_eq : verification.backends = backends
  unlogged : verification.loggedToFile = false
  verdicts : ∃ runs segments,
    List.Forall₂ (fun backend run =>
      run ∈ results ∧ run.generation = generation ∧ run.backend = backend) backends runs ∧
    List.Forall₂ (fun candidate segment =>
      ∀ reference ∈ runs.head?, rule.Covers reference candidate segment) runs.tail segments ∧
    verification.verdicts = segments.flatten

theorem exact_of_distinct (hdistinct : Distinct results) {verification : Verification}
    (h : rule.verification? generation results backends = some verification) :
    rule.Exact generation results backends verification := by
  obtain ⟨runs, hruns, heq⟩ := Option.bind_eq_some_iff.1 h
  cases heq
  have hfound := (mapM_eq_some_iff.1 hruns).imp fun _ _ =>
    (resultOf?_eq_some_iff (eq_of_keys hdistinct.keys)).1
  have hmem : ∀ run ∈ runs, run ∈ results := by
    intro run hrun
    obtain ⟨index, hindex, rfl⟩ := List.getElem_of_mem hrun
    exact (hfound.get (hfound.length_eq.symm ▸ hindex) hindex).1
  refine ⟨rfl, rfl, rfl, runs, ?_⟩
  cases runs with
  | nil => exact ⟨[], hfound, .nil, rfl⟩
  | cons reference candidates =>
      obtain ⟨hreference, hcandidates⟩ := List.forall_mem_cons.1 hmem
      refine ⟨candidates.map (rule.compareRuns reference), hfound, ?_, rfl⟩
      rw [List.tail_cons, List.forall₂_map_right_iff, List.forall₂_same]
      rintro candidate hcandidate _ ⟨⟩
      exact rule.covers_compareRuns (hdistinct.sites reference hreference)
        (hdistinct.sites candidate (hcandidates candidate hcandidate))

/-- **Every place is compared once, and nothing else.** There is no verification as long as a
backend has no result. Otherwise, whatever the order of the results and whatever else is among them,
each backend but the first is compared with the first one at exactly the places where one of the two
has an outcome. -/
theorem exact_verification? (rule : Comparison) (generation : String) (results : List RunResult)
    (backends : List String) :
    (rule.verification? generation results backends = none ↔
      ∃ backend ∈ backends, ∀ result ∈ results,
        result.generation = generation → result.backend ≠ backend) ∧
    (Distinct results →
      (∀ others, (relevant generation backends others).Perm
          (relevant generation backends results) →
        rule.verification? generation others backends =
          rule.verification? generation results backends) ∧
      ∀ verification, rule.verification? generation results backends = some verification →
        rule.Exact generation results backends verification) := by
  refine ⟨rule.verification?_eq_none_iff, fun hdistinct => ⟨?_, ?_⟩⟩
  · exact fun others hperm => rule.verification?_of_relevant hdistinct.keys hperm
  · exact fun verification h => exact_of_distinct hdistinct h

/-- Two runs that share a single call, in the other order and among results of other candidates. -/
theorem exact_of_single_shared_call :
    let results : List RunResult :=
      [⟨"g", "ivy", [⟨1, "f", [.deployError ""]⟩, ⟨0, "f", [.runtimeError "", .runtimeError ""]⟩],
          false⟩,
        ⟨"g", "boa", [⟨0, "f", [.runtimeError ""]⟩, ⟨0, "e", [.runtimeError ""]⟩], false⟩]
    let others := ⟨"h", "boa", [], false⟩ :: results.reverse
    Distinct results ∧
      ∃ verification, verification? {} "g" others ["ivy", "boa"] = some verification ∧
        Exact {} "g" results ["ivy", "boa"] verification ∧
        verification.verdicts.map Verdict.place =
          [(⟨0, "e"⟩, 0), (⟨0, "f"⟩, 0), (⟨0, "f"⟩, 1), (⟨1, "f"⟩, 0)] := by
  intro results others
  have hdistinct : Distinct results := ⟨by decide, by simp [results, FunctionCalls.site]⟩
  obtain ⟨-, hexact⟩ := exact_verification? {} "g" results ["ivy", "boa"]
  obtain ⟨hothers, hverification⟩ := hexact hdistinct
  refine ⟨hdistinct, _, ?_, hverification _ rfl, ?_⟩
  · exact (hothers others (List.reverse_perm results)).trans rfl
  · decide +kernel

end Comparison

end Concord
