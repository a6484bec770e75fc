import Mathlib
import Concord.Comparison
import Concord.Proofs.Json.Equality
import Concord.Proofs.Json.Records

/-!
# Comparing with the first backend

Only the first backend is compared with every other one. As agreement between two runs goes both
ways and is passed on, that finds every difference between any two of them.
-/

namespace Concord

/-! ### Checks that pass -/

theorem Checks.allPass_errorCorrelation (outcome : CheckOutcome) :
    ({ errorCorrelation := some outcome } : Checks).allPass = outcome.isPass :=
  Bool.and_true outcome.isPass

theorem Comparison.isPass_differ {detail : String} {a b : Json} :
    (differ detail a b).isPass = false :=
  rfl

theorem Comparison.isPass_unlessEqual {equal : Bool} {detail : String} {a b : Json} :
    (unlessEqual equal detail a b).isPass = equal := by
  cases equal <;> rfl

namespace Snapshot

theorem sameSlots_comm (as bs : List Slot) : sameSlots as bs = sameSlots bs as := by
  induction as generalizing bs with
  | nil => cases bs <;> rfl
  | cons a as ih =>
      cases bs with
      | nil => rfl
      | cons b bs =>
          rw [sameSlots, sameSlots, ih bs, Slot.same, Slot.same, Json.same_comm a.value,
            @Bool.beq_comm _ _ _ a.slot]

theorem sameSlots_trans {as bs cs : List Slot} (hab : sameSlots as bs) (hbc : sameSlots bs cs) :
    sameSlots as cs := by
  induction as generalizing bs cs with
  | nil =>
      cases bs with
      | nil => exact hbc
      | cons b bs => cases hab
  | cons a as ih =>
      match bs, cs with
      | b :: bs, c :: cs =>
          simp only [sameSlots, Slot.same, Bool.and_eq_true, beq_iff_eq] at hab hbc ⊢
          exact ⟨⟨hab.1.1.trans hbc.1.1, Json.same_trans hab.1.2 hbc.1.2⟩, ih hab.2 hbc.2⟩

end Snapshot

namespace Comparison

variable {rule : Comparison}

/-! ### Outcomes that agree -/

theorem correlated_symm {ours theirs : String} (h : rule.correlated ours theirs) :
    rule.correlated theirs ours := by
  simp only [correlated, Bool.or_eq_true, Bool.and_eq_true, beq_iff_eq] at h ⊢
  rcases h with ⟨hidentical, rfl⟩ | ⟨hsome, heq⟩
  · exact Or.inl ⟨hidentical, rfl⟩
  · exact Or.inr ⟨heq ▸ hsome, heq.symm⟩

theorem correlated_trans {first second third : String} (hfirst : rule.correlated first second)
    (hsecond : rule.correlated second third) : rule.correlated first third := by
  simp only [correlated, Bool.or_eq_true, Bool.and_eq_true, beq_iff_eq] at hfirst hsecond ⊢
  rcases hfirst with ⟨hidentical, rfl⟩ | ⟨hsome, heq⟩
  · exact hsecond
  · rcases hsecond with ⟨hidentical, rfl⟩ | ⟨-, heq'⟩
    · exact Or.inr ⟨hsome, heq⟩
    · exact Or.inr ⟨hsome, heq.trans heq'⟩

/-- No check on the two outcomes finds a difference. -/
def Agree (rule : Comparison) (reference candidate : Outcome) : Prop :=
  (rule.compare reference candidate).allPass = true

/-- What two observations have in common if they agree. -/
structure SameSuccess (rule : Comparison) (a b : Success) : Prop where
  state : a.state.same b.state
  returnValue : (returned a.returnValue).same (returned b.returnValue)
  memory : rule.memory = true → a.memory = b.memory
  gasUsed : rule.gas = true → a.gasUsed = b.gasUsed

theorem agree_success_iff {a b : Success} :
    rule.Agree (.success a) (.success b) ↔ rule.SameSuccess a b := by
  have hparts : rule.SameSuccess a b ↔ a.state.same b.state = true ∧
      (returned a.returnValue).same (returned b.returnValue) = true ∧
      (rule.memory = true → (a.memory == b.memory) = true) ∧
      (rule.gas = true → (a.gasUsed == b.gasUsed) = true) := by
    simp only [beq_iff_eq]
    exact ⟨fun h => ⟨h.1, h.2, h.3, h.4⟩, fun h => ⟨h.1, h.2.1, h.2.2.1, h.2.2.2⟩⟩
  rw [hparts, Agree, compare]
  cases hmemory : rule.memory <;> cases hgas : rule.gas <;>
    simp [successes, Checks.allPass, Checks.entries, Check.all, Checks.get?, hmemory, hgas, storage,
      returnValue, memoryImage, gasUsed, isPass_unlessEqual]

/-- Outcomes agree if they are both successes with the same effects, or failures that correlate. -/
theorem agree_iff {a b : Outcome} :
    rule.Agree a b ↔
      (∃ x y, a = .success x ∧ b = .success y ∧ rule.SameSuccess x y) ∨
        ∃ ours theirs, a.errorMessage = some ours ∧ b.errorMessage = some theirs ∧
          rule.correlated ours theirs = true := by
  cases a <;> cases b
  case success.success a b => simp [agree_success_iff, Outcome.errorMessage]
  all_goals
    refine Iff.trans (b := CheckOutcome.isPass _ = true)
      (iff_of_eq (congrArg (· = true) (Checks.allPass_errorCorrelation _))) ?_
    simp [Outcome.errorMessage, isPass_unlessEqual, isPass_differ]

theorem Agree.symm {a b : Outcome} (h : rule.Agree a b) : rule.Agree b a := by
  rw [agree_iff] at h ⊢
  rcases h with ⟨x, y, rfl, rfl, hsame⟩ | ⟨ours, theirs, ha, hb, hcorrelated⟩
  · refine Or.inl ⟨y, x, rfl, rfl, ?_⟩
    exact ⟨(Snapshot.sameSlots_comm _ _).trans hsame.state,
      (Json.same_comm _ _).trans hsame.returnValue,
      fun hmemory => (hsame.memory hmemory).symm, fun hgas => (hsame.gasUsed hgas).symm⟩
  · exact Or.inr ⟨theirs, ours, hb, ha, correlated_symm hcorrelated⟩

theorem Agree.trans {a b c : Outcome} (hab : rule.Agree a b) (hbc : rule.Agree b c) :
    rule.Agree a c := by
  rw [agree_iff] at hab hbc ⊢
  rcases hab with ⟨x, y, rfl, rfl, hxy⟩ | ⟨first, second, ha, hb, hfirst⟩
  · rcases hbc with ⟨y', z, hy, rfl, hyz⟩ | ⟨second, third, hb, -, -⟩
    · cases hy
      refine Or.inl ⟨x, z, rfl, rfl, ?_⟩
      exact ⟨Snapshot.sameSlots_trans hxy.state hyz.state,
        Json.same_trans hxy.returnValue hyz.returnValue,
        fun hmemory => (hxy.memory hmemory).trans (hyz.memory hmemory),
        fun hgas => (hxy.gasUsed hgas).trans (hyz.gasUsed hgas)⟩
    · cases hb
  · rcases hbc with ⟨y, z, rfl, -, -⟩ | ⟨second', third, hb', hc, hsecond⟩
    · cases hb
    · obtain rfl : second = second' := Option.some.inj (hb.symm.trans hb')
      exact Or.inr ⟨first, third, ha, hc, correlated_trans hfirst hsecond⟩

/-! ### Runs that agree -/

/-- The runs call the same functions equally often, and the outcomes agree one by one. -/
def RunsAgree (rule : Comparison) (a b : RunResult) : Prop :=
  ∀ site, List.Forall₂ rule.Agree (a.outcomesAt site) (b.outcomesAt site)

theorem RunsAgree.symm {a b : RunResult} (h : rule.RunsAgree a b) : rule.RunsAgree b a :=
  fun site => ((h site).imp fun _ _ => Agree.symm).flip

theorem forall₂_agree_trans {as bs cs : List Outcome} (hab : List.Forall₂ rule.Agree as bs)
    (hbc : List.Forall₂ rule.Agree bs cs) : List.Forall₂ rule.Agree as cs := by
  induction hab generalizing cs with
  | nil => exact hbc
  | cons hfirst _ ih =>
      cases hbc with
      | cons hsecond hrest => exact .cons (hfirst.trans hsecond) (ih hrest)

theorem RunsAgree.trans {a b c : RunResult} (hab : rule.RunsAgree a b) (hbc : rule.RunsAgree b c) :
    rule.RunsAgree a c :=
  fun site => forall₂_agree_trans (hab site) (hbc site)

theorem not_allPass_compareAt {a b : Option Outcome} (h : a = none ∨ b = none) :
    (rule.compareAt a b).allPass = false := by
  rcases h with rfl | rfl
  · rfl
  · cases a <;> rfl

/-- The checks on two lists of outcomes pass exactly if the outcomes agree one by one. -/
theorem forall_compareAt_iff {ours theirs : List Outcome} :
    (∀ index < max ours.length theirs.length,
        (rule.compareAt ours[index]? theirs[index]?).allPass = true) ↔
      List.Forall₂ rule.Agree ours theirs := by
  induction ours generalizing theirs with
  | nil =>
      cases theirs with
      | nil => simp
      | cons b bs =>
          refine iff_of_false (fun h => ?_) (by rintro ⟨⟩)
          exact absurd (h 0 (by simp)) (Bool.eq_false_iff.1 (not_allPass_compareAt (Or.inl rfl)))
  | cons a as ih =>
      cases theirs with
      | nil =>
          refine iff_of_false (fun h => ?_) (by rintro ⟨⟩)
          exact absurd (h 0 (by simp)) (Bool.eq_false_iff.1 (not_allPass_compareAt (Or.inr rfl)))
      | cons b bs =>
          rw [List.forall₂_cons, ← ih]
          -- place 0 holds the first outcomes, place `index + 1` is place `index` of the others
          constructor
          · intro h
            refine ⟨h 0 (by simp), fun index hindex => h (index + 1) ?_⟩
            simp only [List.length_cons]
            omega
          · rintro ⟨hfirst, hrest⟩ index hindex
            cases index with
            | zero => exact hfirst
            | succ index =>
                refine hrest index ?_
                simp only [List.length_cons] at hindex
                omega

theorem mem_insert_site {site other : Site} {sites : List Site} :
    site ∈ other.insert sites ↔ site = other ∨ site ∈ sites := by
  induction sites with
  | nil => simp [Site.insert]
  | cons head rest ih =>
      unfold Site.insert
      split
      · next heq => simp [heq]
      · split
        · simp
        · simp only [List.mem_cons, ih]
          tauto

theorem mem_foldl_insert_site {site : Site} {calls : List FunctionCalls} {sites : List Site} :
    site ∈ calls.foldl (fun sites calls => calls.site.insert sites) sites ↔
      site ∈ sites ∨ ∃ entry ∈ calls, entry.site = site := by
  induction calls generalizing sites with
  | nil => simp
  | cons entry calls ih =>
      rw [List.foldl_cons, ih, mem_insert_site]
      simp only [List.mem_cons, exists_eq_or_imp]
      tauto

theorem mem_sites_iff {a b : RunResult} {site : Site} :
    site ∈ sites a b ↔ ∃ calls ∈ a.calls ++ b.calls, calls.site = site := by
  rw [sites, mem_foldl_insert_site]
  simp

theorem outcomesAt_of_notMem {run : RunResult} {site : Site}
    (h : ¬∃ calls ∈ run.calls, calls.site = site) : run.outcomesAt site = [] := by
  have hnone : (run.calls.reverse.find? fun calls => calls.site == site) = none := by
    rw [List.find?_eq_none]
    intro calls hcalls heq
    exact h ⟨calls, List.mem_reverse.1 hcalls, eq_of_beq heq⟩
  rw [RunResult.outcomesAt, hnone]

/-- What is called at a site is compared call by call. -/
theorem forall_verdictsAt_iff {a b : RunResult} {site : Site} :
    (∀ verdict ∈ rule.verdictsAt a b site, verdict.hasDiscrepancy = false) ↔
      List.Forall₂ rule.Agree (a.outcomesAt site) (b.outcomesAt site) := by
  rw [← forall_compareAt_iff]
  simp only [verdictsAt, List.forall_mem_map, List.mem_range, Verdict.hasDiscrepancy,
    Bool.not_eq_false']

/-- **What comparing two runs finds.** It finds no discrepancy exactly if the runs agree. -/
theorem compareRuns_eq_iff {a b : RunResult} :
    (∀ verdict ∈ rule.compareRuns a b, verdict.hasDiscrepancy = false) ↔ rule.RunsAgree a b := by
  simp only [compareRuns, List.mem_flatMap, forall_exists_index, and_imp]
  constructor
  · intro h site
    by_cases hmem : site ∈ sites a b
    · apply forall_verdictsAt_iff.1
      intro verdict hverdict
      exact h verdict site hmem hverdict
    · -- neither run calls anything there
      rw [mem_sites_iff] at hmem
      simp only [List.mem_append, not_exists, not_and] at hmem
      rw [outcomesAt_of_notMem fun ⟨calls, hcalls, heq⟩ => hmem calls (Or.inl hcalls) heq,
        outcomesAt_of_notMem fun ⟨calls, hcalls, heq⟩ => hmem calls (Or.inr hcalls) heq]
      exact .nil
  · intro h verdict site _ hverdict
    exact forall_verdictsAt_iff.2 (h site) verdict hverdict

/-! ### One reference -/

/-- Whoever agrees with the reference agrees with all others that do. -/
theorem pairwise_runsAgree_iff {reference : RunResult} {candidates : List RunResult} :
    (reference :: candidates).Pairwise rule.RunsAgree ↔
      ∀ candidate ∈ candidates, rule.RunsAgree reference candidate := by
  rw [List.pairwise_cons]
  refine ⟨And.left, fun h => ⟨h, List.pairwise_of_forall_mem_list fun a ha b hb => ?_⟩⟩
  exact (h a ha).symm.trans (h b hb)

variable {generation : String} {results : List RunResult} {backends : List String}

/-- A verification finds no discrepancy exactly if all its runs agree with one another. -/
theorem exists_verification?_of_mapM (rule : Comparison) {runs : List RunResult}
    (h : backends.mapM (resultOf? generation results) = some runs) :
    ∃ verification, rule.verification? generation results backends = some verification ∧
      (verification.hasDiscrepancy = false ↔ runs.Pairwise rule.RunsAgree) := by
  unfold verification?
  rw [h]
  refine ⟨_, rfl, ?_⟩
  cases runs with
  | nil => exact iff_of_true rfl .nil
  | cons reference candidates =>
      rw [pairwise_runsAgree_iff, Verification.hasDiscrepancy, List.any_eq_false]
      simp only [List.mem_flatMap, forall_exists_index, and_imp, Bool.not_eq_true,
        ← compareRuns_eq_iff]
      exact ⟨fun h candidate hcandidate verdict hverdict => h verdict candidate hcandidate hverdict,
        fun h verdict candidate hcandidate hverdict => h candidate hcandidate verdict hverdict⟩

/-- The runs of backends that all have one. -/
theorem mapM_resultOf?_eq_some
    (h : ∀ backend ∈ backends, (resultOf? generation results backend).isSome) :
    backends.mapM (resultOf? generation results) =
      some (backends.filterMap (resultOf? generation results)) := by
  rw [mapM_eq_some_iff]
  induction backends with
  | nil => exact .nil
  | cons backend backends ih =>
      obtain ⟨hfirst, hrest⟩ := List.forall_mem_cons.1 h
      obtain ⟨run, hrun⟩ := Option.isSome_iff_exists.1 hfirst
      rw [List.filterMap_cons_some hrun]
      exact .cons hrun (ih hrest)

/-- Results can be compared exactly if every backend has one. -/
theorem isSome_verification?_iff (rule : Comparison) :
    (rule.verification? generation results backends).isSome ↔
      ∀ backend ∈ backends, (resultOf? generation results backend).isSome := by
  constructor
  · intro h backend hbackend
    obtain ⟨verification, hverification⟩ := Option.isSome_iff_exists.1 h
    obtain ⟨found, hfound, -⟩ := Option.bind_eq_some_iff.1 hverification
    rw [mapM_eq_some_iff] at hfound
    obtain ⟨index, hindex, rfl⟩ := List.getElem_of_mem hbackend
    exact Option.isSome_of_eq_some (hfound.get hindex (hfound.length_eq ▸ hindex))
  · intro h
    obtain ⟨verification, hverification, -⟩ :=
      exists_verification?_of_mapM rule (mapM_resultOf?_eq_some h)
    exact Option.isSome_of_eq_some hverification

/-- A relation holds between any two values exactly if it does between those of any two places. -/
theorem pairwise_iff_positions {α β : Type} {f : α → Option β} {related : β → β → Prop}
    (hsymm : ∀ {a b}, related a b → related b a) {items : List α} {found : List β}
    (h : List.Forall₂ (fun item value => f item = some value) items found) :
    found.Pairwise related ↔
      ∀ i j (hi : i < items.length) (hj : j < items.length), i ≠ j → ∀ a b,
        f items[i] = some a → f items[j] = some b → related a b := by
  have hlength := h.length_eq
  have hget : ∀ i (hi : i < items.length) (hfound : i < found.length),
      f items[i] = some found[i] := fun i hi hfound => h.get hi hfound
  rw [List.pairwise_iff_getElem]
  constructor
  · intro hpairs i j hi hj hne a b ha hb
    have hi' : i < found.length := hlength ▸ hi
    have hj' : j < found.length := hlength ▸ hj
    obtain rfl : found[i] = a := Option.some.inj ((hget i hi hi').symm.trans ha)
    obtain rfl : found[j] = b := Option.some.inj ((hget j hj hj').symm.trans hb)
    rcases Nat.lt_or_gt_of_ne hne with hlt | hgt
    · exact hpairs i j hi' hj' hlt
    · exact hsymm (hpairs j i hj' hi' hgt)
  · intro hplaces i j hi' hj' hlt
    have hi : i < items.length := hlength ▸ hi'
    have hj : j < items.length := hlength ▸ hj'
    exact hplaces i j hi hj (Nat.ne_of_lt hlt) _ _ (hget i hi hi') (hget j hj hj')

/-- **One reference is enough.** Where every backend has a result, a verification finds no
discrepancy exactly if comparing any two of the backends finds none; so it does not matter which
backend comes first. -/
theorem hasDiscrepancy_eq_false_iff (rule : Comparison)
    (h : ∀ backend ∈ backends, (resultOf? generation results backend).isSome) :
    ∃ verification, rule.verification? generation results backends = some verification ∧
      (verification.hasDiscrepancy = false ↔
        ∀ i j (hi : i < backends.length) (hj : j < backends.length), i ≠ j → ∀ a b,
          resultOf? generation results backends[i] = some a →
            resultOf? generation results backends[j] = some b →
              ∀ verdict ∈ rule.compareRuns a b, verdict.hasDiscrepancy = false) ∧
      ∀ reordered, reordered.Perm backends →
        ∃ other, rule.verification? generation results reordered = some other ∧
          other.hasDiscrepancy = verification.hasDiscrepancy := by
  have hruns := mapM_resultOf?_eq_some h
  obtain ⟨verification, hverification, hpairwise⟩ := exists_verification?_of_mapM rule hruns
  refine ⟨verification, hverification, ?_, ?_⟩
  · rw [hpairwise, pairwise_iff_positions RunsAgree.symm (mapM_eq_some_iff.1 hruns)]
    simp only [compareRuns_eq_iff]
  · intro reordered hperm
    have hreordered := mapM_resultOf?_eq_some fun backend hmem => h backend (hperm.subset hmem)
    obtain ⟨other, hother, hpairwise'⟩ := exists_verification?_of_mapM rule hreordered
    refine ⟨other, hother, ?_⟩
    have hiff := (hperm.filterMap (resultOf? generation results)).pairwise_iff
      (R := rule.RunsAgree) RunsAgree.symm
    rw [← hpairwise, ← hpairwise'] at hiff
    rw [← Bool.not_inj_iff, Bool.eq_iff_iff, Bool.not_eq_true', Bool.not_eq_true']
    exact hiff

/-- Of three backends one has called something the others have not, whichever comes first. -/
theorem hasDiscrepancy_of_three_backends :
    let results : List RunResult := [⟨"g", "ivy", [], false⟩, ⟨"g", "boa", [], false⟩,
      ⟨"g", "asp", [⟨0, "f", [.deployError ""]⟩], false⟩]
    (∀ backend ∈ ["ivy", "boa", "asp"], (resultOf? "g" results backend).isSome) ∧
      ∀ reordered, reordered.Perm ["ivy", "boa", "asp"] →
        ∃ other, verification? {} "g" results reordered = some other ∧
          other.hasDiscrepancy = true := by
  intro results
  have hall : ∀ backend ∈ ["ivy", "boa", "asp"], (resultOf? "g" results backend).isSome := by
    decide
  obtain ⟨verification, hverification, -, hreordered⟩ := hasDiscrepancy_eq_false_iff {} hall
  have hfound : (verification? {} "g" results ["ivy", "boa", "asp"]).map
      (·.hasDiscrepancy) = some true := rfl
  rw [hverification] at hfound
  have hdiscrepancy : verification.hasDiscrepancy = true := Option.some.inj hfound
  rw [hdiscrepancy] at hreordered
  exact ⟨hall, hreordered⟩

end Comparison

end Concord
