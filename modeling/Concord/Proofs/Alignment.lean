import Mathlib
import Concord.Proofs.Comparison
import Concord.Proofs.Execution

/-!
# Runs of one candidate align

Comparing two runs collects their sites in order and looks at each site up to the longer side. As
runs of one candidate have the same shape, there is one verdict for each call, and no outcome is
missing on either side.
-/

namespace Concord

namespace Site

theorem before_iff {a b : Site} :
    a.before b = true ↔ a.constructorIndex < b.constructorIndex ∨
      a.constructorIndex = b.constructorIndex ∧ a.function < b.function := by
  simp [before]

theorem before_asymm {a b : Site} (h : a.before b = true) : b.before a = false := by
  rw [before_iff] at h
  rw [Bool.eq_false_iff, ne_eq, before_iff]
  rcases h with hlt | ⟨heq, hlt⟩
  · omega
  · rintro (hlt' | ⟨-, hlt'⟩)
    · omega
    · exact String.lt_asymm hlt hlt'

theorem ne_of_before {a b : Site} (h : a.before b = true) : a ≠ b := by
  rintro rfl
  rw [before_asymm h] at h
  cases h

def InOrder (sites : List Site) : Prop :=
  sites.Pairwise fun a b => a.before b = true

theorem InOrder.nodup {sites : List Site} (h : InOrder sites) : sites.Nodup :=
  h.imp ne_of_before

/-- A site behind all others is put at the end. -/
theorem insert_of_forall_before {site : Site} {sites : List Site}
    (h : ∀ other ∈ sites, other.before site = true) : site.insert sites = sites ++ [site] := by
  induction sites with
  | nil => rfl
  | cons head rest ih =>
      have hhead : head.before site = true := h head List.mem_cons_self
      rw [insert, if_neg (ne_of_before hhead).symm, if_neg (by simp [before_asymm hhead]),
        ih fun other hmem => h other (List.mem_cons_of_mem _ hmem)]
      rfl

/-- A site that is there is not put there again. -/
theorem insert_of_mem {site : Site} {sites : List Site} (horder : InOrder sites)
    (hmem : site ∈ sites) : site.insert sites = sites := by
  induction sites with
  | nil => cases hmem
  | cons head rest ih =>
      obtain ⟨hhead, hrest⟩ := List.pairwise_cons.1 horder
      rw [insert]
      rcases List.mem_cons.1 hmem with rfl | hmem
      · exact if_pos rfl
      · have hbefore : head.before site = true := hhead site hmem
        rw [if_neg (ne_of_before hbefore).symm, if_neg (by simp [before_asymm hbefore]),
          ih hrest hmem]

theorem foldl_insert_of_inOrder (sorted sites : List Site) (h : InOrder (sorted ++ sites)) :
    sites.foldl (fun sites site => site.insert sites) sorted = sorted ++ sites := by
  induction sites generalizing sorted with
  | nil => exact (List.append_nil sorted).symm
  | cons site sites ih =>
      have hbefore : ∀ other ∈ sorted, other.before site = true := fun other hmem =>
        (List.pairwise_append.1 h).2.2 other hmem site List.mem_cons_self
      rw [List.foldl_cons, insert_of_forall_before hbefore, ih _ (List.append_cons .. ▸ h),
        ← List.append_cons]

theorem foldl_insert_of_subset {sorted sites : List Site} (horder : InOrder sorted)
    (hsubset : sites ⊆ sorted) :
    sites.foldl (fun sites site => site.insert sites) sorted = sorted := by
  induction sites with
  | nil => rfl
  | cons site sites ih =>
      obtain ⟨hsite, hsites⟩ := List.cons_subset.1 hsubset
      rw [List.foldl_cons, insert_of_mem horder hsite, ih hsites]

end Site

/-! ### The sites of a candidate -/

theorem Generation.inOrder_shape (generation : Generation) (cap : Option Nat) :
    Site.InOrder ((generation.shape cap).map (·.1)) := by
  rw [shape, List.map_flatMap, Site.InOrder, List.pairwise_flatMap]
  constructor
  · intro constructorIndex _
    -- functions of one deployment are in the order of the table
    rw [deploymentShape, List.map_map, List.pairwise_map]
    refine List.Pairwise.imp ?_ generation.functionInputs.ascending
    exact fun hlt => Site.before_iff.2 (Or.inr ⟨rfl, hlt⟩)
  · refine List.pairwise_lt_range.imp ?_
    intro earlier later hlt a ha b hb
    have hindex : ∀ {constructorIndex : Nat} {site : Site},
        site ∈ (generation.deploymentShape cap constructorIndex).map (·.1) →
          site.constructorIndex = constructorIndex := by
      intro constructorIndex site hmem
      rw [deploymentShape, List.map_map, List.mem_map] at hmem
      obtain ⟨function, -, rfl⟩ := hmem
      rfl
    rw [Site.before_iff, hindex ha, hindex hb]
    exact Or.inl hlt

/-- No call of a candidate is listed twice. -/
theorem Generation.nodup_places (generation : Generation) (cap : Option Nat) :
    (generation.places cap).Nodup := by
  have hsites := List.pairwise_map.1 (generation.inOrder_shape cap).nodup
  rw [places, List.nodup_flatMap]
  constructor
  · intro entry _
    exact List.nodup_range.map (Prod.mk_right_injective entry.1)
  · refine hsites.imp ?_
    intro entry other hne place hplace hother
    obtain ⟨_, -, rfl⟩ := List.mem_map.1 hplace
    obtain ⟨_, -, heq⟩ := List.mem_map.1 hother
    exact hne (congrArg Prod.fst heq).symm

namespace RunResult

theorem map_site_calls (run : RunResult) :
    run.calls.map FunctionCalls.site = run.shape.map (·.1) := by
  rw [shape, List.map_map]
  rfl

/-- Where no site is repeated, the outcomes at a site are those of its calls. -/
theorem outcomesAt_of_mem {run : RunResult} (hnodup : (run.calls.map FunctionCalls.site).Nodup)
    {calls : FunctionCalls} (hmem : calls ∈ run.calls) :
    run.outcomesAt calls.site = calls.outcomes := by
  unfold outcomesAt
  cases h : run.calls.reverse.find? (·.site == calls.site) with
  | none =>
      have hnone := List.find?_eq_none.1 h calls (List.mem_reverse.2 hmem)
      exact absurd (beq_self_eq_true calls.site) hnone
  | some found =>
      have hfound : found ∈ run.calls := List.mem_reverse.1 (List.mem_of_find?_eq_some h)
      have hsite : found.site = calls.site := by simpa using List.find?_some h
      rw [List.inj_on_of_nodup_map hnodup hfound hmem hsite]

/-- A run has as many outcomes at a site as its shape tells. -/
theorem length_outcomesAt {run : RunResult} (horder : Site.InOrder (run.shape.map (·.1)))
    {entry : Site × Nat} (hmem : entry ∈ run.shape) :
    (run.outcomesAt entry.1).length = entry.2 := by
  obtain ⟨calls, hcalls, rfl⟩ := List.mem_map.1 hmem
  have hnodup := horder.nodup
  rw [← map_site_calls] at hnodup
  exact congrArg List.length (outcomesAt_of_mem hnodup hcalls)

end RunResult

/-! ### Verdicts -/

namespace Verdict

/-- The call that a verdict is about: its site, and the number of its input. -/
def place (verdict : Verdict) : Site × Nat :=
  (⟨verdict.constructorIndex, verdict.function⟩, verdict.inputIndex)

/-- A check tells that there is an outcome on one side only. -/
def MissesOutcome (verdict : Verdict) : Prop :=
  ∃ check found, verdict.checks.get? check = some (.discrepancy found) ∧
    found.detail = "outcome missing on one backend"

end Verdict

namespace Comparison

variable {rule : Comparison} {a b : RunResult} {shape : List (Site × Nat)}

theorem sites_of_shape (ha : a.shape = shape) (hb : b.shape = shape)
    (horder : Site.InOrder (shape.map (·.1))) : sites a b = shape.map (·.1) := by
  -- the sites of the first run are put in order, and those of the second are all there already
  have hfold : ∀ (calls : List FunctionCalls) (sites : List Site),
      calls.foldl (fun sites calls => calls.site.insert sites) sites =
        (calls.map FunctionCalls.site).foldl (fun sites site => site.insert sites) sites := by
    intro calls sites
    rw [List.foldl_map]
  rw [sites, hfold, List.map_append, List.foldl_append, a.map_site_calls, b.map_site_calls, ha, hb,
    Site.foldl_insert_of_inOrder [] _ horder, List.nil_append,
    Site.foldl_insert_of_subset horder (List.Subset.refl _)]

theorem detail_of_unlessEqual {equal : Bool} {detail : String} {x y : Json} {found : Discrepancy}
    (h : unlessEqual equal detail x y = .discrepancy found) : found.detail = detail := by
  unfold unlessEqual differ at h
  split at h
  · cases h
  · cases h
    rfl

/-- What a check on two outcomes may say about a difference. -/
def details (rule : Comparison) (a b : Outcome) : List String :=
  match a, b with
  | .success _, .success _ =>
      ["storage differs", "return values differ", "memory differs", "gas consumption differs"]
  | a, b =>
      match a.errorMessage, b.errorMessage with
      | some ours, some theirs => [rule.uncorrelated ours theirs]
      | _, _ => ["asymmetric failure: " ++ a.kind ++ " against " ++ b.kind]

theorem detail_mem_details {x y : Outcome} {check : Check} {found : Discrepancy}
    (h : (rule.compare x y).get? check = some (.discrepancy found)) :
    found.detail ∈ rule.details x y := by
  have herror : ∀ {outcome : CheckOutcome},
      ({ errorCorrelation := some outcome } : Checks).get? check = some (.discrepancy found) →
        outcome = .discrepancy found := by
    intro outcome hget
    cases check <;> cases hget
    rfl
  cases x <;> cases y
  case success.success a b =>
    cases check with
    | errorCorrelation => cases h
    | storage =>
        have hdetail := detail_of_unlessEqual (Option.some.inj h)
        simp [details, hdetail]
    | returnValue =>
        have hdetail := detail_of_unlessEqual (Option.some.inj h)
        simp [details, hdetail]
    | memory =>
        have hmemory := (Option.ite_none_right_eq_some.1 h).2
        simp [details, detail_of_unlessEqual (Option.some.inj hmemory)]
    | gas =>
        have hgas := (Option.ite_none_right_eq_some.1 h).2
        simp [details, detail_of_unlessEqual (Option.some.inj hgas)]
  all_goals
    have houtcome := herror h
  all_goals
    simp only [Outcome.errorMessage] at houtcome
  case success.deployError | success.runtimeError | deployError.success | runtimeError.success =>
    cases houtcome
    simp [details, Outcome.errorMessage]
  all_goals
    simp [details, Outcome.errorMessage, detail_of_unlessEqual houtcome]

theorem append_ne_of_head? {start rest text : String} {c : Char}
    (hstart : start.toList.head? = some c) (htext : text.toList.head? ≠ some c) :
    start ++ rest ≠ text := by
  rintro rfl
  apply htext
  rw [String.toList_append, List.head?_append, hstart]
  rfl

/-- Comparing two outcomes never tells that one of them is missing. -/
theorem missing_notMem_details (rule : Comparison) (x y : Outcome) :
    "outcome missing on one backend" ∉ rule.details x y := by
  -- the texts with a message in them differ in their first letter already
  have hasymmetric : ∀ ours sep theirs,
      "asymmetric failure: " ++ ours ++ sep ++ theirs ≠ "outcome missing on one backend" := by
    intro ours sep theirs
    rw [String.append_assoc, String.append_assoc]
    apply append_ne_of_head? (c := 'a') <;> decide
  have huncorrelated : ∀ ours sep theirs,
      "errors do not correlate: " ++ ours ++ sep ++ theirs ≠ "outcome missing on one backend" := by
    intro ours sep theirs
    rw [String.append_assoc, String.append_assoc]
    apply append_ne_of_head? (c := 'e') <;> decide
  have hchecks : "outcome missing on one backend" ∉ ["storage differs", "return values differ",
      "memory differs", "gas consumption differs"] := by
    decide
  intro hmem
  cases x <;> cases y
  case success.success => exact hchecks hmem
  case success.deployError | success.runtimeError | deployError.success | runtimeError.success =>
    exact hasymmetric _ _ _ (List.mem_singleton.1 hmem).symm
  all_goals exact huncorrelated _ _ _ (List.mem_singleton.1 hmem).symm

/-- The verdicts at a site are about its calls in order, and none of them misses an outcome. -/
theorem verdictsAt_of_length {site : Site} {count : Nat}
    (ha : (a.outcomesAt site).length = count) (hb : (b.outcomesAt site).length = count) :
    (rule.verdictsAt a b site).map Verdict.place = (List.range count).map (site, ·) ∧
      ∀ verdict ∈ rule.verdictsAt a b site, ¬verdict.MissesOutcome := by
  constructor
  · rw [verdictsAt]
    simp only [ha, hb, max_self, List.map_map]
    rfl
  · intro verdict hmem
    simp only [verdictsAt, ha, hb, max_self, List.mem_map, List.mem_range] at hmem
    obtain ⟨index, hindex, rfl⟩ := hmem
    rintro ⟨check, found, hget, hdetail⟩
    have hours : index < (a.outcomesAt site).length := ha ▸ hindex
    have htheirs : index < (b.outcomesAt site).length := hb ▸ hindex
    simp only [List.getElem?_eq_getElem hours, List.getElem?_eq_getElem htheirs] at hget
    exact missing_notMem_details rule _ _ (hdetail ▸ detail_mem_details hget)

/-- Runs of one shape are compared call by call. -/
theorem compareRuns_of_shape (rule : Comparison) (ha : a.shape = shape) (hb : b.shape = shape)
    (horder : Site.InOrder (shape.map (·.1))) :
    (rule.compareRuns a b).map Verdict.place =
        shape.flatMap (fun entry => (List.range entry.2).map (entry.1, ·)) ∧
      ∀ verdict ∈ rule.compareRuns a b, ¬verdict.MissesOutcome := by
  have hsite : ∀ entry ∈ shape,
      (rule.verdictsAt a b entry.1).map Verdict.place = (List.range entry.2).map (entry.1, ·) ∧
        ∀ verdict ∈ rule.verdictsAt a b entry.1, ¬verdict.MissesOutcome := by
    intro entry hmem
    apply verdictsAt_of_length
    · exact RunResult.length_outcomesAt (ha.symm ▸ horder) (ha.symm ▸ hmem)
    · exact RunResult.length_outcomesAt (hb.symm ▸ horder) (hb.symm ▸ hmem)
  rw [compareRuns, sites_of_shape ha hb horder]
  constructor
  · rw [List.flatMap_map, List.map_flatMap]
    exact List.flatMap_congr fun entry hmem => (hsite entry hmem).1
  · intro verdict hmem
    obtain ⟨site, hmem, hverdict⟩ := List.mem_flatMap.1 hmem
    obtain ⟨entry, hentry, rfl⟩ := List.mem_map.1 hmem
    exact (hsite entry hentry).2 verdict hverdict

variable {generation : Generation} {cap : Option Nat} {results : List RunResult}
  {backends : List String}

/-- A verification of runs of one candidate goes through its calls once for each backend but the
first. -/
theorem places_verification? {verification : Verification}
    (hshape : ∀ result ∈ results, result.generation = generation.id →
      result.shape = generation.shape cap)
    (h : rule.verification? generation.id results backends = some verification) :
    verification.verdicts.map Verdict.place =
        (List.replicate (backends.length - 1) (generation.places cap)).flatten ∧
      ∀ verdict ∈ verification.verdicts, ¬verdict.MissesOutcome := by
  unfold verification? at h
  obtain ⟨runs, hruns, heq⟩ := Option.bind_eq_some_iff.1 h
  cases heq
  rw [mapM_eq_some_iff] at hruns
  have hlength : backends.length = runs.length := hruns.length_eq
  have hruns : ∀ run ∈ runs, run.shape = generation.shape cap := by
    intro run hrun
    obtain ⟨index, hindex, hget⟩ := List.getElem_of_mem hrun
    have hfound : resultOf? generation.id results backends[index] = some run :=
      hget ▸ hruns.get (hlength ▸ hindex) hindex
    have hkey : run.generation = generation.id ∧ run.backend = backends[index] := by
      simpa using List.find?_some hfound
    exact hshape run (List.mem_reverse.1 (List.mem_of_find?_eq_some hfound)) hkey.1
  cases runs with
  | nil => simp [hlength]
  | cons reference candidates =>
      obtain ⟨hreference, hcandidates⟩ := List.forall_mem_cons.1 hruns
      have hcompare : ∀ candidate ∈ candidates,
          (rule.compareRuns reference candidate).map Verdict.place = generation.places cap ∧
            ∀ verdict ∈ rule.compareRuns reference candidate, ¬verdict.MissesOutcome :=
        fun candidate hmem => rule.compareRuns_of_shape hreference (hcandidates candidate hmem)
          (generation.inOrder_shape cap)
      rw [hlength, List.length_cons, Nat.add_sub_cancel]
      constructor
      · change (candidates.flatMap (rule.compareRuns reference)).map Verdict.place = _
        rw [List.map_flatMap, List.flatMap_congr fun candidate hmem => (hcompare candidate hmem).1]
        simp [List.flatMap_def]
      · intro verdict hmem
        obtain ⟨candidate, hcandidate, hverdict⟩ := List.mem_flatMap.1 hmem
        exact (hcompare candidate hcandidate).2 verdict hverdict

end Comparison

/-- Two runs of one candidate are all that a comparison of their backends waits for. -/
theorem Comparison.verification?_of_two (rule : Comparison) {ours theirs : RunResult}
    (h : theirs.generation = ours.generation) :
    ∃ verification, rule.verification? ours.generation [ours, theirs]
      [ours.backend, theirs.backend] = some verification := by
  have hresult : ∀ run ∈ [ours, theirs],
      ∃ found, resultOf? ours.generation [ours, theirs] run.backend = some found := by
    intro run hmem
    have hgeneration : run.generation = ours.generation := by
      rcases List.mem_pair.1 hmem with rfl | rfl
      · rfl
      · exact h
    rw [← Option.isSome_iff_exists, resultOf?, List.find?_isSome]
    exact ⟨run, List.mem_reverse.2 hmem, by simp [hgeneration]⟩
  obtain ⟨first, hfirst⟩ := hresult ours (by simp)
  obtain ⟨second, hsecond⟩ := hresult theirs (by simp)
  rw [verification?, List.mapM_cons, List.mapM_cons, hfirst, hsecond]
  exact ⟨_, rfl⟩

/-- **Runs of one candidate always align.** Whatever two executors answer, both runs list every
function of every deployment with one outcome for each input that is used, and comparing them gives
one verdict for each of these calls, in order, none of them because an outcome is missing. -/
theorem Generation.verdicts_of_execute {σ τ : Type} (generation : Generation) (rule : Comparison)
    (cap : Option Nat) (executor : Executor σ) (other : Executor τ) (ours theirs : RunConfig)
    (state : σ) (otherState : τ) :
    let reference :=
      (generation.execute executor { ours with inputsPerFunction := cap } state).1
    let candidate :=
      (generation.execute other { theirs with inputsPerFunction := cap } otherState).1
    reference.shape = generation.shape cap ∧ candidate.shape = generation.shape cap ∧
      ∃ verification, rule.verification? generation.id [reference, candidate]
          [ours.backend, theirs.backend] = some verification ∧
        verification.verdicts.map Verdict.place = generation.places cap ∧
        (generation.places cap).Nodup ∧
        ∀ verdict ∈ verification.verdicts, ¬verdict.MissesOutcome := by
  intro reference candidate
  have hreference : reference.shape = generation.shape cap := generation.shape_execute _ _ _
  have hcandidate : candidate.shape = generation.shape cap := generation.shape_execute _ _ _
  obtain ⟨verification, hverification⟩ :=
    rule.verification?_of_two (show candidate.generation = reference.generation from rfl)
  have hshape : ∀ result ∈ [reference, candidate], result.generation = generation.id →
      result.shape = generation.shape cap := by
    intro result hmem _
    rcases List.mem_pair.1 hmem with rfl | rfl
    · exact hreference
    · exact hcandidate
  obtain ⟨hplaces, hpresent⟩ := Comparison.places_verification? hshape hverification
  refine ⟨hreference, hcandidate, verification, hverification, ?_, generation.nodup_places cap,
    hpresent⟩
  rw [hplaces]
  exact List.append_nil _

end Concord
