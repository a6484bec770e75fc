import Mathlib
import Concord.Proofs.Store.Counts
import Concord.Proofs.Store.Exclusivity
import Concord.Proofs.Store.Findings

/-!
# Counters and the history

The counters of a store are counts of what happened to it: candidates that were taken, backends that
reported on candidates, verifications that closed a result. What is refused, repeated or only marked
is not counted.
-/

namespace Concord

/-! ### Entries of a table -/

namespace Table

variable {α : Type}

theorem lookup_of_mem {key : String} {value : α} {entries : List (String × α)}
    (hascending : Ascending entries) (h : (key, value) ∈ entries) :
    entries.lookup key = some value := by
  induction entries with
  | nil => cases h
  | cons entry rest ih =>
      obtain ⟨hhead, hrest⟩ := List.pairwise_cons.1 hascending
      rcases List.mem_cons.1 h with rfl | hmem
      · exact List.lookup_cons_self
      · have hne : key ≠ entry.1 := (String.ne_of_lt (hhead _ hmem)).symm
        rw [lookup_cons_of_ne hne]
        exact ih hrest hmem

theorem mem_entries_iff (table : Table α) (key : String) (value : α) :
    (key, value) ∈ table.entries ↔ table.get? key = some value :=
  ⟨lookup_of_mem table.ascending, mem_of_lookup⟩

/-- A table that was made from keys has one entry for each of them, however often it is listed. -/
theorem entries_ofList_map_perm (f : String → α) (keys : List String) :
    (ofList (keys.map fun key => (key, f key))).entries.Perm
      (keys.dedup.map fun key => (key, f key)) := by
  have hentries : (ofList (keys.map fun key => (key, f key))).entries.Nodup :=
    (ofList (keys.map fun key => (key, f key))).ascending.imp fun {a b} hlt heq =>
      String.ne_of_lt hlt (congrArg Prod.fst heq)
  have hkeys : (keys.dedup.map fun key => (key, f key)).Nodup :=
    (List.nodup_dedup keys).map fun _ _ heq => congrArg Prod.fst heq
  rw [List.perm_ext_iff_of_nodup hentries hkeys]
  rintro ⟨key, value⟩
  rw [mem_entries_iff, get?_ofList_map, Option.ite_none_right_eq_some, List.mem_map]
  simp only [List.mem_dedup, Prod.mk.injEq, Option.some.injEq]
  constructor
  · rintro ⟨hmem, rfl⟩
    exact ⟨key, hmem, rfl, rfl⟩
  · rintro ⟨_, hmem, rfl, rfl⟩
    exact ⟨hmem, rfl⟩

end Table

namespace Store

/-! ### What happened -/

namespace Operation

def inserted? : Operation → Option Generation
  | .insertGeneration generation => some generation
  | _ => none

/-- The candidate that the backend reports on. -/
def reported? (backend : String) : Operation → Option String
  | .upsertRun result => if result.backend = backend then some result.generation else none
  | _ => none

def verified? : Operation → Option String
  | .recordVerification verification => some verification.generation
  | _ => none

variable {operation : Operation} {generation backend : String}

theorem reported?_eq_some_iff :
    operation.reported? backend = some generation ↔
      ∃ result, operation = .upsertRun result ∧ result.generation = generation ∧
        result.backend = backend := by
  cases operation with
  | upsertRun result => simp [reported?, and_comm]
  | _ => simp [reported?]

theorem verified?_eq_some_iff :
    operation.verified? = some generation ↔
      ∃ verification, operation = .recordVerification verification ∧
        verification.generation = generation := by
  cases operation with
  | recordVerification verification => simp [verified?]
  | _ => simp [verified?]

end Operation

/-- The answer to a write: a candidate is taken or refused, a result is always taken, and the others
tell whether they set a flag. -/
def accepts (store : Store) : Operation → Bool
  | .insertGeneration generation => (store.insertGeneration generation).toBool
  | .markEnqueued id => (store.markEnqueued id).1
  | .markCrashLogged id => (store.markCrashLogged id).1
  | .upsertRun _ => true
  | .recordVerification verification => (store.recordVerification verification).1
  | .markDiscrepancyLogged generation => (store.markDiscrepancyLogged generation).1

/-- The writes that succeed, each at the store that the writes before it leave. -/
def accepted (store : Store) : List Operation → List Operation
  | [] => []
  | operation :: rest =>
      (if store.accepts operation then [operation] else []) ++
        (store.perform operation).accepted rest

section Histories

variable (operations : List Operation)

/-- The candidates that were taken. -/
def inserted : List Generation :=
  (accepted {} operations).filterMap Operation.inserted?

/-- The candidates that the backend has reported on. -/
def reported (backend : String) : Finset String :=
  (operations.filterMap (Operation.reported? backend)).toFinset

/-- The candidates of which a verification was recorded. -/
def verifiedIn : Finset String :=
  ((accepted {} operations).filterMap Operation.verified?).toFinset

end Histories

/-- The totals are those of the history: each backend of the list has one entry, however often it is
listed. -/
structure Census (operations : List Operation) (backends : List String) (totals : Totals) :
    Prop where
  generated : totals.generated = (inserted operations).length
  compilerErrors : totals.compilerErrors = (inserted operations).countP (·.compileError.isSome)
  runs : totals.runs.entries.Perm
    (backends.dedup.map fun backend => (backend, (reported operations backend).card))
  verified : totals.verified = (verifiedIn operations).card

/-- What is not counted: a candidate that is refused, a result whose backend has reported on the
candidate before, be it verified or not, a verification that is refused or not the first, and all
marks. -/
def Idle (operations : List Operation) : Operation → Prop
  | .insertGeneration generation =>
      (after operations).insertGeneration generation = .error (.duplicate generation.id)
  | .upsertRun result => result.generation ∈ reported operations result.backend
  | .recordVerification verification =>
      ((after operations).recordVerification verification).1 = false ∨
        verification.generation ∈ verifiedIn operations
  | .markEnqueued _ | .markCrashLogged _ | .markDiscrepancyLogged _ => True

variable {store : Store} {operations : List Operation} {operation : Operation}
  {generation backend : String}

/-! ### One more write -/

theorem accepted_append (store : Store) (before rest : List Operation) :
    store.accepted (before ++ rest) =
      store.accepted before ++ (store.performAll before).accepted rest := by
  induction before generalizing store with
  | nil => rfl
  | cons operation before ih =>
      rw [List.cons_append, accepted, accepted, ih, List.append_assoc]
      rfl

theorem accepted_concat (before : List Operation) (operation : Operation) :
    accepted {} (before ++ [operation]) =
      accepted {} before ++ if (after before).accepts operation then [operation] else [] := by
  rw [accepted_append, accepted, accepted, List.append_nil]
  rfl

theorem inserted_concat (before : List Operation) (operation : Operation) :
    inserted (before ++ [operation]) = inserted before ++
      (if (after before).accepts operation then [operation] else []).filterMap
        Operation.inserted? := by
  rw [inserted, accepted_concat, List.filterMap_append, ← inserted]

theorem mem_reported_iff : generation ∈ reported operations backend ↔
    ∃ result, .upsertRun result ∈ operations ∧ result.generation = generation ∧
      result.backend = backend := by
  rw [reported, List.mem_toFinset, List.mem_filterMap]
  simp only [Operation.reported?_eq_some_iff]
  constructor
  · rintro ⟨_, hmem, result, rfl, hkey⟩
    exact ⟨result, hmem, hkey⟩
  · rintro ⟨result, hmem, hkey⟩
    exact ⟨_, hmem, result, rfl, hkey⟩

theorem mem_reported_concat_iff :
    generation ∈ reported (operations ++ [operation]) backend ↔
      generation ∈ reported operations backend ∨ operation.reported? backend = some generation := by
  rw [reported, List.filterMap_append, List.toFinset_append, Finset.mem_union, ← reported,
    List.mem_toFinset, List.mem_filterMap]
  simp only [List.mem_singleton, exists_eq_left]

theorem mem_verifiedIn_concat_iff :
    generation ∈ verifiedIn (operations ++ [operation]) ↔
      generation ∈ verifiedIn operations ∨
        (after operations).accepts operation = true ∧ operation.verified? = some generation := by
  rw [verifiedIn, accepted_concat, List.filterMap_append, List.toFinset_append, Finset.mem_union,
    ← verifiedIn, List.mem_toFinset, List.mem_filterMap]
  simp only [List.mem_ite_nil_right, List.mem_singleton]
  refine or_congr_right ⟨?_, fun h => ⟨operation, ⟨h.1, rfl⟩, h.2⟩⟩
  rintro ⟨_, ⟨haccepts, rfl⟩, hverified⟩
  exact ⟨haccepts, hverified⟩

/-! ### Rows and what happened -/

theorem added_eq (store : Store) (operation : Operation) :
    store.added operation =
      ((if store.accepts operation then [operation] else []).filterMap Operation.inserted?).map
        .ofGeneration := by
  have hother : ∀ operation : Operation, operation.inserted? = none → ∀ taken : Bool,
      (if taken then [operation] else []).filterMap Operation.inserted? = [] := by
    rintro operation hnone (_ | _)
    · rfl
    · exact List.filterMap_cons_none hnone
  cases operation with
  | insertGeneration generation =>
      unfold added accepts insertGeneration
      by_cases hthere : (store.generation? generation.id).isSome
      · simp only [if_pos hthere]
        rfl
      · simp only [if_neg hthere]
        rfl
  | _ =>
      rw [hother _ rfl]
      rfl

theorem compileErrors_after (operations : List Operation) :
    (after operations).generations.map (·.compileError) =
      (inserted operations).map (·.compileError) := by
  induction operations using List.reverseRecOn with
  | nil => rfl
  | append_singleton before operation ih =>
      have hkept : (·.compileError) ∘ operation.flagged = (·.compileError) :=
        funext fun row => Operation.compileError_flagged row
      rw [after_concat, generations_perform, inserted_concat, List.map_append, List.map_append,
        List.map_map, hkept, ih, added_eq, List.map_map]
      rfl

/-- There is a row for a backend and a candidate exactly if the backend has reported on it. -/
theorem mem_reported_iff_row :
    generation ∈ reported operations backend ↔
      ∃ row ∈ (after operations).runs, row.generation = generation ∧ row.backend = backend := by
  rw [mem_reported_iff]
  constructor
  · rintro ⟨result, hmem, rfl, rfl⟩
    have hfound : ((after operations).run? result.generation result.backend).isSome :=
      run?_performAll_isSome_of_upsertRun hmem
    obtain ⟨row, hrow⟩ := Option.isSome_iff_exists.1 hfound
    exact ⟨row, List.mem_of_find?_eq_some hrow, run?_eq_some_key hrow⟩
  · rintro ⟨row, hrow, rfl, rfl⟩
    exact exists_upsertRun_of_run?
      (Option.isSome_of_eq_some ((sound_after operations).run?_of_mem hrow)) rfl

theorem countP_runs_after (operations : List Operation) (backend : String) :
    (after operations).runs.countP (·.backend == backend) = (reported operations backend).card := by
  -- the rows of one backend are told apart by their candidates
  set rows := (after operations).runs.filter (·.backend == backend) with hrows
  have hnodup : (rows.map (·.generation)).Nodup := by
    have hkeys : (rows.map StoredRun.key).Nodup :=
      (sound_after operations).runs_nodup.sublist (List.filter_sublist.map _)
    rw [List.Nodup, List.pairwise_map] at hkeys ⊢
    refine hkeys.imp_of_mem fun {a b} ha hb hkey hgeneration => hkey (Prod.ext hgeneration ?_)
    have hbackend : ∀ row ∈ rows, row.backend = backend := fun row hrow =>
      beq_iff_eq.1 (List.mem_filter.1 hrow).2
    exact (hbackend a ha).trans (hbackend b hb).symm
  have hset : (rows.map (·.generation)).toFinset = reported operations backend := by
    ext generation
    rw [List.mem_toFinset, List.mem_map, mem_reported_iff_row]
    simp only [hrows, List.mem_filter, beq_iff_eq]
    constructor
    · rintro ⟨row, ⟨hrow, hbackend⟩, hgeneration⟩
      exact ⟨row, hrow, hgeneration, hbackend⟩
    · rintro ⟨row, hrow, hgeneration, hbackend⟩
      exact ⟨row, ⟨hrow, hbackend⟩, hgeneration⟩
  rw [← hset, List.toFinset_card_of_nodup hnodup, List.length_map, List.countP_eq_length_filter]

theorem mem_recorded_iff {row : StoredVerification} :
    row ∈ store.recorded operation ↔
      ∃ verification, operation = .recordVerification verification ∧
        store.accepts operation = true ∧
        ¬(store.verification? verification.generation).isSome ∧
        row = .ofVerification verification := by
  cases operation with
  | recordVerification verification =>
      simp only [recorded, accepts, List.mem_ite_nil_right, List.mem_singleton, and_assoc,
        Operation.recordVerification.injEq, exists_eq_left']
  | _ => simp [recorded]

/-- A candidate is verified exactly if a recording of its verification was accepted. -/
theorem mem_verifiedIn_iff_row :
    generation ∈ verifiedIn operations ↔
      ∃ row ∈ (after operations).verifications, row.generation = generation := by
  induction operations using List.reverseRecOn with
  | nil => simp [verifiedIn, accepted, after, performAll]
  | append_singleton before operation ih =>
      rw [mem_verifiedIn_concat_iff, ih, after_concat, verifications_perform]
      have hkept : (∃ row ∈ (after before).verifications, row.generation = generation) →
          ∃ row ∈ (after before).verifications.map operation.ticked ++
            (after before).recorded operation, row.generation = generation :=
        exists_mem_map_append fun row hrow => (operation.generation_ticked row).trans hrow
      constructor
      · rintro (hrow | ⟨haccepts, hverified⟩)
        · exact hkept hrow
        · obtain ⟨verification, rfl, rfl⟩ := Operation.verified?_eq_some_iff.1 hverified
          -- only the first recording makes a row, but a later one may close open results
          by_cases hthere : ((after before).verification? verification.generation).isSome
          · obtain ⟨row, hrow, hgeneration⟩ := List.find?_isSome.1 hthere
            exact hkept ⟨row, hrow, beq_iff_eq.1 hgeneration⟩
          · exact ⟨_, List.mem_append_right _
              (mem_recorded_iff.2 ⟨verification, rfl, haccepts, hthere, rfl⟩), rfl⟩
      · rintro ⟨row, hrow, rfl⟩
        rcases List.mem_append.1 hrow with hrow | hrow
        · obtain ⟨old, hold, rfl⟩ := List.mem_map.1 hrow
          exact Or.inl ⟨old, hold, (operation.generation_ticked old).symm⟩
        · obtain ⟨verification, rfl, haccepts, -, rfl⟩ := mem_recorded_iff.1 hrow
          exact Or.inr ⟨haccepts, rfl⟩

theorem length_verifications_after (operations : List Operation) :
    (after operations).verifications.length = (verifiedIn operations).card := by
  have hset : ((after operations).verifications.map (·.generation)).toFinset =
      verifiedIn operations := by
    ext generation
    rw [List.mem_toFinset, List.mem_map, mem_verifiedIn_iff_row]
  rw [← hset, List.toFinset_card_of_nodup (nodup_verifications operations), List.length_map]

/-! ### Counters -/

/-- The counters, told from the history alone. -/
theorem counters_after (operations : List Operation) (backends : List String) :
    (after operations).counters backends =
      { generated := (inserted operations).length
        compilerErrors := (inserted operations).countP (·.compileError.isSome)
        runs := .ofList (backends.map fun backend =>
          (backend, (reported operations backend).card))
        verified := (verifiedIn operations).card } := by
  have hlength := congrArg List.length (compileErrors_after operations)
  have herrors := congrArg (List.countP Option.isSome) (compileErrors_after operations)
  rw [List.length_map, List.length_map] at hlength
  rw [List.countP_map, List.countP_map] at herrors
  unfold counters
  rw [hlength, ← List.countP_eq_length_filter, length_verifications_after]
  simp only [← List.countP_eq_length_filter, countP_runs_after]
  exact congrArg (fun errors => Totals.mk _ errors _ _) herrors

theorem census_counters (operations : List Operation) (backends : List String) :
    Census operations backends ((after operations).counters backends) := by
  rw [counters_after]
  exact ⟨rfl, rfl, Table.entries_ofList_map_perm _ backends, rfl⟩

theorem counters_eq_of_same {later : List Operation}
    (hinserted : inserted later = inserted operations)
    (hreported : ∀ backend, reported later backend = reported operations backend)
    (hverified : verifiedIn later = verifiedIn operations) (backends : List String) :
    (after later).counters backends = (after operations).counters backends := by
  rw [counters_after, counters_after, hinserted, hverified]
  simp only [hreported]

theorem inserted_concat_of_none (h : operation.inserted? = none) :
    inserted (operations ++ [operation]) = inserted operations := by
  rw [inserted_concat]
  split
  · rw [List.filterMap_cons_none h]
    exact List.append_nil _
  · exact List.append_nil _

theorem inserted_concat_of_idle (h : Idle operations operation) :
    inserted (operations ++ [operation]) = inserted operations := by
  cases operation with
  | insertGeneration generation =>
      have hrefused : (after operations).insertGeneration generation =
          .error (.duplicate generation.id) := h
      rw [inserted_concat, accepts, hrefused]
      exact List.append_nil _
  | _ => exact inserted_concat_of_none rfl

theorem reported_concat_of_idle (h : Idle operations operation) (backend : String) :
    reported (operations ++ [operation]) backend = reported operations backend := by
  ext generation
  rw [mem_reported_concat_iff, or_iff_left_iff_imp]
  intro hreported
  obtain ⟨result, rfl, rfl, rfl⟩ := Operation.reported?_eq_some_iff.1 hreported
  exact h

theorem verifiedIn_concat_of_idle (h : Idle operations operation) :
    verifiedIn (operations ++ [operation]) = verifiedIn operations := by
  ext generation
  rw [mem_verifiedIn_concat_iff, or_iff_left_iff_imp]
  rintro ⟨haccepts, hverified⟩
  obtain ⟨verification, rfl, rfl⟩ := Operation.verified?_eq_some_iff.1 hverified
  rcases h with hrefused | hmem
  · exact absurd haccepts (Bool.eq_false_iff.1 hrefused)
  · exact hmem

/-- A verification closes results of its candidate, and no count but that of the verifications knows
about it. -/
theorem count_recordVerification (operations : List Operation) (verification : Verification)
    (backends : List String) {measure : Measure} (h : measure ≠ .verified) :
    ((after (operations ++ [.recordVerification verification])).counters backends).count measure =
      ((after operations).counters backends).count measure := by
  have hreported : ∀ backend, reported (operations ++ [.recordVerification verification]) backend =
      reported operations backend := by
    intro backend
    ext generation
    rw [mem_reported_concat_iff]
    exact or_iff_left nofun
  rw [counters_after, counters_after, inserted_concat_of_none rfl]
  simp only [hreported]
  cases measure with
  | verified => exact absurd rfl h
  | _ => rfl

/-- **Counters count what happened.** After any writes the counters are those of the history. They
never go down, writes that are refused or repeat what was there leave them as they are, and so do
the flags that a verification sets. -/
theorem counters_count_history (operations : List Operation) (backends : List String) :
    Census operations backends ((after operations).counters backends) ∧
    (∀ rest measure, ((after operations).counters backends).count measure ≤
      ((after (operations ++ rest)).counters backends).count measure) ∧
    (∀ operation, Idle operations operation →
      (after (operations ++ [operation])).counters backends =
        (after operations).counters backends) ∧
    ∀ verification measure, measure ≠ .verified →
      ((after (operations ++ [.recordVerification verification])).counters backends).count measure =
        ((after operations).counters backends).count measure := by
  refine ⟨census_counters operations backends, fun rest measure => ?_, fun operation hidle => ?_,
    fun verification measure => count_recordVerification operations verification backends⟩
  · rw [after_append]
    exact (sound_after operations).count_performAll_le rest backends measure
  · exact counters_eq_of_same (inserted_concat_of_idle hidle) (reported_concat_of_idle hidle)
      (verifiedIn_concat_of_idle hidle) backends

/-- A candidate that is inserted twice and verified twice, with a result that comes twice, another
that comes late, and both again. -/
theorem counters_of_repeated_history :
    let generation : Generation := ⟨"g", "", .empty, .empty, [], some "error"⟩
    let history : List Operation := [.insertGeneration generation, .insertGeneration generation,
      .upsertRun ⟨"g", "ivy", [], false⟩, .upsertRun ⟨"g", "ivy", [], false⟩,
      .recordVerification ⟨"g", ["ivy"], [], false⟩, .recordVerification ⟨"g", ["ivy"], [], false⟩,
      .upsertRun ⟨"g", "boa", [], false⟩]
    let totals := (after history).counters ["ivy", "boa", "ivy"]
    Census history ["ivy", "boa", "ivy"] totals ∧
      totals.generated = 1 ∧ totals.compilerErrors = 1 ∧ totals.verified = 1 ∧
      (∀ backend ∈ ["ivy", "boa"], totals.runs.get? backend = some 1) ∧
      Idle history (.upsertRun ⟨"g", "ivy", [], true⟩) ∧
      (after (history ++ [.upsertRun ⟨"g", "ivy", [], true⟩])).counters ["ivy", "boa", "ivy"] =
        totals ∧
      ((after (history ++ [.recordVerification ⟨"g", ["boa"], [], false⟩])).counters
        ["ivy", "boa", "ivy"]).count (.runs "boa") = totals.count (.runs "boa") := by
  intro generation history totals
  obtain ⟨hcensus, -, hidle, hclosing⟩ := counters_count_history history ["ivy", "boa", "ivy"]
  have hrepeated : Idle history (.upsertRun ⟨"g", "ivy", [], true⟩) :=
    mem_reported_iff.2 ⟨⟨"g", "ivy", [], false⟩, by simp [history], rfl, rfl⟩
  have hcounts : ∀ backend ∈ ["ivy", "boa"],
      (after history).runs.countP (·.backend == backend) = 1 := by decide +kernel
  refine ⟨hcensus, by decide +kernel, by decide +kernel, by decide +kernel,
    fun backend hbackend => ?_, hrepeated, hidle _ hrepeated, hclosing _ _ nofun⟩
  rw [get?_runs_counters, hcounts backend hbackend]
  exact if_pos (List.mem_append_left ["ivy"] hbackend)

end Store

end Concord
