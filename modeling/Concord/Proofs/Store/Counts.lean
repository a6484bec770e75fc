import Mathlib
import Concord.Proofs.Store.Candidates
import Concord.Proofs.Store.Waiting

/-!
# Counters never go down

No write takes a candidate, a verification or a result of a backend away, so what a store counts only
grows. Marks are not counted at all.
-/

namespace Concord

/-- One of the counts in the totals of a pipeline. -/
inductive Measure where
  | generated
  | compilerErrors
  | runs (backend : String)
  | verified

def Totals.count (totals : Totals) : Measure → Nat
  | .generated => totals.generated
  | .compilerErrors => totals.compilerErrors
  | .runs backend => (totals.runs.get? backend).getD 0
  | .verified => totals.verified

def Movement.count (movement : Movement) : Measure → Int
  | .generated => movement.generated
  | .compilerErrors => movement.compilerErrors
  | .runs backend => movement.runsFor backend
  | .verified => movement.verified

/-! ### Tables -/

namespace Table

variable {α β : Type}

theorem mem_of_lookup {key : String} {value : α} {entries : List (String × α)}
    (h : entries.lookup key = some value) : (key, value) ∈ entries := by
  induction entries with
  | nil => cases h
  | cons entry rest ih =>
      obtain ⟨k, v⟩ := entry
      by_cases heq : key = k
      · rw [heq, List.lookup_cons_self] at h
        rw [heq, Option.some.inj h]
        exact List.mem_cons_self
      · rw [lookup_cons_of_ne heq] at h
        exact List.mem_cons_of_mem _ (ih h)

theorem lookup_insertEntry (key : String) (value : α) (entries : List (String × α))
    (other : String) :
    (insertEntry key value entries).lookup other =
      if other = key then some value else entries.lookup other := by
  induction entries with
  | nil =>
      by_cases heq : other = key
      · rw [if_pos heq, insertEntry, heq, List.lookup_cons_self]
      · rw [if_neg heq, insertEntry, lookup_cons_of_ne heq]
  | cons entry rest ih =>
      obtain ⟨k, v⟩ := entry
      unfold insertEntry
      by_cases heq : other = key
      · subst heq
        rw [if_pos rfl] at ih ⊢
        split
        · exact List.lookup_cons_self
        · next hne =>
            split
            · exact List.lookup_cons_self
            · rw [lookup_cons_of_ne hne, ih]
      · rw [if_neg heq] at ih ⊢
        split
        · next hkey => rw [lookup_cons_of_ne heq, lookup_cons_of_ne (hkey ▸ heq)]
        · split
          · rw [lookup_cons_of_ne heq]
          · rw [List.lookup_cons, List.lookup_cons, ih]

theorem get?_insert (table : Table α) (key : String) (value : α) (other : String) :
    (table.insert key value).get? other =
      if other = key then some value else table.get? other :=
  lookup_insertEntry key value table.entries other

/-- A table that was made from keys has an entry for each of them and for no other. -/
theorem get?_ofList_map (f : String → α) (keys : List String) (key : String) :
    (ofList (keys.map fun key => (key, f key))).get? key =
      if key ∈ keys then some (f key) else none := by
  induction keys using List.reverseRecOn with
  | nil => rfl
  | append_singleton keys last ih =>
      have hlast : ofList ((keys ++ [last]).map fun key => (key, f key)) =
          (ofList (keys.map fun key => (key, f key))).insert last (f last) := by
        rw [ofList, List.map_append, List.foldl_append]
        rfl
      rw [hlast, get?_insert, ih]
      by_cases heq : key = last
      · simp [heq]
      · simp [heq]

theorem get?_mapEntries (table : Table α) (f : String → α → β) (key : String) :
    (table.mapEntries f).get? key = (table.get? key).map (f key) := by
  unfold get? mapEntries
  dsimp only
  induction table.entries with
  | nil => rfl
  | cons entry rest ih =>
      obtain ⟨k, v⟩ := entry
      rw [List.map_cons]
      by_cases heq : key = k
      · rw [heq, List.lookup_cons_self, List.lookup_cons_self, Option.map_some]
      · rw [lookup_cons_of_ne heq, lookup_cons_of_ne heq, ih]

end Table

/-! ### Differences of totals -/

namespace Totals

theorem signed_of_lt {count : Nat} (h : count < 2 ^ 63) : signed count = count := by
  have hmodulus : Nat.pow 2 64 = 18446744073709551616 := rfl
  unfold signed
  rw [hmodulus]
  exact Int.bmod_eq_of_le (by omega) (by omega)

theorem moved_of_lt {now before : Nat} (hnow : now < 2 ^ 63) (hbefore : before < 2 ^ 63) :
    moved now before = (now : Int) - before := by
  rw [moved, signed_of_lt hnow, signed_of_lt hbefore]

theorem get?_runs_since (now previous : Totals) (backend : String) :
    (now.since previous).runs.get? backend = (now.runs.get? backend).map fun count =>
      moved count ((previous.runs.get? backend).getD 0) := by
  rw [since, Table.get?_mapEntries]

theorem count_since {now previous : Totals}
    (hlisted : ∀ backend, now.runs.get? backend = none → previous.runs.get? backend = none)
    (measure : Measure) :
    (now.since previous).count measure = moved (now.count measure) (previous.count measure) := by
  cases measure with
  | generated | compilerErrors | verified => simp only [Movement.count, Totals.count, since]
  | runs backend =>
      unfold Movement.count Movement.runsFor
      dsimp only
      rw [get?_runs_since]
      cases hfound : now.runs.get? backend with
      | none =>
          have hnone := hlisted backend hfound
          simp only [Totals.count, hfound, hnone, Option.map_none, Option.getD_none, moved,
            Int.sub_self]
      | some count =>
          have hcount : now.count (.runs backend) = count := by
            simp only [Totals.count, hfound, Option.getD_some]
          rw [hcount, Option.map_some, Option.getD_some, Totals.count]

theorem count_zero (measure : Measure) : zero.count measure = 0 := by
  cases measure <;> rfl

/-- All counts are below a limit. -/
def within (totals : Totals) (limit : Nat) : Bool :=
  totals.generated < limit && totals.compilerErrors < limit && totals.verified < limit &&
    totals.runs.entries.all fun entry => entry.2 < limit

theorem count_lt_of_within {totals : Totals} {limit : Nat} (h : totals.within limit)
    (measure : Measure) : totals.count measure < limit := by
  unfold within at h
  simp only [Bool.and_eq_true, decide_eq_true_eq, List.all_eq_true] at h
  obtain ⟨⟨⟨hgenerated, herrors⟩, hverified⟩, hruns⟩ := h
  cases measure with
  | generated => exact hgenerated
  | compilerErrors => exact herrors
  | verified => exact hverified
  | runs backend =>
      unfold count
      dsimp only
      cases hfound : totals.runs.get? backend with
      | none => exact Nat.zero_lt_of_lt hgenerated
      | some count => exact hruns (backend, count) (Table.mem_of_lookup hfound)

end Totals

namespace Store

variable {store later last : Store} {backends : List String}

/-! ### What is counted -/

theorem get?_runs_counters (store : Store) (backends : List String) (backend : String) :
    (store.counters backends).runs.get? backend =
      if backend ∈ backends then some (store.runs.countP (·.backend == backend)) else none := by
  simp only [List.countP_eq_length_filter]
  exact Table.get?_ofList_map
    (fun backend => (store.runs.filter (·.backend == backend)).length) backends backend

/-- Nothing that is counted has changed. -/
structure SameCounts (before later : Store) : Prop where
  runs : later.runs = before.runs
  compileErrors : later.generations.map (·.compileError) = before.generations.map (·.compileError)
  verifications : later.verifications.length = before.verifications.length

theorem SameCounts.refl (store : Store) : SameCounts store store :=
  ⟨rfl, rfl, rfl⟩

theorem SameCounts.trans (h : SameCounts store later) (hlast : SameCounts later last) :
    SameCounts store last :=
  ⟨hlast.runs.trans h.runs, hlast.compileErrors.trans h.compileErrors,
    hlast.verifications.trans h.verifications⟩

theorem SameCounts.counters (h : SameCounts store later) (backends : List String) :
    later.counters backends = store.counters backends := by
  have herrors : ∀ store : Store, (store.generations.filter (·.compileError.isSome)).length =
      (store.generations.map (·.compileError)).countP Option.isSome := by
    intro store
    rw [List.countP_map, List.countP_eq_length_filter]
    rfl
  have hgenerated := congrArg List.length h.compileErrors
  rw [List.length_map, List.length_map] at hgenerated
  unfold Store.counters
  rw [h.runs, h.verifications, hgenerated, herrors, herrors, h.compileErrors]

theorem sameCounts_markCrashLogged (store : Store) (id : String) :
    SameCounts store (store.markCrashLogged id).2 where
  runs := rfl
  compileErrors := map_latch fun _ => rfl
  verifications := rfl

theorem sameCounts_markDiscrepancyLogged (store : Store) (id : String) :
    SameCounts store (store.markDiscrepancyLogged id).2 where
  runs := rfl
  compileErrors := rfl
  verifications := List.length_map _

/-! ### Writes -/

theorem length_generations_perform_le (store : Store) (operation : Operation) :
    store.generations.length ≤ (store.perform operation).generations.length := by
  rw [generations_perform, List.length_append, List.length_map]
  exact Nat.le_add_right _ _

theorem countP_compileError_perform_le (store : Store) (operation : Operation) :
    store.generations.countP (·.compileError.isSome) ≤
      (store.perform operation).generations.countP (·.compileError.isSome) := by
  rw [generations_perform, List.countP_append, List.countP_map]
  refine le_trans (le_of_eq (List.countP_congr fun row _ => ?_)) (Nat.le_add_right _ _)
  rw [Function.comp_apply, Operation.compileError_flagged]

theorem length_verifications_perform_le (store : Store) (operation : Operation) :
    store.verifications.length ≤ (store.perform operation).verifications.length := by
  cases operation with
  | insertGeneration generation => rw [(runs_insertGeneration store generation).2]
  | upsertRun result => exact (congrArg List.length (verifications_upsertRun store result)).ge
  | recordVerification verification =>
      change _ ≤ (store.recordVerification verification).2.verifications.length
      cases hflipped : (store.recordVerification verification).1 with
      | false => rw [recordVerification_of_not_flipped hflipped]
      | true =>
          rw [recordVerification_of_flipped hflipped]
          dsimp only
          split
          · exact Nat.le_refl _
          · rw [List.length_append]
            exact Nat.le_add_right _ _
  | markDiscrepancyLogged id => exact (List.length_map _).ge
  | _ => exact Nat.le_refl _

/-- There is at most one row for a candidate and a backend. -/
theorem Sound.length_filter_isAt_le (hsound : store.Sound) (generation backend : String) :
    (store.runs.filter (StoredRun.isAt generation backend)).length ≤ 1 := by
  have hkeys : (store.runs.filter (StoredRun.isAt generation backend)).map StoredRun.key =
      List.replicate (store.runs.filter (StoredRun.isAt generation backend)).length
        (generation, backend) := by
    rw [List.map_eq_replicate_iff]
    intro row hrow
    exact Prod.ext_iff.2 (StoredRun.isAt_iff.1 (List.mem_filter.1 hrow).2)
  rw [← List.nodup_replicate (a := (generation, backend)), ← hkeys]
  exact hsound.runs_nodup.sublist (List.filter_sublist.map _)

/-- A result that is written over counts for the backend again. -/
theorem Sound.countP_upsertRun_le (hsound : store.Sound) (result : RunResult) (backend : String) :
    store.runs.countP (·.backend == backend) ≤
      (store.upsertRun result).runs.countP (·.backend == backend) := by
  cases hold : store.run? result.generation result.backend with
  | none =>
      rw [runs_upsertRun_of_none hold, List.countP_append]
      exact Nat.le_add_right _ _
  | some old =>
      cases hhandled : old.handled with
      | true => rw [upsertRun_of_handled hold hhandled]
      | false =>
          rw [runs_upsertRun_of_open hold hhandled, List.countP_append, List.countP_singleton]
          have hsplit := (List.filter_append_perm (StoredRun.isAt result.generation result.backend)
            store.runs).countP_eq (·.backend == backend)
          rw [List.countP_append] at hsplit
          have hone := hsound.length_filter_isAt_le result.generation result.backend
          by_cases hbackend : result.backend = backend
          · have hle := List.countP_le_length (p := (·.backend == backend))
              (l := store.runs.filter (StoredRun.isAt result.generation result.backend))
            rw [if_pos (by simpa [StoredRun.ofResult] using hbackend)]
            omega
          · have hnone : (store.runs.filter
                (StoredRun.isAt result.generation result.backend)).countP
                  (·.backend == backend) = 0 := by
              rw [List.countP_eq_zero]
              intro row hrow
              rw [beq_iff_eq, (StoredRun.isAt_iff.1 (List.mem_filter.1 hrow).2).2]
              exact hbackend
            omega

theorem Sound.countP_runs_perform_le (hsound : store.Sound) (operation : Operation)
    (backend : String) :
    store.runs.countP (·.backend == backend) ≤
      (store.perform operation).runs.countP (·.backend == backend) := by
  cases operation with
  | insertGeneration generation => rw [(runs_insertGeneration store generation).1]
  | upsertRun result => exact hsound.countP_upsertRun_le result backend
  | recordVerification verification =>
      have hbackends : (store.recordVerification verification).2.runs.map (·.backend) =
          store.runs.map (·.backend) := by
        rw [runs_recordVerification]
        exact map_latch fun _ => rfl
      have hcount : ∀ rows : List StoredRun, rows.countP (·.backend == backend) =
          (rows.map (·.backend)).count backend := by
        intro rows
        rw [List.count, List.countP_map]
        rfl
      rw [hcount, ← hbackends, ← hcount]
      exact Nat.le_refl _
  | _ => exact Nat.le_refl _

/-- **Counters only grow.** -/
theorem Sound.count_perform_le (hsound : store.Sound) (operation : Operation)
    (backends : List String) (measure : Measure) :
    (store.counters backends).count measure ≤
      ((store.perform operation).counters backends).count measure := by
  cases measure with
  | generated => exact length_generations_perform_le store operation
  | compilerErrors =>
      have hle := countP_compileError_perform_le store operation
      rwa [List.countP_eq_length_filter, List.countP_eq_length_filter] at hle
  | verified => exact length_verifications_perform_le store operation
  | runs backend =>
      unfold Totals.count
      dsimp only
      rw [get?_runs_counters, get?_runs_counters]
      split
      · exact hsound.countP_runs_perform_le operation backend
      · exact Nat.le_refl 0

theorem Sound.count_performAll_le (hsound : store.Sound) (operations : List Operation)
    (backends : List String) (measure : Measure) :
    (store.counters backends).count measure ≤
      ((store.performAll operations).counters backends).count measure := by
  induction operations generalizing store with
  | nil => exact Nat.le_refl _
  | cons operation operations ih =>
      exact (hsound.count_perform_le operation backends measure).trans
        (ih (sound_perform hsound operation))

end Store

end Concord
