import Mathlib
import Concord.Proofs.Comparison
import Concord.Proofs.Recorded
import Concord.Proofs.Store.Waiting

/-!
# What a poll records

Waiting asks for an open row for each backend, verifying for no handled row at all, and recording
closes every row there is. The three agree as long as whatever was recorded compares results of the
same backends: a handled row then comes with a handled row for each of them.
-/

namespace Concord

theorem Comparison.generation_of_verification? {rule : Comparison} {generation : String}
    {results : List RunResult} {backends : List String} {verification : Verification}
    (h : rule.verification? generation results backends = some verification) :
    verification.generation = generation := by
  obtain ⟨found, -, hfound⟩ := Option.bind_eq_some_iff.1 h
  obtain rfl := Option.some.inj hfound
  rfl

namespace Store

variable {rule : Comparison} {backends : List String} {operations : List Operation}
  {store : Store} {id : String} {verification : Verification} {results : List RunResult}

/-! ### Histories in which the same backends are compared -/

/-- Whatever was recorded compares results of these backends that were loaded before, by one rule or
another. -/
def ComparesOnly (backends : List String) (operations : List Operation) : Prop :=
  ∀ {before verification rest},
    operations = before ++ .recordVerification verification :: rest →
      ∃ earlier middle rule, before = earlier ++ middle ∧
        Compared rule backends earlier verification

def VerifiedFor (backends : List String) (store : Store) : Prop :=
  ∃ operations, store = after operations ∧ ComparesOnly backends operations

theorem verifiedFor_empty (backends : List String) : VerifiedFor backends {} := by
  refine ⟨[], rfl, ?_⟩
  intro before verification rest hsplit
  exact absurd hsplit (by simp)

theorem comparesOnly_concat (h : ComparesOnly backends operations) {operation : Operation}
    (hlast : ∀ verification, operation = .recordVerification verification →
      ∃ earlier middle rule, operations = earlier ++ middle ∧
        Compared rule backends earlier verification) :
    ComparesOnly backends (operations ++ [operation]) := by
  intro before verification rest hsplit
  cases rest using List.reverseRecOn with
  | nil =>
      obtain ⟨rfl, hoperation⟩ := List.append_inj' hsplit rfl
      exact hlast verification (List.singleton_inj.1 hoperation)
  | append_singleton rest last =>
      rw [← List.cons_append, ← List.append_assoc] at hsplit
      exact h (List.append_inj' hsplit rfl).1

theorem VerifiedFor.perform (h : store.VerifiedFor backends) {operation : Operation}
    (hother : ∀ verification, operation ≠ .recordVerification verification) :
    (store.perform operation).VerifiedFor backends := by
  obtain ⟨operations, rfl, hcompares⟩ := h
  refine ⟨operations ++ [operation], (after_concat operations operation).symm, ?_⟩
  exact comparesOnly_concat hcompares fun verification heq => absurd heq (hother verification)

theorem VerifiedFor.recordVerification (h : store.VerifiedFor backends)
    (hload : store.loadRuns id = .ok results)
    (hcompared : rule.verification? id results backends = some verification) :
    (store.recordVerification verification).2.VerifiedFor backends := by
  obtain ⟨operations, rfl, hcompares⟩ := h
  refine ⟨operations ++ [.recordVerification verification], ?_, ?_⟩
  · rw [after_concat]
    rfl
  · refine comparesOnly_concat hcompares fun recorded heq => ?_
    obtain rfl := Operation.recordVerification.inj heq
    obtain rfl := Comparison.generation_of_verification? hcompared
    exact ⟨operations, [], rule, (List.append_nil operations).symm, results, hload, hcompared⟩

theorem VerifiedFor.sound (h : store.VerifiedFor backends) : store.Sound := by
  obtain ⟨operations, rfl, -⟩ := h
  exact sound_after operations

/-! ### Who waits has no handled row -/

/-- **One handled row means one for each backend.** -/
theorem VerifiedFor.handled_of_handled (h : store.VerifiedFor backends) {other : String}
    {row : StoredRun} (hrow : store.run? id other = some row) (hhandled : row.handled = true)
    {backend : String} (hbackend : backend ∈ backends) :
    ∃ row, store.run? id backend = some row ∧ row.handled = true := by
  obtain ⟨operations, rfl, hcompares⟩ := h
  have hfrom : (after ([] ++ operations)).run? id other = some row := hrow
  obtain ⟨before, verification, rest, hsplit, hwins⟩ :=
    exists_wins_of_handled hfrom hhandled (by rintro old ⟨⟩)
  obtain ⟨earlier, middle, rule, rfl, results, hload, hcompared⟩ := hcompares hsplit
  obtain rfl : verification.generation = id := hwins.1
  -- the row was there to be compared, was closed with the row found handled, and stayed
  obtain ⟨loaded, hloaded⟩ :=
    (sound_after earlier).exists_run?_of_verification? hload hcompared hbackend
  have hthere : ((after (earlier ++ middle)).run? verification.generation backend).isSome := by
    rw [after_append]
    exact run?_performAll_isSome middle (Option.isSome_of_eq_some hloaded)
  obtain ⟨closed, hclosed⟩ := Option.isSome_iff_exists.1
    (run?_perform_isSome (.recordVerification verification) hthere)
  rw [← after_concat] at hclosed
  have hclosedHandled := handled_of_wins hclosed rfl
  refine ⟨closed, ?_, hclosedHandled⟩
  rw [hsplit, List.append_cons, after_append]
  exact run?_performAll_of_handled rest hclosed hclosedHandled

/-- What is needed to verify a candidate that waits. -/
structure Ready (rule : Comparison) (backends : List String) (store : Store) (id : String)
    (results : List RunResult) (verification : Verification) : Prop where
  compared : rule.verification? id results backends = some verification
  unhandled : results.any (·.isHandled) = false
  flips : (store.recordVerification verification).1 = true
  first : store.verification? id = none

theorem ready_of_mem_waiting (h : store.VerifiedFor backends) (hinhabited : backends ≠ [])
    (hnodup : backends.Nodup) (hid : id ∈ store.waiting backends)
    (hload : store.loadRuns id = .ok results) (rule : Comparison) :
    ∃ verification, store.Ready rule backends id results verification := by
  have hopen := (mem_waiting_iff h.sound hinhabited hnodup).1 hid
  obtain ⟨backend, hbackend⟩ := List.exists_mem_of_ne_nil backends hinhabited
  obtain ⟨row, hrow, hrowOpen⟩ := hopen backend hbackend
  have hnone : ∀ other found, store.run? id other = some found → found.handled = false := by
    intro other found hfound
    by_contra hhandled
    obtain ⟨same, hsame, hsameHandled⟩ :=
      h.handled_of_handled hfound (Bool.eq_true_of_not_eq_false hhandled) hbackend
    obtain rfl := Option.some.inj (hrow.symm.trans hsame)
    exact absurd hsameHandled (by simp [hrowOpen])
  obtain ⟨verification, hcompared⟩ := Option.isSome_iff_exists.1
    ((h.sound.isSome_verification?_iff hload rule backends).2 fun backend hbackend =>
      (hopen backend hbackend).imp fun _ hrow => hrow.1)
  refine ⟨verification, hcompared, ?_, ?_, ?_⟩
  · rw [Bool.eq_false_iff, ne_eq, any_isHandled_iff hload]
    rintro ⟨found, hfound, rfl, hhandled⟩
    exact absurd hhandled (by simp [hnone _ found (h.sound.run?_of_mem hfound)])
  · rw [recordVerification_flipped_iff, Comparison.generation_of_verification? hcompared]
    exact ⟨row, List.mem_of_find?_eq_some hrow, (run?_eq_some_key hrow).1, hrowOpen⟩
  · obtain ⟨operations, rfl, -⟩ := h
    rw [← Option.not_isSome_iff_eq_none, verification?_isSome_iff]
    rintro ⟨other, found, hfound, hhandled⟩
    exact absurd hhandled (by simp [hnone other found hfound])

/-! ### Candidates verified one after another -/

/-- What verifying the candidates `polled` in turn makes of a store where `left` waited behind them. -/
structure Polled (rule : Comparison) (backends polled left : List String) (store later : Store) :
    Prop where
  /-- What is recorded is what comparing the results gives. -/
  recorded : ∀ id ∈ polled, ∃ results verification, store.loadRuns id = .ok results ∧
    rule.verification? id results backends = some verification ∧
    store.verification? id = none ∧
    later.verification? id = some (.ofVerification verification)
  /-- Every row becomes handled, and is no different otherwise. -/
  closed : ∀ id ∈ polled, ∀ backend,
    later.run? id backend = (store.run? id backend).map StoredRun.close
  /-- The others keep their results and verifications. -/
  kept : ∀ id ∉ polled, later.verification? id = store.verification? id ∧
    ∀ backend, later.run? id backend = store.run? id backend
  generations : later.generations = store.generations
  waiting : later.waiting backends = left
  verifiedFor : later.VerifiedFor backends

theorem polled_nil (h : store.VerifiedFor backends) :
    Polled rule backends [] (store.waiting backends) store store where
  recorded := by rintro id ⟨⟩
  closed := by rintro id ⟨⟩
  kept := fun _ _ => ⟨rfl, fun _ => rfl⟩
  generations := rfl
  waiting := rfl
  verifiedFor := h

theorem kept_recordVerification (store : Store) (h : id ≠ verification.generation) :
    (store.recordVerification verification).2.verification? id = store.verification? id ∧
      ∀ backend, (store.recordVerification verification).2.run? id backend =
        store.run? id backend := by
  refine ⟨?_, fun backend => ?_⟩
  · rw [verification?_recordVerification, if_neg fun hsame => h hsame.2.symm]
  · rw [run?_recordVerification]
    cases hrow : store.run? id backend with
    | none => rfl
    | some row =>
        have hother : row.generation ≠ verification.generation :=
          (run?_eq_some_key hrow).1.trans_ne h
        rw [Option.map_some, if_neg hother]

theorem polled_cons {polled left : List String} {later : Store} (hid : id ∉ polled)
    (hload : store.loadRuns id = .ok results)
    (hready : store.Ready rule backends id results verification)
    (h : Polled rule backends polled left (store.recordVerification verification).2 later) :
    Polled rule backends (id :: polled) left store later := by
  obtain rfl := Comparison.generation_of_verification? hready.compared
  have hne : ∀ {other}, other ∈ polled → other ≠ verification.generation := by
    rintro other hother rfl
    exact hid hother
  obtain ⟨hkept, hkeptRuns⟩ := h.kept verification.generation hid
  refine ⟨?_, ?_, ?_, ?_, h.waiting, h.verifiedFor⟩
  · intro other hother
    rcases List.mem_cons.1 hother with rfl | hother
    · refine ⟨results, verification, hload, hready.compared, hready.first, ?_⟩
      rw [hkept, verification?_recordVerification, if_pos ⟨hready.flips, rfl⟩, hready.first]
      rfl
    · obtain ⟨found, compared, hfound, hcompared, hfirst, hrecorded⟩ := h.recorded other hother
      rw [loadRuns_recordVerification (hne hother)] at hfound
      rw [(kept_recordVerification store (hne hother)).1] at hfirst
      exact ⟨found, compared, hfound, hcompared, hfirst, hrecorded⟩
  · intro other hother backend
    rcases List.mem_cons.1 hother with rfl | hother
    · rw [hkeptRuns, run?_recordVerification]
      refine Option.map_congr fun row hrow => ?_
      exact if_pos (run?_eq_some_key hrow).1
    · rw [h.closed other hother, (kept_recordVerification store (hne hother)).2]
  · intro other hother
    obtain ⟨hfirst, hrest⟩ := not_or.1 (fun h => hother (List.mem_cons.2 h))
    obtain ⟨hsame, hsameRuns⟩ := h.kept other hrest
    obtain ⟨hbefore, hbeforeRuns⟩ := kept_recordVerification store hfirst
    exact ⟨hsame.trans hbefore, fun backend => (hsameRuns backend).trans (hbeforeRuns backend)⟩
  · exact h.generations.trans (generations_recordVerification store verification)

theorem Polled.not_pending {polled left : List String} {later : Store}
    (h : Polled rule backends polled left store later) (hinhabited : backends ≠ [])
    (hnodup : backends.Nodup) (hid : id ∈ polled) (operations : List Operation) (limit : Nat) :
    id ∉ (later.performAll operations).pending backends limit := by
  obtain ⟨before, hbefore, -⟩ := h.verifiedFor
  have hsound : (later.performAll operations).Sound := by
    rw [hbefore, ← after_append]
    exact sound_after (before ++ operations)
  have hverified : (later.verification? id).isSome := by
    obtain ⟨results, verification, -, -, -, hrecorded⟩ := h.recorded id hid
    exact Option.isSome_of_eq_some hrecorded
  rw [hbefore, verification?_isSome_iff, ← hbefore] at hverified
  obtain ⟨other, found, hfound, hhandled⟩ := hverified
  obtain ⟨backend, hbackend⟩ := List.exists_mem_of_ne_nil backends hinhabited
  obtain ⟨row, hrow, hrowHandled⟩ := h.verifiedFor.handled_of_handled hfound hhandled hbackend
  rw [pending_eq_take]
  intro hpending
  have hwaits := (mem_waiting_iff hsound hinhabited hnodup).1 (List.mem_of_mem_take hpending)
  obtain ⟨still, hstill, hopen⟩ := hwaits backend hbackend
  rw [run?_performAll_of_handled operations hrow hrowHandled] at hstill
  obtain rfl := Option.some.inj hstill
  exact absurd hrowHandled (by simp [hopen])

end Store

/-! ### Nodes that verify for the same backends -/

namespace Pipeline

variable {backends : List String} {pipeline later : Pipeline}

/-- One step of the nodes of a pipeline, of which those that verify do it for these backends. -/
inductive VerifiedStep (backends : List String) : Pipeline → Pipeline → Prop
  | write (pipeline : Pipeline) {operation : Store.Operation}
      (hother : ∀ verification, operation ≠ .recordVerification verification) :
      VerifiedStep backends pipeline (pipeline.write operation)
  | verify (pipeline : Pipeline) {context : Context} (hbackends : context.backends = backends)
      (rule : Comparison) (generation : String) :
      VerifiedStep backends pipeline ((Verifier.verify context rule generation).run pipeline).2
  | aside {pipeline later : Pipeline} (h : later.store = pipeline.store) :
      VerifiedStep backends pipeline later

def VerifiedSteps (backends : List String) : Pipeline → Pipeline → Prop :=
  Relation.ReflTransGen (VerifiedStep backends)

theorem verifiedFor_of_step (h : pipeline.store.VerifiedFor backends)
    (hstep : VerifiedStep backends pipeline later) : later.store.VerifiedFor backends := by
  cases hstep with
  | @write operation hother =>
      rcases store_write pipeline operation with hstore | hstore
      · rwa [hstore]
      · rw [hstore]
        exact h.perform hother
  | @verify context hbackends rule generation =>
      rcases Verifier.verify_apply context rule generation pipeline with
        ⟨failure, loaded, hstore, hrun⟩ | ⟨results, loaded, hstore, hload, hrun⟩
      · rw [hrun]
        exact hstore ▸ h
      · rw [hrun]
        split
        · exact hstore ▸ h
        · split
          · exact hstore ▸ h
          · next verification hcompared =>
              rcases Verifier.store_record context verification loaded with hsame | hrecorded
              · rw [hsame, hstore]
                exact h
              · rw [hrecorded, hstore]
                exact h.recordVerification hload (hbackends ▸ hcompared)
  | aside hstore => rwa [hstore]

/-- However the nodes take turns, whatever they record compares results of their backends. -/
theorem verifiedFor_of_steps (h : pipeline.store.VerifiedFor backends)
    (hsteps : VerifiedSteps backends pipeline later) : later.store.VerifiedFor backends := by
  induction hsteps with
  | refl => exact h
  | tail _ hstep ih => exact verifiedFor_of_step ih hstep

end Pipeline

namespace Verifier

variable {context : Context} {rule : Comparison} {pipeline : Pipeline} {id : String}
  {results : List RunResult} {verification : Verification}

theorem needStore_readable {α : Type} (context : Context) (task operation : String)
    (access : Access) (view : Store → Except Store.Fault α) {value : α}
    (hundisturbed : pipeline.Undisturbed) (hview : view pipeline.store = .ok value) :
    (context.needStore task operation (Pipeline.onStore access (Pipeline.readable view))).run
      pipeline = (.ok value, pipeline) :=
  context.needStore_of_undisturbed task operation access (Pipeline.readable view) hundisturbed
    (Pipeline.readable_eq_ok_iff.2 ⟨hview, rfl⟩)

theorem verify_of_ready (context : Context) (hundisturbed : pipeline.Undisturbed)
    (hload : pipeline.store.loadRuns id = .ok results)
    (hready : pipeline.store.Ready rule context.backends id results verification) :
    (verify context rule id).run pipeline =
      (.ok (.recorded verification.discrepancies.length),
        { pipeline with store := (pipeline.store.recordVerification verification).2 }) := by
  have hloads := needStore_readable context "document store unavailable" "load run results"
    .loadRunResults (·.loadRuns id) hundisturbed hload
  have hwon : pipeline.store.recordVerification verification =
      (true, (pipeline.store.recordVerification verification).2) := Prod.ext hready.flips rfl
  have hrecords := context.needStore_of_undisturbed "failed to record verification"
    "record verification" .recordVerification
    (fun store => .ok (store.recordVerification verification)) hundisturbed
    (congrArg Except.ok hwon)
  unfold verify
  rw [Attempt.bind_apply, Pipeline.loadRunResults, hloads]
  dsimp only
  rw [if_neg (by simp [hready.unhandled]), hready.compared]
  dsimp only
  unfold record
  rw [Attempt.bind_apply, Pipeline.recordVerification, hrecords]
  rfl

/-- **Candidates that wait are verified one after another**, whatever waits behind them. -/
theorem verifyAll_of_waiting (rule : Comparison) (hinhabited : context.backends ≠ [])
    (hnodup : context.backends.Nodup) {polled left : List String}
    (hundisturbed : pipeline.Undisturbed)
    (hverified : pipeline.store.VerifiedFor context.backends)
    (hwaiting : pipeline.store.waiting context.backends = polled ++ left)
    (hread : ∀ id ∈ polled, ∃ results, pipeline.store.loadRuns id = .ok results) :
    ∃ later, (verifyAll context rule polled).run pipeline =
        (.ok polled.length, { pipeline with store := later }) ∧
      Store.Polled rule context.backends polled left pipeline.store later := by
  induction polled generalizing pipeline with
  | nil =>
      refine ⟨pipeline.store, rfl, ?_⟩
      obtain rfl : pipeline.store.waiting context.backends = left := hwaiting
      exact Store.polled_nil hverified
  | cons id polled ih =>
      have hunique : (id :: (polled ++ left)).Nodup := by
        rw [← List.cons_append, ← hwaiting]
        exact Store.nodup_waiting pipeline.store context.backends
      obtain ⟨hfresh, -⟩ := List.nodup_cons.1 hunique
      obtain ⟨results, hload⟩ := hread id List.mem_cons_self
      obtain ⟨verification, hready⟩ := Store.ready_of_mem_waiting hverified hinhabited hnodup
        (hwaiting ▸ List.mem_cons_self) hload rule
      have hverify := verify_of_ready context hundisturbed hload hready
      have hgeneration := Comparison.generation_of_verification? hready.compared
      -- the candidate is taken off the list, and the others stay on it
      have hrest : (pipeline.store.recordVerification verification).2.waiting context.backends =
          polled ++ left := by
        rw [Store.waiting_recordVerification, hwaiting, hgeneration, List.cons_append,
          List.filter_cons_of_neg (by simp), List.filter_eq_self]
        intro other hother
        exact bne_iff_ne.2 fun heq => hfresh (heq ▸ hother)
      have hreadRest : ∀ other ∈ polled, ∃ results,
          (pipeline.store.recordVerification verification).2.loadRuns other = .ok results := by
        intro other hother
        have hne : other ≠ verification.generation := by
          rintro rfl
          exact hfresh (hgeneration ▸ List.mem_append_left left hother)
        rw [Store.loadRuns_recordVerification hne]
        exact hread other (List.mem_cons_of_mem id hother)
      obtain ⟨later, hrun, hpolled⟩ := ih (hundisturbed.withStore _)
        (hverified.recordVerification hload hready.compared) hrest hreadRest
      refine ⟨later, ?_, Store.polled_cons (fun hmem => hfresh (List.mem_append_left left hmem))
        hload hready hpolled⟩
      unfold verifyAll
      rw [Attempt.bind_apply, hverify]
      dsimp only
      rw [Attempt.bind_apply, hrun, List.length_cons, Nat.add_comm]
      rfl

/-- **Every poll makes progress.** -/
theorem pollOnce_of_undisturbed (context : Context) (rule : Comparison) (batch : Nat)
    (hinhabited : context.backends ≠ []) (hnodup : context.backends.Nodup)
    (hatMost : context.backends.length ≤ Store.backendsAtMost)
    (hundisturbed : pipeline.Undisturbed)
    (hverified : pipeline.store.VerifiedFor context.backends)
    (hread : ∀ id ∈ (pipeline.store.waiting context.backends).take batch,
      ∃ results, pipeline.store.loadRuns id = .ok results) :
    ∃ later, (pollOnce context rule batch).run pipeline =
        (.ok (min batch (pipeline.store.waiting context.backends).length),
          { pipeline with store := later }) ∧
      Store.Polled rule context.backends ((pipeline.store.waiting context.backends).take batch)
        ((pipeline.store.waiting context.backends).drop batch) pipeline.store later ∧
      ∀ id ∈ (pipeline.store.waiting context.backends).take batch, ∀ operations limit,
        id ∉ (later.performAll operations).pending context.backends limit := by
  obtain ⟨later, hrun, hpolled⟩ := verifyAll_of_waiting rule hinhabited hnodup hundisturbed
    hverified (List.take_append_drop batch (pipeline.store.waiting context.backends)).symm hread
  have hpending : pipeline.store.pendingWithin context.backends batch =
      .ok ((pipeline.store.waiting context.backends).take batch) := by
    unfold Store.pendingWithin
    rw [if_neg hatMost.not_gt, Store.pending_eq_take]
  have hasks := needStore_readable context "document store unavailable"
    "poll pending generations" .pendingGenerations (·.pendingWithin context.backends batch)
    hundisturbed hpending
  refine ⟨later, ?_, hpolled, fun id hid => hpolled.not_pending hinhabited hnodup hid⟩
  unfold pollOnce
  rw [Attempt.bind_apply, Pipeline.pendingGenerations, hasks]
  dsimp only
  rw [hrun, List.length_take]

/-- Two candidates on both backends, which gave different values for the first. That one was run on
another backend as well. -/
def reported : Pipeline :=
  [⟨"g", "ivy", Store.gave "1", false⟩, ⟨"g", "eel", Store.gave "3", false⟩,
    ⟨"g", "boa", Store.gave "2", false⟩, ⟨"h", "boa", Store.gave "4", false⟩,
    ⟨"h", "ivy", Store.gave "4", false⟩].foldl
      (fun pipeline result => pipeline.write (.upsertRun result)) {}

theorem loadRuns_reported : reported.store.loadRuns "g" =
    .ok [⟨"g", "boa", Store.gave "2", false⟩, ⟨"g", "eel", Store.gave "3", false⟩,
      ⟨"g", "ivy", Store.gave "1", false⟩] := by
  have hdecode := fun backend text =>
    Store.decodeRun_of_durable (Store.durable_gave "g" backend text) false
  exact mapM_eq_ok_iff.2 (.cons (hdecode "boa" "2") (.cons (hdecode "eel" "3")
    (.cons (hdecode "ivy" "1") .nil)))

/-- The poll tells the difference between the two backends. -/
theorem pollOnce_reported :
    ∃ later, (pollOnce ⟨["ivy", "boa"], .standard⟩ {} 1).run reported =
        (.ok 1, { reported with store := later }) ∧
      Store.Polled {} ["ivy", "boa"] ["g"] ["h"] reported.store later ∧
      (∃ verification, later.verification? "g" = some (.ofVerification verification) ∧
        verification.verdicts.length = 1 ∧ verification.hasDiscrepancy = true) ∧
      "g" ∉ later.pending ["ivy", "boa"] 2 := by
  have hwrite : ∀ pipeline result, Pipeline.VerifiedStep ["ivy", "boa"] pipeline
      (pipeline.write (.upsertRun result)) :=
    fun pipeline result => .write pipeline (by rintro verification ⟨⟩)
  have hsteps : Pipeline.VerifiedSteps ["ivy", "boa"] {} reported :=
    ((((Relation.ReflTransGen.single (hwrite _ _)).tail (hwrite _ _)).tail (hwrite _ _)).tail
      (hwrite _ _)).tail (hwrite _ _)
  have hwaits : (reported.store.waiting ["ivy", "boa"]).take 1 = ["g"] := by decide +kernel
  have hread : ∀ id ∈ (reported.store.waiting ["ivy", "boa"]).take 1,
      ∃ results, reported.store.loadRuns id = .ok results := by
    rw [hwaits]
    intro id hid
    rw [List.mem_singleton.1 hid]
    exact ⟨_, loadRuns_reported⟩
  obtain ⟨later, hrun, hpolled, hdone⟩ := pollOnce_of_undisturbed ⟨["ivy", "boa"], .standard⟩ {} 1
    (by decide) (by decide) (by decide) ⟨rfl, fun _ => rfl⟩
    (Pipeline.verifiedFor_of_steps (Store.verifiedFor_empty _) hsteps) hread
  obtain ⟨results, verification, hload, hcompared, -, hrecorded⟩ :=
    hpolled.recorded "g" (by decide +kernel)
  rw [loadRuns_reported] at hload
  obtain rfl := Except.ok.inj hload
  have hverdicts : (Comparison.verification? {} "g" [⟨"g", "boa", Store.gave "2", false⟩,
      ⟨"g", "eel", Store.gave "3", false⟩, ⟨"g", "ivy", Store.gave "1", false⟩]
        ["ivy", "boa"]).map (fun found => (found.verdicts.length, found.hasDiscrepancy)) =
          some (1, true) := by decide +kernel
  rw [hcompared] at hverdicts
  obtain ⟨hlength, hdiscrepancy⟩ := Prod.mk.inj (Option.some.inj hverdicts)
  exact ⟨later, hrun, hpolled, ⟨verification, hrecorded, hlength, hdiscrepancy⟩,
    hdone "g" (by decide +kernel) [] 2⟩

/-! ### More backends than a query can name -/

theorem pollOnce_of_many (context : Context) (rule : Comparison) (batch : Nat)
    (hundisturbed : pipeline.Undisturbed)
    (hmany : Store.backendsAtMost < context.backends.length) :
    (pollOnce context rule batch).run pipeline =
      (.error ⟨some "document store unavailable", .storeRetries (.permanent
        "poll pending generations" (.database (.ofCode 1 "too many SQL variables")))⟩,
        pipeline) := by
  have hpending : Pipeline.readable (·.pendingWithin context.backends batch) pipeline.store =
      .error (.database (.ofCode 1 "too many SQL variables")) := by
    rw [Pipeline.readable, Store.pendingWithin, if_pos hmany]
    rfl
  unfold pollOnce
  rw [Attempt.bind_apply]
  unfold Pipeline.pendingGenerations
  rw [Context.needStore_of_lasting context _ _ _ _ hundisturbed hpending rfl]

def numbered (count : Nat) : List String :=
  (List.range count).map toString

theorem nodup_numbered (count : Nat) : (numbered count).Nodup :=
  List.nodup_range.map fun _ _ h => Nat.repr_inj.1 h

/-- A poll for 32765 backends fails, though no candidate waits. -/
theorem not_polled_of_many :
    ¬∀ (context : Context) (rule : Comparison) (batch : Nat) (pipeline : Pipeline),
      context.backends ≠ [] → context.backends.Nodup → pipeline.Undisturbed →
        pipeline.store.VerifiedFor context.backends →
        (∀ id ∈ (pipeline.store.waiting context.backends).take batch,
          ∃ results, pipeline.store.loadRuns id = .ok results) →
        ((pollOnce context rule batch).run pipeline).1 =
          .ok (min batch (pipeline.store.waiting context.backends).length) := by
  intro h
  obtain ⟨backends, hnodup, hmany⟩ : ∃ backends : List String, backends.Nodup ∧
      Store.backendsAtMost < backends.length := by
    refine ⟨numbered 32765, nodup_numbered 32765, ?_⟩
    rw [numbered, List.length_map, List.length_range]
    decide
  have hundisturbed : Pipeline.Undisturbed {} := ⟨rfl, fun _ => rfl⟩
  have hpoll := h ⟨backends, .standard⟩ {} 1 {}
    (List.ne_nil_of_length_pos (Nat.zero_lt_of_lt hmany)) hnodup hundisturbed
    (Store.verifiedFor_empty backends) fun id _ => ⟨[], rfl⟩
  rw [pollOnce_of_many ⟨backends, .standard⟩ {} 1 hundisturbed hmany] at hpoll
  cases hpoll

end Verifier

end Concord
