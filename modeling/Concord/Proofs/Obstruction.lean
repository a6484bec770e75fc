import Mathlib
import Concord.Proofs.Polls
import Concord.Proofs.Store.Readiness

/-!
# Candidates in each other's way

A poll takes up the candidates at the head of the list in turn. One whose results cannot be read
ends the poll and stays where it is, and one that is handled elsewhere stays in its place of the
batch. So a candidate is reached exactly if nothing before it is unreadable and less than a batch
before it stays.
-/

namespace Concord

/-- What taking up a candidate comes to. -/
inductive Prospect where
  | unreadable
  | stays
  | leaves (verification : Verification)

namespace Prospect

def isStaying : Prospect → Bool
  | stays => true
  | _ => false

@[simp]
theorem isStaying_unreadable : unreadable.isStaying = false :=
  rfl

@[simp]
theorem isStaying_stays : stays.isStaying = true :=
  rfl

@[simp]
theorem isStaying_leaves (verification : Verification) : (leaves verification).isStaying = false :=
  rfl

/-- What is left of a batch that is taken up from its head. -/
def remaining (prospect : String → Prospect) : List String → List String
  | [] => []
  | id :: rest =>
      match prospect id with
      | unreadable => id :: rest
      | stays => id :: remaining prospect rest
      | leaves _ => remaining prospect rest

/-- What waits after a poll. -/
def afterPoll (prospect : String → Prospect) (batch : Nat) (ids : List String) : List String :=
  remaining prospect (ids.take batch) ++ ids.drop batch

/-- What waits before a candidate keeps polls from it. -/
def Blocks (prospect : String → Prospect) (batch : Nat) (ahead : List String) : Prop :=
  (∃ id ∈ ahead, prospect id = unreadable) ∨
    batch ≤ (ahead.filter fun id => (prospect id).isStaying).length

variable {prospect other : String → Prospect} {batch : Nat} {id : String}
  {ids ahead behind : List String}

theorem remaining_congr (h : ∀ id ∈ ids, prospect id = other id) :
    remaining prospect ids = remaining other ids := by
  induction ids with
  | nil => rfl
  | cons id rest ih =>
      obtain ⟨hid, hrest⟩ := List.forall_mem_cons.1 h
      rw [remaining, remaining, hid, ih hrest]

theorem remaining_sublist (prospect : String → Prospect) (ids : List String) :
    (remaining prospect ids).Sublist ids := by
  induction ids with
  | nil => exact .slnil
  | cons id rest ih =>
      unfold remaining
      split
      · exact List.Sublist.refl _
      · exact ih.cons_cons id
      · exact ih.cons id

/-- Nobody leaves who is not recorded. -/
theorem mem_remaining (hid : id ∈ ids)
    (hstays : ∀ verification, prospect id ≠ leaves verification) : id ∈ remaining prospect ids := by
  induction ids with
  | nil => exact hid
  | cons first rest ih =>
      unfold remaining
      rcases List.mem_cons.1 hid with rfl | hrest
      · cases h : prospect id with
        | leaves verification => exact absurd h (hstays verification)
        | _ => exact List.mem_cons_self
      · split
        · exact hid
        · exact List.mem_cons_of_mem first (ih hrest)
        · exact ih hrest

theorem filter_isStaying_remaining (prospect : String → Prospect) (ids : List String) :
    (remaining prospect ids).filter (fun id => (prospect id).isStaying) =
      ids.filter fun id => (prospect id).isStaying := by
  induction ids with
  | nil => rfl
  | cons id rest ih =>
      unfold remaining
      cases h : prospect id with
      | unreadable => rfl
      | stays => simpa [h] using ih
      | leaves verification => simpa [h] using ih

/-- A batch ends at the first candidate that cannot be read. -/
theorem remaining_append_of_unreadable (h : ∃ id ∈ ahead, prospect id = unreadable)
    (behind : List String) :
    remaining prospect (ahead ++ behind) = remaining prospect ahead ++ behind := by
  induction ahead with
  | nil =>
      obtain ⟨id, hid, -⟩ := h
      cases hid
  | cons first rest ih =>
      rw [List.cons_append, remaining, remaining]
      cases hfirst : prospect first with
      | unreadable => rfl
      | stays =>
          rw [List.exists_mem_cons_iff, hfirst] at h
          exact congrArg (first :: ·) (ih (h.resolve_left (by simp)))
      | leaves verification =>
          rw [List.exists_mem_cons_iff, hfirst] at h
          exact ih (h.resolve_left (by simp))

theorem remaining_append (h : ∀ id ∈ ahead, prospect id ≠ unreadable) (behind : List String) :
    remaining prospect (ahead ++ behind) =
      ahead.filter (fun id => (prospect id).isStaying) ++ remaining prospect behind := by
  induction ahead with
  | nil => rfl
  | cons first rest ih =>
      obtain ⟨hfirst, hrest⟩ := List.forall_mem_cons.1 h
      rw [List.cons_append, remaining]
      cases hprospect : prospect first with
      | unreadable => exact absurd hprospect hfirst
      | stays => simp [hprospect, ih hrest]
      | leaves verification => simp [hprospect, ih hrest]

theorem remaining_of_readable (h : ∀ id ∈ ids, prospect id ≠ unreadable) :
    remaining prospect ids = ids.filter fun id => (prospect id).isStaying := by
  have happend := remaining_append h []
  rwa [List.append_nil, remaining, List.append_nil] at happend

/-- **Who is blocked stays blocked.** -/
theorem Blocks.afterPoll (h : Blocks prospect batch ahead) (id : String) (behind : List String) :
    ∃ before after, Prospect.afterPoll prospect batch (ahead ++ id :: behind) =
      before ++ id :: after ∧ Blocks prospect batch before := by
  unfold Prospect.afterPoll
  by_cases hlength : batch ≤ ahead.length
  · -- the batch ends before the candidate
    rw [List.take_append_of_le_length hlength, List.drop_append_of_le_length hlength,
      ← List.append_assoc]
    refine ⟨_, _, rfl, ?_⟩
    rcases h with ⟨blocker, hblocker, hunreadable⟩ | hmany
    · rw [← List.take_append_drop batch ahead] at hblocker
      refine Or.inl ⟨blocker, ?_, hunreadable⟩
      rcases List.mem_append.1 hblocker with htaken | hleft
      · refine List.mem_append_left _ (mem_remaining htaken fun verification => ?_)
        simp [hunreadable]
      · exact List.mem_append_right _ hleft
    · refine Or.inr ?_
      rwa [List.filter_append, filter_isStaying_remaining, ← List.filter_append,
        List.take_append_drop]
  · have hshort : ahead.length ≤ batch := (not_le.1 hlength).le
    have hblocker : ∃ id ∈ ahead, prospect id = unreadable := by
      refine h.resolve_right fun hmany => hlength (hmany.trans ?_)
      exact List.length_filter_le _ _
    rw [List.take_append, List.take_of_length_le hshort, List.drop_append,
      List.drop_of_length_le hshort, List.nil_append,
      remaining_append_of_unreadable hblocker, List.append_assoc, List.take_append_drop]
    refine ⟨_, _, rfl, Or.inl ?_⟩
    obtain ⟨blocker, hmem, hunreadable⟩ := hblocker
    exact ⟨blocker, mem_remaining hmem (by simp [hunreadable]), hunreadable⟩

/-- **Who is not blocked comes closer**, until its turn comes. -/
theorem afterPoll_of_not_blocks (h : ¬Blocks prospect batch ahead) {verification : Verification}
    (hid : prospect id = leaves verification) (hnodup : (ahead ++ id :: behind).Nodup) :
    id ∉ afterPoll prospect batch (ahead ++ id :: behind) ∨
      ∃ before, afterPoll prospect batch (ahead ++ id :: behind) = before ++ id :: behind ∧
        before.length < ahead.length ∧ ¬Blocks prospect batch before := by
  obtain ⟨hunblocked, hfew⟩ := not_or.1 h
  have hreadable : ∀ id ∈ ahead, prospect id ≠ unreadable :=
    fun id hmem hunreadable => hunblocked ⟨id, hmem, hunreadable⟩
  unfold afterPoll
  by_cases hlength : batch ≤ ahead.length
  · -- less than a batch stays, so someone of the batch has left
    right
    have htaken : ∀ id ∈ ahead.take batch, prospect id ≠ unreadable :=
      fun id hmem => hreadable id (List.mem_of_mem_take hmem)
    rw [List.take_append_of_le_length hlength, List.drop_append_of_le_length hlength,
      ← List.append_assoc, remaining_of_readable htaken]
    refine ⟨_, rfl, ?_, ?_⟩
    · have hstay : ((ahead.take batch).filter fun id => (prospect id).isStaying).length < batch :=
        ((List.take_sublist batch ahead).filter _).length_le.trans_lt (not_le.1 hfew)
      rw [List.length_append, List.length_drop]
      omega
    · rintro (⟨blocker, hblocker, hunreadable⟩ | hmany)
      · refine hreadable blocker ?_ hunreadable
        rw [← List.take_append_drop batch ahead]
        rcases List.mem_append.1 hblocker with hmem | hmem
        · exact List.mem_append_left _ (List.mem_of_mem_filter hmem)
        · exact List.mem_append_right _ hmem
      · rw [List.filter_append, List.filter_filter] at hmany
        simp only [Bool.and_self] at hmany
        rw [← List.filter_append, List.take_append_drop] at hmany
        exact hfew hmany
  · -- the candidate is of the batch, and whoever is taken up before it can be read
    left
    have hshort : ahead.length < batch := not_le.1 hlength
    obtain ⟨more, hmore⟩ : ∃ more, batch - ahead.length = more + 1 :=
      Nat.exists_eq_succ_of_ne_zero (Nat.sub_ne_zero_of_lt hshort)
    rw [List.take_append, List.take_of_length_le hshort.le, List.drop_append,
      List.drop_of_length_le hshort.le, List.nil_append, hmore, List.take_succ_cons,
      List.drop_succ_cons, remaining_append hreadable, remaining, hid]
    intro hmem
    have hsublist : (ahead.filter (fun id => (prospect id).isStaying) ++
        remaining prospect (behind.take more) ++ behind.drop more).Sublist (ahead ++ behind) := by
      rw [List.append_assoc]
      conv_rhs => rw [← List.take_append_drop more behind]
      exact List.filter_sublist.append
        ((remaining_sublist prospect _).append (List.Sublist.refl _))
    exact (List.nodup_middle.1 hnodup).notMem (hsublist.subset hmem)

end Prospect

namespace Store

/-- What taking up a candidate of this store comes to. -/
def prospect (rule : Comparison) (backends : List String) (store : Store) (id : String) :
    Prospect :=
  match store.loadRuns id with
  | .error _ => .unreadable
  | .ok results =>
      if results.any (·.isHandled) then .stays
      else
        match rule.verification? id results backends with
        | none => .stays
        | some verification => .leaves verification

/-- The store after taking up these candidates in turn. -/
def swept (rule : Comparison) (backends : List String) (store : Store) : List String → Store
  | [] => store
  | id :: rest =>
      match store.prospect rule backends id with
      | .unreadable => store
      | .stays => store.swept rule backends rest
      | .leaves verification =>
          (store.recordVerification verification).2.swept rule backends rest

/-- The store after a poll. -/
def polled (rule : Comparison) (backends : List String) (batch : Nat) (store : Store) : Store :=
  match store.pendingWithin backends batch with
  | .ok ids => store.swept rule backends ids
  | .error _ => store

variable {rule : Comparison} {backends : List String} {store : Store} {id : String}
  {verification : Verification} {taken left : List String} {batch : Nat}

theorem prospect_congr {other : Store} (h : other.loadRuns id = store.loadRuns id) :
    other.prospect rule backends id = store.prospect rule backends id := by
  rw [prospect, h, prospect]

theorem prospect_eq_leaves_iff :
    store.prospect rule backends id = .leaves verification ↔
      ∃ results, store.loadRuns id = .ok results ∧ results.any (·.isHandled) = false ∧
        rule.verification? id results backends = some verification := by
  unfold prospect
  cases hload : store.loadRuns id with
  | error fault => simp
  | ok results =>
      cases hhandled : results.any (·.isHandled) with
      | true =>
          dsimp only
          rw [if_pos hhandled]
          refine iff_of_false (by simp) ?_
          rintro ⟨found, hfound, hopen, -⟩
          obtain rfl := Except.ok.inj hfound
          exact absurd hhandled (by simp [hopen])
      | false =>
          dsimp only
          rw [if_neg (by simp [hhandled])]
          constructor
          · intro h
            split at h
            · cases h
            · next compared hcompared =>
                obtain rfl := Prospect.leaves.inj h
                exact ⟨results, rfl, hhandled, hcompared⟩
          · rintro ⟨found, hfound, -, hcompared⟩
            obtain rfl := Except.ok.inj hfound
            rw [hcompared]

theorem generation_of_prospect (h : store.prospect rule backends id = .leaves verification) :
    verification.generation = id := by
  obtain ⟨results, -, -, hcompared⟩ := prospect_eq_leaves_iff.1 h
  exact Comparison.generation_of_verification? hcompared

/-- Recording one candidate leaves the prospects of the others. -/
theorem prospect_recordVerification (h : id ≠ verification.generation) :
    (store.recordVerification verification).2.prospect rule backends id =
      store.prospect rule backends id :=
  prospect_congr (loadRuns_recordVerification h)

/-- **What waits after a batch was taken up.** -/
theorem waiting_swept (rule : Comparison) {front : List String}
    (h : store.waiting backends = front ++ taken ++ left) :
    (store.swept rule backends taken).waiting backends =
      front ++ Prospect.remaining (store.prospect rule backends) taken ++ left := by
  induction taken generalizing store front with
  | nil => exact h
  | cons id taken ih =>
      unfold swept Prospect.remaining
      cases hprospect : store.prospect rule backends id with
      | unreadable => exact h
      | stays =>
          have hnext : store.waiting backends = (front ++ [id]) ++ taken ++ left := by
            rw [h, List.append_cons]
          dsimp only
          rw [ih hnext, ← List.append_cons]
      | leaves verification =>
          have hgeneration := generation_of_prospect hprospect
          have hnodup : (front ++ id :: (taken ++ left)).Nodup := by
            rw [← List.cons_append, ← List.append_assoc, ← h]
            exact nodup_waiting store backends
          have hfresh : id ∉ front ++ (taken ++ left) := (List.nodup_middle.1 hnodup).notMem
          -- recording takes the candidate off the list
          have hnext : (store.recordVerification verification).2.waiting backends =
              front ++ taken ++ left := by
            rw [waiting_recordVerification, h, hgeneration, List.append_assoc, List.cons_append,
              List.filter_append, List.filter_cons_of_neg (by simp), ← List.filter_append,
              List.append_assoc, List.filter_eq_self]
            intro other hother
            exact bne_iff_ne.2 fun heq => hfresh (heq ▸ hother)
          have hothers : ∀ other ∈ taken,
              (store.recordVerification verification).2.prospect rule backends other =
                store.prospect rule backends other := by
            intro other hother
            refine prospect_recordVerification fun heq => hfresh ?_
            rw [← hgeneration, ← heq]
            exact List.mem_append_right _ (List.mem_append_left _ hother)
          dsimp only
          rw [ih hnext, Prospect.remaining_congr hothers]

/-- Whoever still waits is as before. -/
theorem kept_swept (h : id ∈ (store.swept rule backends taken).waiting backends) :
    (store.swept rule backends taken).loadRuns id = store.loadRuns id ∧
      (store.swept rule backends taken).verification? id = store.verification? id ∧
      id ∈ store.waiting backends := by
  induction taken generalizing store with
  | nil => exact ⟨rfl, rfl, h⟩
  | cons first rest ih =>
      unfold swept at h ⊢
      cases hprospect : store.prospect rule backends first with
      | unreadable =>
          rw [hprospect] at h
          exact ⟨rfl, rfl, h⟩
      | stays =>
          rw [hprospect] at h
          exact ih h
      | leaves verification =>
          rw [hprospect] at h
          obtain ⟨hload, hverification, hwaits⟩ := ih h
          rw [waiting_recordVerification, List.mem_filter, bne_iff_ne] at hwaits
          obtain ⟨hwaited, hne⟩ := hwaits
          exact ⟨hload.trans (loadRuns_recordVerification hne),
            hverification.trans (kept_recordVerification store hne).1, hwaited⟩

/-- What is recorded stays. -/
theorem verification?_swept_of_some {row : StoredVerification}
    (h : store.verification? id = some row) :
    (store.swept rule backends taken).verification? id = some row := by
  induction taken generalizing store with
  | nil => exact h
  | cons first rest ih =>
      unfold swept
      cases store.prospect rule backends first with
      | unreadable => exact h
      | stays => exact ih h
      | leaves verification =>
          refine ih ?_
          rw [verification?_recordVerification, h, Option.getD_some, ite_self]

theorem flipped_of_mem_waiting (h : verification.generation ∈ store.waiting backends) :
    (store.recordVerification verification).1 = true := by
  have hinhabited : backends ≠ [] := by
    rintro rfl
    cases h
  rw [waiting_eq hinhabited] at h
  obtain ⟨row, hrow, hgeneration⟩ := mem_lastIds.1 (List.mem_of_mem_filter h)
  obtain ⟨hmem, hopen⟩ := List.mem_filter.1 hrow
  refine recordVerification_flipped_iff.2 ⟨row, hmem, hgeneration, ?_⟩
  simpa using (Bool.and_eq_true_iff.1 hopen).1

/-- Whoever is taken off the list was recorded. -/
theorem recorded_of_swept (hprospect : store.prospect rule backends id = .leaves verification)
    (hwaits : id ∈ store.waiting backends) (hfirst : store.verification? id = none)
    (hleft : id ∉ (store.swept rule backends taken).waiting backends) :
    (store.swept rule backends taken).verification? id =
      some (.ofVerification verification) := by
  induction taken generalizing store with
  | nil => exact absurd hwaits hleft
  | cons first rest ih =>
      unfold swept at hleft ⊢
      cases hother : store.prospect rule backends first with
      | unreadable =>
          rw [hother] at hleft
          exact absurd hwaits hleft
      | stays =>
          rw [hother] at hleft
          exact ih hprospect hwaits hfirst hleft
      | leaves recorded =>
          rw [hother] at hleft
          have hgeneration := generation_of_prospect hother
          by_cases heq : id = first
          · subst heq
            obtain rfl := Prospect.leaves.inj (hother.symm.trans hprospect)
            refine verification?_swept_of_some ?_
            have hflips := flipped_of_mem_waiting (hgeneration.symm ▸ hwaits)
            rw [verification?_recordVerification, if_pos ⟨hflips, hgeneration⟩, hfirst]
            rfl
          · have hne : id ≠ recorded.generation := fun h => heq (h.trans hgeneration)
            refine ih ?_ ?_ ?_ hleft
            · rw [prospect_recordVerification hne, hprospect]
            · rw [waiting_recordVerification, List.mem_filter, bne_iff_ne]
              exact ⟨hwaits, hne⟩
            · rw [(kept_recordVerification store hne).1, hfirst]

/-! ### Polls one after another -/

theorem polled_of_many (hmany : backendsAtMost < backends.length) :
    store.polled rule backends batch = store := by
  rw [polled, pendingWithin, if_pos hmany]

theorem polled_eq (hatMost : backends.length ≤ backendsAtMost) :
    store.polled rule backends batch =
      store.swept rule backends ((store.waiting backends).take batch) := by
  rw [polled, pendingWithin, if_neg hatMost.not_gt, pending_eq_take]

/-- What waits before a candidate. -/
def ahead (store : Store) (backends : List String) (id : String) : List String :=
  (store.waiting backends).takeWhile (· != id)

/-- Nothing keeps polls from a candidate that waits. -/
structure Clear (rule : Comparison) (backends : List String) (batch : Nat) (store : Store)
    (id : String) : Prop where
  /-- The query for candidates can be made. -/
  atMost : backends.length ≤ backendsAtMost
  readable : ∀ other ∈ store.ahead backends id, ∃ results, store.loadRuns other = .ok results
  /-- Those before it that are handled elsewhere, or cannot be compared, leave room in a batch. -/
  room : ((store.ahead backends id).filter fun other =>
    (store.prospect rule backends other).isStaying).length < batch

theorem prospect_ne_unreadable_iff :
    store.prospect rule backends id ≠ .unreadable ↔ ∃ results, store.loadRuns id = .ok results := by
  unfold prospect
  cases store.loadRuns id with
  | error fault => simp
  | ok results =>
      refine iff_of_true ?_ ⟨results, rfl⟩
      dsimp only
      split
      · simp
      · split <;> simp

theorem clear_iff :
    store.Clear rule backends batch id ↔ backends.length ≤ backendsAtMost ∧
      ¬Prospect.Blocks (store.prospect rule backends) batch (store.ahead backends id) := by
  rw [Prospect.Blocks, not_or, not_le]
  simp only [not_exists, not_and]
  constructor
  · rintro ⟨hatMost, hreadable, hroom⟩
    exact ⟨hatMost, fun other hother => prospect_ne_unreadable_iff.2 (hreadable other hother), hroom⟩
  · rintro ⟨hatMost, hreadable, hroom⟩
    exact ⟨hatMost, fun other hother => prospect_ne_unreadable_iff.1 (hreadable other hother), hroom⟩

theorem exists_eq_takeWhile_append {ids : List String} (h : id ∈ ids) :
    ∃ behind, ids = ids.takeWhile (· != id) ++ id :: behind := by
  induction ids with
  | nil => cases h
  | cons first rest ih =>
      by_cases heq : first = id
      · exact ⟨rest, by simp [heq]⟩
      · obtain ⟨behind, hbehind⟩ := ih ((List.mem_cons.1 h).resolve_left (Ne.symm heq))
        exact ⟨behind, by simpa [List.takeWhile_cons, heq] using hbehind⟩

/-- Whoever waits has the prospects that are given. -/
def Expects (rule : Comparison) (backends : List String) (prospect : String → Prospect)
    (store : Store) : Prop :=
  ∀ id ∈ store.waiting backends, store.prospect rule backends id = prospect id

variable {prospect : String → Prospect} {front behind : List String}

/-- **One poll.** What waits is cut down, and who still waits is as before. -/
theorem polled_spec (batch : Nat) (hatMost : backends.length ≤ backendsAtMost)
    (hexpects : store.Expects rule backends prospect) :
    (store.polled rule backends batch).waiting backends =
        Prospect.afterPoll prospect batch (store.waiting backends) ∧
      (store.polled rule backends batch).Expects rule backends prospect ∧
      ∀ id ∈ (store.polled rule backends batch).waiting backends,
        (store.polled rule backends batch).verification? id = store.verification? id := by
  have hsplit : store.waiting backends =
      [] ++ (store.waiting backends).take batch ++ (store.waiting backends).drop batch := by
    rw [List.nil_append, List.take_append_drop]
  have htaken : ∀ id ∈ (store.waiting backends).take batch,
      store.prospect rule backends id = prospect id :=
    fun id hid => hexpects id (List.mem_of_mem_take hid)
  rw [polled_eq hatMost]
  refine ⟨?_, fun id hid => ?_, fun id hid => (kept_swept hid).2.1⟩
  · rw [waiting_swept rule hsplit, List.nil_append, Prospect.remaining_congr htaken]
    rfl
  · obtain ⟨hload, -, hwaits⟩ := kept_swept hid
    rw [prospect_congr hload, hexpects id hwaits]

/-- **A candidate that is blocked is never reached.** -/
theorem not_recorded_of_blocks (hatMost : backends.length ≤ backendsAtMost)
    (hexpects : store.Expects rule backends prospect)
    (hwaiting : store.waiting backends = front ++ id :: behind)
    (hblocks : Prospect.Blocks prospect batch front) (hfirst : store.verification? id = none)
    (polls : Nat) : ((Store.polled rule backends batch)^[polls] store).verification? id = none := by
  induction polls generalizing store front behind with
  | zero => exact hfirst
  | succ polls ih =>
      obtain ⟨hnext, hstill, hkept⟩ := polled_spec batch hatMost hexpects
      obtain ⟨before, after, hafter, hbefore⟩ := hblocks.afterPoll id behind
      rw [hwaiting, hafter] at hnext
      rw [Function.iterate_succ_apply]
      refine ih hstill hnext hbefore ?_
      rw [hkept id (hnext ▸ List.mem_append_right before List.mem_cons_self), hfirst]

/-- What is recorded stays, however many polls come. -/
theorem verification?_polls_of_some {row : StoredVerification}
    (h : store.verification? id = some row) (polls : Nat) :
    ((Store.polled rule backends batch)^[polls] store).verification? id = some row := by
  induction polls generalizing store with
  | zero => exact h
  | succ polls ih =>
      rw [Function.iterate_succ_apply]
      apply ih
      unfold polled
      split
      · exact verification?_swept_of_some h
      · exact h

/-- **A candidate that is not blocked is reached** as soon as there were as many polls as candidates
up to it. -/
theorem recorded_of_not_blocks (hatMost : backends.length ≤ backendsAtMost)
    (hexpects : store.Expects rule backends prospect)
    (hwaiting : store.waiting backends = front ++ id :: behind)
    (hblocks : ¬Prospect.Blocks prospect batch front)
    (hprospect : prospect id = .leaves verification) (hfirst : store.verification? id = none)
    {polls : Nat} (hpolls : front.length < polls) :
    ((Store.polled rule backends batch)^[polls] store).verification? id =
      some (.ofVerification verification) := by
  induction polls generalizing store front with
  | zero => exact absurd hpolls (Nat.not_lt_zero _)
  | succ polls ih =>
      obtain ⟨hnext, hstill, hkept⟩ := polled_spec batch hatMost hexpects
      have hwaits : id ∈ store.waiting backends :=
        hwaiting ▸ List.mem_append_right front List.mem_cons_self
      have hnodup : (front ++ id :: behind).Nodup := hwaiting ▸ nodup_waiting store backends
      rw [Function.iterate_succ_apply]
      rw [hwaiting] at hnext
      rcases Prospect.afterPoll_of_not_blocks hblocks hprospect hnodup with
        hgone | ⟨before, hafter, hcloser, hfree⟩
      · rw [← hnext, polled_eq hatMost] at hgone
        refine verification?_polls_of_some ?_ polls
        rw [polled_eq hatMost]
        exact recorded_of_swept (by rw [hexpects id hwaits, hprospect]) hwaits hfirst hgone
      · rw [hafter] at hnext
        refine ih hstill hnext hfree ?_ (by omega)
        rw [hkept id (hnext ▸ List.mem_append_right before List.mem_cons_self), hfirst]

/-! ### Documents of others -/

/-- The store with other texts in place of the results of all candidates but one. -/
def redocumented (store : Store) (id : String) (rewrite : StoredRun → String) : Store :=
  { store with runs := store.runs.map fun row =>
      if row.generation = id then row else { row with document := rewrite row } }

theorem lastIds_map {f : StoredRun → StoredRun} (hf : ∀ row, (f row).generation = row.generation)
    (rows : List StoredRun) : lastIds (rows.map f) = lastIds rows := by
  induction rows with
  | nil => rfl
  | cons row rest ih =>
      have hany : (rest.map f).any (·.generation == (f row).generation) =
          rest.any (·.generation == row.generation) := by
        simp only [List.any_map, Function.comp_def, hf]
      rw [List.map_cons, lastIds, lastIds, hany, ih, hf]

/-- Who waits is asked without reading documents. -/
theorem waiting_redocumented (store : Store) (id : String) (rewrite : StoredRun → String)
    (backends : List String) :
    (store.redocumented id rewrite).waiting backends = store.waiting backends := by
  set f := fun row : StoredRun =>
    if row.generation = id then row else { row with document := rewrite row } with hf
  have hgeneration : ∀ row, (f row).generation = row.generation := by
    intro row
    simp only [hf]
    split <;> rfl
  have hcounts : ∀ row, (!(f row).handled && backends.contains (f row).backend) =
      (!row.handled && backends.contains row.backend) := by
    intro row
    simp only [hf]
    split <;> rfl
  have hopen : (store.redocumented id rewrite).openRuns backends =
      (store.openRuns backends).map f := by
    rw [openRuns, redocumented, List.filter_map, openRuns]
    exact congrArg _ (List.filter_congr fun row _ => hcounts row)
  by_cases hempty : backends = []
  · subst hempty
    rfl
  · rw [waiting_eq hempty, waiting_eq hempty, hopen, lastIds_map hgeneration]
    refine List.filter_congr fun other _ => ?_
    rw [List.filter_map, List.length_map]
    simp only [Function.comp_def, hgeneration]

theorem loadRuns_redocumented (store : Store) (id : String) (rewrite : StoredRun → String) :
    (store.redocumented id rewrite).loadRuns id = store.loadRuns id := by
  have hrows : (store.redocumented id rewrite).runs.filter (·.generation == id) =
      store.runs.filter (·.generation == id) := by
    rw [redocumented]
    dsimp only
    induction store.runs with
    | nil => rfl
    | cons row rest ih =>
        by_cases hid : row.generation = id
        · simpa [hid] using ih
        · simpa [hid] using ih
  rw [loadRuns, runsOf, hrows, loadRuns, runsOf]

/-- A candidate that waits and has no handled result has the prospect of being recorded. -/
theorem exists_prospect_of_waiting {operations : List Operation} {results : List RunResult}
    (rule : Comparison) (hinhabited : backends ≠ []) (hnodup : backends.Nodup)
    (hwaits : id ∈ (after operations).waiting backends)
    (hload : (after operations).loadRuns id = .ok results)
    (hopen : results.any (·.isHandled) = false) :
    ∃ verification, rule.verification? id results backends = some verification ∧
      (after operations).verification? id = none := by
  have hall : results.filter (fun result => !result.isHandled) = results := by
    rw [List.filter_eq_self]
    simpa using hopen
  have hsome := ((sound_after operations).isSome_verification?_unhandled_iff hload rule backends).2
    ((mem_waiting_iff (sound_after operations) hinhabited hnodup).1 hwaits)
  rw [hall] at hsome
  obtain ⟨verification, hverification⟩ := Option.isSome_iff_exists.1 hsome
  refine ⟨verification, hverification, ?_⟩
  rw [← Option.not_isSome_iff_eq_none, verification?_isSome_iff]
  rintro ⟨backend, row, hrow, hhandled⟩
  have hany := (any_isHandled_iff hload).2
    ⟨row, List.mem_of_find?_eq_some hrow, (run?_eq_some_key hrow).1, hhandled⟩
  rw [hopen] at hany
  cases hany

end Store

namespace Verifier

variable {context : Context} {rule : Comparison} {pipeline : Pipeline} {id : String}
  {batch : Nat}

theorem not_transient_of_loadRuns {store : Store} {fault : Store.Fault}
    (h : store.loadRuns id = .error fault) : Transient.transient fault = false := by
  obtain ⟨row, -, hrow⟩ := exists_error_of_mapM h
  unfold Store.decodeRun Store.decode at hrow
  cases hread : RunResult.decoder.read? row.document with
  | none =>
      rw [hread] at hrow
      obtain rfl := Except.error.inj hrow
      rfl
  | some read =>
      rw [hread] at hrow
      cases hrow

/-- The pipeline after a candidate was taken up where accesses go through. -/
theorem verify_of_undisturbed (context : Context) (rule : Comparison) (id : String)
    (hundisturbed : pipeline.Undisturbed) :
    match pipeline.store.prospect rule context.backends id with
    | .unreadable => ∃ failure, (verify context rule id).run pipeline = (.error failure, pipeline)
    | .stays => ∃ progress, (verify context rule id).run pipeline = (.ok progress, pipeline)
    | .leaves verification => ∃ progress, (verify context rule id).run pipeline =
        (.ok progress,
          { pipeline with store := (pipeline.store.recordVerification verification).2 }) := by
  unfold verify Store.prospect
  rw [Attempt.bind_apply, Pipeline.loadRunResults]
  cases hload : pipeline.store.loadRuns id with
  | error fault =>
      have hreadable : Pipeline.readable (·.loadRuns id) pipeline.store = .error fault := by
        rw [Pipeline.readable, hload]
        rfl
      rw [context.needStore_of_lasting "document store unavailable" "load run results"
        .loadRunResults (Pipeline.readable (·.loadRuns id)) hundisturbed hreadable
        (not_transient_of_loadRuns hload)]
      exact ⟨_, rfl⟩
  | ok results =>
      rw [needStore_readable context "document store unavailable" "load run results"
        .loadRunResults (·.loadRuns id) hundisturbed hload]
      dsimp only
      by_cases hhandled : results.any (·.isHandled) = true
      · rw [if_pos hhandled, if_pos hhandled]
        exact ⟨_, rfl⟩
      · rw [if_neg hhandled, if_neg hhandled]
        cases rule.verification? id results context.backends with
        | none => exact ⟨_, rfl⟩
        | some verification =>
            dsimp only
            unfold record
            rw [Attempt.bind_apply, Pipeline.recordVerification,
              context.needStore_of_undisturbed "failed to record verification"
                "record verification" .recordVerification
                (fun store => .ok (store.recordVerification verification)) hundisturbed rfl]
            exact ⟨_, rfl⟩

theorem verifyAll_swept (context : Context) (rule : Comparison) (ids : List String)
    (hundisturbed : pipeline.Undisturbed) :
    ((verifyAll context rule ids).run pipeline).2 =
      { pipeline with store := pipeline.store.swept rule context.backends ids } := by
  induction ids generalizing pipeline with
  | nil => rfl
  | cons id rest ih =>
      have hverify := verify_of_undisturbed context rule id hundisturbed
      have hnext : ∀ later : Pipeline, ∀ progress : Progress,
          later.Undisturbed → ((do
            let more ← verifyAll context rule rest
            pure ((if progress.isRecorded then 1 else 0) + more) : Attempt Nat).run later).2 =
          { later with store := later.store.swept rule context.backends rest } := by
        intro later progress hlater
        rw [Attempt.bind_apply, ← ih hlater]
        cases (verifyAll context rule rest).run later with
        | mk answer last => cases answer <;> rfl
      unfold verifyAll Store.swept
      rw [Attempt.bind_apply]
      cases hprospect : pipeline.store.prospect rule context.backends id with
      | unreadable =>
          rw [hprospect] at hverify
          obtain ⟨failure, hfailure⟩ := hverify
          rw [hfailure]
      | stays =>
          rw [hprospect] at hverify
          obtain ⟨progress, hprogress⟩ := hverify
          rw [hprogress]
          exact hnext pipeline progress hundisturbed
      | leaves verification =>
          rw [hprospect] at hverify
          obtain ⟨progress, hprogress⟩ := hverify
          rw [hprogress]
          exact hnext _ progress (hundisturbed.withStore _)

theorem pollOnce_polled (context : Context) (rule : Comparison) (batch : Nat)
    (hundisturbed : pipeline.Undisturbed) :
    ((pollOnce context rule batch).run pipeline).2 =
      { pipeline with store := pipeline.store.polled rule context.backends batch } := by
  by_cases hmany : Store.backendsAtMost < context.backends.length
  · rw [pollOnce_of_many context rule batch hundisturbed hmany, Store.polled_of_many hmany]
  · have hpending : pipeline.store.pendingWithin context.backends batch =
        .ok ((pipeline.store.waiting context.backends).take batch) := by
      rw [Store.pendingWithin, if_neg hmany, Store.pending_eq_take]
    have hasks := needStore_readable context "document store unavailable"
      "poll pending generations" .pendingGenerations (·.pendingWithin context.backends batch)
      hundisturbed hpending
    unfold pollOnce
    rw [Attempt.bind_apply, Pipeline.pendingGenerations, hasks, Store.polled_eq (not_lt.1 hmany)]
    exact verifyAll_swept context rule _ hundisturbed

/-- The pipeline after polls one after another, whether they fail or not. -/
def afterPolls (context : Context) (rule : Comparison) (batch polls : Nat)
    (pipeline : Pipeline) : Pipeline :=
  (fun pipeline => ((pollOnce context rule batch).run pipeline).2)^[polls] pipeline

theorem store_afterPolls (context : Context) (rule : Comparison) (batch polls : Nat)
    (hundisturbed : pipeline.Undisturbed) :
    (afterPolls context rule batch polls pipeline).store =
      (Store.polled rule context.backends batch)^[polls] pipeline.store := by
  unfold afterPolls
  induction polls generalizing pipeline with
  | zero => rfl
  | succ polls ih =>
      rw [Function.iterate_succ_apply, Function.iterate_succ_apply,
        pollOnce_polled context rule batch hundisturbed]
      exact ih (hundisturbed.withStore _)

/-- A candidate that waits in a store where only the results of others may be unreadable, and none
of its own results is handled. -/
structure Waits (context : Context) (pipeline : Pipeline) (id : String)
    (results : List RunResult) : Prop where
  inhabited : context.backends ≠ []
  nodup : context.backends.Nodup
  undisturbed : pipeline.Undisturbed
  store : ∃ operations rewrite, pipeline.store = (Store.after operations).redocumented id rewrite
  waits : id ∈ pipeline.store.waiting context.backends
  load : pipeline.store.loadRuns id = .ok results
  unhandled : results.any (·.isHandled) = false

theorem Waits.exists_prospect {results : List RunResult} (h : Waits context pipeline id results)
    (rule : Comparison) :
    ∃ verification, rule.verification? id results context.backends = some verification ∧
      pipeline.store.prospect rule context.backends id = .leaves verification ∧
      pipeline.store.verification? id = none := by
  obtain ⟨operations, rewrite, hstore⟩ := h.store
  have hwaits := h.waits
  have hload := h.load
  rw [hstore, Store.waiting_redocumented] at hwaits
  rw [hstore, Store.loadRuns_redocumented] at hload
  obtain ⟨verification, hcompared, hfirst⟩ := Store.exists_prospect_of_waiting rule h.inhabited
    h.nodup hwaits hload h.unhandled
  refine ⟨verification, hcompared, ?_, ?_⟩
  · exact Store.prospect_eq_leaves_iff.2 ⟨results, h.load, h.unhandled, hcompared⟩
  · rw [hstore]
    exact hfirst

/-- While something before a candidate keeps polls from it, no poll reaches it. -/
theorem not_recorded_of_not_clear {results : List RunResult}
    (h : Waits context pipeline id results)
    (hobstructed : ¬pipeline.store.Clear rule context.backends batch id) (polls : Nat) :
    (afterPolls context rule batch polls pipeline).store.verification? id = none := by
  obtain ⟨verification, -, -, hfirst⟩ := h.exists_prospect rule
  rw [store_afterPolls context rule batch polls h.undisturbed]
  by_cases hatMost : context.backends.length ≤ Store.backendsAtMost
  · obtain ⟨behind, hbehind⟩ := Store.exists_eq_takeWhile_append h.waits
    rw [Store.clear_iff, not_and, not_not] at hobstructed
    exact Store.not_recorded_of_blocks hatMost (fun _ _ => rfl) hbehind (hobstructed hatMost)
      hfirst polls
  · have hsame : Store.polled rule context.backends batch pipeline.store = pipeline.store :=
      Store.polled_of_many (not_le.1 hatMost)
    rw [Function.iterate_fixed hsame, hfirst]

/-- **Who is in the way.** Once there were as many polls as candidates that waited, a candidate is
verified exactly if nothing before it kept polls from it; else it never is. -/
theorem recorded_iff_clear {results : List RunResult} (h : Waits context pipeline id results)
    (rule : Comparison) (batch : Nat) :
    ∃ verification, rule.verification? id results context.backends = some verification ∧
      ∀ polls,
        ((pipeline.store.waiting context.backends).length ≤ polls →
          ((afterPolls context rule batch polls pipeline).store.verification? id =
              some (.ofVerification verification) ↔
            pipeline.store.Clear rule context.backends batch id)) ∧
        (¬pipeline.store.Clear rule context.backends batch id →
          (afterPolls context rule batch polls pipeline).store.verification? id = none) := by
  obtain ⟨verification, hcompared, hprospect, hfirst⟩ := h.exists_prospect rule
  refine ⟨verification, hcompared, fun polls => ⟨fun hpolls => ?_, fun hobstructed =>
    not_recorded_of_not_clear h hobstructed polls⟩⟩
  constructor
  · intro hrecorded
    by_contra hobstructed
    rw [not_recorded_of_not_clear h hobstructed polls] at hrecorded
    cases hrecorded
  · intro hclear
    obtain ⟨hatMost, hfree⟩ := Store.clear_iff.1 hclear
    obtain ⟨behind, hbehind⟩ := Store.exists_eq_takeWhile_append h.waits
    rw [store_afterPolls context rule batch polls h.undisturbed]
    refine Store.recorded_of_not_blocks hatMost (fun _ _ => rfl) hbehind hfree hprospect hfirst ?_
    rw [hbehind, List.length_append, List.length_cons] at hpolls
    change (Store.ahead _ _ _).length < polls
    unfold Store.ahead
    omega

/-- Two candidates with a result on both backends, and other texts for those of the first. -/
def behind (rewrite : StoredRun → String) : Pipeline where
  store := (Store.after [.upsertRun ⟨"g", "ivy", [], false⟩, .upsertRun ⟨"g", "boa", [], false⟩,
    .upsertRun ⟨"h", "ivy", [], false⟩, .upsertRun ⟨"h", "boa", [], false⟩]).redocumented "h" rewrite

theorem waiting_behind (rewrite : StoredRun → String) :
    (behind rewrite).store.waiting ["ivy", "boa"] = ["g", "h"] := by
  rw [behind, Store.waiting_redocumented]
  decide +kernel

theorem waits_behind (rewrite : StoredRun → String) :
    Waits ⟨["ivy", "boa"], .standard⟩ (behind rewrite) "h"
      [⟨"h", "boa", [], false⟩, ⟨"h", "ivy", [], false⟩] where
  inhabited := by decide
  nodup := by decide
  undisturbed := ⟨rfl, fun _ => rfl⟩
  store := ⟨_, rewrite, rfl⟩
  waits := by
    rw [waiting_behind]
    decide
  load := by
    have hdecode := fun backend =>
      Store.decodeRun_of_durable (Store.durable_of_no_calls "h" backend) false
    rw [behind, Store.loadRuns_redocumented]
    exact mapM_eq_ok_iff.2 (.cons (hdecode "boa") (.cons (hdecode "ivy") .nil))
  unhandled := rfl

theorem ahead_behind (rewrite : StoredRun → String) :
    (behind rewrite).store.ahead ["ivy", "boa"] "h" = ["g"] := by
  rw [Store.ahead, waiting_behind]
  rfl

/-- The documents as they were written. -/
theorem clear_behind (rule : Comparison) :
    (behind (·.document)).store.Clear rule ["ivy", "boa"] 2 "h" where
  atMost := by decide
  readable other hother := by
    rw [ahead_behind, List.mem_singleton] at hother
    subst hother
    have hdecode := fun backend =>
      Store.decodeRun_of_durable (Store.durable_of_no_calls "g" backend) false
    exact ⟨_, mapM_eq_ok_iff.2 (.cons (hdecode "boa") (.cons (hdecode "ivy") .nil))⟩
  room := by
    rw [ahead_behind]
    exact (List.length_filter_le _ _).trans_lt (by decide)

/-- No document at all. -/
theorem not_clear_behind (rule : Comparison) (batch : Nat) :
    ¬(behind fun _ => "").store.Clear rule ["ivy", "boa"] batch "h" := by
  intro h
  obtain ⟨results, hload⟩ := h.readable "g" (by rw [ahead_behind]; decide)
  have hdamaged : (behind fun _ => "").store.loadRuns "g" = .error (.malformed "g") := rfl
  rw [hdamaged] at hload
  cases hload

/-- Two polls are enough for two candidates, and no number of them is if the first is damaged. -/
theorem recorded_behind :
    (∃ verification, (afterPolls ⟨["ivy", "boa"], .standard⟩ {} 2 2
        (behind (·.document))).store.verification? "h" = some (.ofVerification verification)) ∧
      ∀ polls, (afterPolls ⟨["ivy", "boa"], .standard⟩ {} 2 polls
        (behind fun _ => "")).store.verification? "h" = none := by
  constructor
  · obtain ⟨verification, -, hpolls⟩ := recorded_iff_clear (waits_behind (·.document)) {} 2
    have hwaiting : ((behind (·.document)).store.waiting ["ivy", "boa"]).length ≤ 2 := by
      rw [waiting_behind]
      decide
    exact ⟨verification, ((hpolls 2).1 hwaiting).2 (clear_behind {})⟩
  · obtain ⟨verification, -, hpolls⟩ := recorded_iff_clear (waits_behind fun _ => "") {} 2
    exact fun polls => (hpolls polls).2 (not_clear_behind {} 2)

/-- A candidate is never verified behind one that cannot be read. -/
theorem not_recorded_behind :
    ¬∀ context rule batch pipeline id results, Waits context pipeline id results →
      context.backends.length ≤ Store.backendsAtMost → 1 ≤ batch →
        ∃ verification, rule.verification? id results context.backends = some verification ∧
          (afterPolls context rule batch (pipeline.store.waiting context.backends).length
            pipeline).store.verification? id = some (.ofVerification verification) := by
  intro h
  obtain ⟨verification, -, hrecorded⟩ := h _ {} 1 _ _ _ (waits_behind fun _ => "")
    (by decide) le_rfl
  rw [not_recorded_of_not_clear (waits_behind _) (not_clear_behind {} 1)] at hrecorded
  cases hrecorded

end Verifier

end Concord
