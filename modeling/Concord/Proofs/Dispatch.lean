import Mathlib
import Concord.Proofs.Desk
import Concord.Proofs.Store.Candidates

/-!
# No candidate is marked before its jobs are out

A call may stop between any two accesses, and the next one starts over with the candidates that are
not marked. So jobs may be out twice, but no candidate that compiled is marked without them. Where no
call fails, each queue has had the jobs of the marked candidates once, in order.
-/

namespace Concord

def Store.enqueued (store : Store) : Nat :=
  store.generations.countP (·.enqueued)

namespace Desk

variable {acts before rest : List Act} {backends : List String} {id : String}

/-! ### What acts make of the candidates -/

/-- The candidates after these acts, in the order in which they came. -/
def rows (acts : List Act) : List StoredGeneration :=
  (replay acts).store.generations

theorem rows_inserted (acts : List Act) (generation : Generation) :
    rows (acts ++ [.inserted generation]) =
      rows acts ++ (replay acts).store.added (.insertGeneration generation) := by
  rw [rows, replay_concat]
  exact (Store.generations_perform _ _).trans (congrArg (· ++ _) (List.map_id _))

theorem rows_published (acts : List Act) (queue : String) (job : Job) :
    rows (acts ++ [.published queue job]) = rows acts := by
  rw [rows, replay_concat]
  rfl

theorem rows_marked (acts : List Act) (id : String) :
    rows (acts ++ [.marked id]) =
      (rows acts).map (Store.Operation.markEnqueued id).flagged := by
  rw [rows, replay_concat]
  exact (Store.generations_perform _ _).trans (List.append_nil _)

theorem enqueued_of_mem_added {store : Store} {generation : Generation} {row : StoredGeneration}
    (h : row ∈ store.added (.insertGeneration generation)) : row.enqueued = false := by
  unfold Store.added at h
  dsimp only at h
  split at h
  · cases h
  · rw [List.mem_singleton.1 h]
    rfl

theorem exists_operations (acts : List Act) :
    ∃ operations, (replay acts).store = Store.after operations := by
  refine Pipeline.store_moveAll (fun store => ∃ operations, store = Store.after operations) ?_
    ⟨[], rfl⟩ (acts.map Act.move)
  rintro store operation ⟨operations, rfl⟩
  exact ⟨operations ++ [operation], (Store.after_concat operations operation).symm⟩

theorem nodup_rows (acts : List Act) : ((rows acts).map (·.id)).Nodup := by
  obtain ⟨operations, hstore⟩ := exists_operations acts
  rw [rows, hstore]
  exact Store.nodup_generations operations

theorem inserted_replay (acts : List Act) : (replay acts).store.Inserted := by
  refine Pipeline.store_moveAll Store.Inserted (fun _ operation h => h.perform operation) ?_
    (acts.map Act.move)
  rintro row ⟨⟩

/-- Marking a candidate touches no other row. -/
theorem rows_marked_of_split {done waiting : List StoredGeneration} {row : StoredGeneration}
    (h : rows acts = done ++ row :: waiting) :
    rows (acts ++ [.marked row.id]) = done ++ { row with enqueued := true } :: waiting := by
  have hnodup := nodup_rows acts
  rw [h, List.map_append, List.map_cons] at hnodup
  obtain ⟨-, hrest, hdisjoint⟩ := List.nodup_append'.1 hnodup
  have hsame : ∀ others : List StoredGeneration, (∀ other ∈ others, other.id ≠ row.id) →
      others.map (Store.Operation.markEnqueued row.id).flagged = others := by
    intro others hothers
    refine (List.map_congr_left fun other hother => ?_).trans (List.map_id others)
    exact if_neg (hothers other hother)
  have hdone : ∀ other ∈ done, other.id ≠ row.id := fun other hother heq =>
    hdisjoint (List.mem_map_of_mem hother) (heq ▸ List.mem_cons_self)
  have hwaiting : ∀ other ∈ waiting, other.id ≠ row.id := fun other hother heq =>
    (List.nodup_cons.1 hrest).1 (heq ▸ List.mem_map_of_mem hother)
  rw [rows_marked, h, List.map_append, List.map_cons, hsame done hdone, hsame waiting hwaiting,
    Store.Operation.flagged, if_pos rfl]

/-- A candidate is there, and it did not compile, or it did. -/
def Known (id : String) (broken : Bool) (acts : List Act) : Prop :=
  ∃ row ∈ rows acts, row.id = id ∧ row.compileError.isSome = broken

theorem Known.concat {broken : Bool} (h : Known id broken acts) (act : Act) :
    Known id broken (acts ++ [act]) := by
  obtain ⟨row, hrow, hid, hbroken⟩ := h
  cases act with
  | inserted generation =>
      rw [Known, rows_inserted]
      exact ⟨row, List.mem_append_left _ hrow, hid, hbroken⟩
  | published queue job =>
      rw [Known, rows_published]
      exact ⟨row, hrow, hid, hbroken⟩
  | marked other =>
      rw [Known, rows_marked]
      refine ⟨_, List.mem_map_of_mem hrow, ?_, ?_⟩
      · rw [Store.Operation.id_flagged, hid]
      · rw [Store.Operation.compileError_flagged, hbroken]

theorem Known.append {broken : Bool} (h : Known id broken acts) (rest : List Act) :
    Known id broken (acts ++ rest) := by
  induction rest generalizing acts with
  | nil => rwa [List.append_nil]
  | cons act rest ih =>
      rw [List.append_cons]
      exact ih (h.concat act)

theorem Known.of_mem {row : StoredGeneration} (h : row ∈ rows acts) :
    Known row.id row.compileError.isSome acts :=
  ⟨row, h, rfl, rfl⟩

theorem Known.unique {broken other : Bool} (h : Known id broken acts) (h' : Known id other acts) :
    broken = other := by
  obtain ⟨row, hrow, hid, rfl⟩ := h
  obtain ⟨row', hrow', hid', rfl⟩ := h'
  rw [List.inj_on_of_nodup_map (nodup_rows acts) hrow hrow' (hid.trans hid'.symm)]

/-! ### What must have been done before -/

/-- Jobs go to backends of the list, for candidates that compiled. A candidate is marked that is not
marked yet, after its jobs are out if it compiled. -/
def Warranted (backends : List String) (before : List Act) : Act → Prop
  | .inserted _ => True
  | .published queue job =>
      job.backend = queue ∧ queue ∈ backends ∧ Known job.generation false before
  | .marked id => (∃ row ∈ rows before, row.id = id ∧ row.enqueued = false) ∧
      (Known id false before → ∀ backend ∈ backends, .published backend ⟨id, backend⟩ ∈ before)

def Lawful (backends : List String) (acts : List Act) : Prop :=
  ∀ before act rest, acts = before ++ act :: rest → Warranted backends before act

theorem Lawful.concat (h : Lawful backends acts) {act : Act} (hact : Warranted backends acts act) :
    Lawful backends (acts ++ [act]) := by
  intro before last rest hsplit
  cases rest using List.reverseRecOn with
  | nil =>
      obtain ⟨rfl, hlast⟩ := List.append_inj' hsplit rfl
      rwa [← List.singleton_inj.1 hlast]
  | append_singleton rest final =>
      rw [← List.cons_append, ← List.append_assoc] at hsplit
      exact h before last rest (List.append_inj' hsplit rfl).1

theorem Lawful.of_append (h : Lawful backends (acts ++ rest)) : Lawful backends acts := by
  intro before act after hsplit
  refine h before act (after ++ rest) ?_
  rw [hsplit, List.append_assoc, List.cons_append]

theorem exists_marked_of_enqueued {row : StoredGeneration} (hrow : row ∈ rows acts)
    (henqueued : row.enqueued = true) :
    ∃ before rest, acts = before ++ .marked row.id :: rest := by
  induction acts using List.reverseRecOn generalizing row with
  | nil => cases hrow
  | append_singleton acts act ih =>
      have hlater : (∃ old ∈ rows acts, old.enqueued = true ∧ old.id = row.id) →
          ∃ before rest, acts ++ [act] = before ++ .marked row.id :: rest := by
        rintro ⟨old, hold, holdEnqueued, hid⟩
        obtain ⟨before, rest, hsplit⟩ := ih hold holdEnqueued
        rw [hid] at hsplit
        exact ⟨before, rest ++ [act], by rw [hsplit, List.append_assoc, List.cons_append]⟩
      cases act with
      | inserted generation =>
          rw [rows_inserted] at hrow
          rcases List.mem_append.1 hrow with hrow | hadded
          · exact hlater ⟨row, hrow, henqueued, rfl⟩
          · rw [enqueued_of_mem_added hadded] at henqueued
            cases henqueued
      | published queue job =>
          rw [rows_published] at hrow
          exact hlater ⟨row, hrow, henqueued, rfl⟩
      | marked id =>
          rw [rows_marked] at hrow
          obtain ⟨old, hold, rfl⟩ := List.mem_map.1 hrow
          by_cases hid : old.id = id
          · refine ⟨acts, [], ?_⟩
            rw [Store.Operation.id_flagged, hid]
          · have hsame : (Store.Operation.markEnqueued id).flagged old = old := if_neg hid
            rw [hsame] at henqueued hlater ⊢
            exact hlater ⟨old, hold, henqueued, rfl⟩

/-- **Jobs first.** A candidate that is marked was marked once all its jobs were out. -/
theorem Lawful.jobs_out (h : Lawful backends acts) {row : StoredGeneration}
    (hrow : row ∈ rows acts) (henqueued : row.enqueued = true) :
    ∃ before rest, acts = before ++ .marked row.id :: rest ∧
      (∃ old ∈ rows before, old.id = row.id ∧ old.enqueued = false) ∧
      (row.compileError = none →
        ∀ backend ∈ backends, .published backend ⟨row.id, backend⟩ ∈ before) := by
  obtain ⟨before, rest, rfl⟩ := exists_marked_of_enqueued hrow henqueued
  obtain ⟨⟨old, hold, hid, hopen⟩, hjobs⟩ := h before (.marked row.id) rest rfl
  refine ⟨before, rest, rfl, ⟨old, hold, hid, hopen⟩, fun hcompiled => hjobs ?_⟩
  have hknown := Known.of_mem hold
  rw [hid] at hknown
  have hsame := (hknown.append (.marked row.id :: rest)).unique (Known.of_mem hrow)
  rwa [hsame, hcompiled] at hknown

theorem Lawful.compileError_of_published (h : Lawful backends acts) {queue : String} {job : Job}
    (hjob : .published queue job ∈ acts) {row : StoredGeneration} (hrow : row ∈ rows acts)
    (hid : row.id = job.generation) : row.compileError = none := by
  obtain ⟨before, rest, rfl⟩ := List.append_of_mem hjob
  obtain ⟨-, -, hknown⟩ := h before (.published queue job) rest rfl
  have hsame := (hknown.append (.published queue job :: rest)).unique (hid ▸ Known.of_mem hrow)
  simpa using hsame.symm

/-! ### Jobs in order -/

def jobsOn (name : String) (acts : List Act) : List Job :=
  acts.filterMap fun
    | .published queue job => if queue = name then some job else none
    | _ => none

/-- The jobs on a queue for a candidate that goes to these backends. -/
def jobsTo (backends : List String) (id name : String) : List Job :=
  List.replicate (backends.count name) ⟨id, name⟩

/-- The jobs on a queue that a candidate is owed, which are none if it did not compile. -/
def jobsFor (backends : List String) (name : String) (row : StoredGeneration) : List Job :=
  if row.compileError.isNone then jobsTo backends row.id name else []

theorem jobsOn_inserted (name : String) (acts : List Act) (generation : Generation) :
    jobsOn name (acts ++ [.inserted generation]) = jobsOn name acts := by
  rw [jobsOn, List.filterMap_append]
  exact List.append_nil _

theorem jobsOn_marked (name : String) (acts : List Act) (id : String) :
    jobsOn name (acts ++ [.marked id]) = jobsOn name acts := by
  rw [jobsOn, List.filterMap_append]
  exact List.append_nil _

theorem jobsOn_published (name : String) (acts : List Act) (queue : String) (job : Job) :
    jobsOn name (acts ++ [.published queue job]) =
      jobsOn name acts ++ if queue = name then [job] else [] := by
  rw [jobsOn, List.filterMap_append]
  by_cases heq : queue = name
  · simp [jobsOn, heq]
  · simp [jobsOn, heq]

theorem jobsTo_concat (backends : List String) (backend id name : String) :
    jobsTo (backends ++ [backend]) id name =
      jobsTo backends id name ++ if backend = name then [⟨id, backend⟩] else [] := by
  unfold jobsTo
  rw [List.count_append, List.count_singleton, List.replicate_add]
  by_cases heq : backend = name
  · simp [heq]
  · simp [heq]

/-- The candidates that are marked come first and each queue has had their jobs, and then `extra`.
Those that wait begin with `ids`. -/
structure Split (backends ids : List String) (extra : String → List Job)
    (done waiting : List StoredGeneration) (acts : List Act) : Prop where
  rows_eq : rows acts = done ++ waiting
  marked : ∀ row ∈ done, row.enqueued = true
  unmarked : ∀ row ∈ waiting, row.enqueued = false
  first : ids <+: waiting.map (·.id)
  jobs : ∀ name, jobsOn name acts = done.flatMap (jobsFor backends name) ++ extra name

def InOrder (backends ids : List String) (extra : String → List Job) (acts : List Act) : Prop :=
  ∃ done waiting, Split backends ids extra done waiting acts

section InOrder

variable {ids : List String} {extra : String → List Job}

theorem InOrder.inserted (h : InOrder backends ids extra acts) (generation : Generation) :
    InOrder backends ids extra (acts ++ [.inserted generation]) := by
  obtain ⟨done, waiting, hsplit⟩ := h
  refine ⟨done, waiting ++ (replay acts).store.added (.insertGeneration generation), ?_, hsplit.marked,
    ?_, ?_, ?_⟩
  · rw [rows_inserted, hsplit.rows_eq, List.append_assoc]
  · intro row hrow
    rcases List.mem_append.1 hrow with hrow | hrow
    · exact hsplit.unmarked row hrow
    · exact enqueued_of_mem_added hrow
  · rw [List.map_append]
    exact hsplit.first.trans (List.prefix_append _ _)
  · intro name
    rw [jobsOn_inserted, hsplit.jobs name]

theorem InOrder.published {done : List String} {backend : String}
    (h : InOrder backends ids (jobsTo done id) acts) :
    InOrder backends ids (jobsTo (done ++ [backend]) id)
      (acts ++ [.published backend ⟨id, backend⟩]) := by
  obtain ⟨marked, waiting, hsplit⟩ := h
  refine ⟨marked, waiting, ?_, hsplit.marked, hsplit.unmarked, hsplit.first, ?_⟩
  · rw [rows_published, hsplit.rows_eq]
  · intro name
    rw [jobsOn_published, hsplit.jobs name, jobsTo_concat, List.append_assoc]

theorem InOrder.exists_first (h : InOrder backends (id :: ids) extra acts) :
    ∃ row ∈ rows acts, row.id = id ∧ row.enqueued = false := by
  obtain ⟨done, waiting, hsplit⟩ := h
  have hfirst : id ∈ waiting.map (·.id) := hsplit.first.subset List.mem_cons_self
  obtain ⟨row, hrow, hid⟩ := List.mem_map.1 hfirst
  exact ⟨row, hsplit.rows_eq ▸ List.mem_append_right done hrow, hid, hsplit.unmarked row hrow⟩

theorem InOrder.marked {broken : Bool} (hknown : Known id broken acts)
    (h : InOrder backends (id :: ids)
      (fun name => if broken then [] else jobsTo backends id name) acts) :
    InOrder backends ids (fun _ => []) (acts ++ [.marked id]) := by
  obtain ⟨done, waiting, hsplit⟩ := h
  obtain ⟨more, hids⟩ := hsplit.first
  cases waiting with
  | nil => cases hids
  | cons row waiting =>
      obtain ⟨rfl, hmore⟩ := List.cons.inj hids
      have hrow : row ∈ rows acts :=
        hsplit.rows_eq ▸ List.mem_append_right done List.mem_cons_self
      have hbroken := (Known.of_mem hrow).unique hknown
      refine ⟨done ++ [{ row with enqueued := true }], waiting, ?_, ?_, ?_, ⟨more, hmore⟩, ?_⟩
      · rw [rows_marked_of_split hsplit.rows_eq, List.append_assoc, List.singleton_append]
      · intro other hother
        rcases List.mem_append.1 hother with hother | hother
        · exact hsplit.marked other hother
        · rw [List.mem_singleton.1 hother]
      · exact fun other hother => hsplit.unmarked other (List.mem_cons_of_mem row hother)
      · intro name
        rw [jobsOn_marked, hsplit.jobs name, List.flatMap_append, List.flatMap_singleton,
          List.append_nil, jobsFor, ← hbroken]
        cases row.compileError <;> rfl

/-- A batch is made of the first candidates that wait. -/
theorem InOrder.unqueued (h : InOrder backends [] extra acts) (batch : Nat) :
    InOrder backends ((replay acts).store.unqueued batch) extra acts := by
  obtain ⟨done, waiting, hsplit⟩ := h
  refine ⟨done, waiting, hsplit.rows_eq, hsplit.marked, hsplit.unmarked, ?_, hsplit.jobs⟩
  have hfilter : (replay acts).store.generations.filter (fun row => !row.enqueued) = waiting := by
    refine (congrArg (List.filter _) hsplit.rows_eq).trans ?_
    rw [List.filter_append, List.filter_eq_nil_iff.2, List.nil_append, List.filter_eq_self]
    · exact fun row hrow => by rw [hsplit.unmarked row hrow, Bool.not_false]
    · exact fun row hrow => by simp [hsplit.marked row hrow]
  unfold Store.unqueued
  rw [hfilter, List.map_take]
  exact List.take_prefix _ _

/-- Each queue has had the jobs of the marked candidates, in order. -/
theorem InOrder.jobsOn_eq (h : InOrder backends ids (fun _ => []) acts) (name : String) :
    jobsOn name acts = ((rows acts).filter (·.enqueued)).flatMap (jobsFor backends name) := by
  obtain ⟨done, waiting, hsplit⟩ := h
  rw [hsplit.jobs name, hsplit.rows_eq, List.append_nil, List.filter_append,
    List.filter_eq_self.2 hsplit.marked, List.filter_eq_nil_iff.2, List.append_nil]
  exact fun row hrow => by simp [hsplit.unmarked row hrow]

end InOrder

/-! ### What a dispatcher keeps -/

/-- What holds while the candidates `ids` are to be handed on. If no call failed before, each queue
has had the jobs of the marked candidates, and then `extra`. -/
structure Stage (backends : List String) (tidy : Prop) (ids : List String)
    (extra : String → List Job) (count : Nat) (acts : List Act) : Prop where
  lawful : Lawful backends acts
  count : (replay acts).store.enqueued = count
  inOrder : tidy → InOrder backends ids extra acts

section Stages

variable {tidy : Prop} {ids : List String} {extra : String → List Job} {count : Nat}

theorem stable_stage : Stable (Stage backends tidy ids extra count) := by
  intro acts generation h
  refine ⟨h.lawful.concat trivial, ?_, fun htidy => (h.inOrder htidy).inserted generation⟩
  have hadded : ((replay acts).store.added (.insertGeneration generation)).countP (·.enqueued) = 0 :=
    List.countP_eq_zero.2 fun row hrow => by simp [enqueued_of_mem_added hrow]
  change (rows (acts ++ [.inserted generation])).countP _ = count
  rw [rows_inserted, List.countP_append, hadded, Nat.add_zero]
  exact h.count

theorem Stage.published {done : List String} {backend : String} (hbackend : backend ∈ backends)
    (hknown : Known id false acts) (h : Stage backends tidy ids (jobsTo done id) count acts) :
    Stage backends tidy ids (jobsTo (done ++ [backend]) id) count
      (acts ++ [.published backend ⟨id, backend⟩]) := by
  refine ⟨h.lawful.concat ⟨rfl, hbackend, hknown⟩, ?_, fun htidy => (h.inOrder htidy).published⟩
  change (rows (acts ++ [.published backend ⟨id, backend⟩])).countP _ = count
  rw [rows_published]
  exact h.count

theorem Stage.marked {broken : Bool} (hknown : Known id broken acts)
    (hopen : ∃ row ∈ rows acts, row.id = id ∧ row.enqueued = false)
    (hjobs : broken = false → ∀ backend ∈ backends, .published backend ⟨id, backend⟩ ∈ acts)
    (h : Stage backends tidy (id :: ids)
      (fun name => if broken then [] else jobsTo backends id name) count acts) :
    Stage backends tidy ids (fun _ => []) (count + 1) (acts ++ [.marked id]) := by
  refine ⟨h.lawful.concat ⟨hopen, fun hcompiled => hjobs (hknown.unique hcompiled)⟩, ?_,
    fun htidy => (h.inOrder htidy).marked hknown⟩
  obtain ⟨row, hrow, rfl, hrowOpen⟩ := hopen
  obtain ⟨done, waiting, hsplit⟩ := List.append_of_mem hrow
  have hcount : (rows acts).countP (·.enqueued) = count := h.count
  change (rows (acts ++ [.marked row.id])).countP _ = count + 1
  rw [hsplit, List.countP_append, List.countP_cons_of_neg (by simp [hrowOpen])] at hcount
  rw [rows_marked_of_split hsplit, List.countP_append, List.countP_cons_of_pos rfl, ← Nat.add_assoc,
    hcount]

end Stages

section Steps

variable {context : Context} {tidy : Prop} {ids : List String} {count : Nat}

/-- Between two candidates no queue has had more than the jobs of those marked. -/
abbrev Between (context : Context) (tidy : Prop) (ids : List String) (count : Nat) :
    List Act → Prop :=
  Stage context.backends tidy ids (fun _ => []) count

theorem leads_poll (batch : Nat) :
    Leads (Between context tidy [] count)
      (need context .storeRetries "document store unavailable" "poll new generations" (fun _ => [])
        (Pipeline.unqueuedGenerations batch))
      (fun ids => Between context tidy ids count) (Lawful context.backends) := by
  refine leads_need (Pipeline.onStore_answered _ _) stable_stage ?_ fun _ h => h.lawful
  rintro acts found contents h ⟨hfound, hqueue⟩
  obtain ⟨rfl, hstore⟩ := Prod.mk.inj (Except.ok.inj hfound)
  rw [List.append_nil]
  refine ⟨(Prod.ext hstore hqueue.symm).symm, h.lawful, h.count, fun htidy => ?_⟩
  exact (h.inOrder htidy).unqueued batch

/-- What is known of a candidate that was looked up. One that is not there was not to be handed on
if all went well before. -/
def Loaded (context : Context) (tidy : Prop) (id : String) (ids : List String) (count : Nat) :
    Option Generation → List Act → Prop
  | none => Between context tidy ids count
  | some generation => fun acts => Between context tidy (id :: ids) count acts ∧
      Known id generation.compileError.isSome acts

theorem leads_load (id : String) :
    Leads (Between context tidy (id :: ids) count)
      (need context .storeRetries "document store unavailable" "load generation" (fun _ => [])
        (Pipeline.loadGeneration id))
      (Loaded context tidy id ids count) (Lawful context.backends) := by
  refine leads_need (Pipeline.onStore_answered _ _) stable_stage ?_ fun _ h => h.lawful
  rintro acts found contents h ⟨hfound, hqueue⟩
  obtain ⟨hload, hstore⟩ := Pipeline.readable_eq_ok_iff.1 hfound
  rw [List.append_nil]
  refine ⟨Prod.ext hstore hqueue, ?_⟩
  cases found with
  | some generation => exact ⟨h, (inserted_replay acts).exists_row_of_load hload⟩
  | none =>
      refine ⟨h.lawful, h.count, fun htidy => ?_⟩
      -- in order the candidate is there, so something would have been loaded
      obtain ⟨row, hrow, hid, -⟩ := (h.inOrder htidy).exists_first
      rw [Store.loadGeneration_eq_ok_iff] at hload
      cases hnone : (replay acts).contents.1.generation? id with
      | none => exact absurd (List.find?_eq_none.1 hnone row hrow) (by simp [hid])
      | some other =>
          rw [hnone] at hload
          obtain ⟨read, -, hread⟩ := hload
          cases hread

/-- A candidate that compiled, with the backends whose jobs for it are out. -/
structure Publishing (context : Context) (tidy : Prop) (id : String) (ids : List String)
    (count : Nat) (done : List String) (acts : List Act) : Prop where
  stage : Stage context.backends tidy (id :: ids) (jobsTo done id) count acts
  known : Known id false acts
  out : ∀ backend ∈ done, .published backend ⟨id, backend⟩ ∈ acts

theorem stable_publishing {done : List String} :
    Stable (Publishing context tidy id ids count done) := by
  intro acts generation h
  refine ⟨stable_stage acts generation h.stage, h.known.concat _, fun backend hbackend => ?_⟩
  exact List.mem_append_left _ (h.out backend hbackend)

theorem Publishing.published {done : List String} {backend : String}
    (h : Publishing context tidy id ids count done acts) (hbackend : backend ∈ context.backends) :
    Publishing context tidy id ids count (done ++ [backend])
      (acts ++ [.published backend ⟨id, backend⟩]) := by
  refine ⟨h.stage.published hbackend h.known, h.known.concat _, fun other hother => ?_⟩
  rcases List.mem_append.1 hother with hother | hother
  · exact List.mem_append_left _ (h.out other hother)
  · rw [List.mem_singleton.1 hother]
    exact List.mem_append_right _ List.mem_cons_self

theorem leads_publishJobs (done left : List String)
    (hleft : ∀ backend ∈ left, backend ∈ context.backends) :
    Leads (Publishing context tidy id ids count done) (publishJobs context id left)
      (fun _ => Publishing context tidy id ids count (done ++ left)) (Lawful context.backends) := by
  -- on the backends left, each of which joins those that are done
  induction left generalizing done with
  | nil =>
      apply Leads.pure
      rw [List.append_nil]
      exact fun _ h => h
  | cons backend left ih =>
      obtain ⟨hbackend, hleft⟩ := List.forall_mem_cons.1 hleft
      rw [List.append_cons]
      refine Leads.bind ?_ fun _ => ih (done ++ [backend]) hleft
      refine leads_need (Pipeline.onQueue_answered _ _) stable_publishing ?_ fun _ h =>
        h.stage.lawful
      rintro acts found contents h ⟨hpublish, hstore⟩
      have hqueue := (Prod.mk.inj (Except.ok.inj hpublish)).2
      refine ⟨?_, h.published hbackend⟩
      rw [replay_concat]
      exact Prod.ext hstore hqueue.symm

/-- A candidate that has had its jobs, or is to have none. -/
structure Ready (context : Context) (tidy : Prop) (id : String) (ids : List String)
    (count : Nat) (broken : Bool) (acts : List Act) : Prop where
  stage : Stage context.backends tidy (id :: ids)
    (fun name => if broken then [] else jobsTo context.backends id name) count acts
  known : Known id broken acts
  out : broken = false → ∀ backend ∈ context.backends, .published backend ⟨id, backend⟩ ∈ acts

theorem stable_ready {broken : Bool} : Stable (Ready context tidy id ids count broken) := by
  intro acts generation h
  refine ⟨stable_stage acts generation h.stage, h.known.concat _, fun hcompiled => ?_⟩
  exact fun backend hbackend => List.mem_append_left _ (h.out hcompiled backend hbackend)

theorem leads_markEnqueued (broken : Bool) :
    Leads (Ready context tidy id ids count broken) (markEnqueued context id)
      (fun marked => Between context tidy ids (count + if marked then 1 else 0))
      (Lawful context.backends) := by
  refine leads_need (Pipeline.onStore_answered _ _) stable_ready ?_ fun _ h => h.stage.lawful
  rintro acts flipped contents h ⟨hmark, hqueue⟩
  have hmarked : (replay acts).store.markEnqueued id = (flipped, contents.1) :=
    Except.ok.inj hmark
  have hflipped : flipped = true ↔ ∃ row ∈ rows acts, row.id = id ∧ row.enqueued = false := by
    rw [← show ((replay acts).store.markEnqueued id).1 = flipped from congrArg Prod.fst hmarked]
    exact Store.markEnqueued_flipped_iff
  cases flipped with
  | true =>
      refine ⟨?_, h.stage.marked h.known (hflipped.1 rfl) h.out⟩
      rw [if_pos rfl, replay_concat]
      exact Prod.ext (congrArg Prod.snd hmarked).symm hqueue
  | false =>
      have hsame : contents.1 = (replay acts).store := by
        rw [← Store.markEnqueued_of_not_flipped (congrArg Prod.fst hmarked), hmarked]
      rw [if_neg Bool.false_ne_true, List.append_nil]
      refine ⟨Prod.ext hsame hqueue, h.stage.lawful, h.stage.count, fun htidy => ?_⟩
      -- in order the candidate is not marked yet, so it would have been now
      cases hflipped.2 (h.stage.inOrder htidy).exists_first

theorem leads_dispatch (id : String) :
    Leads (Between context tidy (id :: ids) count) (dispatch context id)
      (fun marked => Between context tidy ids (count + if marked then 1 else 0))
      (Lawful context.backends) := by
  refine (leads_load id).bind fun found => ?_
  cases found with
  | none => exact Leads.pure fun _ h => h
  | some generation =>
      dsimp only
      by_cases hcompiled : generation.compileError.isNone
      · have hbroken : generation.compileError.isSome = false := by
          rw [← Option.not_isNone, hcompiled, Bool.not_true]
        rw [if_pos hcompiled]
        have hjobs : Leads (Publishing context tidy id ids count [])
            (publishJobs context id context.backends)
            (fun _ => Publishing context tidy id ids count context.backends)
            (Lawful context.backends) :=
          leads_publishJobs [] context.backends fun _ hbackend => hbackend
        refine Leads.bind (hjobs.of_imp ?_) fun _ => (leads_markEnqueued false).of_imp ?_
        · rintro acts ⟨hstage, hknown⟩
          exact ⟨hstage, hbroken ▸ hknown, fun _ hbackend => absurd hbackend List.not_mem_nil⟩
        · exact fun acts h => (⟨h.stage, h.known, fun _ => h.out⟩ :
            Ready context tidy id ids count false acts)
      · have hbroken : generation.compileError.isSome = true := by
          rw [← Option.not_isNone, Bool.eq_false_iff.2 hcompiled, Bool.not_false]
        rw [if_neg hcompiled]
        refine (leads_markEnqueued true).of_imp ?_
        rintro acts ⟨hstage, hknown⟩
        exact (⟨hstage, hbroken ▸ hknown, fun h => absurd h (by simp)⟩ :
          Ready context tidy id ids count true acts)

theorem leads_dispatchAll (ids : List String) (count : Nat) :
    Leads (Between context tidy ids count) (dispatchAll context ids)
      (fun marked => Between context tidy [] (count + marked)) (Lawful context.backends) := by
  induction ids generalizing count with
  | nil => exact Leads.pure fun _ h => h
  | cons id ids ih =>
      refine (leads_dispatch id).bind fun marked => ?_
      refine (ih (count + if marked then 1 else 0)).bind fun more => ?_
      apply Leads.pure
      rw [Nat.add_assoc]
      exact fun _ h => h

/-- **A call hands on a batch.** Its count is the number of candidates that it marks. -/
theorem leads_dispatchOnce (batch : Nat) :
    Leads (Between context tidy [] count) (dispatchOnce context batch)
      (fun marked => Between context tidy [] (count + marked)) (Lawful context.backends) :=
  (leads_poll batch).bind fun ids => leads_dispatchAll ids count

end Steps

/-! ### Calls -/

/-- What goes on during a call: what others insert before each of its accesses, and what becomes of
these. -/
structure Round where
  turns : List (List Generation) := []
  fates : Table (List Fate) := .empty
  batch : Nat

def Round.start (round : Round) (desk : Desk) : Desk :=
  { desk with
    pipeline := { desk.pipeline with fates := round.fates }
    turns := round.turns }

/-- A call, by what it found, what it answered and what it left. -/
structure Call where
  before : Desk
  answer : Except Failure Nat
  later : Desk

def Call.count (call : Call) : Nat :=
  match call.answer with
  | .ok count => count
  | .error _ => 0

/-- One call after the other. A state in the middle of a call is the one left by a call whose next
access fails for good. -/
def calls (context : Context) : List Round → Desk → List Call
  | [], _ => []
  | round :: rest, desk =>
      let result := (dispatchOnce context round.batch).run (round.start desk)
      ⟨desk, result.1, result.2⟩ :: calls context rest result.2

/-- What holds after each call, and held at each moment before. -/
structure Dispatched (backends : List String) (call : Call) : Prop where
  /-- The acts tell what is stored and what is queued. -/
  contents : call.later.pipeline.contents = (replay call.later.acts).contents
  /-- What was done stays done. -/
  grown : call.before.acts <+: call.later.acts
  /-- What was marked at any moment, and compiled, had its jobs out before it was marked. -/
  handed : ∀ {acts rest}, call.later.acts = acts ++ rest →
    ∀ row ∈ (replay acts).store.generations, row.enqueued = true →
      ∃ before after, acts = before ++ .marked row.id :: after ∧
        (∃ old ∈ (replay before).store.generations, old.id = row.id ∧ old.enqueued = false) ∧
        (row.compileError = none →
          ∀ backend ∈ backends, .published backend ⟨row.id, backend⟩ ∈ before)
  /-- What did not compile gets no job. -/
  compiled : ∀ queue job, .published queue job ∈ call.later.acts →
    ∀ row ∈ call.later.pipeline.store.generations, row.id = job.generation →
      row.compileError = none
  /-- A count is the number of candidates that were marked by the call. -/
  counted : ∀ count, call.answer = .ok count →
    call.later.pipeline.store.enqueued = call.before.pipeline.store.enqueued + count

section Calls

variable {context : Context} {tidy : Prop} {count : Nat} {desk : Desk} {start : List Act}

theorem At.store {holds : List Act → Prop} (h : At start holds desk) :
    desk.pipeline.store = (replay desk.acts).store :=
  congrArg Prod.fst h.contents

theorem led_call (h : At start (Between context tidy [] count) desk) (round : Round) :
    Led desk.acts (fun marked => Between context tidy [] (count + marked))
      (Lawful context.backends) ((dispatchOnce context round.batch).run (round.start desk)) :=
  leads_dispatchOnce round.batch desk.acts (round.start desk)
    ⟨h.contents, List.prefix_refl desk.acts, h.holds⟩

theorem dispatched_of_lawful {call : Call}
    (h : At call.before.acts (Lawful context.backends) call.later)
    (hcounted : ∀ count, call.answer = .ok count →
      call.later.pipeline.store.enqueued = call.before.pipeline.store.enqueued + count) :
    Dispatched context.backends call where
  contents := h.contents
  grown := h.grown
  handed := by
    intro acts rest hsplit row hrow henqueued
    have hlawful := h.holds
    rw [hsplit] at hlawful
    exact hlawful.of_append.jobs_out hrow henqueued
  compiled := by
    intro queue job hjob row hrow hid
    rw [h.store] at hrow
    exact h.holds.compileError_of_published hjob hrow hid
  counted := hcounted

theorem dispatched_of_mem_calls (h : At start (Between context tidy [] count) desk)
    (rounds : List Round) :
    ∀ call ∈ calls context rounds desk, Dispatched context.backends call := by
  induction rounds generalizing start tidy count desk with
  | nil =>
      intro call hcall
      cases hcall
  | cons round rounds ih =>
      have hcall := led_call h round
      rw [calls, List.forall_mem_cons]
      cases hrun : (dispatchOnce context round.batch).run (round.start desk) with
      | mk answer later =>
          rw [hrun] at hcall
          cases answer with
          | ok marked =>
              have hlater : At desk.acts (Between context tidy [] (count + marked)) later := hcall
              refine ⟨dispatched_of_lawful (hlater.of_imp fun _ h => h.lawful) ?_, ih hlater⟩
              rintro count ⟨⟩
              rw [hlater.store, hlater.holds.count, h.store, h.holds.count]
          | error failure =>
              have hcall : At desk.acts (Lawful context.backends) later := hcall
              -- from here on the order of the jobs is lost
              have hagain : At desk.acts (Between context False []
                  (replay later.acts).store.enqueued) later :=
                ⟨hcall.contents, hcall.grown, hcall.holds, rfl, False.elim⟩
              refine ⟨dispatched_of_lawful hcall ?_, ih hagain⟩
              rintro count ⟨⟩

/-- As long as no call fails, the order of the jobs is kept. -/
theorem at_last_call (h : At start (Between context tidy [] count) desk) {rounds : List Round}
    {before rest : List Call} {last : Call}
    (hcalls : calls context rounds desk = before ++ last :: rest)
    (hok : ∀ call ∈ before ++ [last], ∃ marked, call.answer = .ok marked) :
    At last.before.acts
      (Between context tidy [] (count + ((before ++ [last]).map Call.count).sum)) last.later := by
  induction rounds generalizing start count desk before with
  | nil => exact absurd hcalls (by simp [calls])
  | cons round rounds ih =>
      have hcall := led_call h round
      rw [calls] at hcalls
      generalize (dispatchOnce context round.batch).run (round.start desk) = result at hcall hcalls
      obtain ⟨answer, later⟩ := result
      have hfirst : ∀ marked, answer = .ok marked →
          At desk.acts (Between context tidy [] (count + marked)) later := by
        rintro marked rfl
        exact hcall
      cases before with
      | nil =>
          obtain ⟨rfl, -⟩ := List.cons.inj hcalls
          obtain ⟨marked, rfl⟩ := hok _ List.mem_cons_self
          exact hfirst marked rfl
      | cons first before =>
          obtain ⟨rfl, hrest⟩ := List.cons.inj hcalls
          obtain ⟨marked, rfl⟩ := hok _ List.mem_cons_self
          have hlast := ih (hfirst marked rfl) hrest
            fun call hmem => hok call (List.mem_cons_of_mem _ hmem)
          rw [Nat.add_assoc] at hlast
          exact hlast

end Calls

/-- **No candidate is marked before its jobs are out**, wherever accesses fail, and whatever others
insert in between. If no call fails, the counts add up to the number of marked candidates, and each
queue has had just the jobs of these. -/
theorem dispatched_of_calls (context : Context) (rounds : List Round) :
    (∀ call ∈ calls context rounds {}, Dispatched context.backends call) ∧
      ∀ before last rest, calls context rounds {} = before ++ last :: rest →
        (∀ call ∈ before ++ [last], ∃ count, call.answer = .ok count) →
          ((before ++ [last]).map Call.count).sum = last.later.pipeline.store.enqueued ∧
            ∀ name, jobsOn name last.later.acts =
              (last.later.pipeline.store.generations.filter (·.enqueued)).flatMap
                (jobsFor context.backends name) := by
  have hstart : At [] (Between context True [] 0) {} := by
    refine ⟨rfl, List.prefix_refl [], ?_, rfl, fun _ => ⟨[], [], rfl, ?_, ?_, ?_, fun _ => rfl⟩⟩
    · intro before act rest hsplit
      exact absurd hsplit (by simp)
    · rintro row ⟨⟩
    · rintro row ⟨⟩
    · exact List.prefix_refl []
  refine ⟨dispatched_of_mem_calls hstart rounds, ?_⟩
  intro before last rest hcalls hok
  have hlast := at_last_call hstart hcalls hok
  rw [hlast.store]
  refine ⟨?_, fun name => (hlast.holds.inOrder trivial).jobsOn_eq name⟩
  rw [hlast.holds.count, Nat.zero_add]

/-! ### One run that goes well and one that does not -/

namespace Trial

def candidate (id : String) (compileError : Option String) : Generation :=
  ⟨id, "", .empty, .empty, [], compileError⟩

/-- The second candidate comes in, and did not compile, while the first one is handed on. -/
def undisturbed : List Round :=
  [{ turns := [[candidate "g" none], [candidate "h" (some "")]], batch := 1 },
    { turns := [[candidate "k" none]], batch := 2 }]

/-- The store cannot be reached once the first candidate is marked. -/
def interrupted : List Round :=
  [{ turns := [[candidate "g" none, candidate "h" none]]
     fates := Table.empty.insert Access.loadGeneration.name [.pass, .fail .rowNotFound]
     batch := 2 },
    { batch := 2 }]

theorem dispatched_undisturbed :
    ∃ first last, calls ⟨["ivy", "boa", "ivy"], .standard⟩ undisturbed {} = [first, last] ∧
      Dispatched ["ivy", "boa", "ivy"] last ∧
      first.count + last.count = last.later.pipeline.store.enqueued ∧
      jobsOn "ivy" last.later.acts = [⟨"g", "ivy"⟩, ⟨"g", "ivy"⟩, ⟨"k", "ivy"⟩, ⟨"k", "ivy"⟩] := by
  have hcalls : (calls ⟨["ivy", "boa", "ivy"], .standard⟩ undisturbed {}).map
      (fun call => (call.answer, (call.later.pipeline.store.generations.filter (·.enqueued)).flatMap
        (jobsFor ["ivy", "boa", "ivy"] "ivy"))) =
        [(.ok 1, [⟨"g", "ivy"⟩, ⟨"g", "ivy"⟩]),
          (.ok 2, [⟨"g", "ivy"⟩, ⟨"g", "ivy"⟩, ⟨"k", "ivy"⟩, ⟨"k", "ivy"⟩])] := by
    decide +kernel
  obtain ⟨hall, horder⟩ := dispatched_of_calls ⟨["ivy", "boa", "ivy"], .standard⟩ undisturbed
  obtain ⟨first, rest, hsplit, hfirst, hrest⟩ := List.map_eq_cons_iff.1 hcalls
  obtain ⟨last, rest, rfl, hlast, hnil⟩ := List.map_eq_cons_iff.1 hrest
  obtain rfl := List.map_eq_nil_iff.1 hnil
  obtain ⟨hfirstAnswer, -⟩ := Prod.mk.inj hfirst
  obtain ⟨hlastAnswer, hjobs⟩ := Prod.mk.inj hlast
  have hok : ∀ call ∈ [first] ++ [last], ∃ count, call.answer = .ok count := by
    intro call hcall
    rcases List.mem_cons.1 hcall with rfl | hcall
    · exact ⟨1, hfirstAnswer⟩
    · rw [List.mem_singleton.1 hcall]
      exact ⟨2, hlastAnswer⟩
  obtain ⟨hcount, hqueue⟩ := horder [first] last [] hsplit hok
  exact ⟨first, last, hsplit, hall last (by simp [hsplit]), hcount, (hqueue "ivy").trans hjobs⟩

/-- Where a call fails, the counts fall short of the candidates that were marked. -/
theorem counts_fall_short :
    ¬∀ context rounds before last, calls context rounds {} = before ++ [last] →
      ((before ++ [last]).map Call.count).sum = last.later.pipeline.store.enqueued := by
  intro h
  have hcounts : (calls ⟨["ivy"], .standard⟩ interrupted {}).map
      (fun call => (call.count, call.later.pipeline.store.enqueued)) = [(0, 1), (1, 2)] := by
    decide +kernel
  obtain ⟨first, rest, hsplit, hfirst, hrest⟩ := List.map_eq_cons_iff.1 hcounts
  obtain ⟨last, rest, rfl, hlast, hnil⟩ := List.map_eq_cons_iff.1 hrest
  obtain rfl := List.map_eq_nil_iff.1 hnil
  have hsum := h _ interrupted [first] last hsplit
  obtain ⟨hfirstCount, -⟩ := Prod.mk.inj hfirst
  obtain ⟨hlastCount, henqueued⟩ := Prod.mk.inj hlast
  simp [hfirstCount, hlastCount, henqueued] at hsum

end Trial

end Desk

end Concord
