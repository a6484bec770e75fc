import Mathlib
import Concord.Proofs.Alignment
import Concord.Proofs.Queue.Histories
import Concord.Proofs.Readback
import Concord.Proofs.Recorded

/-!
# What is stored and queued on the way

From the moment a candidate is handed on until it is verified, each of its backends has a message for
it or a result of it. This is what every write to the store and every operation of the queue keeps.
-/

namespace Concord

/-- Candidates that a pipeline starts with, and what its nodes have in common. -/
structure Setup where
  records : List Generation
  distinct : (records.map (·.id)).Nodup
  backends : List String
  unrepeated : backends.Nodup
  inhabited : backends ≠ []
  inputsPerFunction : Option Nat

namespace Setup

variable (setup : Setup)

/-- The candidates that compiled. -/
def runnable : List Generation :=
  setup.records.filter (·.compileError.isNone)

/-- The store that the candidates were inserted in. -/
def initial : Store :=
  Store.after (setup.records.map .insertGeneration)

/-- How many verdicts a candidate gets: on each backend but the first, one for each input that is
used of each function of each deployment. -/
def verdicts (record : Generation) : Nat :=
  (setup.backends.length - 1) * (record.constructorSets.length *
    (record.functionInputs.entries.map fun function =>
      capped setup.inputsPerFunction function.2.length).sum)

/-! ### Rows and messages -/

/-- A message is the job of a candidate that compiled, for the backend of its queue. -/
def Wants (queue body : String) : Prop :=
  ∃ record ∈ setup.runnable, queue ∈ setup.backends ∧
    body = (Job.mk record.id queue).encode.text

/-- A row holds the result of a candidate that compiled, on one of the backends. -/
def Explains (row : StoredRun) : Prop :=
  ∃ record ∈ setup.runnable, row.generation = record.id ∧ row.backend ∈ setup.backends ∧
    ∃ result : RunResult, row.document = result.encode.text ∧
      result.shape = record.shape setup.inputsPerFunction

/-- A row holds a verification of a candidate that compiled, with all its verdicts. -/
def Confirms (row : StoredVerification) : Prop :=
  ∃ record ∈ setup.runnable, row.generation = record.id ∧
    ∃ verification : Verification, row.document = verification.encode.text ∧
      verification.verdicts.length = setup.verdicts record

/-- What holds of the store. -/
structure Stored (store : Store) : Prop where
  written : ∃ operations, store = Store.after operations
  records : store.generations.map (fun row => (row.id, row.document)) =
    setup.records.map fun record => (record.id, record.encode.text)
  runs : ∀ row ∈ store.runs, setup.Explains row
  /-- A candidate is handled on all backends or on none. -/
  complete : ∀ row ∈ store.runs, row.handled = true → ∀ backend ∈ setup.backends,
    ∃ other, store.run? row.generation backend = some other ∧ other.handled = true
  verifications : ∀ row ∈ store.verifications, setup.Confirms row

/-- What holds of the queue and of the deliveries that runners were given. -/
structure Queued (held : List Delivery) (queue : Queue) : Prop where
  sound : queue.Sound
  messages : ∀ message ∈ queue.messages,
    setup.Wants message.queue message.body ∧ message.state ≠ .dead
  held : ∀ delivery ∈ held, setup.Wants delivery.queue delivery.body ∧
    delivery.tag.number < queue.delivered ∧
    ∀ message ∈ queue.messages, message.leasedAs delivery.tag = true →
      message.queue = delivery.queue ∧ message.body = delivery.body

/-- A backend has a result of a candidate, or a message for it. -/
def Served (contents : Store × Queue) (id backend : String) : Prop :=
  (contents.1.run? id backend).isSome ∨ ∃ message ∈ contents.2.messages,
    message.queue = backend ∧ message.body = (Job.mk id backend).encode.text

structure Consistent (held : List Delivery) (contents : Store × Queue) : Prop where
  stored : setup.Stored contents.1
  queued : setup.Queued held contents.2
  dispatched : ∀ record ∈ setup.runnable,
    (∃ row ∈ contents.1.generations, row.id = record.id ∧ row.enqueued = true) →
      ∀ backend ∈ setup.backends, Served contents record.id backend

variable {setup} {store : Store} {queue : Queue} {held : List Delivery}

/-- A candidate is told by its id. -/
theorem eq_of_id_eq {a b : Generation} (ha : a ∈ setup.records) (hb : b ∈ setup.records)
    (h : a.id = b.id) : a = b :=
  List.inj_on_of_nodup_map setup.distinct ha hb h

theorem mem_runnable {record : Generation} :
    record ∈ setup.runnable ↔ record ∈ setup.records ∧ record.compileError = none := by
  rw [runnable, List.mem_filter, Option.isNone_iff_eq_none]

/-! ### Writes -/

theorem Stored.sound (h : setup.Stored store) : store.Sound := by
  obtain ⟨operations, rfl⟩ := h.written
  exact Store.sound_after operations

theorem Stored.nodup_verifications (h : setup.Stored store) :
    (store.verifications.map (·.generation)).Nodup := by
  obtain ⟨operations, rfl⟩ := h.written
  exact Store.nodup_verifications operations

theorem Stored.written_perform (h : setup.Stored store) (operation : Store.Operation) :
    ∃ operations, store.perform operation = Store.after operations := by
  obtain ⟨operations, rfl⟩ := h.written
  exact ⟨operations ++ [operation], (Store.after_concat operations operation).symm⟩

/-- The candidate of a row that holds one. -/
theorem Stored.exists_record (h : setup.Stored store) {row : StoredGeneration}
    (hrow : row ∈ store.generations) :
    ∃ record ∈ setup.records, record.id = row.id ∧ record.encode.text = row.document := by
  have hmem : (row.id, row.document) ∈
      setup.records.map fun record => (record.id, record.encode.text) :=
    h.records ▸ List.mem_map_of_mem hrow
  obtain ⟨record, hrecord, heq⟩ := List.mem_map.1 hmem
  exact ⟨record, hrecord, Prod.mk.inj heq⟩

theorem Stored.markEnqueued (h : setup.Stored store) (id : String) :
    setup.Stored (store.markEnqueued id).2 where
  written := h.written_perform (.markEnqueued id)
  records := by
    have hkey : ∀ row : StoredGeneration,
        (fun row : StoredGeneration => (row.id, row.document)) { row with enqueued := true } =
          (row.id, row.document) := fun _ => rfl
    exact (Store.map_latch hkey).trans h.records
  runs := h.runs
  complete := h.complete
  verifications := h.verifications

/-- A runner writes the result of a candidate. -/
theorem Stored.upsertRun (h : setup.Stored store) {record : Generation} {result : RunResult}
    (hrecord : record ∈ setup.runnable) (hgeneration : result.generation = record.id)
    (hbackend : result.backend ∈ setup.backends)
    (hshape : result.shape = record.shape setup.inputsPerFunction) :
    setup.Stored (store.upsertRun result) where
  written := h.written_perform (.upsertRun result)
  records := by
    rw [Store.generations_upsertRun]
    exact h.records
  runs := by
    intro row hrow
    rcases Store.mem_runs_upsertRun hrow with hrow | rfl
    · exact h.runs row hrow
    · exact ⟨record, hrecord, hgeneration, hbackend, result, rfl, hshape⟩
  complete := by
    intro row hrow hhandled backend hmem
    -- a result that was just written is open, and does not replace one that is handled
    rcases Store.mem_runs_upsertRun hrow with hrow | rfl
    · obtain ⟨other, hother, hotherHandled⟩ := h.complete row hrow hhandled backend hmem
      exact ⟨other, Store.run?_perform_of_handled (.upsertRun result) hother hotherHandled,
        hotherHandled⟩
    · cases hhandled
  verifications := by
    rw [Store.verifications_upsertRun]
    exact h.verifications

/-- What is loaded of a candidate has its shape. -/
theorem Stored.shape_of_mem_loadRuns (h : setup.Stored store) {record : Generation}
    (hrecord : record ∈ setup.records) {results : List RunResult}
    (hload : store.loadRuns record.id = .ok results) {result : RunResult}
    (hmem : result ∈ results) : result.shape = record.shape setup.inputsPerFunction := by
  obtain ⟨row, hrow, hgeneration, hread⟩ := (Store.mem_loadRuns_iff hload).1 hmem
  obtain ⟨found, hfound, hfoundGeneration, -, written, hdocument, hshape⟩ := h.runs row hrow
  obtain ⟨read, hdecoded, rfl⟩ := Store.decodeRun_eq_ok_iff.1 hread
  rw [hdocument] at hdecoded
  have hrecordEq : found = record :=
    eq_of_id_eq (mem_runnable.1 hfound).1 hrecord (hfoundGeneration.symm.trans hgeneration)
  rw [← hrecordEq, ← hshape]
  exact (RunResult.of_read?_encode hdecoded).2.2

/-- What is recorded of a candidate has all its verdicts. -/
theorem Stored.confirms_of_compared (h : setup.Stored store) {rule : Comparison}
    {verification : Verification} {results : List RunResult} {record : Generation}
    (hrecord : record ∈ setup.runnable) (hload : store.loadRuns record.id = .ok results)
    (hcompared : rule.verification? record.id results setup.backends = some verification)
    (hid : verification.generation = record.id) :
    setup.Confirms (.ofVerification verification) := by
  have hshape : ∀ result ∈ results, result.generation = record.id →
      result.shape = record.shape setup.inputsPerFunction :=
    fun result hmem _ => h.shape_of_mem_loadRuns (mem_runnable.1 hrecord).1 hload hmem
  have hplaces := (Comparison.places_verification? hshape hcompared).1
  refine ⟨record, hrecord, hid, verification, rfl, ?_⟩
  have hlength := congrArg List.length hplaces
  rwa [List.length_map, List.length_flatten, List.map_replicate, List.sum_replicate,
    smul_eq_mul, Generation.length_places] at hlength

/-- The verifier records the comparison of what is stored. -/
theorem Stored.recordVerification (h : setup.Stored store) {rule : Comparison}
    {verification : Verification} {results : List RunResult}
    (hload : store.loadRuns verification.generation = .ok results)
    (hcompared : rule.verification? verification.generation results setup.backends =
      some verification) :
    setup.Stored (store.recordVerification verification).2 := by
  cases hflipped : (store.recordVerification verification).1 with
  | false =>
      rw [Store.recordVerification_of_not_flipped hflipped]
      exact h
  | true =>
      have hsound := Store.sound_recordVerification h.sound verification
      have hfound := Store.run?_recordVerification store verification
      have hrows := Store.recordVerification_of_flipped hflipped
      have hruns : ∀ row ∈ (store.recordVerification verification).2.runs, setup.Explains row := by
        intro row hrow
        rcases Store.mem_runs_recordVerification hrow with hrow | ⟨old, hold, rfl⟩
        · exact h.runs row hrow
        · exact h.runs old hold
      have hcomplete : ∀ row ∈ (store.recordVerification verification).2.runs,
          row.handled = true → ∀ backend ∈ setup.backends, ∃ other,
            (store.recordVerification verification).2.run? row.generation backend = some other ∧
              other.handled = true := by
        intro row hrow hhandled backend hbackend
        by_cases hgeneration : row.generation = verification.generation
        · obtain ⟨found, hrun⟩ := h.sound.exists_run?_of_verification? hload hcompared hbackend
          refine ⟨found.close, ?_, rfl⟩
          rw [hfound, hgeneration, hrun, Option.map_some,
            if_pos (Store.run?_eq_some_key hrun).1]
        · -- a row of another candidate was there before
          have hold := hsound.run?_of_mem hrow
          rw [hfound] at hold
          obtain ⟨old, hrun, hsame⟩ := Option.map_eq_some_iff.1 hold
          rw [if_neg fun heq => hgeneration ((Store.run?_eq_some_key hrun).1.symm.trans heq)] at hsame
          subst hsame
          obtain ⟨other, hother, hotherHandled⟩ :=
            h.complete old (List.mem_of_find?_eq_some hrun) hhandled backend hbackend
          refine ⟨other, ?_, hotherHandled⟩
          rw [hfound, hother, Option.map_some,
            if_neg fun heq => hgeneration ((Store.run?_eq_some_key hother).1.symm.trans heq)]
      obtain ⟨row, hrow, hrowGeneration, -⟩ := Store.recordVerification_flipped_iff.1 hflipped
      obtain ⟨record, hrecord, hid, -⟩ := h.runs row hrow
      have hverification : verification.generation = record.id := hrowGeneration.symm.trans hid
      have hconfirms : setup.Confirms (.ofVerification verification) :=
        h.confirms_of_compared hrecord (hverification ▸ hload) (hverification ▸ hcompared)
          hverification
      refine ⟨h.written_perform (.recordVerification verification), ?_, hruns, hcomplete, ?_⟩
      · rw [hrows]
        exact h.records
      · intro row hrow
        rcases Store.mem_verifications_recordVerification hrow with hrow | rfl
        · exact h.verifications row hrow
        · exact hconfirms

/-! ### Operations of the queue -/

theorem Queued.publish (h : setup.Queued held queue) {record : Generation} {backend : String}
    (hrecord : record ∈ setup.runnable) (hbackend : backend ∈ setup.backends) :
    setup.Queued held (queue.publish backend ⟨record.id, backend⟩) where
  sound := h.sound.publishText _ _
  messages := by
    intro message hmem
    rcases List.mem_append.1 hmem with hmem | hmem
    · exact h.messages message hmem
    · rw [List.mem_singleton.1 hmem]
      exact ⟨⟨record, hrecord, hbackend, rfl⟩, by rintro ⟨⟩⟩
  held := by
    intro delivery hdelivery
    obtain ⟨hwants, hgiven, hmessage⟩ := h.held delivery hdelivery
    refine ⟨hwants, hgiven, ?_⟩
    intro message hmem hleased
    rcases List.mem_append.1 hmem with hmem | hmem
    · exact hmessage message hmem hleased
    · rw [List.mem_singleton.1 hmem] at hleased
      cases hleased

theorem Queued.receive (h : setup.Queued held queue) {name : String} {delivery : Delivery}
    {next : Queue} (hreceive : queue.receive name = (some delivery, next)) :
    setup.Queued (held ++ [delivery]) next := by
  have hsound := h.sound.receive hreceive
  obtain ⟨earlier, message, later, hmessages, -, hwaits, rfl, rfl⟩ :=
    Queue.receive_eq_some hreceive
  have hmessage : message ∈ queue.messages := hmessages ▸ by simp
  have hkept : ∀ other ∈ earlier ++ message.leaseUnder ⟨queue.delivered⟩ :: later,
      other = message.leaseUnder ⟨queue.delivered⟩ ∨ other ∈ queue.messages :=
    fun other hmem => hmessages ▸ Queue.mem_replaced hmem
  refine ⟨hsound, ?_, ?_⟩
  · intro other hmem
    rcases hkept other hmem with rfl | hmem
    · exact ⟨(h.messages message hmessage).1, by rintro ⟨⟩⟩
    · exact h.messages other hmem
  · intro old hold
    rcases List.mem_append.1 hold with hold | hold
    · obtain ⟨hwants, hgiven, hleased⟩ := h.held old hold
      refine ⟨hwants, Nat.lt_succ_of_lt hgiven, ?_⟩
      intro other hmem hheld
      rcases hkept other hmem with rfl | hmem
      · -- the new tag was not given before
        rw [Message.leasedAs_leaseUnder_iff.1 hheld] at hgiven
        exact absurd hgiven (Nat.lt_irrefl _)
      · exact hleased other hmem hheld
    · rw [List.mem_singleton.1 hold]
      refine ⟨?_, Nat.lt_succ_self _, ?_⟩
      · have hwants := (h.messages message hmessage).1
        rwa [hwaits.1] at hwants
      · intro other hmem hheld
        rcases hkept other hmem with rfl | hmem
        · exact ⟨hwaits.1, rfl⟩
        · exact absurd (h.sound.delivered other hmem _ hheld) (Nat.lt_irrefl _)

theorem Queued.ack (h : setup.Queued held queue) {tag : DeliveryTag} {next : Queue}
    (hack : queue.ack tag = .ok ((), next)) : setup.Queued held next := by
  have hsound := h.sound.ack hack
  obtain ⟨-, rfl⟩ := Queue.ack_eq_ok_iff.1 hack
  refine ⟨hsound, fun message hmem => h.messages message (List.mem_of_mem_filter hmem), ?_⟩
  intro delivery hdelivery
  obtain ⟨hwants, hgiven, hleased⟩ := h.held delivery hdelivery
  exact ⟨hwants, hgiven, fun message hmem => hleased message (List.mem_of_mem_filter hmem)⟩

theorem Queued.lapse (h : setup.Queued held queue) (tag : DeliveryTag) :
    setup.Queued held (queue.lapse tag) := by
  refine ⟨h.sound.lapse tag, ?_, ?_⟩
  · intro message hmem
    obtain ⟨earlier, hearlier, rfl⟩ := Queue.mem_changeHeld hmem
    split
    · exact ⟨(h.messages earlier hearlier).1, by rintro ⟨⟩⟩
    · exact h.messages earlier hearlier
  · intro delivery hdelivery
    obtain ⟨hwants, hgiven, hleased⟩ := h.held delivery hdelivery
    refine ⟨hwants, hgiven, ?_⟩
    intro message hmem hheld
    obtain ⟨earlier, hearlier, rfl⟩ := Queue.mem_changeHeld hmem
    split at hheld
    · next htag =>
        rw [if_pos htag]
        exact hleased earlier hearlier (by rwa [beq_iff_eq.1 hheld] at htag)
    · next htag =>
        rw [if_neg htag]
        exact hleased earlier hearlier hheld

/-! ### Both together -/

/-- What is served stays so while results and messages stay. -/
theorem Served.mono {store later : Store} {queue next : Queue} {id backend : String}
    (h : Served (store, queue) id backend)
    (hruns : (store.run? id backend).isSome → (later.run? id backend).isSome)
    (hmessages : ∀ message ∈ queue.messages, ∃ kept ∈ next.messages,
      kept.queue = message.queue ∧ kept.body = message.body) :
    Served (later, next) id backend := by
  rcases h with h | ⟨message, hmem, hqueue, hbody⟩
  · exact Or.inl (hruns h)
  · obtain ⟨kept, hkept, hkeptQueue, hkeptBody⟩ := hmessages message hmem
    exact Or.inr ⟨kept, hkept, hkeptQueue.trans hqueue, hkeptBody.trans hbody⟩

namespace Consistent

theorem of_publish (h : setup.Consistent held (store, queue)) {record : Generation}
    {backend : String} (hrecord : record ∈ setup.runnable) (hbackend : backend ∈ setup.backends) :
    setup.Consistent held (store, queue.publish backend ⟨record.id, backend⟩) := by
  refine ⟨h.stored, h.queued.publish hrecord hbackend, ?_⟩
  intro other hother hmarked name hname
  refine (h.dispatched other hother hmarked name hname).mono id ?_
  exact fun message hmem => ⟨message, List.mem_append_left _ hmem, rfl, rfl⟩

/-- A candidate is marked once its jobs are out. -/
theorem of_markEnqueued (h : setup.Consistent held (store, queue)) {id : String}
    (hserved : ∀ record ∈ setup.runnable, record.id = id → ∀ backend ∈ setup.backends,
      Served (store, queue) id backend) :
    setup.Consistent held ((store.markEnqueued id).2, queue) := by
  refine ⟨h.stored.markEnqueued id, h.queued, ?_⟩
  rintro record hrecord ⟨row, hrow, hid, henqueued⟩ backend hbackend
  by_cases heq : record.id = id
  · rw [heq]
    exact hserved record hrecord heq backend hbackend
  · obtain ⟨old, hold, hflipped⟩ := List.mem_map.1 hrow
    have hkey : old.id = row.id := by
      rw [← hflipped]
      split <;> rfl
    rw [if_neg (by simp [hkey.trans hid, heq])] at hflipped
    subst hflipped
    exact h.dispatched record hrecord ⟨old, hold, hid, henqueued⟩ backend hbackend

theorem of_upsertRun (h : setup.Consistent held (store, queue)) {record : Generation}
    {result : RunResult} (hrecord : record ∈ setup.runnable)
    (hgeneration : result.generation = record.id) (hbackend : result.backend ∈ setup.backends)
    (hshape : result.shape = record.shape setup.inputsPerFunction) :
    setup.Consistent held (store.upsertRun result, queue) := by
  refine ⟨h.stored.upsertRun hrecord hgeneration hbackend hshape, h.queued, ?_⟩
  intro other hother hmarked name hname
  rw [Store.generations_upsertRun] at hmarked
  refine (h.dispatched other hother hmarked name hname).mono ?_
    fun message hmem => ⟨message, hmem, rfl, rfl⟩
  exact Store.run?_perform_isSome (.upsertRun result)

theorem of_recordVerification (h : setup.Consistent held (store, queue)) {rule : Comparison}
    {verification : Verification} {results : List RunResult}
    (hload : store.loadRuns verification.generation = .ok results)
    (hcompared : rule.verification? verification.generation results setup.backends =
      some verification) :
    setup.Consistent held ((store.recordVerification verification).2, queue) := by
  refine ⟨h.stored.recordVerification hload hcompared, h.queued, ?_⟩
  intro other hother hmarked name hname
  rw [Store.generations_recordVerification] at hmarked
  refine (h.dispatched other hother hmarked name hname).mono ?_
    fun message hmem => ⟨message, hmem, rfl, rfl⟩
  exact Store.run?_perform_isSome (.recordVerification verification)

theorem of_receive (h : setup.Consistent held (store, queue)) {name : String}
    {delivery : Delivery} {next : Queue} (hreceive : queue.receive name = (some delivery, next)) :
    setup.Consistent (held ++ [delivery]) (store, next) := by
  refine ⟨h.stored, h.queued.receive hreceive, ?_⟩
  intro other hother hmarked backend hbackend
  refine (h.dispatched other hother hmarked backend hbackend).mono id ?_
  obtain ⟨earlier, leased, later, hmessages, -, -, -, rfl⟩ := Queue.receive_eq_some hreceive
  rw [hmessages]
  intro message hmem
  rw [List.mem_append, List.mem_cons] at hmem
  rcases hmem with hmem | rfl | hmem
  · exact ⟨message, by simp [hmem], rfl, rfl⟩
  · exact ⟨message.leaseUnder ⟨queue.delivered⟩, by simp, rfl, rfl⟩
  · exact ⟨message, by simp [hmem], rfl, rfl⟩

/-- A message may be acknowledged once the result that it asked for is there. -/
theorem of_ack (h : setup.Consistent held (store, queue)) {tag : DeliveryTag} {next : Queue}
    (hack : queue.ack tag = .ok ((), next))
    (hran : ∀ message ∈ queue.messages, message.leasedAs tag = true → ∀ record ∈ setup.runnable,
      message.body = (Job.mk record.id message.queue).encode.text →
        (store.run? record.id message.queue).isSome) :
    setup.Consistent held (store, next) := by
  refine ⟨h.stored, h.queued.ack hack, ?_⟩
  intro record hrecord hmarked backend hbackend
  rcases h.dispatched record hrecord hmarked backend hbackend with hrun | ⟨message, hmem, hqueue, hbody⟩
  · exact Or.inl hrun
  · by_cases hleased : message.leasedAs tag = true
    · subst hqueue
      exact Or.inl (hran message hmem hleased record hrecord hbody)
    · obtain ⟨-, rfl⟩ := Queue.ack_eq_ok_iff.1 hack
      exact Or.inr ⟨message, List.mem_filter.2 ⟨hmem, by simp [hleased]⟩, hqueue, hbody⟩

theorem of_lapse (h : setup.Consistent held (store, queue)) (tag : DeliveryTag) :
    setup.Consistent held (store, queue.lapse tag) := by
  refine ⟨h.stored, h.queued.lapse tag, ?_⟩
  intro record hrecord hmarked backend hbackend
  refine (h.dispatched record hrecord hmarked backend hbackend).mono id ?_
  intro message hmem
  refine ⟨_, List.mem_map_of_mem hmem, ?_⟩
  split <;> exact ⟨rfl, rfl⟩

end Consistent

/-! ### The start -/

/-- Candidates with ids of their own are all inserted. -/
theorem after_insertGenerations (records : List Generation) (h : (records.map (·.id)).Nodup) :
    Store.after (records.map .insertGeneration) =
      { generations := records.map fun record =>
          ⟨record.id, record.encode.text, record.compileError, false, false⟩ } := by
  induction records using List.reverseRecOn with
  | nil => rfl
  | append_singleton records record ih =>
      rw [List.map_append, List.map_singleton, List.nodup_append', List.disjoint_singleton] at h
      obtain ⟨hrecords, -, hnew⟩ := h
      rw [List.map_append, List.map_singleton, Store.after_concat, ih hrecords, Store.perform,
        Store.insertGeneration, if_neg, List.map_append, List.map_singleton]
      rw [Store.generation?, List.find?_isSome]
      rintro ⟨row, hrow, hid⟩
      obtain ⟨other, hother, rfl⟩ := List.mem_map.1 hrow
      exact hnew (List.mem_map.2 ⟨other, hother, beq_iff_eq.1 hid⟩)

theorem consistent_initial (setup : Setup) : setup.Consistent [] (setup.initial, {}) := by
  have hinitial := after_insertGenerations setup.records setup.distinct
  have hrows : setup.initial = { generations := setup.records.map fun record =>
      ⟨record.id, record.encode.text, record.compileError, false, false⟩ } := hinitial
  refine ⟨⟨⟨_, rfl⟩, ?_, ?_, ?_, ?_⟩, ⟨Queue.sound_empty, ?_, ?_⟩, ?_⟩
  · rw [hrows, List.map_map]
    rfl
  · rw [hrows]
    rintro row ⟨⟩
  · rw [hrows]
    rintro row ⟨⟩
  · rw [hrows]
    rintro row ⟨⟩
  · rintro message ⟨⟩
  · rintro delivery ⟨⟩
  · rintro record - ⟨row, hrow, -, henqueued⟩
    dsimp only at hrow
    rw [hrows] at hrow
    obtain ⟨other, -, rfl⟩ := List.mem_map.1 hrow
    cases henqueued

end Setup

end Concord
