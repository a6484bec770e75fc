import Mathlib
import Concord.Proofs.Accounting.Nodes
import Concord.Proofs.Store.Waiting

/-!
# Nothing is left undone

Dispatchers, runners and verifiers take turns in any order, deliveries are lost and come again, and
accesses may fail. Where nothing is left to do, every candidate that compiled has been run once on
each backend and verified once.
-/

namespace Concord

/-- A pipeline, and the deliveries that its runners were given. -/
structure System where
  pipeline : Pipeline
  held : List Delivery

namespace System

/-- A runner asks for a delivery. -/
def receive (system : System) (context : Context) (backend : String) : System :=
  match (context.needQueue "job queue unavailable" "receive job"
      (Pipeline.receive backend)).run system.pipeline with
  | (.ok (some delivery), pipeline) => ⟨pipeline, system.held ++ [delivery]⟩
  | (_, pipeline) => ⟨pipeline, system.held⟩

/-- The turns of the nodes. A delivery that a runner was given may be handled at any time, and more
than once; it is lost where its lease runs out before that. -/
inductive Step (setup : Setup) : System → System → Prop
  | dispatch (system : System) (context : Context) (batch : Nat)
      (hbackends : context.backends = setup.backends) :
      Step setup system { system with
        pipeline := ((Dispatcher.dispatchOnce context batch).run system.pipeline).2 }
  | receive (system : System) (context : Context) {backend : String}
      (hbackend : backend ∈ setup.backends) : Step setup system (system.receive context backend)
  | handle (system : System) (context : Context) {config : RunConfig} (policy : PoisonPolicy)
      {σ : Type} (executor : Executor σ) (state : σ) {delivery : Delivery}
      (hheld : delivery ∈ system.held) (hbackend : config.backend = delivery.queue)
      (hcap : config.inputsPerFunction = setup.inputsPerFunction) :
      Step setup system { system with
        pipeline := (((Runner.handle context config policy executor delivery).run state).run
          system.pipeline).2 }
  | lapse (system : System) (tag : DeliveryTag) :
      Step setup system { system with
        pipeline := { system.pipeline with queue := system.pipeline.queue.lapse tag } }
  | verify (system : System) (context : Context) (rule : Comparison) (batch : Nat)
      (hbackends : context.backends = setup.backends) :
      Step setup system { system with
        pipeline := ((Verifier.pollOnce context rule batch).run system.pipeline).2 }

/-- What turns of the nodes lead to, from where the candidates were inserted. -/
def Reachable (setup : Setup) (system : System) : Prop :=
  ∃ start : System, start.pipeline.contents = (setup.initial, {}) ∧ start.held = [] ∧
    Relation.ReflTransGen (Step setup) start system

/-- Nothing is left to do: every candidate was handed on, no message is ready or leased, and no
candidate waits to be verified. -/
structure Idle (setup : Setup) (system : System) : Prop where
  dispatched : ∀ limit, system.pipeline.store.unqueued limit = []
  drained : ∀ message ∈ system.pipeline.queue.messages, message.state = .dead
  verified : ∀ limit, system.pipeline.store.pending setup.backends limit = []

variable {setup : Setup} {system : System}

theorem contents_of_leads {α : Type} {pipeline : Pipeline} {before : Store × Queue → Prop}
    {attempt : Attempt α} (h : Attempt.Leads before attempt (fun _ => before) before)
    (hbefore : before pipeline.contents) : before (attempt.run pipeline).2.contents := by
  have hlater := h pipeline hbefore
  cases hrun : attempt.run pipeline with
  | mk answer later =>
      rw [hrun] at hlater
      cases answer <;> exact hlater

theorem consistent_receive (h : setup.Consistent system.held system.pipeline.contents)
    (context : Context) (backend : String) :
    setup.Consistent (system.receive context backend).held
      (system.receive context backend).pipeline.contents := by
  have hanswer := context.needQueue_answered "job queue unavailable" "receive job" .receive
    (fun queue => .ok (queue.receive backend)) system.pipeline
  change Pipeline.Answered _ _ ((context.needQueue "job queue unavailable" "receive job"
    (Pipeline.receive backend)).run system.pipeline) at hanswer
  unfold receive
  cases hrun : (context.needQueue "job queue unavailable" "receive job"
      (Pipeline.receive backend)).run system.pipeline with
  | mk answer later =>
      rw [hrun] at hanswer
      cases answer with
      | error failure =>
          have hlater : later.contents = system.pipeline.contents := hanswer
          dsimp only
          rw [hlater]
          exact h
      | ok found =>
          obtain ⟨hreceive, hstore⟩ := hanswer
          have hreceive : system.pipeline.queue.receive backend = (found, later.queue) :=
            Except.ok.inj hreceive
          have hstore : later.store = system.pipeline.store := hstore
          have hcontents : later.contents = (system.pipeline.store, later.queue) :=
            congrArg (·, later.queue) hstore
          cases found with
          | none =>
              dsimp only
              rw [hcontents, (Queue.receive_eq_none hreceive).1]
              exact h
          | some delivery =>
              dsimp only
              rw [hcontents]
              exact h.of_receive hreceive

/-- Every turn of a node keeps what is stored and queued consistent. -/
theorem consistent_step {later : System} (hstep : Step setup system later)
    (h : setup.Consistent system.held system.pipeline.contents) :
    setup.Consistent later.held later.pipeline.contents := by
  cases hstep with
  | dispatch context batch hbackends =>
      exact contents_of_leads (Dispatcher.leads_dispatchOnce hbackends batch) h
  | receive context hbackend => exact consistent_receive h context _
  | @handle context config policy σ executor state delivery hheld hbackend hcap =>
      have hlater := Runner.leads_handle context policy executor hheld hbackend hcap state
        system.pipeline h
      dsimp only
      cases hrun : ((Runner.handle context config policy executor delivery).run state).run
          system.pipeline with
      | mk answer later =>
          rw [hrun] at hlater
          obtain ⟨answer, state⟩ := answer
          cases answer <;> exact hlater
  | lapse tag => exact h.of_lapse tag
  | verify context rule batch hbackends =>
      exact contents_of_leads (Verifier.leads_pollOnce hbackends rule batch) h

theorem consistent_of_reachable (h : Reachable setup system) :
    setup.Consistent system.held system.pipeline.contents := by
  obtain ⟨start, hstart, hheld, hsteps⟩ := h
  -- on the turns taken; what is consistent is the store, the queue and the deliveries together
  induction hsteps with
  | refl =>
      rw [hstart, hheld]
      exact setup.consistent_initial
  | tail _ hstep ih => exact consistent_step hstep ih

end System

/-! ### Candidates that wait to be verified -/

namespace Store

variable {store : Store} {id : String}

/-- A candidate with an open run on each backend waits to be verified. -/
theorem mem_pending_of_open {backends : List String} (hinhabited : backends ≠ [])
    (hruns : ((store.runs.filter (·.generation == id)).map (·.backend)).Perm backends)
    (hopen : ∀ row ∈ store.runs, row.generation = id → row.handled = false) :
    ∃ limit, store.pending backends limit ≠ [] := by
  have hfilter : (store.openRuns backends).filter (·.generation == id) =
      store.runs.filter (·.generation == id) := by
    rw [openRuns, List.filter_filter]
    refine List.filter_congr fun row hrow => ?_
    by_cases hgeneration : row.generation = id
    · have hbackend : row.backend ∈ backends := hruns.mem_iff.1
        (List.mem_map_of_mem (List.mem_filter.2 ⟨hrow, beq_iff_eq.2 hgeneration⟩))
      simp [hgeneration, hopen row hrow hgeneration, hbackend]
    · simp [hgeneration]
  -- waiting is told by counting the open runs
  have hlength : ((store.openRuns backends).filter (·.generation == id)).length =
      backends.length := by
    rw [hfilter, ← hruns.length_eq, List.length_map]
  have hmem : id ∈ lastIds (store.openRuns backends) := by
    obtain ⟨row, hrow⟩ := List.exists_mem_of_length_pos
      (hlength ▸ List.length_pos_of_ne_nil hinhabited)
    obtain ⟨hrow, hgeneration⟩ := List.mem_filter.1 hrow
    exact mem_lastIds.2 ⟨row, hrow, beq_iff_eq.1 hgeneration⟩
  refine ⟨store.runs.length, List.ne_nil_of_mem (a := id) ?_⟩
  change id ∈ store.waiting backends
  rw [waiting_eq hinhabited]
  exact List.mem_filter.2 ⟨hmem, beq_iff_eq.2 hlength⟩

end Store

/-! ### Where nothing is left to do -/

namespace Setup

variable {setup : Setup}

/-- A candidate was run once on each backend and verified once, with all its verdicts. -/
structure Settled (setup : Setup) (store : Store) (record : Generation) : Prop where
  runs : ((store.runs.filter (·.generation == record.id)).map (·.backend)).Perm setup.backends
  verification : ∃ row, store.verifications.filter (·.generation == record.id) = [row] ∧
    ∃ verification : Verification, row.document = verification.encode.text ∧
      verification.verdicts.length = setup.verdicts record
  loaded : ∀ verification, store.loadVerification record.id = .ok (some verification) →
    verification.verdicts.length = setup.verdicts record

/-- Nobody asks for runs of a candidate, and there are none. -/
structure Unasked (system : System) (record : Generation) : Prop where
  messages : ∀ message ∈ system.pipeline.queue.messages, ∀ job,
    Job.decoder.read? message.body = some job → job.generation ≠ record.id
  held : ∀ delivery ∈ system.held, ∀ job, delivery.job? = some job → job.generation ≠ record.id
  runs : ∀ row ∈ system.pipeline.store.runs, row.generation ≠ record.id

variable {store : Store} {queue : Queue} {held : List Delivery} {record : Generation}

theorem Wants.id_ne {name body : String} (h : setup.Wants name body)
    (hrecord : record ∈ setup.records) (herror : record.compileError.isSome) {job : Job}
    (hjob : Job.decoder.read? body = some job) : job.generation ≠ record.id := by
  obtain ⟨wanted, hwanted, -, rfl⟩ := h
  obtain ⟨hmem, hcompiled⟩ := mem_runnable.1 hwanted
  rw [Job.read?_encode] at hjob
  obtain rfl := Option.some.inj hjob
  intro hid
  rw [eq_of_id_eq hmem hrecord hid] at hcompiled
  rw [hcompiled] at herror
  cases herror

theorem Stored.runs_of_served (h : setup.Stored store)
    (hran : ∀ backend ∈ setup.backends, (store.run? record.id backend).isSome) :
    ((store.runs.filter (·.generation == record.id)).map (·.backend)).Perm setup.backends := by
  have hkeys : (store.runs.filter (·.generation == record.id)).map StoredRun.key =
      ((store.runs.filter (·.generation == record.id)).map (·.backend)).map (record.id, ·) := by
    rw [List.map_map]
    refine List.map_congr_left fun row hrow => ?_
    exact congrArg (·, row.backend) (beq_iff_eq.1 (List.mem_filter.1 hrow).2)
  have hnodup : ((store.runs.filter (·.generation == record.id)).map (·.backend)).Nodup := by
    have hrows := h.sound.runs_nodup.sublist
      ((List.filter_sublist (p := fun row : StoredRun => row.generation == record.id)).map
        StoredRun.key)
    rw [hkeys] at hrows
    exact hrows.of_map _
  rw [List.perm_ext_iff_of_nodup hnodup setup.unrepeated]
  intro backend
  constructor
  · intro hmem
    obtain ⟨row, hrow, rfl⟩ := List.mem_map.1 hmem
    obtain ⟨-, -, -, hbackend, -⟩ := h.runs row (List.mem_of_mem_filter hrow)
    exact hbackend
  · intro hmem
    obtain ⟨row, hrow⟩ := Option.isSome_iff_exists.1 (hran backend hmem)
    obtain ⟨hgeneration, hbackend⟩ := Store.run?_eq_some_key hrow
    refine List.mem_map.2 ⟨row, List.mem_filter.2 ⟨List.mem_of_find?_eq_some hrow, ?_⟩, hbackend⟩
    exact beq_iff_eq.2 hgeneration

theorem filter_eq_singleton {α β : Type} [DecidableEq β] {f : α → β} {items : List α} {item : α}
    (hnodup : (items.map f).Nodup) (hmem : item ∈ items) :
    items.filter (fun other => f other == f item) = [item] := by
  induction items with
  | nil => cases hmem
  | cons head rest ih =>
      obtain ⟨hhead, hrest⟩ := List.nodup_cons.1 hnodup
      rcases List.mem_cons.1 hmem with rfl | hmem
      · rw [List.filter_cons, if_pos (beq_self_eq_true _), List.filter_eq_nil_iff.2]
        intro other hother heq
        exact hhead (List.mem_map.2 ⟨other, hother, beq_iff_eq.1 heq⟩)
      · have hne : ¬(f head == f item) = true := by
          rw [beq_iff_eq]
          intro heq
          exact hhead (heq ▸ List.mem_map_of_mem hmem)
        rw [List.filter_cons, if_neg hne, ih hrest hmem]

/-- A candidate with a verification has one, with all its verdicts. -/
theorem Stored.verification_of_isSome (h : setup.Stored store) (hrecord : record ∈ setup.runnable)
    (hverified : (store.verification? record.id).isSome) :
    ∃ row, store.verifications.filter (·.generation == record.id) = [row] ∧
      store.verification? record.id = some row ∧
      ∃ verification : Verification, row.document = verification.encode.text ∧
        verification.verdicts.length = setup.verdicts record := by
  obtain ⟨row, hrow⟩ := Option.isSome_iff_exists.1 hverified
  have hmem := List.mem_of_find?_eq_some hrow
  have hgeneration : row.generation = record.id := by simpa using List.find?_some hrow
  obtain ⟨other, hother, hid, verification, hdocument, hlength⟩ := h.verifications row hmem
  have hsame : other = record :=
    eq_of_id_eq (mem_runnable.1 hother).1 (mem_runnable.1 hrecord).1 (hid.symm.trans hgeneration)
  subst hsame
  refine ⟨row, ?_, hrow, verification, hdocument, hlength⟩
  have hfilter := filter_eq_singleton h.nodup_verifications hmem
  rwa [hgeneration] at hfilter

/-- Where each backend has a result and nothing waits to be verified, the candidate is settled. -/
theorem Stored.settled (h : setup.Stored store) (hrecord : record ∈ setup.runnable)
    (hran : ∀ backend ∈ setup.backends, (store.run? record.id backend).isSome)
    (hpending : ∀ limit, store.pending setup.backends limit = []) :
    setup.Settled store record := by
  have hruns := h.runs_of_served hran
  have hhandled : ∃ row ∈ store.runs, row.generation = record.id ∧ row.handled = true := by
    -- else all its runs were open, and it would wait to be verified
    by_contra hnone
    push Not at hnone
    obtain ⟨limit, hwaits⟩ := Store.mem_pending_of_open setup.inhabited hruns
      fun row hrow hid => Bool.eq_false_iff.2 (hnone row hrow hid)
    exact hwaits (hpending limit)
  have hverified : (store.verification? record.id).isSome := by
    obtain ⟨row, hrow, hid, hset⟩ := hhandled
    have hfound := h.sound.run?_of_mem hrow
    -- a run is handled only by recording a verification
    obtain ⟨operations, rfl⟩ := h.written
    rw [hid] at hfound
    exact (Store.verification?_isSome_iff operations record.id).2 ⟨_, row, hfound, hset⟩
  obtain ⟨row, hrow, hfound, verification, hdocument, hlength⟩ :=
    h.verification_of_isSome hrecord hverified
  refine ⟨hruns, ⟨row, hrow, verification, hdocument, hlength⟩, ?_⟩
  intro loaded hload
  unfold Store.loadVerification Store.decodeVerification Store.decode at hload
  rw [hfound] at hload
  dsimp only at hload
  rw [hdocument] at hload
  cases hread : Verification.decoder.read? verification.encode.text with
  | none =>
      rw [hread] at hload
      cases hload
  | some read =>
      rw [hread] at hload
      cases hload
      exact (Verification.length_of_read?_encode hread).trans hlength

end Setup

namespace System

variable {setup : Setup} {system : System}

/-- **Every candidate is accounted for.** Whatever turns the nodes take, a candidate that did not
compile never has a job or a result; and where nothing is left to do, every other candidate was run
once on each backend and verified once, with one verdict for each of its calls. -/
theorem accounted (h : Reachable setup system) :
    (∀ record ∈ setup.records, record.compileError.isSome → Setup.Unasked system record) ∧
      (system.Idle setup → ∀ record ∈ setup.records, record.compileError = none →
        setup.Settled system.pipeline.store record) := by
  have hconsistent := consistent_of_reachable h
  constructor
  · intro record hrecord herror
    refine ⟨?_, ?_, ?_⟩
    · intro message hmem job hjob
      exact (hconsistent.queued.messages message hmem).1.id_ne hrecord herror hjob
    · intro delivery hmem job hjob
      exact (hconsistent.queued.held delivery hmem).1.id_ne hrecord herror hjob
    · intro row hrow hid
      obtain ⟨other, hother, hgeneration, -⟩ := hconsistent.stored.runs row hrow
      obtain ⟨hmem, hcompiled⟩ := Setup.mem_runnable.1 hother
      rw [Setup.eq_of_id_eq hmem hrecord (hgeneration.symm.trans hid)] at hcompiled
      rw [hcompiled] at herror
      cases herror
  · intro hidle record hrecord hcompiled
    have hrunnable := Setup.mem_runnable.2 ⟨hrecord, hcompiled⟩
    have hmarked : ∃ row ∈ system.pipeline.store.generations,
        row.id = record.id ∧ row.enqueued = true := by
      have hmem : (record.id, record.encode.text) ∈
          system.pipeline.store.generations.map fun row => (row.id, row.document) :=
        hconsistent.stored.records ▸ List.mem_map_of_mem hrecord
      obtain ⟨row, hrow, heq⟩ := List.mem_map.1 hmem
      refine ⟨row, hrow, (Prod.mk.inj heq).1, ?_⟩
      have hnone := hidle.dispatched system.pipeline.store.generations.length
      unfold Store.unqueued at hnone
      rw [List.map_eq_nil_iff, List.take_of_length_le (List.length_filter_le _ _),
        List.filter_eq_nil_iff] at hnone
      simpa using hnone row hrow
    have hran : ∀ backend ∈ setup.backends,
        (system.pipeline.store.run? record.id backend).isSome := by
      intro backend hbackend
      rcases hconsistent.dispatched record hrunnable hmarked backend hbackend with
        hrun | ⟨message, hmem, -, -⟩
      · exact hrun
      · -- no message is dead, so there is none
        exact absurd (hidle.drained message hmem) (hconsistent.queued.messages message hmem).2
    exact hconsistent.stored.settled hrunnable hran hidle.verified

end System

/-! ### One run of two candidates -/

namespace Trial

/-- A candidate with one call, and one that did not compile. -/
def setup : Setup where
  records := [⟨"g", "", .empty, .ofList [("f", [[]])], [], none⟩,
    ⟨"h", "", .empty, .empty, [], some ""⟩]
  distinct := by decide
  backends := ["ivy", "boa"]
  unrepeated := by decide
  inhabited := by decide
  inputsPerFunction := none

def context : Context :=
  ⟨setup.backends, .fixed 1 0⟩

/-- A backend that no candidate can be deployed on. -/
def refusing : Executor Unit where
  deploy _ _ := pure (.error (.deploy ""))
  manifest _ := pure (.error (.runtime ""))
  call _ _ _ := pure (.error (.runtime ""))
  dumpState _ := pure (.error (.runtime ""))
  reset := pure (.ok ())

def start : System :=
  ⟨{ store := setup.initial }, []⟩

def dispatched : System :=
  ⟨((Dispatcher.dispatchOnce context 2).run start.pipeline).2, []⟩

def received : System :=
  (dispatched.receive context "ivy").receive context "boa"

/-- The deliveries that the runners were given. -/
def delivery (number : Nat) (backend : String) : Delivery :=
  ⟨⟨number⟩, backend, (Job.mk "g" backend).encode.text, 1⟩

def handled (system : System) (delivery : Delivery) : System :=
  { system with
    pipeline := (((Runner.handle context { backend := delivery.queue } .deadLetter refusing
      delivery).run ()).run system.pipeline).2 }

def ran : System :=
  handled (handled received (delivery 0 "ivy")) (delivery 1 "boa")

def verified : System :=
  { ran with pipeline := ((Verifier.pollOnce context {} 1).run ran.pipeline).2 }

/-- Both runners have a delivery, and in the end everything is marked, removed and closed. -/
theorem finished :
    (delivery 0 "ivy" ∈ received.held ∧ delivery 1 "boa" ∈ received.held) ∧
      (∀ row ∈ verified.pipeline.store.generations, row.enqueued = true) ∧
      verified.pipeline.queue.messages = [] ∧
      ∀ row ∈ verified.pipeline.store.runs, row.handled = true := by
  decide +kernel

theorem held_handled (system : System) (delivery : Delivery) :
    (handled system delivery).held = system.held :=
  rfl

theorem step_handled (system : System) {delivery : Delivery} (h : delivery ∈ system.held) :
    System.Step setup system (handled system delivery) :=
  @System.Step.handle setup system context { backend := delivery.queue } .deadLetter Unit refusing
    () delivery h rfl rfl

theorem reachable_verified : System.Reachable setup verified := by
  obtain ⟨⟨hivy, hboa⟩, -⟩ := finished
  have hfirst : "ivy" ∈ setup.backends := by decide
  have hsecond : "boa" ∈ setup.backends := by decide
  have hreceived : Relation.ReflTransGen (System.Step setup) dispatched received :=
    .tail (.single (.receive dispatched context hfirst))
      (.receive (dispatched.receive context "ivy") context hsecond)
  rw [← held_handled received (delivery 0 "ivy")] at hboa
  have hran : Relation.ReflTransGen (System.Step setup) received ran :=
    .tail (.single (step_handled received hivy))
      (step_handled (handled received (delivery 0 "ivy")) hboa)
  refine ⟨start, rfl, rfl, .head (.dispatch start context 2 rfl) ?_⟩
  exact (hreceived.trans hran).tail (.verify ran context {} 1 rfl)

theorem idle_verified : verified.Idle setup := by
  obtain ⟨-, hmarked, hdrained, hclosed⟩ := finished
  refine ⟨?_, ?_, ?_⟩
  · intro limit
    have hnone : verified.pipeline.store.generations.filter (fun row => !row.enqueued) = [] :=
      List.filter_eq_nil_iff.2 fun row hrow => by simp [hmarked row hrow]
    rw [Store.unqueued, hnone, List.take_nil, List.map_nil]
  · rw [hdrained]
    exact fun _ hmem => absurd hmem List.not_mem_nil
  · intro limit
    have hnone : verified.pipeline.store.openRuns setup.backends = [] :=
      List.filter_eq_nil_iff.2 fun row hrow => by simp [hclosed row hrow]
    simp [Store.pending, hnone, Store.lastIds]

/-- The run accounts for both candidates. -/
theorem accounted_verified :
    System.Reachable setup verified ∧ verified.Idle setup ∧
      (∀ record ∈ setup.records, record.compileError.isSome → Setup.Unasked verified record) ∧
      ∀ record ∈ setup.records, record.compileError = none →
        setup.Settled verified.pipeline.store record :=
  ⟨reachable_verified, idle_verified, (System.accounted reachable_verified).1,
    (System.accounted reachable_verified).2 idle_verified⟩

end Trial

end Concord
