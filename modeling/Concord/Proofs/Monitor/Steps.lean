import Mathlib
import Concord.Monitor
import Concord.Proofs.Evidence

/-!
# Where a step of a monitor leads

A step changes the monitor and its host, and may fail. What it does is told by what holds of both
before it, after it, and where it fails.
-/

namespace Concord.Monitor

variable {β α γ : Type} {before : Monitor → β → Prop} {failed : Failure → Monitor → β → Prop}

/-- From where `before` holds, a step leads to where `after` holds if it succeeds, and to where
`failed` holds if it does not. -/
def Leads (before : Monitor → β → Prop) (step : ExceptT Failure (StateT Monitor (StateM β)) α)
    (after : α → Monitor → β → Prop) (failed : Failure → Monitor → β → Prop) : Prop :=
  ∀ monitor host, before monitor host →
    match (step.run.run monitor).run host with
    | ((.ok value, next), later) => after value next later
    | ((.error failure, next), later) => failed failure next later

theorem bind_apply (first : ExceptT Failure (StateT Monitor (StateM β)) α)
    (next : α → ExceptT Failure (StateT Monitor (StateM β)) γ) (monitor : Monitor) (host : β) :
    ((first >>= next).run.run monitor).run host =
      match (first.run.run monitor).run host with
      | ((.ok value, monitor), host) => ((next value).run.run monitor).run host
      | ((.error failure, monitor), host) => ((.error failure, monitor), host) := by
  simp only [Bind.bind, ExceptT.bind, ExceptT.run, ExceptT.mk, StateT.bind, StateT.run]
  cases first monitor host with
  | mk answer host =>
      obtain ⟨answer, monitor⟩ := answer
      cases answer <;> rfl

namespace Leads

theorem bind {first : ExceptT Failure (StateT Monitor (StateM β)) α}
    {next : α → ExceptT Failure (StateT Monitor (StateM β)) γ} {middle : α → Monitor → β → Prop}
    {after : γ → Monitor → β → Prop} (hfirst : Leads before first middle failed)
    (hnext : ∀ value, Leads (middle value) (next value) after failed) :
    Leads before (first >>= next) after failed := by
  intro monitor host hbefore
  have hmiddle := hfirst monitor host hbefore
  rw [bind_apply]
  cases h : (first.run.run monitor).run host with
  | mk answer later =>
      rw [h] at hmiddle
      obtain ⟨answer, changed⟩ := answer
      cases answer with
      | error failure => exact hmiddle
      | ok value => exact hnext value changed later hmiddle

theorem pure {after : α → Monitor → β → Prop} {value : α}
    (h : ∀ monitor host, before monitor host → after value monitor host) :
    Leads before (Pure.pure value) after failed :=
  fun monitor host hbefore => h monitor host hbefore

theorem of_imp {start : Monitor → β → Prop}
    {step : ExceptT Failure (StateT Monitor (StateM β)) α} {after last : α → Monitor → β → Prop}
    (h : Leads before step after failed)
    (hstart : ∀ monitor host, start monitor host → before monitor host)
    (hlast : ∀ value monitor host, after value monitor host → last value monitor host) :
    Leads start step last failed := by
  intro monitor host hbefore
  have hafter := h monitor host (hstart monitor host hbefore)
  cases hrun : (step.run.run monitor).run host with
  | mk answer later =>
      rw [hrun] at hafter
      obtain ⟨answer, changed⟩ := answer
      cases answer with
      | error failure => exact hafter
      | ok value => exact hlast value changed later hafter

theorem of_failed {other : Failure → Monitor → β → Prop}
    {step : ExceptT Failure (StateT Monitor (StateM β)) α} {after : α → Monitor → β → Prop}
    (h : Leads before step after failed)
    (hfailed : ∀ failure monitor host, failed failure monitor host → other failure monitor host) :
    Leads before step after other := by
  intro monitor host hbefore
  have hafter := h monitor host hbefore
  cases hrun : (step.run.run monitor).run host with
  | mk answer later =>
      rw [hrun] at hafter
      obtain ⟨answer, changed⟩ := answer
      cases answer with
      | error failure => exact hfailed failure changed later hafter
      | ok value => exact hafter

theorem get :
    Leads before (MonadState.get : ExceptT Failure (StateT Monitor (StateM β)) Monitor)
      (fun found monitor host => found = monitor ∧ before monitor host) failed :=
  fun _ _ hbefore => ⟨rfl, hbefore⟩

/-- A step that only looks around. -/
theorem look {step : ExceptT Failure (StateT Monitor (StateM β)) α}
    (h : ∀ monitor host, ∃ value, (step.run.run monitor).run host = ((.ok value, monitor), host)) :
    Leads before step (fun _ => before) failed := by
  intro monitor host hbefore
  obtain ⟨value, hrun⟩ := h monitor host
  rw [hrun]
  exact hbefore

theorem modify (after : Monitor → β → Prop) {change : Monitor → Monitor}
    (h : ∀ monitor host, before monitor host → after (change monitor) host) :
    Leads before (modify change : ExceptT Failure (StateT Monitor (StateM β)) Unit)
      (fun _ => after) failed :=
  fun monitor host hbefore => h monitor host hbefore

/-- A list is gone through one by one, with what is left of it. -/
theorem forM {step : γ → ExceptT Failure (StateT Monitor (StateM β)) Unit}
    (left : List γ → Monitor → β → Prop)
    (h : ∀ item rest, Leads (left (item :: rest)) (step item) (fun _ => left rest) failed)
    (items : List γ) : Leads (left items) (items.forM step) (fun _ => left []) failed := by
  induction items with
  | nil => exact Leads.pure fun _ _ => id
  | cons item rest ih => exact (h item rest).bind fun _ => ih

end Leads

/-! ### Accesses -/

section Accesses

variable {before : Monitor → Host → Prop} {failed : Failure → Monitor → Host → Prop}

theorem writing_apply (task : Option String) (step : StateM Disk (Except Files.Fault Unit))
    (monitor : Monitor) (host : Host) :
    ((writing task step).run.run monitor).run host =
      match step host.disk with
      | (.ok (), disk) => ((.ok (), monitor), { host with disk })
      | (.error fault, disk) => ((.error ⟨task, .files fault⟩, monitor), { host with disk }) := by
  unfold writing onDisk Host.onDisk
  simp only [ExceptT.run, ExceptT.mk, StateT.run, bind, StateT.bind]
  cases step host.disk with
  | mk answer disk => cases answer <;> rfl

theorem asking_apply {α : Type} (task : Option String)
    (step : StateM Pipeline (Except Store.Fault α)) (monitor : Monitor) (host : Host) :
    ((asking task step).run.run monitor).run host =
      match step host.pipeline with
      | (.ok value, pipeline) => ((.ok value, monitor), { host with pipeline })
      | (.error fault, pipeline) =>
          ((.error ⟨task, .store fault⟩, monitor), { host with pipeline }) := by
  unfold asking Host.onPipeline
  simp only [ExceptT.run, ExceptT.mk, StateT.run, bind, StateT.bind]
  cases step host.pipeline with
  | mk answer pipeline => cases answer <;> rfl

theorem leads_writing {task : Option String} {step : StateM Disk (Except Files.Fault Unit)}
    (after : Monitor → Host → Prop)
    (hok : ∀ monitor (host : Host) disk, before monitor host → step host.disk = (.ok (), disk) →
      after monitor { host with disk })
    (herror : ∀ monitor (host : Host) disk fault, before monitor host →
      step host.disk = (.error fault, disk) →
      failed ⟨task, .files fault⟩ monitor { host with disk }) :
    Leads before (writing task step) (fun _ => after) failed := by
  intro monitor host hbefore
  rw [writing_apply]
  cases h : step host.disk with
  | mk answer disk =>
      cases answer with
      | ok value => exact hok monitor host disk hbefore h
      | error fault => exact herror monitor host disk fault hbefore h

theorem leads_asking {task : Option String} {step : StateM Pipeline (Except Store.Fault α)}
    {after : α → Monitor → Host → Prop}
    (hok : ∀ monitor (host : Host) value pipeline, before monitor host →
      step host.pipeline = (.ok value, pipeline) → after value monitor { host with pipeline })
    (herror : ∀ monitor (host : Host) fault pipeline, before monitor host →
      step host.pipeline = (.error fault, pipeline) →
      failed ⟨task, .store fault⟩ monitor { host with pipeline }) :
    Leads before (asking task step) after failed := by
  intro monitor host hbefore
  rw [asking_apply]
  cases h : step host.pipeline with
  | mk answer pipeline =>
      cases answer with
      | ok value => exact hok monitor host value pipeline hbefore h
      | error fault => exact herror monitor host fault pipeline hbefore h

/-- What a restart leaves of the supervisor, whatever it answers. -/
theorem restart_apply (kind : Restart) (monitor : Monitor) (host : Host) :
    ((restart kind).run.run monitor).run host =
      match monitor.supervisor.carryOut kind monitor.evidence.metadata host.disk with
      | ((.ok (), supervisor), disk) =>
          ((.ok (), { monitor with supervisor }), { host with disk })
      | ((.error fault, supervisor), disk) =>
          ((.error ⟨some ("failed to restart " ++ kind.name), .files fault⟩,
            { monitor with supervisor }), { host with disk }) := by
  unfold restart
  rw [bind_apply]
  change ((_ : Attempt Unit).run.run monitor).run host = _
  rw [bind_apply]
  cases h : monitor.supervisor.carryOut kind monitor.evidence.metadata host.disk with
  | mk answer disk =>
      obtain ⟨answer, supervisor⟩ := answer
      have hlift : ((liftM (onDisk (monitor.supervisor.carryOut kind monitor.evidence.metadata)) :
          Attempt _).run.run monitor).run host =
            ((.ok (answer, supervisor), monitor), { host with disk }) := by
        change ((Except.ok (monitor.supervisor.carryOut kind monitor.evidence.metadata
          host.disk).1, monitor), { host with disk := (monitor.supervisor.carryOut kind
          monitor.evidence.metadata host.disk).2 }) = _
        rw [h]
      rw [hlift]
      cases answer <;> rfl

/-- A failure is noted if it can be, and whatever becomes of that, the monitor starts over. -/
theorem recover_apply (message : String) (monitor : Monitor) (host : Host) :
    ((recover message).run monitor).run host =
      match ((reset (monitor.evidence.sequence + 1)).run.run monitor).run
          { host with disk := (Disk.append monitor.evidence.metadata
            ("monitor_event:error\nerror_message:" ++ message ++ "\n") host.disk).2 } with
      | ((_, next), later) => (((), next), later) := by
  unfold recover
  simp only [StateT.run, bind, StateT.bind, get, getThe, MonadStateOf.get, StateT.get, pure,
    onDisk, Host.onDisk, StateT.pure]
  rfl

theorem cycle_apply (monitor : Monitor) (host : Host) :
    (cycle.run monitor).run host =
      match (attemptCycle.run.run monitor).run host with
      | ((.ok report, next), later) => ((.completed report, next), later)
      | ((.error failure, changed), last) =>
          match ((recover failure.message).run changed).run last with
          | (((), next), later) => ((.failed failure.message, next), later) := by
  unfold cycle
  simp only [StateT.run, bind, StateT.bind]
  cases attemptCycle.run monitor host with
  | mk answer last =>
      obtain ⟨answer, changed⟩ := answer
      cases answer with
      | ok report => rfl
      | error failure =>
          simp only [StateT.bind, bind]
          cases recover failure.message changed last
          rfl

end Accesses

/-! ### Starting over -/

theorem exists_awaitSeed (monitor : Monitor) (host : Host) :
    ∃ step : StateM Disk (Option String), (awaitSeed.run monitor).run host =
        (((), { monitor with seed := (step host.disk).1 }),
          { host with disk := (step host.disk).2 }) ∧
      ∀ holds, Evidence.Law monitor.evidence holds → holds (Option String) step := by
  unfold awaitSeed
  simp only [StateT.run, bind, StateT.bind, get, getThe, MonadStateOf.get, StateT.get, pure,
    StateT.pure]
  cases monitor.config.generatorLog with
  | none => exact ⟨Pure.pure none, rfl, fun _ law => law.pure none⟩
  | some log => exact ⟨_, rfl, fun _ law => law.await log _ _⟩

/-- A reset gives the monitor new files, and forgets the cycles before, whether it gets through or
not. -/
theorem exists_reset (sequence : Nat) (monitor : Monitor) (host : Host) :
    ∃ answer, ∃ step : StateM Disk (Option String),
      ((reset sequence).run.run monitor).run host =
          ((answer, { monitor.renewed sequence with seed := (step host.disk).1 }),
            { host with disk := (step host.disk).2 }) ∧
        ∀ holds, Evidence.Law (monitor.renewed sequence).evidence holds →
          holds (Option String) step := by
  unfold reset
  rw [bind_apply]
  change ∃ answer step, ((_ : Attempt Unit).run.run (monitor.renewed sequence)).run host = _ ∧ _
  rw [bind_apply]
  change ∃ answer step, ((_ : Attempt Unit).run.run (monitor.renewed sequence)).run host = _ ∧ _
  rw [bind_apply, writing_apply]
  cases hmade : (monitor.renewed sequence).evidence.create host.disk with
  | mk answer disk =>
      obtain rfl : ((monitor.renewed sequence).evidence.create host.disk).2 = disk :=
        congrArg Prod.snd hmade
      cases answer with
      | error fault =>
          exact ⟨_, (monitor.renewed sequence).evidence.create >>= fun _ => pure monitor.seed, rfl,
            fun _ law => law.bind law.create fun _ => law.pure monitor.seed⟩
      | ok value =>
          obtain ⟨step, hrun, hlaw⟩ := exists_awaitSeed (monitor.renewed sequence)
            { host with disk := ((monitor.renewed sequence).evidence.create host.disk).2 }
          let goOn (result : (Unit × Monitor) × Host) : (Except Failure Unit × Monitor) × Host :=
            ((.ok (), result.1.2), result.2)
          exact ⟨.ok (), (monitor.renewed sequence).evidence.create >>= fun _ => step,
            congrArg goOn hrun, fun holds law => law.bind law.create fun _ => hlaw holds law⟩

/-- A monitor starts with a reset. -/
theorem eq_of_start {context : Context} {config : MonitorConfig} {supervisor : Supervisor}
    {host later : Host} {monitor : Monitor}
    (h : (start context config supervisor).run host = (.ok monitor, later)) :
    ∃ sequence seed, monitor =
      { context, config, supervisor, evidence := ⟨config.results, sequence⟩, seed } := by
  unfold start at h
  simp only [StateT.run, bind, StateT.bind, get, getThe, MonadStateOf.get, StateT.get, pure] at h
  cases hfound : Evidence.discover host.disk.files config.results with
  | error fault =>
      rw [hfound] at h
      cases h
  | ok sequence =>
      rw [hfound] at h
      obtain ⟨answer, step, hreset, -⟩ := exists_reset sequence
        { context, config, supervisor, evidence := ⟨config.results, sequence⟩ } host
      simp only [StateT.bind] at h
      rw [show (reset sequence).run
        { context, config, supervisor, evidence := ⟨config.results, sequence⟩ } host = _
        from hreset] at h
      cases answer with
      | error failure => cases h
      | ok value =>
          cases h
          exact ⟨sequence, (step host.disk).1, rfl⟩

/-- A cycle that fails ends with a reset. -/
theorem eq_of_failed {monitor next : Monitor} {host later : Host} {message : String}
    (h : (cycle.run monitor).run host = ((.failed message, next), later)) :
    ∃ (changed : Monitor) (sequence : Nat) (seed : Option String),
      next = { changed.renewed sequence with seed } := by
  rw [cycle_apply] at h
  cases hrun : (attemptCycle.run.run monitor).run host with
  | mk answer last =>
      obtain ⟨answer, changed⟩ := answer
      rw [hrun] at h
      cases answer with
      | ok report => cases h
      | error failure =>
          dsimp only at h
          rw [recover_apply] at h
          obtain ⟨answer, step, hreset, -⟩ := exists_reset (changed.evidence.sequence + 1) changed
            { last with disk := (Disk.append changed.evidence.metadata
              ("monitor_event:error\nerror_message:" ++ failure.message ++ "\n") last.disk).2 }
          rw [hreset] at h
          cases h
          exact ⟨changed, changed.evidence.sequence + 1, _, rfl⟩

/-! ### Laws -/

/-- What a change does not touch that only restarts and resets do. -/
structure Mild (change : Monitor → Monitor) : Prop where
  config : ∀ monitor, (change monitor).config = monitor.config
  evidence : ∀ monitor, (change monitor).evidence = monitor.evidence
  supervisor : ∀ monitor, (change monitor).supervisor = monitor.supervisor
  context : ∀ monitor, (change monitor).context = monitor.context

/-- A law of steps that holds of events, restarts and mild changes, and of all that is made of them. -/
structure Law (holds : ∀ α : Type, Attempt α → Prop) : Prop where
  pure : ∀ {α : Type} (value : α), holds α (Pure.pure value)
  bind : ∀ {α γ : Type} {first : Attempt α} {next : α → Attempt γ}, holds α first →
    (∀ value, holds γ (next value)) → holds γ (first >>= next)
  get : ∀ {α : Type} {next : Monitor → Attempt α}, (∀ monitor, holds α (next monitor)) →
    holds α (MonadState.get >>= next)
  mild : ∀ {change : Monitor → Monitor}, Mild change → holds Unit (modify change)
  noteEvent : ∀ event, holds Unit (noteEvent event)
  restart : ∀ kind, holds Unit (restart kind)

namespace Law

variable {holds : ∀ α : Type, Attempt α → Prop} (law : Law holds)

include law

theorem judgeRunners (bad : Bool) : holds Unit (Monitor.judgeRunners bad) := by
  unfold Monitor.judgeRunners
  cases bad with
  | true =>
      refine law.bind (law.noteEvent _) fun _ => law.bind (law.restart _) fun _ => ?_
      exact law.mild ⟨fun _ => rfl, fun _ => rfl, fun _ => rfl, fun _ => rfl⟩
  | false => exact law.mild ⟨fun _ => rfl, fun _ => rfl, fun _ => rfl, fun _ => rfl⟩

theorem judgeGenerator (bad : Bool) : holds Unit (Monitor.judgeGenerator bad) := by
  unfold Monitor.judgeGenerator
  cases bad with
  | true =>
      refine law.bind (law.noteEvent _) fun _ => law.bind (law.restart _) fun _ => ?_
      exact law.mild ⟨fun _ => rfl, fun _ => rfl, fun _ => rfl, fun _ => rfl⟩
  | false => exact law.mild ⟨fun _ => rfl, fun _ => rfl, fun _ => rfl, fun _ => rfl⟩

theorem enterPhase (phase : Phase) :
    holds Unit (modify fun monitor => { monitor with phase }) :=
  law.mild ⟨fun _ => rfl, fun _ => rfl, fun _ => rfl, fun _ => rfl⟩

theorem judge (delta : Movement) : holds Action (Monitor.judge delta) := by
  refine law.get fun monitor => ?_
  refine law.bind (law.judgeRunners _) fun _ => ?_
  refine law.bind (law.judgeGenerator _) fun _ => ?_
  refine law.get fun monitor => ?_
  split
  · refine law.bind ?_ fun _ => law.pure _
    refine law.bind (law.enterPhase .fullRestart) fun _ => ?_
    exact law.bind (law.noteEvent _) fun _ => law.restart _
  · split
    · exact law.bind (law.enterPhase .restarting) fun _ => law.pure _
    · exact law.pure _

theorem evaluate (delta : Movement) : holds Action (Monitor.evaluate delta) := by
  refine law.get fun monitor => ?_
  split
  · exact law.bind (law.enterPhase .running) fun _ => law.pure _
  · exact law.judge delta

end Law

end Concord.Monitor
