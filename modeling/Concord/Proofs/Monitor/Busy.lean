import Mathlib
import Concord.Proofs.Evidence
import Concord.Proofs.Monitor.Steps
import Concord.Proofs.Store.Findings

/-!
# A monitor among others

The store of a monitor is used by others too: before each of its accesses they may do to it what
they like. Where nobody does anything, a monitor goes through its cycles as it does alone.
-/

namespace Concord

/-- A note of a monitor: what it is about, the number of the files that it is in, and its text. -/
structure Note where
  finding : Finding
  generation : String
  sequence : Nat
  text : String

/-- What a monitor did about evidence: its notes, and the marks that it tried in vain to set. The
stores that its cycles began with are there for those cycles that got through with the evidence. -/
structure Ledger where
  notes : List Note := []
  slips : List (Finding × String) := []
  covered : List Store := []

/-- What there is to see at one moment. -/
structure Moment where
  store : Store
  files : Files
  ledger : Ledger

/-- A host that others use too: what they do to the store before each access to come, which is
nothing where the list ends, and what there was to see so far. -/
structure Busy where
  host : Host
  turns : List (List Store.Operation) := []
  ledger : Ledger := {}
  seen : List Moment := []

def Evidence.fileOf (evidence : Evidence) : Finding → String
  | .crash => evidence.crashes
  | .discrepancy => evidence.discrepancies

def Pipeline.setMark : Finding → String → StateM Pipeline (Except Store.Fault Bool)
  | .crash, id => markCrashLogged id
  | .discrepancy, id => markDiscrepancyLogged id

namespace Busy

def store (busy : Busy) : Store :=
  busy.host.pipeline.store

def moment (busy : Busy) : Moment :=
  ⟨busy.store, busy.host.disk.files, busy.ledger⟩

/-- Someone has a look. -/
def look (busy : Busy) : Busy :=
  { busy with seen := busy.seen ++ [busy.moment] }

/-- Another node writes to the store. -/
def disturb (busy : Busy) (operation : Store.Operation) : Busy :=
  look { busy with host.pipeline.store := busy.store.perform operation }

def disturbAll (busy : Busy) (operations : List Store.Operation) : Busy :=
  operations.foldl disturb busy.look

/-- The others take a turn. -/
def turn (busy : Busy) : Busy :=
  match busy.turns with
  | [] => busy.look
  | operations :: rest => { busy with turns := rest }.disturbAll operations

/-- A step of a monitor, which may fail. -/
abbrev Step (α : Type) := ExceptT Failure (StateT Monitor (StateM Busy)) α

variable {α β : Type}

/-- A step in which nobody else comes in. -/
def own (step : Monitor.Attempt α) : Step α := fun monitor busy =>
  let ((answer, monitor), host) := step monitor busy.host
  ((answer, monitor), { busy with host })

def asking (task : Option String) (step : StateM Pipeline (Except Store.Fault α)) : Step α :=
  fun monitor busy => own (Monitor.asking task step) monitor busy.turn

/-! ### Evidence -/

def enter (note : Note) : Step Unit := fun monitor busy =>
  ((.ok (), monitor), { busy with ledger.notes := busy.ledger.notes ++ [note] })

/-- Sets a mark, and remembers if that fails. -/
def marking (finding : Finding) (id : String) : Step Unit := fun monitor busy =>
  match asking none (Pipeline.setMark finding id) monitor busy with
  | ((.ok _, monitor), busy) => ((.ok (), monitor), busy)
  | ((.error failure, monitor), busy) =>
      ((.error failure, monitor),
        { busy with ledger.slips := busy.ledger.slips ++ [(finding, id)] })

/-- Writes about a finding and then marks it. -/
def log (task : String) (finding : Finding) (generation : String) (text : Monitor → String) :
    Step Unit := do
  let monitor ← get
  own (Monitor.writing (some task)
    (Disk.append (monitor.evidence.fileOf finding) (text monitor)))
  enter ⟨finding, generation, monitor.evidence.sequence, text monitor⟩
  marking finding generation

def logCrash (crash : Store.Crash) : Step Unit :=
  log "failed to write compiler crash" .crash crash.generation (·.crashEntry crash)

def logCrashes : Step Nat := do
  let monitor ← get
  let crashes ← asking none (Pipeline.unloggedCrashes monitor.config.crashMarkers)
  crashes.forM logCrash
  pure crashes.length

def logDiscrepancy (verification : Verification) : Step Unit := do
  let generation ← asking none (Pipeline.loadGeneration verification.generation)
  log "failed to write discrepancy" .discrepancy verification.generation
    (·.discrepancyEntry verification generation)

def logDiscrepancies : Step Nat := do
  let found ← asking none Pipeline.unloggedDiscrepancies
  found.forM logDiscrepancy
  pure found.length

/-- A cycle that began with this store is through with the evidence. -/
def cover (begun : Store) : Step Unit := fun monitor busy =>
  ((.ok (), monitor), { busy with ledger.covered := busy.ledger.covered ++ [begun] })

/-! ### Cycles -/

/-- What is left of a cycle after the evidence. -/
def conclude (sequence : Nat) (current : Totals) (delta : Movement)
    (crashesLogged discrepanciesLogged : Nat) : Monitor.Attempt Monitor.Report := do
  let action ← Monitor.evaluate delta
  Monitor.close sequence current action
  pure ⟨sequence, current, delta, crashesLogged, discrepanciesLogged, action⟩

/-- A cycle on a store that looked like this when it began. -/
def attemptCycle (begun : Store) : Step Monitor.Report := do
  own (modify Monitor.wake)
  let monitor ← get
  let current ← asking (some "failed to read counters") (Pipeline.counters monitor.context.backends)
  let delta := current.since (monitor.baseline.getD .zero)
  own (Monitor.logMetrics current delta)
  let crashesLogged ← logCrashes
  let discrepanciesLogged ← logDiscrepancies
  cover begun
  own (conclude monitor.evidence.sequence current delta crashesLogged discrepanciesLogged)

def cycle : StateT Monitor (StateM Busy) Monitor.Outcome := fun monitor busy =>
  match attemptCycle busy.store monitor busy with
  | ((.ok report, monitor), busy) => ((.completed report, monitor), busy)
  | ((.error failure, monitor), busy) =>
      let (((), monitor), host) := Monitor.recover failure.message monitor busy.host
      ((.failed failure.message, monitor), { busy with host })

/-- What others do before a cycle, and before each of its accesses. -/
structure Round where
  before : List Store.Operation
  turns : List (List Store.Operation)

/-- One cycle and what comes before it. -/
def play (monitor : Monitor) (busy : Busy) (round : Round) : Monitor × Busy :=
  let busy := { busy with turns := round.turns }
  let ((_, monitor), busy) := (cycle.run monitor).run (busy.disturbAll round.before)
  (monitor, busy.look)

theorem own_apply (step : Monitor.Attempt α) (monitor : Monitor) (busy : Busy) :
    ((own step).run.run monitor).run busy =
      match (step.run.run monitor).run busy.host with
      | ((answer, monitor), host) => ((answer, monitor), { busy with host }) :=
  rfl

theorem asking_apply (task : Option String) (step : StateM Pipeline (Except Store.Fault α))
    (monitor : Monitor) (busy : Busy) :
    ((asking task step).run.run monitor).run busy =
      match step busy.turn.host.pipeline with
      | (.ok value, pipeline) =>
          ((.ok value, monitor), { busy.turn with host.pipeline := pipeline })
      | (.error fault, pipeline) =>
          ((.error ⟨task, .store fault⟩, monitor),
            { busy.turn with host.pipeline := pipeline }) := by
  change ((own (Monitor.asking task step)).run.run monitor).run busy.turn = _
  rw [own_apply, Monitor.asking_apply]
  cases step busy.turn.host.pipeline with
  | mk answer pipeline => cases answer <;> rfl

theorem marking_apply (finding : Finding) (id : String) (monitor : Monitor) (busy : Busy) :
    ((marking finding id).run.run monitor).run busy =
      match ((asking none (Pipeline.setMark finding id)).run.run monitor).run busy with
      | ((.ok _, monitor), busy) => ((.ok (), monitor), busy)
      | ((.error failure, monitor), busy) => ((.error failure, monitor),
          { busy with ledger.slips := busy.ledger.slips ++ [(finding, id)] }) :=
  rfl

theorem cycle_apply (monitor : Monitor) (busy : Busy) :
    (cycle.run monitor).run busy =
      match ((attemptCycle busy.store).run.run monitor).run busy with
      | ((.ok report, monitor), busy) => ((.completed report, monitor), busy)
      | ((.error failure, monitor), busy) =>
          match ((Monitor.recover failure.message).run monitor).run busy.host with
          | (((), monitor), host) => ((.failed failure.message, monitor), { busy with host }) :=
  rfl

/-! ### Alone -/

section Alone

/-- Where nobody takes a turn, a step does what another one does on the host alone. -/
def Mirrors (step : Step α) (plain : Monitor.Attempt α) : Prop :=
  ∀ (monitor : Monitor) (busy : Busy), busy.turns = [] → ∃ ledger seen,
    (step.run.run monitor).run busy =
      (((plain.run.run monitor).run busy.host).1,
        { busy with host := ((plain.run.run monitor).run busy.host).2, ledger, seen })

theorem Mirrors.bind {first : Step α} {next : α → Step β} {plain : Monitor.Attempt α}
    {plainNext : α → Monitor.Attempt β} (hfirst : Mirrors first plain)
    (hnext : ∀ value, Mirrors (next value) (plainNext value)) :
    Mirrors (first >>= next) (plain >>= plainNext) := by
  intro monitor busy halone
  obtain ⟨ledger, seen, hrun⟩ := hfirst monitor busy halone
  rw [Monitor.bind_apply, Monitor.bind_apply, hrun]
  cases hplain : (plain.run.run monitor).run busy.host with
  | mk answer host =>
      obtain ⟨answer, monitor⟩ := answer
      cases answer with
      | error failure => exact ⟨ledger, seen, rfl⟩
      | ok value => exact hnext value monitor { busy with host, ledger, seen } halone

theorem Mirrors.pure (value : α) : Mirrors (Pure.pure value : Step α) (Pure.pure value) :=
  fun _ busy _ => ⟨busy.ledger, busy.seen, rfl⟩

theorem mirrors_get : Mirrors (get : Step Monitor) get :=
  fun _ busy _ => ⟨busy.ledger, busy.seen, rfl⟩

theorem mirrors_own (step : Monitor.Attempt α) : Mirrors (own step) step :=
  fun _ busy _ => ⟨busy.ledger, busy.seen, rfl⟩

theorem mirrors_asking (task : Option String) (step : StateM Pipeline (Except Store.Fault α)) :
    Mirrors (asking task step) (Monitor.asking task step) := by
  intro monitor busy halone
  have hturn : busy.turn = busy.look := by
    unfold turn
    rw [halone]
  refine ⟨busy.ledger, busy.look.seen, ?_⟩
  change ((own (Monitor.asking task step)).run.run monitor).run busy.turn = _
  rw [hturn]
  rfl

theorem Mirrors.forM {step : β → Step Unit} {plain : β → Monitor.Attempt Unit}
    (h : ∀ item, Mirrors (step item) (plain item)) (items : List β) :
    Mirrors (items.forM step) (items.forM plain) := by
  induction items with
  | nil => exact Mirrors.pure ()
  | cons item rest ih => exact (h item).bind fun _ => ih

/-- A step that only takes notes is none. -/
theorem Mirrors.noting {first : Step Unit} {next : Step α} {plain : Monitor.Attempt α}
    (hfirst : Mirrors first (Pure.pure ())) (hnext : Mirrors next plain) :
    Mirrors (first >>= fun _ => next) plain := by
  have hboth := hfirst.bind fun _ => hnext
  rwa [pure_bind] at hboth

theorem mirrors_enter (note : Note) : Mirrors (enter note) (Pure.pure ()) :=
  fun _ busy _ => ⟨_, busy.seen, rfl⟩

theorem mirrors_cover (begun : Store) : Mirrors (cover begun) (Pure.pure ()) :=
  fun _ busy _ => ⟨_, busy.seen, rfl⟩

theorem mirrors_marking (finding : Finding) (id : String) :
    Mirrors (marking finding id) (do
      let _ ← Monitor.asking none (Pipeline.setMark finding id)) := by
  intro monitor busy halone
  obtain ⟨ledger, seen, hrun⟩ :=
    mirrors_asking none (Pipeline.setMark finding id) monitor busy halone
  rw [Monitor.bind_apply, marking_apply, hrun]
  cases ((Monitor.asking none (Pipeline.setMark finding id)).run.run monitor).run busy.host with
  | mk answer host =>
      obtain ⟨answer, monitor⟩ := answer
      cases answer with
      | ok value => exact ⟨ledger, seen, rfl⟩
      | error failure => exact ⟨_, seen, rfl⟩

theorem mirrors_log (task : String) (finding : Finding) (generation : String)
    (text : Monitor → String) :
    Mirrors (log task finding generation text) (do
      let monitor ← get
      Monitor.writing (some task) (Disk.append (monitor.evidence.fileOf finding) (text monitor))
      let _ ← Monitor.asking none (Pipeline.setMark finding generation)) := by
  refine mirrors_get.bind fun monitor => ?_
  refine (mirrors_own _).bind fun _ => ?_
  exact (mirrors_enter _).noting (mirrors_marking finding generation)

theorem mirrors_logCrashes : Mirrors logCrashes Monitor.logCrashes := by
  refine mirrors_get.bind fun monitor => ?_
  refine (mirrors_asking _ _).bind fun crashes => ?_
  refine (Mirrors.forM (fun crash => ?_) crashes).bind fun _ => Mirrors.pure _
  exact mirrors_log _ .crash crash.generation _

theorem mirrors_logDiscrepancies : Mirrors logDiscrepancies Monitor.logDiscrepancies := by
  refine (mirrors_asking _ _).bind fun found => ?_
  refine (Mirrors.forM (fun verification => ?_) found).bind fun _ => Mirrors.pure _
  refine (mirrors_asking _ _).bind fun generation => ?_
  exact mirrors_log _ .discrepancy verification.generation _

theorem mirrors_attemptCycle (begun : Store) :
    Mirrors (attemptCycle begun) Monitor.attemptCycle := by
  refine (mirrors_own _).bind fun _ => ?_
  refine mirrors_get.bind fun monitor => ?_
  refine (mirrors_asking _ _).bind fun current => ?_
  refine (mirrors_own _).bind fun _ => ?_
  refine mirrors_logCrashes.bind fun crashesLogged => ?_
  refine mirrors_logDiscrepancies.bind fun discrepanciesLogged => ?_
  exact (mirrors_cover begun).noting (mirrors_own _)

/-- **Alone.** Where the others do nothing, a cycle is the cycle of a monitor alone. -/
theorem cycle_of_alone (monitor : Monitor) {busy : Busy} (halone : busy.turns = []) :
    ∃ ledger seen, (cycle.run monitor).run busy =
      (((Monitor.cycle.run monitor).run busy.host).1,
        { busy with host := ((Monitor.cycle.run monitor).run busy.host).2, ledger, seen }) := by
  obtain ⟨ledger, seen, hrun⟩ := mirrors_attemptCycle busy.store monitor busy halone
  refine ⟨ledger, seen, ?_⟩
  rw [Monitor.cycle_apply, cycle_apply, hrun]
  cases (Monitor.attemptCycle.run.run monitor).run busy.host with
  | mk answer host =>
      obtain ⟨answer, changed⟩ := answer
      cases answer with
      | ok report => rfl
      | error failure => rfl

end Alone

end Busy

end Concord
