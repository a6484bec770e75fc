import Mathlib
import Concord.Proofs.Evidence
import Concord.Proofs.Monitor.Steps

/-!
# What a monitor does besides evidence

Metrics, events, restarts and new sets of files leave the crashes and discrepancies that were
written as they are, and the store too.
-/

namespace Concord

/-! ### Supervisors -/

namespace Supervisor

/-- How a disk changes between two restarts, and by a restart. -/
inductive Changes (root : String) (supervisor : Supervisor) : Disk → Disk → Prop
  | monitor {disk later : Disk} (h : Evidence.Touches root disk later) :
      Changes root supervisor disk later
  | restart (kind : Restart) (log : String) (disk : Disk) :
      Changes root supervisor disk (supervisor.carryOut kind log disk).2

/-- Whatever the monitor writes, no restart touches the evidence. -/
def Careful (root : String) (supervisor : Supervisor) (disk : Disk) : Prop :=
  ∀ later, Relation.ReflTransGen (Changes root supervisor) disk later → ∀ kind log,
    Evidence.Same root later.files (supervisor.carryOut kind log later).2.files

variable {root : String} {supervisor : Supervisor} {disk later : Disk}

theorem Careful.touches (h : supervisor.Careful root disk)
    (htouches : Relation.ReflTransGen (Evidence.Touches root) disk later) :
    supervisor.Careful root later := by
  have hchanges : Relation.ReflTransGen (Changes root supervisor) disk later :=
    Relation.ReflTransGen.mono (fun _ _ => Changes.monitor) _ _ htouches
  exact fun last hlast => h last (hchanges.trans hlast)

theorem carryOut_carryOut (supervisor : Supervisor) (kind : Restart) (log : String) (disk : Disk)
    (next : Restart) (nextLog : String) (later : Disk) :
    ((supervisor.carryOut kind log disk).1.2.carryOut next nextLog later).2 =
      (supervisor.carryOut next nextLog later).2 := by
  cases supervisor with
  | scripted directory => rfl
  | noting calls refusals =>
      have hnoting : ∃ noted left, (note calls refusals kind log).2 = .noting noted left := by
        unfold note
        split <;> exact ⟨_, _, rfl⟩
      obtain ⟨noted, left, hnoted⟩ := hnoting
      change ((note calls refusals kind log).2.carryOut next nextLog later).2 = _
      rw [hnoted]
      rfl

theorem Careful.carryOut (h : supervisor.Careful root disk) (kind : Restart) (log : String) :
    (supervisor.carryOut kind log disk).1.2.Careful root (supervisor.carryOut kind log disk).2 := by
  intro last hlast next nextLog
  rw [carryOut_carryOut]
  have hsame : ∀ a b, Changes root (supervisor.carryOut kind log disk).1.2 a b →
      Changes root supervisor a b := by
    intro a b hchange
    cases hchange with
    | monitor htouches => exact .monitor htouches
    | restart again againLog =>
        rw [carryOut_carryOut]
        exact .restart again againLog a
  exact h last (.head (.restart kind log disk) (Relation.ReflTransGen.mono hsame _ _ hlast)) next
    nextLog

end Supervisor

namespace Monitor

variable {root : String} {markers : List String} {α β : Type}

/-- A monitor that leaves its evidence below `root` and looks for these markers, with a supervisor
that leaves it alone. -/
structure Keeps (root : String) (markers : List String) (monitor : Monitor) (disk : Disk) :
    Prop where
  lookout : monitor.config.crashMarkers = markers
  results : monitor.config.results = root
  rooted : monitor.evidence.root = root
  careful : monitor.supervisor.Careful root disk

/-- Compared with the start, the store and the evidence are the same. -/
structure Calm (root : String) (markers : List String) (start : Host) (monitor : Monitor)
    (host : Host) : Prop extends Keeps root markers monitor host.disk where
  pipeline : host.pipeline = start.pipeline
  same : Evidence.Same root start.disk.files host.disk.files

/-- A step that leaves the store and the evidence alone, also where it fails. -/
def Spares (root : String) (markers : List String) (step : Attempt α) : Prop :=
  ∀ start, Leads (Calm root markers start) step (fun _ => Calm root markers start)
    fun _ => Calm root markers start

namespace Spares

theorem pure (value : α) : Spares root markers (Pure.pure value : Attempt α) :=
  fun _ => Leads.pure fun _ _ => id

theorem bind {first : Attempt α} {next : α → Attempt β} (hfirst : Spares root markers first)
    (hnext : ∀ value, Spares root markers (next value)) : Spares root markers (first >>= next) :=
  fun start => (hfirst start).bind fun value => hnext value start

theorem get {next : Monitor → Attempt α}
    (h : ∀ monitor : Monitor, monitor.evidence.root = root → Spares root markers (next monitor)) :
    Spares root markers (MonadState.get >>= next) := by
  refine fun start => Leads.bind Leads.get fun found => ?_
  rintro monitor host ⟨rfl, hcalm⟩
  exact h found hcalm.rooted start found host hcalm

theorem modify {change : Monitor → Monitor}
    (h : ∀ monitor disk, Keeps root markers monitor disk →
      Keeps root markers (change monitor) disk) :
    Spares root markers (modify change : Attempt Unit) := by
  refine fun start => Leads.modify _ fun monitor host hcalm => ?_
  exact { h monitor host.disk hcalm.toKeeps with pipeline := hcalm.pipeline, same := hcalm.same }

end Spares

theorem Calm.onDisk {start host : Host} {monitor : Monitor}
    (h : Calm root markers start monitor host) {disk : Disk}
    (hsame : Evidence.Same root host.disk.files disk.files)
    (htouches : Relation.ReflTransGen (Evidence.Touches root) host.disk disk) :
    Calm root markers start monitor { host with disk } :=
  { h with careful := h.careful.touches htouches, same := h.same.trans hsame }

theorem spares_writing (task : Option String) {step : StateM Disk (Except Files.Fault Unit)}
    (h : Evidence.Spares root step) : Spares root markers (writing task step) := by
  intro start
  apply leads_writing
  · intro monitor host disk hcalm hstep
    obtain ⟨hsame, htouches⟩ := h host.disk
    rw [hstep] at hsame htouches
    exact hcalm.onDisk hsame htouches
  · intro monitor host disk fault hcalm hstep
    obtain ⟨hsame, htouches⟩ := h host.disk
    rw [hstep] at hsame htouches
    exact hcalm.onDisk hsame htouches

theorem spares_noteEvent (event : String) : Spares root markers (noteEvent event) := by
  refine Spares.get ?_
  rintro monitor rfl
  exact spares_writing none (Evidence.spares_append (Or.inr rfl) _)

theorem spares_logMetrics (current : Totals) (delta : Movement) :
    Spares root markers (logMetrics current delta) := by
  refine Spares.get ?_
  rintro monitor rfl
  refine Spares.bind (fun start => Leads.look fun _ host => ⟨host, rfl⟩) fun host => ?_
  exact spares_writing _ (Evidence.spares_append (Or.inl rfl) _)

theorem spares_restart (kind : Restart) : Spares root markers (restart kind) := by
  intro start monitor host hcalm
  have hcareful := hcalm.careful.carryOut kind monitor.evidence.metadata
  have hsame := hcalm.careful host.disk .refl kind monitor.evidence.metadata
  rw [restart_apply]
  cases h : monitor.supervisor.carryOut kind monitor.evidence.metadata host.disk with
  | mk answer disk =>
      obtain ⟨answer, supervisor⟩ := answer
      rw [h] at hcareful hsame
      have hlast : Calm root markers start { monitor with supervisor } { host with disk } :=
        { hcalm with careful := hcareful, same := hcalm.same.trans hsame }
      cases answer with
      | ok value => exact hlast
      | error fault => exact hlast

/-! ### New sets of files -/

theorem spares_reset (sequence : Nat) : Spares root markers (reset sequence) := by
  intro start monitor host hcalm
  obtain ⟨answer, step, hrun, hlaw⟩ := exists_reset sequence monitor host
  obtain ⟨hsame, htouches⟩ := hlaw _ (Evidence.law_spares _) host.disk
  rw [show (monitor.renewed sequence).evidence.root = root from hcalm.results] at hsame htouches
  have hlast := hcalm.onDisk hsame htouches
  rw [hrun]
  cases answer <;> exact { hlast with rooted := hcalm.results }

/-! ### Health -/

theorem law_spares (root : String) (markers : List String) :
    Law fun _ step => Spares root markers step where
  pure := Spares.pure
  bind := Spares.bind
  get h := Spares.get fun monitor _ => h monitor
  mild hmild := Spares.modify fun monitor _ hkeeps => {
    lookout := (congrArg (·.crashMarkers) (hmild.config monitor)).trans hkeeps.lookout
    results := (congrArg (·.results) (hmild.config monitor)).trans hkeeps.results
    rooted := (congrArg (·.root) (hmild.evidence monitor)).trans hkeeps.rooted
    careful := hmild.supervisor monitor ▸ hkeeps.careful }
  noteEvent := spares_noteEvent
  restart := spares_restart

theorem spares_evaluate (delta : Movement) : Spares root markers (evaluate delta) :=
  (law_spares root markers).evaluate delta

/-! ### The ends of cycles -/

theorem spares_close (sequence : Nat) (current : Totals) (action : Action) :
    Spares root markers (close sequence current action) := by
  have hpassed : Spares root markers (modify (·.passed current) : Attempt Unit) :=
    Spares.modify fun _ _ hkeeps => { hkeeps with }
  cases action with
  | grace | healthy | restarted => exact hpassed
  | fullRestart =>
      unfold close
      refine Spares.bind (Spares.modify fun _ _ hkeeps => ?_) fun _ => ?_
      · exact { hkeeps with }
      · exact (spares_reset _).bind fun _ => Spares.modify fun _ _ hkeeps => { hkeeps with }

theorem spares_wake : Spares root markers (modify wake : Attempt Unit) := by
  refine Spares.modify fun monitor disk hkeeps => ?_
  unfold wake
  split
  · exact { hkeeps with }
  · exact hkeeps

end Monitor

end Concord
