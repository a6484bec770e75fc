import Mathlib
import Concord.Proofs.Evidence
import Concord.Proofs.Monitor.Steps

/-!
# What a monitor does between two resets, and what a reset does

Between two resets everything that a monitor writes goes to one set of evidence files. A reset writes
to the metrics and the metadata of another set only, so what was written for the sets before stays.
-/

namespace Concord

namespace Disk

variable {α β : Type} {paths : List String}

/-- A write to one of some files, or an attempt to make directories. -/
inductive WriteTo (paths : List String) : Disk → Disk → Prop
  | write {path : String} (hpath : path ∈ paths)
      (content : List (List UInt8) → List (List UInt8)) (disk : Disk) :
      WriteTo paths disk (attempt (·.writeWith path content) disk).2
  | makeDirectories (path : String) (disk : Disk) : WriteTo paths disk (makeDirectories path disk).2

def KeepsTo (paths : List String) (step : StateM Disk α) : Prop :=
  ∀ disk, Relation.ReflTransGen (WriteTo paths) disk (step disk).2

theorem KeepsTo.pure (value : α) : KeepsTo paths (Pure.pure value : StateM Disk α) :=
  fun _ => .refl

theorem KeepsTo.bind {first : StateM Disk α} {next : α → StateM Disk β}
    (hfirst : KeepsTo paths first) (hnext : ∀ value, KeepsTo paths (next value)) :
    KeepsTo paths (first >>= next) :=
  fun disk => (hfirst disk).trans (hnext (first disk).1 (first disk).2)

theorem law_keepsTo (evidence : Evidence) :
    Evidence.Law evidence fun _ step => KeepsTo evidence.started step where
  pure := KeepsTo.pure
  bind := KeepsTo.bind
  get := fun _ => .refl
  makeDirectories path disk := .single (.makeDirectories path disk)
  write _ hpath disk := .single (.write hpath _ disk)
  append _ disk := .single (.write (List.mem_pair.2 (.inr rfl)) _ disk)

theorem written?_of_keepsTo {disk later : Disk}
    (h : Relation.ReflTransGen (WriteTo paths) disk later) {place : Place}
    (hplace : ∀ path ∈ paths, place ≠ Files.resolve path) :
    later.files.written? place = disk.files.written? place := by
  induction h with
  | refl => rfl
  | tail _ hlast ih =>
      rw [← ih]
      cases hlast with
      | write hpath content => exact written?_attempt_writeWith content _ (hplace _ hpath)
      | makeDirectories path => exact written?_makeDirectories path _ place

/-- What is at none of the files stays as it is. -/
theorem entry?_of_keepsTo {disk later : Disk}
    (h : Relation.ReflTransGen (WriteTo paths) disk later) {place : Place} {entry : Entry}
    (hentry : disk.files.entry? place = some entry)
    (hplace : ∀ path ∈ paths, place ≠ Files.resolve path) :
    later.files.entry? place = some entry := by
  induction h with
  | refl => exact hentry
  | @tail middle later _ hlast ih =>
      cases hlast with
      | write hpath content => exact (entry?_attempt_writeWith content _ (hplace _ hpath)).trans ih
      | makeDirectories path =>
          rcases grows_makeDirectories (Files.grows_grown place) path middle with hsame | ⟨hnone, -⟩
          · exact hsame.trans ih
          · cases ih.symm.trans hnone

end Disk

namespace Evidence

theorem data_ne_metadata (a b : Nat) :
    "data" ++ toString a ++ ".txt" ≠ "bench-metadata" ++ toString b ++ ".txt" := by
  intro h
  have hchars := congrArg String.toList h
  simp only [String.toList_append] at hchars
  exact absurd (List.cons.inj hchars).1 (by decide)

theorem resolve_ne_of_started (evidence other : Evidence) (hroot : other.root = evidence.root)
    (hsequence : other.sequence ≠ evidence.sequence) {path otherPath : String}
    (hpath : path ∈ evidence.started) (hother : otherPath ∈ other.started) :
    Files.resolve otherPath ≠ Files.resolve path := by
  have hcancel : ∀ {name otherName : String},
      Files.resolve other.root ++ ["bench", otherName] =
        Files.resolve evidence.root ++ ["bench", name] → otherName = name := by
    intro name otherName h
    rw [hroot] at h
    exact (List.cons.inj (List.cons.inj (List.append_cancel_left h)).2).1
  intro h
  rcases List.mem_pair.1 hother with rfl | rfl <;> rcases List.mem_pair.1 hpath with rfl | rfl
  · rw [resolve_bench, resolve_bench] at h
    exact hsequence (numbered_injective "data" (hcancel h))
  · rw [resolve_bench, resolve_metadata] at h
    exact data_ne_metadata _ _ (hcancel h)
  · rw [resolve_metadata, resolve_bench] at h
    exact data_ne_metadata _ _ (hcancel h).symm
  · rw [resolve_metadata, resolve_metadata] at h
    exact hsequence (numbered_injective "bench-metadata" (hcancel h))

end Evidence

namespace Monitor

/-! ### Between two resets -/

/-- What a monitor does between two resets: it uses the store, it writes to its evidence files, and
it has parts restarted, which may print at the end of its metadata. -/
inductive Deed (evidence : Evidence) : Host → Host → Prop
  | use (host : Host) (pipeline : Pipeline) : Deed evidence host { host with pipeline }
  | write (path : String) (hpath : path ∈ evidence.paths) (text : String) (host : Host) :
      Deed evidence host { host with disk := (Disk.append path text host.disk).2 }
  | restart (supervisor : Supervisor) (kind : Restart) (host : Host) :
      Deed evidence host
        { host with disk := (supervisor.carryOut kind evidence.metadata host.disk).2 }

/-- The monitor has the same files, and on the host there was nothing but deeds since the start. -/
structure Since (config : MonitorConfig) (evidence : Evidence) (start : Host) (monitor : Monitor)
    (host : Host) : Prop where
  sameConfig : monitor.config = config
  sameEvidence : monitor.evidence = evidence
  deeds : Relation.ReflTransGen (Deed evidence) start host

/-- A step of deeds, also where it fails. -/
def Works (evidence : Evidence) (α : Type) (step : Attempt α) : Prop :=
  ∀ config start, Leads (Since config evidence start) step
    (fun _ => Since config evidence start) fun _ => Since config evidence start

section Works

variable {evidence : Evidence} {α β : Type}

theorem Since.deed {config : MonitorConfig} {start host later : Host} {monitor : Monitor}
    (h : Since config evidence start monitor host) (hdeed : Deed evidence host later) :
    Since config evidence start monitor later :=
  { h with deeds := h.deeds.tail hdeed }

theorem Works.pure (value : α) : Works evidence α (Pure.pure value) :=
  fun _ _ => Leads.pure fun _ _ => id

theorem Works.bind {first : Attempt α} {next : α → Attempt β} (hfirst : Works evidence α first)
    (hnext : ∀ value, Works evidence β (next value)) : Works evidence β (first >>= next) :=
  fun config start => (hfirst config start).bind fun value => hnext value config start

theorem Works.get {next : Monitor → Attempt α}
    (h : ∀ monitor : Monitor, monitor.evidence = evidence → Works evidence α (next monitor)) :
    Works evidence α (MonadState.get >>= next) := by
  refine fun config start => Leads.bind Leads.get fun found => ?_
  rintro monitor host ⟨rfl, hsince⟩
  exact h found hsince.sameEvidence config start found host hsince

theorem Works.modify {change : Monitor → Monitor}
    (hconfig : ∀ monitor, (change monitor).config = monitor.config)
    (hevidence : ∀ monitor, (change monitor).evidence = monitor.evidence) :
    Works evidence Unit (modify change) := by
  refine fun config start => Leads.modify _ fun monitor host hsince => ?_
  exact ⟨(hconfig monitor).trans hsince.sameConfig, (hevidence monitor).trans hsince.sameEvidence,
    hsince.deeds⟩

theorem Works.forM {items : List β} {step : β → Attempt Unit}
    (h : ∀ item, Works evidence Unit (step item)) : Works evidence Unit (items.forM step) := by
  induction items with
  | nil => exact Works.pure ()
  | cons item rest ih => exact (h item).bind fun _ => ih

theorem works_append (task : Option String) {path : String} (h : path ∈ evidence.paths)
    (text : String) : Works evidence Unit (writing task (Disk.append path text)) := by
  intro config start monitor host hsince
  have hlast := hsince.deed (.write path h text host)
  rw [writing_apply]
  generalize Disk.append path text host.disk = answer at hlast ⊢
  obtain ⟨answer, disk⟩ := answer
  cases answer <;> exact hlast

theorem works_asking (task : Option String) (step : StateM Pipeline (Except Store.Fault α)) :
    Works evidence α (asking task step) := by
  intro config start
  apply leads_asking
  · exact fun monitor host value pipeline hsince _ => hsince.deed (.use host pipeline)
  · exact fun monitor host fault pipeline hsince _ => hsince.deed (.use host pipeline)

theorem works_restart (kind : Restart) : Works evidence Unit (restart kind) := by
  rintro config start monitor host ⟨hconfig, rfl, hdeeds⟩
  have hlast := (Since.mk hconfig rfl hdeeds).deed (.restart monitor.supervisor kind host)
  rw [restart_apply]
  generalize monitor.supervisor.carryOut kind monitor.evidence.metadata host.disk = answer
    at hlast ⊢
  obtain ⟨⟨answer, supervisor⟩, disk⟩ := answer
  cases answer <;> exact { hlast with }

theorem works_noteEvent (event : String) : Works evidence Unit (noteEvent event) := by
  refine Works.get ?_
  rintro monitor rfl
  exact works_append none (by simp [Evidence.paths]) _

theorem works_logMetrics (current : Totals) (delta : Movement) :
    Works evidence Unit (logMetrics current delta) := by
  refine Works.get ?_
  rintro monitor rfl
  refine Works.bind (fun config start => Leads.look fun _ host => ⟨host, rfl⟩) fun host => ?_
  exact works_append _ (by simp [Evidence.paths]) _

theorem works_logCrashes : Works evidence Nat logCrashes := by
  refine Works.get fun monitor _ => ?_
  refine (works_asking _ _).bind fun crashes => ?_
  refine (Works.forM fun crash => ?_).bind fun _ => Works.pure _
  refine Works.get ?_
  rintro monitor rfl
  refine (works_append _ (by simp [Evidence.paths]) _).bind fun _ => ?_
  exact (works_asking _ _).bind fun _ => Works.pure _

theorem works_logDiscrepancies : Works evidence Nat logDiscrepancies := by
  refine (works_asking _ _).bind fun found => ?_
  refine (Works.forM fun verification => ?_).bind fun _ => Works.pure _
  refine (works_asking _ _).bind fun generation => ?_
  refine Works.get ?_
  rintro monitor rfl
  refine (works_append _ (by simp [Evidence.paths]) _).bind fun _ => ?_
  exact (works_asking _ _).bind fun _ => Works.pure _

theorem law_works (evidence : Evidence) : Law (Works evidence) where
  pure := Works.pure
  bind := Works.bind
  get h := Works.get fun monitor _ => h monitor
  mild hmild := Works.modify hmild.config hmild.evidence
  noteEvent := works_noteEvent
  restart := works_restart

theorem mild_wake : Mild wake := by
  refine ⟨fun monitor => ?_, fun monitor => ?_, fun monitor => ?_, fun monitor => ?_⟩ <;>
  · unfold wake
    split <;> rfl

end Works

/-- A cycle up to where it is closed. -/
def judgement : Attempt Report := do
  modify wake
  let monitor ← get
  let current ← asking (some "failed to read counters") (Pipeline.counters monitor.context.backends)
  let delta := current.since (monitor.baseline.getD .zero)
  logMetrics current delta
  let crashesLogged ← logCrashes
  let discrepanciesLogged ← logDiscrepancies
  let action ← evaluate delta
  pure ⟨monitor.evidence.sequence, current, delta, crashesLogged, discrepanciesLogged, action⟩

theorem attemptCycle_eq : attemptCycle = (do
    let report ← judgement
    close report.sequence report.current report.action
    pure report) := by
  simp only [attemptCycle, judgement, bind_assoc, pure_bind]

/-- Up to there a cycle is made of deeds, and its report names the files that it found. -/
theorem leads_judgement (config : MonitorConfig) (evidence : Evidence) (start : Host) :
    Leads (Since config evidence start) judgement
      (fun report monitor host => report.sequence = evidence.sequence ∧
        Since config evidence start monitor host)
      fun _ => Since config evidence start := by
  have hworks : ∀ {α : Type} {step : Attempt α}, Works evidence α step →
      Leads (Since config evidence start) step (fun _ => Since config evidence start)
        fun _ => Since config evidence start := fun h => h config start
  refine (hworks ((law_works evidence).mild mild_wake)).bind fun _ => ?_
  refine Leads.bind Leads.get fun found => ?_
  rintro monitor host ⟨rfl, hsince⟩
  rw [hsince.sameEvidence]
  refine (hworks (works_asking _ _)).bind (fun current => ?_) found host hsince
  refine (hworks (works_logMetrics _ _)).bind fun _ => ?_
  refine (hworks works_logCrashes).bind fun crashesLogged => ?_
  refine (hworks works_logDiscrepancies).bind fun discrepanciesLogged => ?_
  refine (hworks ((law_works evidence).evaluate _)).bind fun action => ?_
  exact Leads.pure fun _ _ hlast => ⟨rfl, hlast⟩

end Monitor

end Concord
