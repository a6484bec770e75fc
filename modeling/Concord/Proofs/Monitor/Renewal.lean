import Mathlib
import Concord.Proofs.Monitor.Deeds
import Concord.Proofs.Monitor.Escalation

/-!
# Starting over

Whatever fails, and wherever, a cycle leaves the monitor in order. Each time the monitor starts over
it takes files with a number that none of its files had before.
-/

namespace Concord

/-! ### A monitor that is watched -/

/-- Something that a monitor did, with the host before and after it: it was at work on its files, or
it started over with files of another number. -/
inductive Event where
  | worked (before after : Host)
  | renewed (sequence : Nat) (before after : Host)

def Event.sequence? : Event → Option Nat
  | worked _ _ => none
  | renewed sequence _ _ => some sequence

/-- The numbers with which a monitor started over. -/
def resets (events : List Event) : List Nat :=
  events.filterMap Event.sequence?

/-- An event is in order after files with these numbers were used: what is done besides resets goes
to the files with the last one, and a reset takes a number that is greater than all of them, writes
to its own files, and keeps the metrics and the metadata of the others. -/
def Event.InOrder (root : String) (used : List Nat) : Event → Prop
  | .worked before after => ∃ sequence, used.getLast? = some sequence ∧
      Relation.ReflTransGen (Monitor.Deed ⟨root, sequence⟩) before after
  | .renewed sequence before after => (∀ old ∈ used, old < sequence) ∧
      Relation.ReflTransGen (Disk.WriteTo (Evidence.mk root sequence).started)
        before.disk after.disk ∧
      ∀ old ∈ used, ∀ path ∈ (Evidence.mk root old).started,
        after.disk.files.written? (Files.resolve path) =
          before.disk.files.written? (Files.resolve path)

/-- So is one event after the other. -/
def InOrder (root : String) : List Nat → List Event → Prop
  | _, [] => True
  | used, event :: rest =>
      event.InOrder root used ∧ InOrder root (used ++ event.sequence?.toList) rest

theorem resets_append (events rest : List Event) :
    resets (events ++ rest) = resets events ++ resets rest :=
  List.filterMap_append

theorem resets_cons (event : Event) (rest : List Event) :
    resets (event :: rest) = event.sequence?.toList ++ resets rest := by
  unfold resets
  cases h : event.sequence? with
  | none => exact List.filterMap_cons_none h
  | some sequence => exact List.filterMap_cons_some h

theorem inOrder_append_iff (root : String) (used : List Nat) (events rest : List Event) :
    InOrder root used (events ++ rest) ↔
      InOrder root used events ∧ InOrder root (used ++ resets events) rest := by
  induction events generalizing used with
  | nil => simp [InOrder, resets]
  | cons event events ih =>
      rw [List.cons_append, InOrder, InOrder, ih, resets_cons, List.append_assoc, and_assoc]

/-- A host, and what a monitor did on it. -/
structure Watched where
  host : Host
  events : List Event := []

namespace Watched

variable {α β : Type}

abbrev Step (α : Type) := ExceptT Failure (StateT Monitor (StateM Watched)) α

/-- A step that counts as one event. -/
def telling (event : Host → Host → Event) (step : Monitor.Attempt α) : Step α :=
  fun monitor watched =>
    let ((answer, next), host) := step monitor watched.host
    ((answer, next), { host, events := watched.events ++ [event watched.host host] })

def work (step : Monitor.Attempt α) : Step α :=
  telling .worked step

def reset (sequence : Nat) : Step Unit :=
  telling (.renewed sequence) (Monitor.reset sequence)

def close (sequence : Nat) (current : Totals) : Monitor.Action → Step Unit
  | .fullRestart => do
      work (modify fun monitor =>
        { monitor with totalTime := monitor.totalTime + monitor.config.interval })
      reset (sequence + 1)
      work (modify fun monitor => { monitor with baseline := some current })
  | _ => work (modify (·.passed current))

def attemptCycle : Step Monitor.Report := do
  let report ← work Monitor.judgement
  close report.sequence report.current report.action
  pure report

def note (message : String) : Step Unit := do
  let monitor ← get
  work (Monitor.writing none (Disk.append monitor.evidence.metadata
    ("monitor_event:error\nerror_message:" ++ message ++ "\n")))

def recover (message : String) : StateT Monitor (StateM Watched) Unit := fun monitor watched =>
  let ((_, monitor), watched) := note message monitor watched
  let ((_, monitor), watched) := reset (monitor.evidence.sequence + 1) monitor watched
  (((), monitor), watched)

def cycle : StateT Monitor (StateM Watched) Monitor.Outcome := fun monitor watched =>
  match attemptCycle monitor watched with
  | ((.ok report, monitor), watched) => ((.completed report, monitor), watched)
  | ((.error failure, monitor), watched) =>
      let (((), monitor), watched) := recover failure.message monitor watched
      ((.failed failure.message, monitor), watched)

/-! ### Watching changes nothing -/

theorem telling_apply (event : Host → Host → Event) (step : Monitor.Attempt α) (monitor : Monitor)
    (watched : Watched) :
    ((telling event step).run.run monitor).run watched =
      match (step.run.run monitor).run watched.host with
      | ((answer, next), host) =>
          ((answer, next), { host, events := watched.events ++ [event watched.host host] }) :=
  rfl

def Mirrors (step : Step α) (plain : Monitor.Attempt α) : Prop :=
  ∀ monitor watched, ∃ events, (step.run.run monitor).run watched =
    (((plain.run.run monitor).run watched.host).1,
      ⟨((plain.run.run monitor).run watched.host).2, events⟩)

theorem Mirrors.bind {first : Step α} {next : α → Step β} {plain : Monitor.Attempt α}
    {plainNext : α → Monitor.Attempt β} (hfirst : Mirrors first plain)
    (hnext : ∀ value, Mirrors (next value) (plainNext value)) :
    Mirrors (first >>= next) (plain >>= plainNext) := by
  intro monitor watched
  obtain ⟨events, hrun⟩ := hfirst monitor watched
  rw [Monitor.bind_apply, Monitor.bind_apply, hrun]
  cases (plain.run.run monitor).run watched.host with
  | mk answer host =>
      obtain ⟨answer, monitor⟩ := answer
      cases answer with
      | error failure => exact ⟨events, rfl⟩
      | ok value => exact hnext value monitor ⟨host, events⟩

theorem Mirrors.pure (value : α) : Mirrors (Pure.pure value : Step α) (Pure.pure value) :=
  fun _ watched => ⟨watched.events, rfl⟩

theorem mirrors_telling (event : Host → Host → Event) (step : Monitor.Attempt α) :
    Mirrors (telling event step) step :=
  fun _ _ => ⟨_, rfl⟩

theorem mirrors_close (sequence : Nat) (current : Totals) (action : Monitor.Action) :
    Mirrors (close sequence current action) (Monitor.close sequence current action) := by
  cases action with
  | grace | healthy | restarted => exact mirrors_telling .worked (modify (·.passed current))
  | fullRestart =>
      exact (mirrors_telling _ _).bind fun _ => (mirrors_telling _ _).bind fun _ =>
        mirrors_telling _ _

theorem mirrors_attemptCycle : Mirrors attemptCycle Monitor.attemptCycle := by
  rw [Monitor.attemptCycle_eq]
  exact (mirrors_telling _ _).bind fun report => (mirrors_close _ _ _).bind fun _ =>
    Mirrors.pure report

theorem recover_apply (message : String) (monitor : Monitor) (watched : Watched) :
    ((recover message).run monitor).run watched =
      match ((note message).run.run monitor).run watched with
      | ((_, noted), told) =>
          match ((reset (noted.evidence.sequence + 1)).run.run noted).run told with
          | ((_, next), last) => (((), next), last) :=
  rfl

theorem cycle_apply (monitor : Monitor) (watched : Watched) :
    (cycle.run monitor).run watched =
      match (attemptCycle.run.run monitor).run watched with
      | ((.ok report, next), last) => ((.completed report, next), last)
      | ((.error failure, changed), told) =>
          match ((recover failure.message).run changed).run told with
          | (((), next), last) => ((.failed failure.message, next), last) :=
  rfl

theorem note_run (message : String) (monitor : Monitor) (watched : Watched) :
    ((note message).run.run monitor).run watched =
      ((work (Monitor.writing none (Disk.append monitor.evidence.metadata
        ("monitor_event:error\nerror_message:" ++ message ++ "\n")))).run.run monitor).run watched := by
  unfold note
  rw [Monitor.bind_apply]
  rfl

theorem note_apply (message : String) (monitor : Monitor) (watched : Watched) :
    ∃ answer events, ((note message).run.run monitor).run watched =
      ((answer, monitor), ⟨{ watched.host with disk := (Disk.append monitor.evidence.metadata
        ("monitor_event:error\nerror_message:" ++ message ++ "\n") watched.host.disk).2 },
        events⟩) := by
  rw [note_run, work, telling_apply, Monitor.writing_apply]
  cases Disk.append monitor.evidence.metadata
    ("monitor_event:error\nerror_message:" ++ message ++ "\n") watched.host.disk with
  | mk answer disk => cases answer <;> exact ⟨_, _, rfl⟩

/-- **Watching.** A monitor that is watched goes through its cycles as it does otherwise. -/
theorem cycle_eq (monitor : Monitor) (watched : Watched) :
    ∃ events, (cycle.run monitor).run watched =
      (((Monitor.cycle.run monitor).run watched.host).1,
        ⟨((Monitor.cycle.run monitor).run watched.host).2, events⟩) := by
  obtain ⟨events, hrun⟩ := mirrors_attemptCycle monitor watched
  rw [Monitor.cycle_apply, cycle_apply, hrun]
  cases (Monitor.attemptCycle.run.run monitor).run watched.host with
  | mk answer host =>
      obtain ⟨answer, changed⟩ := answer
      cases answer with
      | ok report => exact ⟨events, rfl⟩
      | error failure =>
          dsimp only
          obtain ⟨answer, told, hnote⟩ := note_apply failure.message changed ⟨host, events⟩
          rw [Monitor.recover_apply, recover_apply, hnote]
          exact ⟨_, rfl⟩

/-! ### Every step is in order -/

section Order

variable {config : MonitorConfig} {used renewed : List Nat}

/-- The monitor was watched since these numbers were used, and started over with more of them since:
all that it did is in order, and its files have the last number of all. -/
structure Tells (config : MonitorConfig) (used renewed : List Nat) (monitor : Monitor)
    (watched : Watched) : Prop where
  sameConfig : monitor.config = config
  rooted : monitor.evidence.root = config.results
  told : resets watched.events = renewed
  last : (used ++ renewed).getLast? = some monitor.evidence.sequence
  below : ∀ old ∈ used ++ renewed, old ≤ monitor.evidence.sequence
  ordered : InOrder config.results used watched.events

theorem Tells.worked {monitor next : Monitor} {watched : Watched} {host : Host}
    (h : Tells config used renewed monitor watched)
    (hsince : Monitor.Since config monitor.evidence watched.host next host) :
    Tells config used renewed next
      ⟨host, watched.events ++ [.worked watched.host host]⟩ := by
  have hevent : (Event.worked watched.host host).InOrder config.results
      (used ++ resets watched.events) := by
    refine ⟨monitor.evidence.sequence, h.told ▸ h.last, ?_⟩
    rw [← h.rooted]
    exact hsince.deeds
  refine ⟨hsince.sameConfig, ?_, ?_, ?_, ?_, ?_⟩
  · rw [hsince.sameEvidence, h.rooted]
  · rw [resets_append, h.told]
    exact List.append_nil renewed
  · rw [hsince.sameEvidence, h.last]
  · rw [hsince.sameEvidence]
    exact h.below
  · exact (inOrder_append_iff _ _ _ _).2 ⟨h.ordered, hevent, trivial⟩

/-- Work that leaves the monitor its files is in order. -/
theorem tells_work {step : Monitor.Attempt α} {monitor : Monitor} {watched : Watched}
    {about : α → Prop} (htells : Tells config used renewed monitor watched)
    (h : Monitor.Leads (Monitor.Since config monitor.evidence watched.host) step
      (fun value next host => about value ∧
        Monitor.Since config monitor.evidence watched.host next host)
      fun _ => Monitor.Since config monitor.evidence watched.host) :
    match ((work step).run.run monitor).run watched with
    | ((.ok value, next), last) => about value ∧ Tells config used renewed next last
    | ((.error _, next), last) => Tells config used renewed next last := by
  have hstep := h monitor watched.host ⟨htells.sameConfig, rfl, .refl⟩
  unfold work
  rw [telling_apply]
  cases hrun : (step.run.run monitor).run watched.host with
  | mk answer host =>
      rw [hrun] at hstep
      obtain ⟨answer, next⟩ := answer
      cases answer with
      | ok value => exact ⟨hstep.1, htells.worked hstep.2⟩
      | error failure => exact htells.worked hstep

theorem leads_works {step : Monitor.Attempt α} (h : ∀ evidence, Monitor.Works evidence α step) :
    Monitor.Leads (Tells config used renewed) (work step)
      (fun _ => Tells config used renewed) fun _ => Tells config used renewed := by
  intro monitor watched htells
  have hwork := tells_work htells ((h monitor.evidence config watched.host).of_imp (fun _ _ => id)
    fun value _ _ hsince => show value = value ∧ _ from ⟨rfl, hsince⟩)
  cases hrun : ((work step).run.run monitor).run watched with
  | mk answer last =>
      rw [hrun] at hwork
      obtain ⟨answer, next⟩ := answer
      cases answer with
      | ok value => exact hwork.2
      | error failure => exact hwork

theorem leads_reset {sequence : Nat} (hlast : (used ++ renewed).getLast? = some sequence) :
    Monitor.Leads (Tells config used renewed) (reset (sequence + 1))
      (fun _ => Tells config used (renewed ++ [sequence + 1]))
      fun _ => Tells config used (renewed ++ [sequence + 1]) := by
  intro monitor watched h
  obtain ⟨answer, step, hrun, hlaw⟩ := Monitor.exists_reset (sequence + 1) monitor watched.host
  have hwrites := hlaw _ (Disk.law_keepsTo _) watched.host.disk
  have hsequence : monitor.evidence.sequence = sequence := Option.some.inj (h.last.symm.trans hlast)
  have hbelow : ∀ old ∈ used ++ renewed, old < sequence + 1 :=
    fun old hold => Nat.lt_succ_of_le (hsequence ▸ h.below old hold)
  generalize (step watched.host.disk).1 = seed at hrun
  generalize (step watched.host.disk).2 = disk at hrun hwrites
  have hevent : (Event.renewed (sequence + 1) watched.host { watched.host with disk }).InOrder
      config.results (used ++ resets watched.events) := by
    rw [h.told]
    rw [show (monitor.renewed (sequence + 1)).evidence = ⟨config.results, sequence + 1⟩ from
      congrArg (fun config => (⟨config.results, sequence + 1⟩ : Evidence)) h.sameConfig] at hwrites
    refine ⟨hbelow, hwrites, fun old hold path hpath => ?_⟩
    refine Disk.written?_of_keepsTo hwrites fun started hstarted => ?_
    exact Evidence.resolve_ne_of_started ⟨config.results, sequence + 1⟩ ⟨config.results, old⟩ rfl
      (hbelow old hold).ne hstarted hpath
  have hnext : Tells config used (renewed ++ [sequence + 1])
      { monitor.renewed (sequence + 1) with seed }
      ⟨{ watched.host with disk },
        watched.events ++ [.renewed (sequence + 1) watched.host { watched.host with disk }]⟩ := by
    refine ⟨h.sameConfig, congrArg (·.results) h.sameConfig, ?_, ?_, ?_, ?_⟩
    · rw [resets_append, h.told]
      rfl
    · rw [← List.append_assoc]
      exact List.getLast?_concat
    · intro old hold
      rw [← List.append_assoc] at hold
      rcases List.mem_append.1 hold with hold | hold
      · exact (hbelow old hold).le
      · exact (List.mem_singleton.1 hold).le
    · exact (inOrder_append_iff _ _ _ _).2 ⟨h.ordered, hevent, trivial⟩
  unfold reset
  rw [telling_apply, hrun]
  cases answer <;> exact hnext

/-- Somewhere between two events. -/
def Between (config : MonitorConfig) (used : List Nat) (_ : Failure) (monitor : Monitor)
    (watched : Watched) : Prop :=
  ∃ renewed, Tells config used renewed monitor watched

theorem between_of_tells (config : MonitorConfig) (used renewed : List Nat) (failure : Failure)
    (monitor : Monitor) (watched : Watched) (h : Tells config used renewed monitor watched) :
    Between config used failure monitor watched :=
  ⟨renewed, h⟩

/-- The end of a cycle starts over if everything was restarted. -/
theorem leads_close {sequence : Nat} (hlast : used.getLast? = some sequence) (current : Totals)
    (action : Monitor.Action) :
    Monitor.Leads (Tells config used []) (close sequence current action)
      (fun _ monitor watched => ∃ renewed, Tells config used renewed monitor watched ∧
        (renewed = [] ↔ action ≠ .fullRestart))
      (Between config used) := by
  have hmild : ∀ (renewed : List Nat) {change : Monitor → Monitor}, Monitor.Mild change →
      Monitor.Leads (Tells config used renewed) (work (modify change))
        (fun _ => Tells config used renewed) (Between config used) :=
    fun renewed _ hchange =>
      (leads_works fun evidence => (Monitor.law_works evidence).mild hchange).of_failed
        (between_of_tells config used renewed)
  cases action with
  | grace | healthy | restarted =>
      have hpassed : Monitor.Mild (·.passed current) :=
        ⟨fun _ => rfl, fun _ => rfl, fun _ => rfl, fun _ => rfl⟩
      refine (hmild [] hpassed).of_imp (fun _ _ => id) fun _ monitor watched htells => ?_
      exact ⟨[], htells, iff_of_true rfl nofun⟩
  | fullRestart =>
      have hcounted : Monitor.Mild fun monitor =>
          { monitor with totalTime := monitor.totalTime + monitor.config.interval } :=
        ⟨fun _ => rfl, fun _ => rfl, fun _ => rfl, fun _ => rfl⟩
      have hbased : Monitor.Mild fun monitor => { monitor with baseline := some current } :=
        ⟨fun _ => rfl, fun _ => rfl, fun _ => rfl, fun _ => rfl⟩
      have hall : (used ++ []).getLast? = some sequence := by rwa [List.append_nil]
      refine (hmild [] hcounted).bind fun _ => ?_
      refine ((leads_reset hall).of_failed (between_of_tells config used _)).bind fun _ => ?_
      refine (hmild _ hbased).of_imp (fun _ _ => id) fun _ monitor watched htells => ?_
      exact ⟨_, htells, iff_of_false (List.cons_ne_nil _ _) fun hpart => hpart rfl⟩

theorem leads_attemptCycle (config : MonitorConfig) (used : List Nat) :
    Monitor.Leads (Tells config used []) attemptCycle
      (fun report monitor watched => ∃ renewed, Tells config used renewed monitor watched ∧
        (renewed = [] ↔ report.action ≠ .fullRestart))
      (Between config used) := by
  intro monitor watched htells
  have hwork := tells_work htells (Monitor.leads_judgement config monitor.evidence watched.host)
  unfold attemptCycle
  rw [Monitor.bind_apply]
  cases hrun : ((work Monitor.judgement).run.run monitor).run watched with
  | mk answer last =>
      rw [hrun] at hwork
      obtain ⟨answer, next⟩ := answer
      cases answer with
      | error failure => exact ⟨[], hwork⟩
      | ok report =>
          obtain ⟨hreport, hwork⟩ := hwork
          have hlast : used.getLast? = some report.sequence := by
            rw [hreport, ← htells.last, List.append_nil]
          have hclose : Monitor.Leads (Tells config used [])
              (do close report.sequence report.current report.action; pure report)
              (fun found monitor watched => ∃ renewed, Tells config used renewed monitor watched ∧
                (renewed = [] ↔ found.action ≠ .fullRestart))
              (Between config used) :=
            (leads_close hlast report.current report.action).bind fun _ =>
              Monitor.Leads.pure fun _ _ => id
          exact hclose next last hwork

theorem tells_recover {monitor : Monitor} {watched : Watched}
    (h : Tells config used renewed monitor watched) (message : String) :
    ∃ sequence, Tells config used (renewed ++ [sequence])
      (((recover message).run monitor).run watched).1.2
      (((recover message).run monitor).run watched).2 := by
  have hmetadata : monitor.evidence.metadata ∈ monitor.evidence.paths := by simp [Evidence.paths]
  have hnote := tells_work h ((Monitor.works_append none hmetadata
    ("monitor_event:error\nerror_message:" ++ message ++ "\n") config watched.host).of_imp
      (fun _ _ => id) fun value _ _ hsince => show value = value ∧ _ from ⟨rfl, hsince⟩)
  rw [← note_run] at hnote
  rw [recover_apply]
  cases hrun : ((note message).run.run monitor).run watched with
  | mk answer told =>
      rw [hrun] at hnote
      obtain ⟨answer, noted⟩ := answer
      -- the monitor starts over also where the failure could not be noted
      have hnoted : Tells config used renewed noted told := by
        cases answer with
        | ok value => exact hnote.2
        | error failure => exact hnote
      have hreset := leads_reset hnoted.last noted told hnoted
      refine ⟨noted.evidence.sequence + 1, ?_⟩
      dsimp only
      cases hlast : ((reset (noted.evidence.sequence + 1)).run.run noted).run told with
      | mk answer last =>
          rw [hlast] at hreset
          obtain ⟨answer, next⟩ := answer
          cases answer <;> exact hreset

theorem tells_cycle {monitor : Monitor} {watched : Watched}
    (h : Tells config used [] monitor watched) :
    ∃ renewed, Tells config used renewed ((cycle.run monitor).run watched).1.2
        ((cycle.run monitor).run watched).2 ∧
      (renewed = [] ↔ ∃ report, ((cycle.run monitor).run watched).1.1 = .completed report ∧
        report.action ≠ .fullRestart) := by
  have hattempt := leads_attemptCycle config used monitor watched h
  rw [cycle_apply]
  cases hrun : (attemptCycle.run.run monitor).run watched with
  | mk answer told =>
      rw [hrun] at hattempt
      obtain ⟨answer, changed⟩ := answer
      cases answer with
      | ok report =>
          obtain ⟨renewed, htells, hfull⟩ := hattempt
          refine ⟨renewed, htells, hfull.trans ⟨fun hpart => ⟨report, rfl, hpart⟩, ?_⟩⟩
          rintro ⟨other, hother, hpart⟩
          rwa [Monitor.Outcome.completed.inj hother]
      | error failure =>
          obtain ⟨renewed, htells⟩ := hattempt
          obtain ⟨sequence, hlast⟩ := tells_recover htells failure.message
          refine ⟨_, hlast, iff_of_false (by simp) ?_⟩
          rintro ⟨report, hreport, -⟩
          cases hreport

end Order

theorem Tells.onward {config : MonitorConfig} {used renewed : List Nat} {monitor : Monitor}
    {watched : Watched} (h : Tells config used renewed monitor watched) (host : Host) :
    Tells config (used ++ renewed) [] monitor { host } := by
  refine ⟨h.sameConfig, h.rooted, rfl, ?_, ?_, trivial⟩
  · rw [List.append_nil]
    exact h.last
  · rw [List.append_nil]
    exact h.below

end Watched

namespace Monitor

/-! ### Runs -/

/-- A cycle on a host, and what it came to. -/
structure Call where
  monitor : Monitor
  host : Host
  outcome : Outcome
  next : Monitor
  later : Host
  events : List Event

def call (monitor : Monitor) (host : Host) : Call :=
  let ran := (Watched.cycle.run monitor).run { host }
  ⟨monitor, host, ran.1.1, ran.1.2, ran.2.host, ran.2.events⟩

/-- One cycle after the other. The hosts are what others made of them in between, so on each of them
anything may fail. -/
def calls (monitor : Monitor) : List Host → List Call
  | [] => []
  | host :: rest => call monitor host :: calls (call monitor host).next rest

namespace Call

def Failed (call : Call) : Prop :=
  ∃ message, call.outcome = .failed message

def completes (call : Call) : Bool :=
  match call.outcome with
  | .completed _ => true
  | .failed _ => false

def renews (call : Call) : Bool :=
  !(resets call.events).isEmpty

end Call

/-- How many cycles completed since the last one in which the monitor started over. -/
def completedSince (calls : List Call) : Nat :=
  (calls.rtakeWhile fun call => !call.renews).countP Call.completes

/-- The monitor after some cycles. -/
structure Sane (config : MonitorConfig) (earlier : List Call) (monitor : Monitor) : Prop where
  phase : monitor.phase = .initializing ∨ monitor.phase = .running ∨ monitor.phase = .restarting
  streaks : 0 < config.restartThreshold → monitor.runnerStreak < config.restartThreshold ∧
    monitor.generatorStreak < config.restartThreshold
  elapsed : monitor.elapsed = config.interval * completedSince earlier

/-- What a cycle leaves after some others. -/
structure Survives (config : MonitorConfig) (earlier : List Call) (call : Call) : Prop where
  runs : (cycle.run call.monitor).run call.host = ((call.outcome, call.next), call.later)
  sane : Sane config (earlier ++ [call]) call.next
  clean : call.Failed → call.next.Fresh ∧ call.next.baseline = none

section Runs

variable {config : MonitorConfig} {earlier : List Call} {monitor next : Monitor} {host later : Host}

theorem run_call (monitor : Monitor) (host : Host) :
    (cycle.run monitor).run host =
      (((call monitor host).outcome, (call monitor host).next), (call monitor host).later) := by
  obtain ⟨events, hrun⟩ := Watched.cycle_eq monitor { host }
  unfold call
  rw [hrun]
  rfl

theorem clean_of_failed {message : String}
    (h : (cycle.run monitor).run host = ((.failed message, next), later)) :
    next.Fresh ∧ next.baseline = none := by
  refine ⟨fresh_of_failed h, ?_⟩
  obtain ⟨changed, sequence, seed, rfl⟩ := eq_of_failed h
  rfl

theorem completedSince_of_renews {call : Call} (h : call.renews = true) (earlier : List Call) :
    completedSince (earlier ++ [call]) = 0 := by
  unfold completedSince
  rw [List.rtakeWhile_concat_neg _ _ _ (by simp [h])]
  rfl

theorem completedSince_of_completes {call : Call} (h : call.renews = false)
    (hcompletes : call.completes = true) (earlier : List Call) :
    completedSince (earlier ++ [call]) = completedSince earlier + 1 := by
  unfold completedSince
  rw [List.rtakeWhile_concat_pos _ _ _ (by simp [h]), List.countP_append,
    List.countP_singleton, if_pos hcompletes]

theorem phase_wake (h : monitor.phase = .initializing ∨ monitor.phase = .running ∨
    monitor.phase = .restarting) :
    monitor.wake.phase = .initializing ∨ monitor.wake.phase = .running := by
  unfold wake
  rcases h with h | h | h <;> simp [h]

theorem phaseAfter_cases (runners generator : Bool) (phase : Phase) :
    phaseAfter runners generator false phase = .restarting ∨
      phaseAfter runners generator false phase = phase := by
  unfold phaseAfter
  rw [if_neg Bool.false_ne_true]
  split
  · exact .inl rfl
  · exact .inr rfl

theorem streaks_of_not_overThreshold (h : monitor.overThreshold = false) :
    monitor.runnerStreak < monitor.config.restartThreshold ∧
      monitor.generatorStreak < monitor.config.restartThreshold := by
  unfold overThreshold at h
  rw [Bool.or_eq_false_iff, decide_eq_false_iff_not, decide_eq_false_iff_not] at h
  omega

structure Settled (config : MonitorConfig) (monitor : Monitor) (report : Report) (next : Monitor) :
    Prop where
  phase : next.phase = .initializing ∨ next.phase = .running ∨ next.phase = .restarting
  streaks : 0 < config.restartThreshold → next.runnerStreak < config.restartThreshold ∧
    next.generatorStreak < config.restartThreshold
  restarted : report.action = .fullRestart → next.elapsed = 0
  passed : report.action ≠ .fullRestart → next.elapsed = monitor.elapsed + config.interval

theorem settled_of_completed {report : Report} (hsane : Sane config earlier monitor)
    (hconfig : monitor.config = config)
    (h : (cycle.run monitor).run host = ((.completed report, next), later)) :
    Settled config monitor report next := by
  subst hconfig
  obtain ⟨phase, hwake, -⟩ := wake_eq monitor
  have hphase := phase_wake hsane.phase
  obtain ⟨-, -, hconcluded⟩ := reported_of_cycle h
  cases hconcluded with
  | grace hgrace haction hat =>
      obtain ⟨supervisor, rfl, -⟩ := hat
      rw [hwake]
      refine ⟨.inr (.inl rfl), hsane.streaks, ?_, fun _ => rfl⟩
      rw [haction]
      nofun
  | judged hjudged hfull haction hat =>
      obtain ⟨supervisor, rfl, -⟩ := hat
      have hpart : report.action ≠ .fullRestart := haction ▸ verdict_ne_fullRestart _ _
      have hstreaks := streaks_of_not_overThreshold hfull
      rw [hwake] at hphase hstreaks hfull ⊢
      refine ⟨?_, fun _ => hstreaks, fun hall => absurd hall hpart, fun _ => rfl⟩
      change phaseAfter _ _ (counted _ _).overThreshold phase = _ ∨
        phaseAfter _ _ (counted _ _).overThreshold phase = _ ∨
        phaseAfter _ _ (counted _ _).overThreshold phase = _
      rw [hfull]
      rcases phaseAfter_cases (runnersBad { monitor with phase } report.delta)
        (generatorBad report.delta) phase with hafter | hafter
      · exact .inr (.inr hafter)
      · rw [hafter]
        exact hphase.imp_right .inl
  | restarted hjudged hfull haction hat =>
      obtain ⟨seed, supervisor, rfl, -⟩ := hat
      exact ⟨.inl rfl, fun hpos => ⟨hpos, hpos⟩, fun _ => rfl, fun hpart => absurd haction hpart⟩

theorem Sane.survives (h : Sane config earlier monitor) (hconfig : monitor.config = config)
    (hrenews : (call monitor host).renews = false ↔ ∃ report,
      (call monitor host).outcome = .completed report ∧ report.action ≠ .fullRestart) :
    Survives config earlier (call monitor host) := by
  have hruns := run_call monitor host
  refine ⟨hruns, ?_, ?_⟩
  · cases houtcome : (call monitor host).outcome with
    | failed message =>
        rw [houtcome] at hruns
        have hrenewed : (call monitor host).renews = true := by
          rw [← Bool.not_eq_false, hrenews, houtcome]
          rintro ⟨report, hreport, -⟩
          cases hreport
        obtain ⟨hfresh, -⟩ := clean_of_failed hruns
        refine ⟨.inl hfresh.phase, fun hpos => ?_, ?_⟩
        · rw [hfresh.runnerStreak, hfresh.generatorStreak]
          exact ⟨hpos, hpos⟩
        · rw [hfresh.elapsed, completedSince_of_renews hrenewed, Nat.mul_zero]
    | completed report =>
        rw [houtcome] at hruns hrenews
        obtain ⟨hphase, hstreaks, hrestarted, hpassed⟩ := settled_of_completed h hconfig hruns
        refine ⟨hphase, hstreaks, ?_⟩
        by_cases hfull : report.action = .fullRestart
        · have hrenewed : (call monitor host).renews = true := by
            rw [← Bool.not_eq_false, hrenews]
            rintro ⟨other, hother, hpart⟩
            cases hother
            exact hpart hfull
          rw [hrestarted hfull, completedSince_of_renews hrenewed, Nat.mul_zero]
        · have hcompletes : (call monitor host).completes = true := by
            unfold Call.completes
            rw [houtcome]
          rw [hpassed hfull, h.elapsed,
            completedSince_of_completes (hrenews.2 ⟨report, rfl, hfull⟩) hcompletes, Nat.mul_succ]
  · rintro ⟨message, hfailed⟩
    rw [hfailed] at hruns
    exact clean_of_failed hruns

/-- After any cycles, each one more keeps the monitor in order, and so are all that it does. -/
theorem survives_calls {used : List Nat} (hsane : Sane config earlier monitor)
    (htells : ∀ host, Watched.Tells config used [] monitor { host }) (hosts : List Host) :
    (∀ before call rest, calls monitor hosts = before ++ call :: rest →
      Survives config (earlier ++ before) call) ∧
    InOrder config.results used ((calls monitor hosts).flatMap (·.events)) := by
  induction hosts generalizing monitor earlier used with
  | nil =>
      refine ⟨fun before call rest h => ?_, trivial⟩
      exact absurd h.symm (by simp [calls])
  | cons host rest ih =>
      obtain ⟨renewed, hafter, hrenewed⟩ := Watched.tells_cycle (htells host)
      have hnone : (call monitor host).renews = false ↔ renewed = [] := by
        rw [← hafter.told]
        unfold Call.renews
        rw [Bool.not_eq_false', List.isEmpty_iff]
        rfl
      have hsurvives := hsane.survives (htells host).sameConfig (hnone.trans hrenewed)
      obtain ⟨hrest, horder⟩ := ih hsurvives.sane hafter.onward
      refine ⟨?_, ?_⟩
      · intro before found after h
        cases before with
        | nil =>
            obtain ⟨rfl, -⟩ := List.cons.inj h
            rwa [List.append_nil]
        | cons first before =>
            obtain ⟨rfl, htail⟩ := List.cons.inj h
            have hfound := hrest before found after htail
            rwa [List.append_assoc, List.singleton_append] at hfound
      · rw [calls, List.flatMap_cons, inOrder_append_iff]
        have htold : resets (call monitor host).events = renewed := hafter.told
        exact ⟨hafter.ordered, htold ▸ horder⟩

theorem monitor_of_calls {hosts : List Host} {before rest : List Call} {first second : Call}
    (h : calls monitor hosts = before ++ first :: second :: rest) :
    second.monitor = first.next := by
  induction before generalizing monitor hosts with
  | nil =>
      cases hosts with
      | nil => cases h
      | cons host hosts =>
          obtain ⟨rfl, htail⟩ := List.cons.inj h
          cases hosts with
          | nil => cases htail
          | cons other hosts =>
              obtain ⟨rfl, -⟩ := List.cons.inj htail
              rfl
  | cons call before ih =>
      cases hosts with
      | nil => cases h
      | cons host hosts => exact ih (List.cons.inj h).2

theorem grace_of_initializing {report : Report} (hphase : monitor.phase = .initializing)
    (h : (cycle.run monitor).run host = ((.completed report, next), later)) :
    report.action = .grace := by
  obtain ⟨-, -, hconcluded⟩ := reported_of_cycle h
  cases hconcluded with
  | grace hgrace haction hat => exact haction
  | judged hjudged hfull haction hat => exact absurd hphase hjudged
  | restarted hjudged hfull haction hat => exact absurd hphase hjudged

/-- **Whatever fails.** Every cycle leaves the monitor in order, a failed one as good as new, so the
next one that completes is one of grace. Each number of files is used once and in rising order, and
nothing that the monitor wrote with a number is lost when it takes another one. -/
theorem survives_of_start {context : Context} {supervisor : Supervisor} {first : Monitor}
    (h : (start context config supervisor).run host = (.ok first, later)) (hosts : List Host) :
    (∀ before call rest, calls first hosts = before ++ call :: rest →
      Survives config before call) ∧
    (∀ before failed between call rest,
      calls first hosts = before ++ failed :: (between ++ call :: rest) → failed.Failed →
      (∀ other ∈ between, other.Failed) → ∀ report, call.outcome = .completed report →
        report.action = .grace) ∧
    InOrder config.results [first.evidence.sequence] ((calls first hosts).flatMap (·.events)) := by
  have hfresh := fresh_of_start h
  obtain ⟨hconfig, hroot⟩ : first.config = config ∧ first.evidence.root = config.results := by
    obtain ⟨sequence, seed, rfl⟩ := eq_of_start h
    exact ⟨rfl, rfl⟩
  have hsane : Sane config [] first := by
    refine ⟨.inl hfresh.phase, fun hpos => ?_, hfresh.elapsed⟩
    rw [hfresh.runnerStreak, hfresh.generatorStreak]
    exact ⟨hpos, hpos⟩
  have htells : ∀ host, Watched.Tells config [first.evidence.sequence] [] first { host } :=
    fun host => ⟨hconfig, hroot, rfl, rfl, fun old hold => (List.mem_singleton.1 hold).le, trivial⟩
  obtain ⟨hsurvives, horder⟩ := survives_calls hsane htells hosts
  refine ⟨hsurvives, ?_, horder⟩
  intro before failed between call rest hcalls hfailed hbetween report hreport
  -- whichever came last before the call has failed
  obtain ⟨earlier, last, hlast, hlastFailed⟩ : ∃ earlier last,
      before ++ failed :: between = earlier ++ [last] ∧ last.Failed := by
    cases between using List.reverseRecOn with
    | nil => exact ⟨before, failed, rfl, hfailed⟩
    | append_singleton between last ih =>
        exact ⟨before ++ failed :: between, last, by simp, hbetween last (by simp)⟩
  have hsplit : calls first hosts = earlier ++ last :: call :: rest := by
    rw [hcalls, ← List.cons_append, ← List.append_assoc, hlast, List.append_assoc]
    rfl
  have hclean := (hsurvives earlier last (call :: rest) hsplit).clean hlastFailed
  have hruns := (hsurvives (earlier ++ [last]) call rest (by rw [hsplit]; simp)).runs
  rw [hreport, monitor_of_calls hsplit] at hruns
  exact grace_of_initializing hclean.1.phase hruns

end Runs

namespace Mishap

def config : MonitorConfig where
  results := "/r"

def supervisor : Supervisor :=
  .noting [] fun _ => []

def started : Except Failure Monitor × Host :=
  (start ⟨["ivy"], .standard⟩ config supervisor).run {}

def first : Monitor :=
  started.1.toOption.getD ⟨⟨[], .standard⟩, config, supervisor, ⟨"/r", 0⟩, .initializing, none, none,
    0, 0, 0, 0⟩

/-- First all is well. Then the disk refuses the metrics, and new files too. Then the counters cannot
be read, and in the end all is well again. -/
def hosts : List Host :=
  let host := started.2
  [host,
    { host with disk.refusals := [some .notPermitted, some .notPermitted, some .notPermitted] },
    { host with pipeline.fates :=
        Table.empty.insert Access.counters.name [.fail (.io "disk I/O error")] },
    host]

theorem eq_of_isOk {α ε β : Type} {result : Except ε α × β} (h : result.1.isOk = true)
    (other : α) : result = (.ok (result.1.toOption.getD other), result.2) := by
  obtain ⟨answer, later⟩ := result
  cases answer with
  | error failure => cases h
  | ok value => rfl

theorem started_eq :
    (start ⟨["ivy"], .standard⟩ config supervisor).run {} = (.ok first, started.2) := by
  have hok : started.1.isOk = true := by decide +kernel
  exact eq_of_isOk hok _

theorem survives_refusals :
    (start ⟨["ivy"], .standard⟩ config supervisor).run {} = (.ok first, started.2) ∧
      ((∀ before call rest, calls first hosts = before ++ call :: rest →
        Survives config before call) ∧
      (∀ before failed between call rest,
        calls first hosts = before ++ failed :: (between ++ call :: rest) → failed.Failed →
        (∀ other ∈ between, other.Failed) → ∀ report, call.outcome = .completed report →
          report.action = .grace) ∧
      InOrder config.results [first.evidence.sequence]
        ((calls first hosts).flatMap (·.events))) ∧
      (calls first hosts).map (fun call => (call.completes, resets call.events)) =
        [(true, []), (false, [2]), (false, [3]), (true, [])] :=
  ⟨started_eq, survives_of_start started_eq hosts, by decide +kernel⟩

end Mishap

end Monitor

end Concord
