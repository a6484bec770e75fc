import Mathlib
import Concord.Proofs.Monitor.Cycle

/-!
# Escalation

Cycles are numbered from the last time the monitor started over. The first one is a cycle of grace,
each other one restarts what made no progress, and as many bad cycles in a row as the threshold tells
end in a restart of everything, with which the numbers start again.
-/

namespace Concord.Monitor

/-! ### Cycles in a row -/

section InARow

variable {bad other : Nat → Prop} {streak last : Nat}

/-- The last `count` cycles up to the one with number `last` are bad, without the cycle of grace. -/
def InARow (bad : Nat → Prop) (count last : Nat) : Prop :=
  count ≤ last ∧ ∀ number, number ≤ last → last < number + count → bad number

/-- The longest row of bad cycles up to the one with number `last`. -/
def IsStreak (bad : Nat → Prop) (streak last : Nat) : Prop :=
  ∀ count, count ≤ streak ↔ InARow bad count last

theorem inARow_zero (bad : Nat → Prop) (last : Nat) : InARow bad 0 last :=
  ⟨Nat.zero_le last, fun _ hle hlt => absurd hle (Nat.not_le_of_lt hlt)⟩

theorem inARow_succ_iff (bad : Nat → Prop) (count last : Nat) :
    InARow bad (count + 1) (last + 1) ↔ bad (last + 1) ∧ InARow bad count last := by
  constructor
  · rintro ⟨hle, hbad⟩
    refine ⟨hbad (last + 1) (Nat.le_refl _) (by omega), by omega, ?_⟩
    exact fun number hnumber hlt => hbad number (by omega) (by omega)
  · rintro ⟨hlast, hle, hbad⟩
    refine ⟨by omega, fun number hnumber hlt => ?_⟩
    by_cases hnew : number = last + 1
    · rwa [hnew]
    · exact hbad number (by omega) (by omega)

theorem InARow.congr (hsame : ∀ number ≤ last, bad number ↔ other number) {count : Nat} :
    InARow bad count last ↔ InARow other count last := by
  unfold InARow
  refine and_congr_right fun _ => forall_congr' fun number => forall_congr' fun hle => ?_
  rw [hsame number hle]

theorem isStreak_zero (bad : Nat → Prop) : IsStreak bad 0 0 := by
  intro count
  refine ⟨fun hle => ?_, fun h => h.1⟩
  rw [Nat.le_zero.1 hle]
  exact inARow_zero bad 0

/-- One more cycle makes a streak longer if it is bad, and ends it otherwise. -/
theorem IsStreak.after (h : IsStreak bad streak last) {now : Bool}
    (hnow : now = true ↔ bad (last + 1)) :
    IsStreak bad (streakAfter now streak) (last + 1) := by
  intro count
  cases count with
  | zero => exact iff_of_true (Nat.zero_le _) (inARow_zero bad _)
  | succ count =>
      rw [inARow_succ_iff, ← h count, ← hnow]
      unfold streakAfter
      cases now with
      | true => simp
      | false => simp

end InARow

/-! ### Runs -/

/-- A cycle that completed, on a host that others may have changed before it. -/
structure CompletedCycle where
  monitor : Monitor
  host : Host
  report : Report
  next : Monitor
  later : Host
  completes : (cycle.run monitor).run host = ((.completed report, next), later)

namespace CompletedCycle

/-- This is what the supervisor was asked during the cycle. -/
def Asks (cycle : CompletedCycle) (calls : List RestartCall) : Prop :=
  cycle.monitor.supervisor.Asked cycle.host calls cycle.next.supervisor cycle.later ∧
    ∀ noted refusals, cycle.monitor.supervisor = .noting noted refusals →
      cycle.next.supervisor.calls = noted ++ calls

theorem asks_of_asked {cycle : CompletedCycle} {calls : List RestartCall}
    (h : cycle.monitor.supervisor.Asked cycle.host calls cycle.next.supervisor cycle.later) :
    cycle.Asks calls := by
  refine ⟨h, fun noted refusals hnoting => ?_⟩
  rw [hnoting] at h
  obtain ⟨left, hlast⟩ := h.noted
  rw [hlast]
  rfl

end CompletedCycle

/-- One cycle after the other leads from one state of the monitor to another. -/
inductive Follows : Monitor → List CompletedCycle → Monitor → Prop
  | nil (monitor : Monitor) : Follows monitor [] monitor
  | cons (cycle : CompletedCycle) {rest : List CompletedCycle} {last : Monitor}
      (h : Follows cycle.next rest last) : Follows cycle.monitor (cycle :: rest) last

theorem Follows.last_eq {first last : Monitor} (h : Follows first [] last) : last = first := by
  generalize hnone : ([] : List CompletedCycle) = cycles at h
  cases h with
  | nil => rfl
  | cons => cases hnone

/-- Runs come apart between any two of their cycles. -/
theorem Follows.exists_middle {first last : Monitor} {cycles rest : List CompletedCycle}
    (h : Follows first (cycles ++ rest) last) :
    ∃ middle, Follows first cycles middle ∧ Follows middle rest last := by
  induction cycles generalizing first with
  | nil => exact ⟨first, .nil first, h⟩
  | cons cycle cycles ih =>
      cases h with
      | cons _ hrest =>
          obtain ⟨middle, hmiddle, hlast⟩ := ih hrest
          exact ⟨middle, .cons cycle hmiddle, hlast⟩

/-- The monitor just started over. -/
structure Fresh (monitor : Monitor) : Prop where
  phase : monitor.phase = .initializing
  elapsed : monitor.elapsed = 0
  runnerStreak : monitor.runnerStreak = 0
  generatorStreak : monitor.generatorStreak = 0

/-- A monitor starts fresh. -/
theorem fresh_of_start {context : Context} {config : MonitorConfig} {supervisor : Supervisor}
    {host later : Host} {monitor : Monitor}
    (h : (start context config supervisor).run host = (.ok monitor, later)) : monitor.Fresh := by
  obtain ⟨sequence, seed, rfl⟩ := eq_of_start h
  exact ⟨rfl, rfl, rfl, rfl⟩

/-- So does one whose last cycle failed. -/
theorem fresh_of_failed {monitor next : Monitor} {host later : Host} {message : String}
    (h : (cycle.run monitor).run host = ((.failed message, next), later)) : next.Fresh := by
  obtain ⟨changed, sequence, seed, rfl⟩ := eq_of_failed h
  exact ⟨rfl, rfl, rfl, rfl⟩

/-- The cycles since the last one that restarted everything, if there was one. -/
def sinceRestart (cycles : List CompletedCycle) : List CompletedCycle :=
  cycles.rtakeWhile (·.report.action != .fullRestart)

/-- A backend made no progress in the cycle with a number, or it was time to restart the runners. -/
def RunnerBad (config : MonitorConfig) (backends : List String) (cycles : List CompletedCycle)
    (number : Nat) : Prop :=
  ∃ cycle, cycles[number]? = some cycle ∧
    ((∃ backend ∈ backends, cycle.report.delta.runsFor backend = 0) ∨
      (0 < config.ramCleanup ∧ config.ramCleanup ∣ number * config.interval))

def GeneratorBad (cycles : List CompletedCycle) (number : Nat) : Prop :=
  ∃ cycle, cycles[number]? = some cycle ∧ cycle.report.delta.generated = 0

/-- What a cycle does, after others since the monitor started over. Its number is how many these
are. -/
structure Escalates (config : MonitorConfig) (backends : List String) (since : List CompletedCycle)
    (cycle : CompletedCycle) : Prop where
  sequence : cycle.report.sequence = cycle.monitor.evidence.sequence
  grace : since = [] → cycle.report.action = .grace ∧ cycle.Asks []
  judged : since ≠ [] → ∃ runners generator full : Bool,
    (runners = true ↔ RunnerBad config backends (since ++ [cycle]) since.length) ∧
    (generator = true ↔ GeneratorBad (since ++ [cycle]) since.length) ∧
    (full = true ↔
      InARow (RunnerBad config backends (since ++ [cycle])) config.restartThreshold since.length ∨
      InARow (GeneratorBad (since ++ [cycle])) config.restartThreshold since.length) ∧
    cycle.report.action = verdict runners generator full ∧
    cycle.Asks (restarts cycle.monitor.evidence.metadata runners generator full)
  renewed : cycle.report.action = .fullRestart → cycle.next.Fresh ∧
    cycle.next.evidence.sequence = cycle.report.sequence + 1

/-- What the monitor remembers of the cycles since it started over. -/
structure Standing (config : MonitorConfig) (backends : List String) (since : List CompletedCycle)
    (monitor : Monitor) : Prop where
  sameConfig : monitor.config = config
  sameBackends : monitor.context.backends = backends
  phase : monitor.phase = .initializing ↔ since = []
  elapsed : monitor.elapsed = since.length * config.interval
  runners : IsStreak (RunnerBad config backends since) monitor.runnerStreak (since.length - 1)
  generator : IsStreak (GeneratorBad since) monitor.generatorStreak (since.length - 1)

section Steps

variable {config : MonitorConfig} {backends : List String} {since : List CompletedCycle}

theorem Fresh.standing {monitor : Monitor} (h : monitor.Fresh) :
    Standing monitor.config monitor.context.backends [] monitor where
  sameConfig := rfl
  sameBackends := rfl
  phase := iff_of_true h.phase rfl
  elapsed := by rw [h.elapsed, List.length_nil, Nat.zero_mul]
  runners := h.runnerStreak ▸ isStreak_zero _
  generator := h.generatorStreak ▸ isStreak_zero _

/-- What a cycle is called bad for does not change with later cycles. -/
theorem runnerBad_append_iff {number : Nat} (rest : List CompletedCycle)
    (h : number < since.length) :
    RunnerBad config backends (since ++ rest) number ↔ RunnerBad config backends since number := by
  unfold RunnerBad
  rw [List.getElem?_append_left h]

theorem generatorBad_append_iff {number : Nat} (rest : List CompletedCycle)
    (h : number < since.length) :
    GeneratorBad (since ++ rest) number ↔ GeneratorBad since number := by
  unfold GeneratorBad
  rw [List.getElem?_append_left h]

variable {cycle : CompletedCycle}

theorem runnersBad_eq_true_iff (h : Standing config backends since cycle.monitor) :
    cycle.monitor.runnersBad cycle.report.delta = true ↔
      RunnerBad config backends (since ++ [cycle]) since.length := by
  have hrecycles : cycle.monitor.recycles = true ↔
      0 < config.ramCleanup ∧ config.ramCleanup ∣ since.length * config.interval := by
    unfold recycles
    rw [h.sameConfig, h.elapsed, Bool.and_eq_true, decide_eq_true_eq, beq_iff_eq,
      Nat.dvd_iff_mod_eq_zero]
  have hstalled : cycle.monitor.stalled cycle.report.delta = true ↔
      ∃ backend ∈ backends, cycle.report.delta.runsFor backend = 0 := by
    unfold stalled
    rw [h.sameBackends, List.any_eq_true]
    simp only [beq_iff_eq]
  unfold runnersBad RunnerBad
  rw [Bool.or_eq_true, hstalled, hrecycles]
  simp

theorem generatorBad_eq_true_iff (since : List CompletedCycle) (cycle : CompletedCycle) :
    generatorBad cycle.report.delta = true ↔ GeneratorBad (since ++ [cycle]) since.length := by
  unfold generatorBad GeneratorBad
  simp

/-- The streaks after a cycle that is judged are those of one cycle more. -/
theorem Standing.streaks (h : Standing config backends since cycle.monitor) (hsince : since ≠ []) :
    IsStreak (RunnerBad config backends (since ++ [cycle]))
        (streakAfter (cycle.monitor.runnersBad cycle.report.delta) cycle.monitor.runnerStreak)
        since.length ∧
      IsStreak (GeneratorBad (since ++ [cycle]))
        (streakAfter (generatorBad cycle.report.delta) cycle.monitor.generatorStreak)
        since.length := by
  obtain ⟨last, hlast⟩ : ∃ last, since.length = last + 1 :=
    Nat.exists_eq_succ_of_ne_zero (mt List.length_eq_zero_iff.1 hsince)
  have hbefore : ∀ number ≤ last, number < since.length := fun number hle => by omega
  have hrunners : IsStreak (RunnerBad config backends (since ++ [cycle]))
      cycle.monitor.runnerStreak last := fun count => by
    have hcount := h.runners count
    rw [hlast] at hcount
    exact hcount.trans
      (InARow.congr fun number hle => (runnerBad_append_iff [cycle] (hbefore number hle)).symm)
  have hgenerator : IsStreak (GeneratorBad (since ++ [cycle])) cycle.monitor.generatorStreak
      last := fun count => by
    have hcount := h.generator count
    rw [hlast] at hcount
    exact hcount.trans
      (InARow.congr fun number hle => (generatorBad_append_iff [cycle] (hbefore number hle)).symm)
  have hrunnersNow := runnersBad_eq_true_iff h
  have hgeneratorNow := generatorBad_eq_true_iff since cycle
  rw [hlast] at hrunnersNow hgeneratorNow ⊢
  exact ⟨hrunners.after hrunnersNow, hgenerator.after hgeneratorNow⟩

/-- The threshold is reached where as many cycles in a row were bad. -/
theorem Standing.overThreshold_iff (h : Standing config backends since cycle.monitor)
    (hsince : since ≠ []) :
    (cycle.monitor.wake.counted cycle.report.delta).overThreshold = true ↔
      InARow (RunnerBad config backends (since ++ [cycle])) config.restartThreshold since.length ∨
      InARow (GeneratorBad (since ++ [cycle])) config.restartThreshold since.length := by
  obtain ⟨phase, hwake, -⟩ := wake_eq cycle.monitor
  obtain ⟨hrunners, hgenerator⟩ := h.streaks hsince
  unfold overThreshold
  rw [hwake, Bool.or_eq_true, decide_eq_true_eq, decide_eq_true_eq, ← hrunners, ← hgenerator,
    ← h.sameConfig]
  rfl

/-- A cycle keeps what the monitor remembers true of the cycles before it and itself. -/
structure Advances (config : MonitorConfig) (backends : List String) (since : List CompletedCycle)
    (cycle : CompletedCycle) : Prop extends Escalates config backends since cycle where
  standing : Standing config backends
    (if cycle.report.action = .fullRestart then [] else since ++ [cycle]) cycle.next

theorem Standing.advances_of_grace (h : Standing config backends since cycle.monitor)
    (hphase : cycle.monitor.phase = .initializing) (haction : cycle.report.action = .grace)
    (hsequence : cycle.report.sequence = cycle.monitor.evidence.sequence)
    (hat : At cycle.monitor.supervisor cycle.host
      (passed { cycle.monitor.wake with phase := .running } cycle.report.current) []
      cycle.next cycle.later) : Advances config backends since cycle := by
  obtain ⟨phase, hwake, -⟩ := wake_eq cycle.monitor
  obtain ⟨supervisor, hnext, hasked⟩ := hat
  have hsince : since = [] := h.phase.1 hphase
  have hlast : cycle.next.supervisor = supervisor := by rw [hnext]
  subst hsince
  refine ⟨⟨hsequence, fun _ => ⟨haction, ?_⟩, fun hne => absurd rfl hne, ?_⟩, ?_⟩
  · exact CompletedCycle.asks_of_asked (hlast ▸ hasked)
  · intro hfull
    rw [haction] at hfull
    cases hfull
  · rw [haction, if_neg nofun, List.nil_append]
    rw [hwake] at hnext
    refine ⟨?_, ?_, ?_, ?_, ?_, ?_⟩
    · rw [hnext]
      exact h.sameConfig
    · rw [hnext]
      exact h.sameBackends
    · rw [hnext]
      exact iff_of_false nofun nofun
    · rw [hnext, List.length_singleton, Nat.one_mul, ← h.sameConfig]
      change cycle.monitor.elapsed + cycle.monitor.config.interval = _
      rw [h.elapsed, List.length_nil, Nat.zero_mul, Nat.zero_add]
    · have hstreak : cycle.next.runnerStreak = 0 := by
        rw [hnext]
        exact Nat.le_zero.1 ((h.runners _).1 (Nat.le_refl _)).1
      exact hstreak ▸ isStreak_zero _
    · have hstreak : cycle.next.generatorStreak = 0 := by
        rw [hnext]
        exact Nat.le_zero.1 ((h.generator _).1 (Nat.le_refl _)).1
      exact hstreak ▸ isStreak_zero _

/-- What is the same for all cycles that are not cycles of grace. -/
theorem Standing.escalates (h : Standing config backends since cycle.monitor)
    (hphase : cycle.monitor.phase ≠ .initializing)
    (hsequence : cycle.report.sequence = cycle.monitor.evidence.sequence) {full : Bool}
    (hfull : (cycle.monitor.wake.counted cycle.report.delta).overThreshold = full)
    (haction : cycle.report.action = verdict (cycle.monitor.runnersBad cycle.report.delta)
      (generatorBad cycle.report.delta) full)
    (hasked : cycle.monitor.supervisor.Asked cycle.host (restarts cycle.monitor.evidence.metadata
      (cycle.monitor.runnersBad cycle.report.delta) (generatorBad cycle.report.delta) full)
      cycle.next.supervisor cycle.later)
    (hrenewed : cycle.report.action = .fullRestart → cycle.next.Fresh ∧
      cycle.next.evidence.sequence = cycle.report.sequence + 1) :
    Escalates config backends since cycle := by
  have hsince : since ≠ [] := fun hnil => hphase (h.phase.2 hnil)
  refine ⟨hsequence, fun hnil => absurd hnil hsince, fun _ => ?_, hrenewed⟩
  refine ⟨_, _, full, runnersBad_eq_true_iff h, generatorBad_eq_true_iff since cycle, ?_, haction,
    CompletedCycle.asks_of_asked hasked⟩
  rw [← hfull]
  exact h.overThreshold_iff hsince

theorem verdict_ne_fullRestart (runners generator : Bool) :
    verdict runners generator false ≠ .fullRestart := by
  cases runners <;> cases generator <;> nofun

theorem phaseAfter_ne_initializing {phase : Phase} (h : phase ≠ .initializing)
    (runners generator : Bool) : phaseAfter runners generator false phase ≠ .initializing := by
  unfold phaseAfter
  rw [if_neg Bool.false_ne_true]
  split
  · nofun
  · exact h

theorem Standing.advances_of_judged (h : Standing config backends since cycle.monitor)
    (hphase : cycle.monitor.phase ≠ .initializing)
    (hsequence : cycle.report.sequence = cycle.monitor.evidence.sequence)
    (hfull : (cycle.monitor.wake.counted cycle.report.delta).overThreshold = false)
    (haction : cycle.report.action = verdict (cycle.monitor.runnersBad cycle.report.delta)
      (generatorBad cycle.report.delta) false)
    (hat : At cycle.monitor.supervisor cycle.host
      ((cycle.monitor.wake.judged cycle.report.delta).passed cycle.report.current)
      (restarts cycle.monitor.evidence.metadata (cycle.monitor.runnersBad cycle.report.delta)
        (generatorBad cycle.report.delta) false) cycle.next cycle.later) :
    Advances config backends since cycle := by
  obtain ⟨phase, hwake, hinitial⟩ := wake_eq cycle.monitor
  obtain ⟨supervisor, hnext, hasked⟩ := hat
  have hsince : since ≠ [] := fun hnil => hphase (h.phase.2 hnil)
  have hpart : cycle.report.action ≠ .fullRestart := haction ▸ verdict_ne_fullRestart _ _
  have hlast : cycle.next.supervisor = supervisor := by rw [hnext]
  refine ⟨h.escalates hphase hsequence hfull haction (hlast ▸ hasked)
    fun heq => absurd heq hpart, ?_⟩
  obtain ⟨hrunners, hgenerator⟩ := h.streaks hsince
  rw [hwake] at hnext hfull
  rw [if_neg hpart]
  refine ⟨?_, ?_, ?_, ?_, ?_, ?_⟩
  · rw [hnext]
    exact h.sameConfig
  · rw [hnext]
    exact h.sameBackends
  · refine iff_of_false ?_ (by simp)
    rw [hnext]
    change phaseAfter _ _ (counted _ _).overThreshold phase ≠ .initializing
    rw [hfull]
    exact phaseAfter_ne_initializing (mt hinitial.1 hphase) _ _
  · rw [hnext, List.length_append, List.length_singleton, Nat.add_one_mul, ← h.sameConfig]
    change cycle.monitor.elapsed + cycle.monitor.config.interval = _
    rw [h.elapsed, h.sameConfig]
  · rw [List.length_append, List.length_singleton, Nat.add_sub_cancel, hnext]
    exact hrunners
  · rw [List.length_append, List.length_singleton, Nat.add_sub_cancel, hnext]
    exact hgenerator

theorem Standing.advances_of_restarted (h : Standing config backends since cycle.monitor)
    (hphase : cycle.monitor.phase ≠ .initializing)
    (hsequence : cycle.report.sequence = cycle.monitor.evidence.sequence)
    (hfull : (cycle.monitor.wake.counted cycle.report.delta).overThreshold = true)
    (haction : cycle.report.action = .fullRestart)
    (hat : ∃ seed, At cycle.monitor.supervisor cycle.host
      ((cycle.monitor.wake.judged cycle.report.delta).restarted cycle.monitor.evidence.sequence
        cycle.report.current seed)
      (restarts cycle.monitor.evidence.metadata (cycle.monitor.runnersBad cycle.report.delta)
        (generatorBad cycle.report.delta) true) cycle.next cycle.later) :
    Advances config backends since cycle := by
  obtain ⟨phase, hwake, -⟩ := wake_eq cycle.monitor
  obtain ⟨seed, supervisor, hnext, hasked⟩ := hat
  have hlast : cycle.next.supervisor = supervisor := by rw [hnext]
  have hfresh : cycle.next.Fresh := by
    rw [hnext]
    exact ⟨rfl, rfl, rfl, rfl⟩
  refine ⟨h.escalates hphase hsequence hfull haction (hlast ▸ hasked) fun _ => ⟨hfresh, ?_⟩, ?_⟩
  · rw [hnext, hsequence]
    rfl
  · rw [if_pos haction]
    have hstanding := hfresh.standing
    rw [show cycle.next.config = config by rw [hnext, hwake]; exact h.sameConfig,
      show cycle.next.context.backends = backends by rw [hnext, hwake]; exact h.sameBackends]
      at hstanding
    exact hstanding

/-- Every cycle escalates as it should, and leaves what the next one needs. -/
theorem Standing.advances (h : Standing config backends since cycle.monitor) :
    Advances config backends since cycle := by
  obtain ⟨hsequence, -, hconcluded⟩ := reported_of_cycle cycle.completes
  generalize hnext : cycle.next = next at hconcluded
  generalize hlater : cycle.later = later at hconcluded
  cases hconcluded with
  | grace hphase haction hat =>
      subst hnext hlater
      exact h.advances_of_grace hphase haction hsequence hat
  | judged hphase hfull haction hat =>
      subst hnext hlater
      exact h.advances_of_judged hphase hsequence hfull haction hat
  | restarted hphase hfull haction hat =>
      subst hnext hlater
      exact h.advances_of_restarted hphase hsequence hfull haction hat

end Steps

/-! ### Whole runs -/

theorem sinceRestart_concat (cycles : List CompletedCycle) (cycle : CompletedCycle) :
    sinceRestart (cycles ++ [cycle]) =
      if cycle.report.action = .fullRestart then [] else sinceRestart cycles ++ [cycle] := by
  unfold sinceRestart
  split
  · next hfull => exact List.rtakeWhile_concat_neg _ _ _ (by simp [hfull])
  · next hpart => exact List.rtakeWhile_concat_pos _ _ _ (by simp [hpart])

/-- What the monitor remembers after any number of cycles is true of those since the last full
restart. -/
theorem Follows.standing {first last : Monitor} {cycles : List CompletedCycle}
    (h : Follows first cycles last) (hfresh : first.Fresh) :
    Standing first.config first.context.backends (sinceRestart cycles) last := by
  induction cycles using List.reverseRecOn generalizing last with
  | nil =>
      cases h
      exact hfresh.standing
  | append_singleton cycles cycle ih =>
      obtain ⟨_, hmiddle, hlast⟩ := h.exists_middle
      cases hlast with
      | cons _ hnil =>
          rw [sinceRestart_concat, hnil.last_eq]
          exact (ih hmiddle).advances.standing

/-- What the cycles of a run do. -/
structure Escalated (first : Monitor) (cycles : List CompletedCycle) : Prop where
  /-- Each cycle goes by those since the last full restart. -/
  each : ∀ earlier cycle rest, cycles = earlier ++ cycle :: rest →
    Escalates first.config first.context.backends (sinceRestart earlier) cycle
  /-- Between two full restarts there are at least as many cycles as the threshold tells. -/
  spaced : ∀ earlier cycle middle other rest,
    cycles = earlier ++ cycle :: (middle ++ other :: rest) →
    cycle.report.action = .fullRestart → other.report.action = .fullRestart →
      first.config.restartThreshold ≤ middle.length

/-- After a full restart, the numbers of cycles start again. -/
theorem length_sinceRestart_le (earlier middle : List CompletedCycle) {cycle : CompletedCycle}
    (h : cycle.report.action = .fullRestart) :
    (sinceRestart (earlier ++ cycle :: middle)).length ≤ middle.length := by
  induction middle using List.reverseRecOn with
  | nil => rw [sinceRestart_concat, if_pos h, List.length_nil]
  | append_singleton middle last ih =>
      rw [← List.cons_append, ← List.append_assoc, sinceRestart_concat]
      by_cases hlast : last.report.action = .fullRestart
      · rw [if_pos hlast]
        exact Nat.zero_le _
      · rw [if_neg hlast, List.length_append, List.length_append]
        exact Nat.add_le_add_right ih 1

/-- **Escalation is exact**: in every run of cycles that complete, whatever others do to the host in
between. -/
theorem escalated_of_follows {first last : Monitor} {cycles : List CompletedCycle}
    (hfresh : first.Fresh) (h : Follows first cycles last) : Escalated first cycles := by
  have heach : ∀ earlier cycle rest, cycles = earlier ++ cycle :: rest →
      Escalates first.config first.context.backends (sinceRestart earlier) cycle := by
    rintro earlier cycle rest rfl
    obtain ⟨_, hmiddle, hlast⟩ := h.exists_middle
    cases hlast
    exact (hmiddle.standing hfresh).advances.toEscalates
  refine ⟨heach, ?_⟩
  intro earlier cycle middle other rest hcycles hfirst hother
  have hescalates := heach (earlier ++ cycle :: middle) other rest (by simp [hcycles])
  have hlength := length_sinceRestart_le earlier middle hfirst
  by_cases hgrace : sinceRestart (earlier ++ cycle :: middle) = []
  · rw [(hescalates.grace hgrace).1] at hother
    cases hother
  · obtain ⟨runners, generator, full, -, -, hfull, haction, -⟩ := hescalates.judged hgrace
    have hreached : full = true := by
      cases full with
      | true => rfl
      | false => exact absurd (haction ▸ hother) (verdict_ne_fullRestart _ _)
    rcases hfull.1 hreached with hrow | hrow
    · exact hrow.1.trans hlength
    · exact hrow.1.trans hlength

/-! ### A stall -/

/-- The cycle of a monitor on its host, if it completes. -/
def completed? (monitor : Monitor) (host : Host) : Option CompletedCycle :=
  match h : (cycle.run monitor).run host with
  | ((.completed report, next), later) => some ⟨monitor, host, report, next, later, h⟩
  | ((.failed _, _), _) => none

/-- Up to `count` cycles while nobody else does anything, and the monitor after them. -/
def undisturbed : Nat → Monitor → Host → List CompletedCycle × Monitor
  | 0, monitor, _ => ([], monitor)
  | count + 1, monitor, host =>
      match completed? monitor host with
      | some cycle =>
          let (rest, last) := undisturbed count cycle.next cycle.later
          (cycle :: rest, last)
      | none => ([], monitor)

theorem monitor_of_completed? {monitor : Monitor} {host : Host} {cycle : CompletedCycle}
    (h : completed? monitor host = some cycle) : cycle.monitor = monitor := by
  unfold completed? at h
  split at h
  · rw [← Option.some.inj h]
  · cases h

theorem follows_undisturbed (count : Nat) (monitor : Monitor) (host : Host) :
    Follows monitor (undisturbed count monitor host).1 (undisturbed count monitor host).2 := by
  induction count generalizing monitor host with
  | zero => exact .nil monitor
  | succ count ih =>
      unfold undisturbed
      split
      · next cycle hcycle =>
          rw [← monitor_of_completed? hcycle]
          exact .cons cycle (ih cycle.next cycle.later)
      · exact .nil monitor

namespace Stall

def first : Monitor where
  context := ⟨["ivy"], .standard⟩
  config := { results := "/r" }
  supervisor := .noting [] fun _ => []
  evidence := ⟨"/r", 1⟩

/-- A host that has the files of the monitor. -/
def host : Host where
  disk.files := ⟨[(["r"], .directory), (["r", "bench"], .directory),
    (["r", "bench", "data1.txt"], .sink), (["r", "bench", "bench-metadata1.txt"], .sink)]⟩

/-- Nothing ever happens, so everything is restarted with the third cycle. -/
theorem escalated_undisturbed :
    (first.Fresh ∧ Follows first (undisturbed 3 first host).1 (undisturbed 3 first host).2) ∧
      Escalated first (undisturbed 3 first host).1 ∧
      (undisturbed 3 first host).1.map (·.report.action) =
        [.grace, .restarted true true, .fullRestart] ∧
      (undisturbed 3 first host).2.supervisor.calls.map (·.restart) =
        [.runners, .generator, .runners, .generator, .pipeline] := by
  have hfresh : first.Fresh := ⟨rfl, rfl, rfl, rfl⟩
  have hfollows := follows_undisturbed 3 first host
  exact ⟨⟨hfresh, hfollows⟩, escalated_of_follows hfresh hfollows, by decide +kernel⟩

end Stall

end Concord.Monitor
