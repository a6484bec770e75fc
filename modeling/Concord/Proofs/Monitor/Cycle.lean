import Mathlib
import Concord.Proofs.Monitor.Steps

/-!
# A cycle that completes

What a cycle finds in the counters, and what the monitor remembers of those before it, decide what it
asks of the supervisor, and in which order, and what the monitor remembers of it.
-/

namespace Concord

/-! ### What the supervisor is asked -/

/-- What a monitor does by itself: it uses the store, and it writes files. -/
inductive Host.Own : Host → Host → Prop
  | pipeline (host : Host) (pipeline : Pipeline) : Own host { host with pipeline }
  | append (host : Host) (path text : String) :
      Own host { host with disk := (Disk.append path text host.disk).2 }
  | write (host : Host) (path : String) (content : List UInt8) :
      Own host { host with disk := (Disk.write path content host.disk).2 }
  | makeDirectories (host : Host) (path : String) :
      Own host { host with disk := (Disk.makeDirectories path host.disk).2 }

/-- A step on the disk that is made of writes. -/
def Disk.Writes {α : Type} (step : StateM Disk α) : Prop :=
  ∀ host : Host, Relation.ReflTransGen Host.Own host { host with disk := (step host.disk).2 }

namespace Disk

variable {α γ : Type}

theorem writes_append (path text : String) : Writes (append path text) :=
  fun host => .single (.append host path text)

theorem Writes.pure (value : α) : Writes (Pure.pure value : StateM Disk α) :=
  fun _ => .refl

theorem Writes.bind {first : StateM Disk α} {next : α → StateM Disk γ} (hfirst : Writes first)
    (hnext : ∀ value, Writes (next value)) : Writes (first >>= next) := by
  intro host
  exact (hfirst host).trans (hnext (first host.disk).1 { host with disk := (first host.disk).2 })

theorem law_writes (evidence : Evidence) : Evidence.Law evidence fun _ step => Writes step where
  pure := Writes.pure
  bind := Writes.bind
  get := fun _ => .refl
  makeDirectories path host := .single (.makeDirectories host path)
  write path _ host := .single (.write host path [])
  append := writes_append evidence.metadata

end Disk

namespace Supervisor

/-- From a supervisor on a host, these restarts are asked for in order, and carried out, while the
monitor does nothing else but what is its own. -/
inductive Asked (supervisor : Supervisor) (host : Host) :
    List RestartCall → Supervisor → Host → Prop
  | start : Asked supervisor host [] supervisor host
  | own {calls : List RestartCall} {next : Supervisor} {middle later : Host}
      (h : Asked supervisor host calls next middle) (hown : middle.Own later) :
      Asked supervisor host calls next later
  | call {calls : List RestartCall} {next last : Supervisor} {middle : Host} {disk : Disk}
      (h : Asked supervisor host calls next middle) (call : RestartCall)
      (hcall : next.carryOut call.restart call.log middle.disk = ((.ok (), last), disk)) :
      Asked supervisor host (calls ++ [call]) last { middle with disk }

/-- A supervisor that notes what it is asked has noted just that. -/
theorem Asked.noted {noted calls : List RestartCall} {refusals : Restart → List (Option String)}
    {host later : Host} {last : Supervisor}
    (h : Asked (.noting noted refusals) host calls last later) :
    ∃ left, last = .noting (noted ++ calls) left := by
  induction h with
  | start => exact ⟨refusals, by rw [List.append_nil]⟩
  | own h hown ih => exact ih
  | @call calls next last middle disk h call hcall ih =>
      obtain ⟨left, rfl⟩ := ih
      have hnote : note (noted ++ calls) left call.restart call.log = (.ok (), last) :=
        congrArg Prod.fst hcall
      unfold note at hnote
      rw [← List.append_assoc]
      split at hnote
      · exact ⟨left, (Prod.mk.inj hnote).2.symm⟩
      · exact ⟨_, (Prod.mk.inj hnote).2.symm⟩

end Supervisor

namespace Monitor

/-! ### What a cycle decides -/

/-- Do the runners need a restart? -/
def runnersBad (monitor : Monitor) (delta : Movement) : Bool :=
  monitor.stalled delta || monitor.recycles

def generatorBad (delta : Movement) : Bool :=
  delta.generated == 0

/-- A streak after one more cycle. -/
def streakAfter (bad : Bool) (streak : Nat) : Nat :=
  if bad then streak + 1 else 0

/-- The monitor with the streaks of one more cycle. -/
def counted (monitor : Monitor) (delta : Movement) : Monitor :=
  { monitor with
    runnerStreak := streakAfter (monitor.runnersBad delta) monitor.runnerStreak
    generatorStreak := streakAfter (generatorBad delta) monitor.generatorStreak }

/-- What is restarted. -/
def restarts (log : String) (runners generator full : Bool) : List RestartCall :=
  (if runners then [⟨.runners, log⟩] else []) ++ (if generator then [⟨.generator, log⟩] else []) ++
    if full then [⟨.pipeline, log⟩] else []

theorem append_restarts (asked : List RestartCall) (log : String) (runners generator full : Bool) :
    (asked ++ if runners then [⟨.runners, log⟩] else []) ++
        (if generator then [⟨.generator, log⟩] else []) ++
        (if full then [⟨.pipeline, log⟩] else []) =
      asked ++ restarts log runners generator full := by
  simp only [restarts, List.append_assoc]

/-- What a cycle that is not one of grace does about the pipeline. -/
def verdict (runners generator full : Bool) : Action :=
  if full then .fullRestart
  else if runners || generator then .restarted runners generator
  else .healthy

/-- The phase in which such a cycle leaves the monitor. -/
def phaseAfter (runners generator full : Bool) (phase : Phase) : Phase :=
  if full then .fullRestart else if runners || generator then .restarting else phase

/-! ### Where the steps of a cycle lead -/

section Asking

variable {start : Supervisor} {host : Host} {α : Type}

/-- The monitor is known but for its supervisor, and these restarts were asked for. -/
def At (start : Supervisor) (host : Host) (monitor : Monitor) (asked : List RestartCall)
    (found : Monitor) (later : Host) : Prop :=
  ∃ supervisor, found = { monitor with supervisor } ∧ start.Asked host asked supervisor later

/-- Nothing is said of steps that fail. -/
def anyhow (_ : Failure) (_ : Monitor) (_ : Host) : Prop :=
  True

theorem At.own {monitor found : Monitor} {asked : List RestartCall} {middle later : Host}
    (h : At start host monitor asked found middle)
    (hown : Relation.ReflTransGen Host.Own middle later) :
    At start host monitor asked found later := by
  obtain ⟨supervisor, rfl, hasked⟩ := h
  refine ⟨supervisor, rfl, ?_⟩
  induction hown with
  | refl => exact hasked
  | tail _ hlast ih => exact ih.own hlast

variable {monitor : Monitor} {asked : List RestartCall}

theorem leads_writing_at (task : Option String) {step : StateM Disk (Except Files.Fault Unit)}
    (hwrites : Disk.Writes step) :
    Leads (At start host monitor asked) (writing task step)
      (fun _ => At start host monitor asked) anyhow := by
  apply leads_writing
  · intro found middle disk hat hstep
    rw [← show (step middle.disk).2 = disk from congrArg Prod.snd hstep]
    exact hat.own (hwrites middle)
  · intros
    exact trivial

theorem leads_asking_at (task : Option String) (step : StateM Pipeline (Except Store.Fault α)) :
    Leads (At start host monitor asked) (asking task step)
      (fun _ => At start host monitor asked) anyhow := by
  apply leads_asking
  · intro found middle value pipeline hat hstep
    exact hat.own (.single (.pipeline middle pipeline))
  · intros
    exact trivial

/-- Where a step goes on from the monitor that it finds. -/
theorem leads_get_at {next : Monitor → Attempt α} {after : α → Monitor → Host → Prop}
    (h : ∀ supervisor, Leads (At start host monitor asked) (next { monitor with supervisor }) after
      anyhow) : Leads (At start host monitor asked) (get >>= next) after anyhow := by
  refine Leads.bind Leads.get fun found => ?_
  rintro current middle ⟨rfl, hat⟩
  obtain ⟨supervisor, rfl, -⟩ := id hat
  exact h supervisor _ _ hat

theorem leads_restart_at (kind : Restart) :
    Leads (At start host monitor asked) (restart kind)
      (fun _ => At start host monitor (asked ++ [⟨kind, monitor.evidence.metadata⟩])) anyhow := by
  rintro found middle ⟨supervisor, rfl, hasked⟩
  rw [restart_apply]
  dsimp only
  cases h : supervisor.carryOut kind monitor.evidence.metadata middle.disk with
  | mk answer disk =>
      obtain ⟨answer, last⟩ := answer
      cases answer with
      | error fault => exact trivial
      | ok value =>
          exact ⟨last, rfl, hasked.call ⟨kind, monitor.evidence.metadata⟩ h⟩

theorem leads_logMetrics (current : Totals) (delta : Movement) :
    Leads (At start host monitor asked) (logMetrics current delta)
      (fun _ => At start host monitor asked) anyhow := by
  refine leads_get_at fun supervisor => ?_
  refine Leads.bind (Leads.look fun _ host => ⟨host, rfl⟩) fun found => ?_
  exact leads_writing_at _ (Disk.writes_append _ _)

theorem leads_forM_at {items : List α} {step : α → Attempt Unit}
    (h : ∀ item, Leads (At start host monitor asked) (step item)
      (fun _ => At start host monitor asked) anyhow) :
    Leads (At start host monitor asked) (items.forM step)
      (fun _ => At start host monitor asked) anyhow :=
  Leads.forM (fun _ => At start host monitor asked) (fun item _ => h item) items

theorem leads_logCrashes :
    Leads (At start host monitor asked) logCrashes (fun _ => At start host monitor asked)
      anyhow := by
  refine leads_get_at fun supervisor => ?_
  refine (leads_asking_at _ _).bind fun crashes => ?_
  refine Leads.bind (leads_forM_at fun crash => ?_) fun _ => Leads.pure fun _ _ => id
  refine leads_get_at fun supervisor => ?_
  refine (leads_writing_at _ (Disk.writes_append _ _)).bind fun _ => ?_
  exact (leads_asking_at _ _).bind fun _ => Leads.pure fun _ _ => id

theorem leads_logDiscrepancies :
    Leads (At start host monitor asked) logDiscrepancies (fun _ => At start host monitor asked)
      anyhow := by
  refine (leads_asking_at _ _).bind fun found => ?_
  refine Leads.bind (leads_forM_at fun verification => ?_) fun _ => Leads.pure fun _ _ => id
  refine (leads_asking_at _ _).bind fun generation => ?_
  refine leads_get_at fun supervisor => ?_
  refine (leads_writing_at _ (Disk.writes_append _ _)).bind fun _ => ?_
  exact (leads_asking_at _ _).bind fun _ => Leads.pure fun _ _ => id

theorem leads_noteEvent (event : String) :
    Leads (At start host monitor asked) (noteEvent event) (fun _ => At start host monitor asked)
      anyhow :=
  leads_get_at fun _ => leads_writing_at _ (Disk.writes_append _ _)

theorem leads_judgeRunners (bad : Bool) :
    Leads (At start host monitor asked) (judgeRunners bad)
      (fun _ => At start host
        { monitor with runnerStreak := streakAfter bad monitor.runnerStreak }
        (asked ++ if bad then [⟨.runners, monitor.evidence.metadata⟩] else [])) anyhow := by
  unfold judgeRunners
  cases bad with
  | true =>
      refine (leads_noteEvent _).bind fun _ => ?_
      refine (leads_restart_at .runners).bind fun _ => ?_
      refine Leads.modify _ ?_
      rintro found middle ⟨supervisor, rfl, hasked⟩
      exact ⟨supervisor, rfl, hasked⟩
  | false =>
      refine Leads.modify _ ?_
      rintro found middle ⟨supervisor, rfl, hasked⟩
      exact ⟨supervisor, rfl, by rwa [if_neg nofun, List.append_nil]⟩

theorem leads_judgeGenerator (bad : Bool) :
    Leads (At start host monitor asked) (judgeGenerator bad)
      (fun _ => At start host
        { monitor with generatorStreak := streakAfter bad monitor.generatorStreak }
        (asked ++ if bad then [⟨.generator, monitor.evidence.metadata⟩] else [])) anyhow := by
  unfold judgeGenerator
  cases bad with
  | true =>
      refine (leads_noteEvent _).bind fun _ => ?_
      refine (leads_restart_at .generator).bind fun _ => ?_
      refine Leads.modify _ ?_
      rintro found middle ⟨supervisor, rfl, hasked⟩
      exact ⟨supervisor, rfl, hasked⟩
  | false =>
      refine Leads.modify _ ?_
      rintro found middle ⟨supervisor, rfl, hasked⟩
      exact ⟨supervisor, rfl, by rwa [if_neg nofun, List.append_nil]⟩

theorem leads_restartAll :
    Leads (At start host monitor asked) restartAll
      (fun _ => At start host { monitor with phase := .fullRestart }
        (asked ++ [⟨.pipeline, monitor.evidence.metadata⟩])) anyhow := by
  unfold restartAll
  refine Leads.bind (Leads.modify (At start host { monitor with phase := .fullRestart }
    asked) ?_) fun _ => ?_
  · rintro found middle ⟨supervisor, rfl, hasked⟩
    exact ⟨supervisor, rfl, hasked⟩
  · exact (leads_noteEvent _).bind fun _ => leads_restart_at .pipeline

/-- The monitor that a cycle leaves which is not one of grace, before it is closed. -/
def judged (monitor : Monitor) (delta : Movement) : Monitor :=
  { monitor.counted delta with
    phase := phaseAfter (monitor.runnersBad delta) (generatorBad delta)
      (monitor.counted delta).overThreshold monitor.phase }

theorem leads_judge (delta : Movement) :
    Leads (At start host monitor asked) (judge delta)
      (fun action found later =>
        action = verdict (monitor.runnersBad delta) (generatorBad delta)
          (monitor.counted delta).overThreshold ∧
        At start host (monitor.judged delta)
          (asked ++ restarts monitor.evidence.metadata (monitor.runnersBad delta)
            (generatorBad delta) (monitor.counted delta).overThreshold) found later) anyhow := by
  refine leads_get_at fun supervisor => ?_
  dsimp only
  rw [show (({ monitor with supervisor } : Monitor).stalled delta ||
    ({ monitor with supervisor } : Monitor).recycles) = monitor.runnersBad delta from rfl,
    show (delta.generated == 0) = generatorBad delta from rfl]
  refine (leads_judgeRunners _).bind fun _ => ?_
  refine (leads_judgeGenerator _).bind fun _ => ?_
  refine leads_get_at fun supervisor => ?_
  rw [show ({ monitor with
      runnerStreak := streakAfter (monitor.runnersBad delta) monitor.runnerStreak
      generatorStreak := streakAfter (generatorBad delta) monitor.generatorStreak
      supervisor } : Monitor).overThreshold = (monitor.counted delta).overThreshold from rfl]
  rw [← append_restarts]
  unfold judged
  cases (monitor.counted delta).overThreshold with
  | true => exact leads_restartAll.bind fun _ => Leads.pure fun found later hat => ⟨rfl, hat⟩
  | false =>
      have hnone : ∀ asked : List RestartCall,
          asked = asked ++ if false then [⟨.pipeline, monitor.evidence.metadata⟩] else [] :=
        fun asked => (List.append_nil asked).symm
      rw [← hnone]
      unfold verdict phaseAfter
      cases monitor.runnersBad delta || generatorBad delta with
      | true =>
          refine Leads.bind (Leads.modify (At start host
            { monitor.counted delta with phase := .restarting } _) ?_) fun _ =>
            Leads.pure fun found later hat => ⟨rfl, hat⟩
          rintro found middle ⟨supervisor, rfl, hasked⟩
          exact ⟨supervisor, rfl, hasked⟩
      | false => exact Leads.pure fun found later hat => ⟨rfl, hat⟩

theorem leads_evaluate (delta : Movement) :
    Leads (At start host monitor asked) (evaluate delta)
      (fun action found later =>
        (monitor.phase = .initializing ∧ action = .grace ∧
          At start host { monitor with phase := .running } asked found later) ∨
        (monitor.phase ≠ .initializing ∧
          action = verdict (monitor.runnersBad delta) (generatorBad delta)
            (monitor.counted delta).overThreshold ∧
          At start host (monitor.judged delta)
            (asked ++ restarts monitor.evidence.metadata (monitor.runnersBad delta)
              (generatorBad delta) (monitor.counted delta).overThreshold) found later))
      anyhow := by
  refine leads_get_at fun supervisor => ?_
  by_cases hphase : monitor.phase = .initializing
  · rw [if_pos hphase]
    refine Leads.bind (Leads.modify (At start host { monitor with phase := .running }
      asked) ?_) fun _ => Leads.pure fun found later hat => Or.inl ⟨hphase, rfl, hat⟩
    rintro found middle ⟨supervisor, rfl, hasked⟩
    exact ⟨supervisor, rfl, hasked⟩
  · rw [if_neg hphase]
    exact (leads_judge delta).of_imp (fun _ _ => id) fun action found later h => Or.inr ⟨hphase, h⟩

theorem leads_reset (sequence : Nat) :
    Leads (At start host monitor asked) (reset sequence)
      (fun _ found later =>
        ∃ seed, At start host { monitor.renewed sequence with seed } asked found later)
      anyhow := by
  rintro found middle ⟨supervisor, rfl, hasked⟩
  obtain ⟨answer, step, hrun, hlaw⟩ := exists_reset sequence { monitor with supervisor } middle
  rw [hrun]
  cases answer with
  | error failure => exact trivial
  | ok value =>
      have hat : At start host { monitor.renewed sequence with seed := (step middle.disk).1 } asked
          { monitor.renewed sequence with seed := (step middle.disk).1, supervisor } middle :=
        ⟨supervisor, rfl, hasked⟩
      exact ⟨_, hat.own (hlaw _ (Disk.law_writes _) middle)⟩

/-- The monitor after a full restart, which leaves it in a state of grace. -/
def restarted (monitor : Monitor) (sequence : Nat) (current : Totals) (seed : Option String) :
    Monitor :=
  { monitor.renewed (sequence + 1) with
    totalTime := monitor.totalTime + monitor.config.interval
    baseline := some current
    seed }

theorem leads_close (sequence : Nat) (current : Totals) (action : Action) :
    Leads (At start host monitor asked) (close sequence current action)
      (fun _ found later =>
        (action = .fullRestart ∧
          ∃ seed, At start host (monitor.restarted sequence current seed) asked found later) ∨
        (action ≠ .fullRestart ∧ At start host (monitor.passed current) asked found later))
      anyhow := by
  have hpassed : Leads (At start host monitor asked) (modify (·.passed current))
      (fun _ => At start host (monitor.passed current) asked) anyhow := by
    refine Leads.modify _ ?_
    rintro found middle ⟨supervisor, rfl, hasked⟩
    exact ⟨supervisor, rfl, hasked⟩
  cases action with
  | grace | healthy | restarted =>
      exact hpassed.of_imp (fun _ _ => id) fun _ found later hat => Or.inr ⟨nofun, hat⟩
  | fullRestart =>
      unfold close
      refine Leads.bind (Leads.modify (At start host
        { monitor with totalTime := monitor.totalTime + monitor.config.interval } asked) ?_)
        fun _ => ?_
      · rintro found middle ⟨supervisor, rfl, hasked⟩
        exact ⟨supervisor, rfl, hasked⟩
      · refine (leads_reset (sequence + 1)).bind fun _ => Leads.modify _ ?_
        rintro found middle ⟨seed, supervisor, rfl, hasked⟩
        exact Or.inl ⟨rfl, seed, supervisor, rfl, hasked⟩

end Asking

/-! ### The whole cycle -/

/-- How a cycle that completes ends, by the phase that the monitor was in. -/
inductive Concluded (monitor : Monitor) (host : Host) (report : Report) :
    Monitor → Host → Prop
  | grace {next : Monitor} {later : Host} (hphase : monitor.phase = .initializing)
      (haction : report.action = .grace)
      (hat : At monitor.supervisor host
        (passed { monitor.wake with phase := .running } report.current) [] next later) :
      Concluded monitor host report next later
  | judged {next : Monitor} {later : Host} (hphase : monitor.phase ≠ .initializing)
      (hfull : (monitor.wake.counted report.delta).overThreshold = false)
      (haction : report.action =
        verdict (monitor.runnersBad report.delta) (generatorBad report.delta) false)
      (hat : At monitor.supervisor host ((monitor.wake.judged report.delta).passed report.current)
        (restarts monitor.evidence.metadata (monitor.runnersBad report.delta)
          (generatorBad report.delta) false) next later) :
      Concluded monitor host report next later
  | restarted {next : Monitor} {later : Host} (hphase : monitor.phase ≠ .initializing)
      (hfull : (monitor.wake.counted report.delta).overThreshold = true)
      (haction : report.action = .fullRestart)
      (hat : ∃ seed, At monitor.supervisor host
        ((monitor.wake.judged report.delta).restarted monitor.evidence.sequence report.current seed)
        (restarts monitor.evidence.metadata (monitor.runnersBad report.delta)
          (generatorBad report.delta) true) next later) :
      Concluded monitor host report next later

theorem wake_eq (monitor : Monitor) : ∃ phase, monitor.wake = { monitor with phase } ∧
    (phase = .initializing ↔ monitor.phase = .initializing) := by
  unfold wake
  by_cases hphase : monitor.phase = .restarting
  · exact ⟨.running, by rw [if_pos hphase], by simp [hphase]⟩
  · exact ⟨monitor.phase, by rw [if_neg hphase], Iff.rfl⟩

/-- What a cycle that completes reports, and how it ends. -/
structure Reported (monitor : Monitor) (host : Host) (report : Report) (next : Monitor)
    (later : Host) : Prop where
  sequence : report.sequence = monitor.evidence.sequence
  delta : report.delta = report.current.since (monitor.baseline.getD .zero)
  concluded : Concluded monitor host report next later

theorem leads_attemptCycle (monitor : Monitor) (host : Host) :
    Leads (fun found current => found = monitor ∧ current = host) attemptCycle
      (Reported monitor host) anyhow := by
  obtain ⟨phase, hwake, hphase⟩ := wake_eq monitor
  have hbad : ∀ delta, monitor.wake.runnersBad delta = monitor.runnersBad delta := by
    rw [hwake]
    exact fun _ => rfl
  have hmetadata : monitor.wake.evidence = monitor.evidence := by
    rw [hwake]
  unfold attemptCycle
  refine Leads.bind (Leads.modify (At monitor.supervisor host monitor.wake []) ?_)
    fun _ => ?_
  · rintro found current ⟨rfl, rfl⟩
    exact ⟨found.supervisor, by rw [hwake], .start⟩
  refine leads_get_at fun supervisor => ?_
  refine (leads_asking_at _ _).bind fun current => ?_
  refine (leads_logMetrics _ _).bind fun _ => ?_
  refine leads_logCrashes.bind fun crashesLogged => ?_
  refine leads_logDiscrepancies.bind fun discrepanciesLogged => ?_
  dsimp only
  rw [show monitor.wake.baseline = monitor.baseline by rw [hwake], hmetadata]
  -- what the cycle is called is known from here on, so the report is the one in the end
  let report (action : Action) : Report := ⟨monitor.evidence.sequence, current,
    current.since (monitor.baseline.getD .zero), crashesLogged, discrepanciesLogged, action⟩
  refine (leads_evaluate _).bind fun action => ?_
  have hclose : ∀ awake asked, Leads (At monitor.supervisor host awake asked)
      (do close monitor.evidence.sequence current action; pure (report action))
      (fun found next later => found = report action ∧
        ((action = .fullRestart ∧ ∃ seed, At monitor.supervisor host
          (awake.restarted monitor.evidence.sequence current seed) asked next later) ∨
        (action ≠ .fullRestart ∧
          At monitor.supervisor host (awake.passed current) asked next later))) anyhow :=
    fun awake asked => (leads_close _ current action).bind fun _ =>
      Leads.pure fun _ _ hclosed => ⟨rfl, hclosed⟩
  rintro found middle (⟨hinit, rfl, hat⟩ | ⟨hjudged, haction, hat⟩)
  · refine (hclose _ _).of_imp (fun _ _ => id) ?_ found middle hat
    rintro _ next later ⟨rfl, hclosed⟩
    obtain ⟨-, hat⟩ := hclosed.resolve_left fun h => absurd h.1 nofun
    refine ⟨rfl, rfl, .grace ?_ rfl hat⟩
    rw [hwake] at hinit
    exact hphase.1 hinit
  · have hrunning : monitor.phase ≠ .initializing := fun h => by
      rw [hwake] at hjudged
      exact hjudged (hphase.2 h)
    rw [List.nil_append, hbad, hmetadata] at hat
    rw [hbad] at haction
    refine (hclose _ _).of_imp (fun _ _ => id) ?_ found middle hat
    rintro _ next later ⟨rfl, hclosed⟩
    refine ⟨rfl, rfl, ?_⟩
    cases hfull : (monitor.wake.counted (report action).delta).overThreshold with
    | true =>
        rw [hfull] at haction hclosed
        rw [show action = .fullRestart from haction] at hclosed ⊢
        obtain ⟨-, hat⟩ := hclosed.resolve_right fun h => h.1 rfl
        exact .restarted hrunning hfull rfl hat
    | false =>
        rw [hfull] at haction hclosed
        have hpart : action ≠ .fullRestart := by
          rw [haction]
          unfold verdict
          split
          · next h => cases h
          · split <;> nofun
        obtain ⟨-, hat⟩ := hclosed.resolve_left fun h => hpart h.1
        exact .judged hrunning hfull haction hat

theorem reported_of_cycle {monitor next : Monitor} {host later : Host} {report : Report}
    (h : (cycle.run monitor).run host = ((.completed report, next), later)) :
    Reported monitor host report next later := by
  have hattempt := leads_attemptCycle monitor host monitor host ⟨rfl, rfl⟩
  rw [cycle_apply] at h
  cases hrun : (attemptCycle.run.run monitor).run host with
  | mk answer last =>
      rw [hrun] at hattempt h
      obtain ⟨answer, changed⟩ := answer
      cases answer with
      | ok found =>
          cases h
          exact hattempt
      | error failure => cases h

end Monitor

end Concord
