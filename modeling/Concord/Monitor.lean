import Concord.Evidence
import Concord.Host
import Concord.Seed
import Concord.Supervisor

/-!
Watching over a pipeline. In each cycle the monitor reads the counters, leaves metrics, crashes and
discrepancies in its evidence files, and then judges whether work goes on: what stalls is restarted,
and what keeps stalling ends in a restart of everything with new evidence files. So does a cycle
that fails.
-/

namespace Concord

/-- Times are in seconds. There is no largest one, so an interval may be longer than a clock of 64 bits
can count. -/
structure MonitorConfig where
  results : String
  interval : Nat := 60
  ramCleanup : Nat := 300
  restartThreshold : Nat := 2
  generatorLog : Option String := none
  seedWindow : Nat := 50
  seedAttempts : Nat := 120
  crashMarkers : List String := ["This is an unhandled"]
  deriving Repr

namespace Monitor

/-- The first cycle of a set of files is a cycle of grace: there is nothing to compare with. -/
inductive Phase where
  | initializing
  | running
  | restarting
  | fullRestart
  deriving DecidableEq, Repr

def Phase.name : Phase → String
  | initializing => "Initializing"
  | running => "Running"
  | restarting => "RestartingSubcomponent"
  | fullRestart => "FullRestart"

/-- What a cycle did about the state of the pipeline. -/
inductive Action where
  | grace
  | healthy
  | restarted (runners generator : Bool)
  | fullRestart
  deriving DecidableEq, Repr

structure Report where
  sequence : Nat
  current : Totals
  delta : Movement
  crashesLogged : Nat
  discrepanciesLogged : Nat
  action : Action

inductive Outcome where
  | completed (report : Report)
  | failed (message : String)

end Monitor

/-- A monitor at work. `elapsed` counts the seconds with the current evidence files, `totalTime` all
of them; a streak is the number of cycles in a row that called for a restart. None of them has a
limit: what a counter of 64 bits makes of 2 ^ 64 seconds, or one of 32 bits of as many cycles in a
row, is left out. -/
structure Monitor where
  context : Context
  config : MonitorConfig
  supervisor : Supervisor
  evidence : Evidence
  phase : Monitor.Phase := .initializing
  baseline : Option Totals := none
  seed : Option String := none
  elapsed : Nat := 0
  totalTime : Nat := 0
  runnerStreak : Nat := 0
  generatorStreak : Nat := 0

namespace Monitor

/-- A step of a monitor on its host. -/
abbrev Step (α : Type) := StateT Monitor (StateM Host) α

/-- A step that may fail. -/
abbrev Attempt (α : Type) := ExceptT Failure (StateT Monitor (StateM Host)) α

def onDisk {α : Type} (step : StateM Disk α) : Step α := fun monitor => do
  pure (← Host.onDisk step, monitor)

/-- Writes, for a task if it has a name. -/
def writing (task : Option String) (step : StateM Disk (Except Files.Fault Unit)) : Attempt Unit :=
  ExceptT.mk do
    match ← onDisk step with
    | .ok () => pure (.ok ())
    | .error fault => pure (.error ⟨task, .files fault⟩)

/-- Reads or changes the store once, for a task if it has a name. -/
def asking {α : Type} (task : Option String) (step : StateM Pipeline (Except Store.Fault α)) :
    Attempt α :=
  ExceptT.mk fun monitor => do
    match ← Host.onPipeline step with
    | .ok value => pure (.ok value, monitor)
    | .error fault => pure (.error ⟨task, .store fault⟩, monitor)

/-! ### Starting over -/

/-- The monitor at the start of a new set of evidence files. -/
def renewed (monitor : Monitor) (sequence : Nat) : Monitor :=
  { monitor with
    evidence := ⟨monitor.config.results, sequence⟩
    phase := .initializing
    baseline := none
    elapsed := 0
    runnerStreak := 0
    generatorStreak := 0 }

def awaitSeed : Step Unit := do
  let monitor ← get
  match monitor.config.generatorLog with
  | some log => do
      let config := monitor.config
      let seed ← onDisk (Seed.await log config.seedWindow monitor.evidence.metadata
        config.seedAttempts)
      modify fun monitor => { monitor with seed }
  | none => modify fun monitor => { monitor with seed := none }

/-- Starts a new set of evidence files and returns to the cycle of grace. -/
def reset (sequence : Nat) : Attempt Unit := do
  modify (·.renewed sequence)
  let monitor ← get
  writing (some ("cannot create evidence files for sequence " ++ toString sequence))
    monitor.evidence.create
  awaitSeed

/-- A monitor that goes on behind the evidence files that are there. -/
def start (context : Context) (config : MonitorConfig) (supervisor : Supervisor) :
    StateM Host (Except Failure Monitor) := do
  let host ← get
  match Evidence.discover host.disk.files config.results with
  | .error fault => pure (.error ⟨some ("cannot read " ++ config.results), .files fault⟩)
  | .ok sequence => do
      let (result, monitor) ← (reset sequence).run
        { context, config, supervisor, evidence := ⟨config.results, sequence⟩ }
      match result with
      | .ok () => pure (.ok monitor)
      | .error failure => pure (.error failure)

/-! ### Evidence -/

def seedText (monitor : Monitor) : String :=
  monitor.seed.getD "unknown"

/-- One line of metrics. -/
def metric (name value : String) : String :=
  name ++ ":" ++ value ++ "\n"

/-- A block of metrics, which an empty line ends. -/
def metrics (monitor : Monitor) (time : String) (current : Totals) (delta : Movement) : String :=
  let backends := monitor.context.backends
  String.join (
    [metric "timestamp" time,
      metric "diff_generated_contracts" (toString delta.generated),
      metric "diff_compilation_errors" (toString delta.compilerErrors)] ++
    (backends.map fun backend =>
      metric ("diff_" ++ backend ++ "_runs") (toString (delta.runsFor backend))) ++
    [metric "diff_verified_results" (toString delta.verified),
      metric "total_generated_contracts" (toString current.generated),
      metric "total_compilation_errors" (toString current.compilerErrors)] ++
    (backends.map fun backend =>
      metric ("total_" ++ backend ++ "_runs") (toString ((current.runs.get? backend).getD 0))) ++
    [metric "total_verified_results" (toString current.verified),
      metric "elapsed_time" (toString monitor.elapsed),
      metric "total_time" (toString monitor.totalTime),
      metric "current_seed" monitor.seedText,
      metric "generator_errors" (toString monitor.generatorStreak),
      metric "runner_errors" (toString monitor.runnerStreak),
      "\n"])

def logMetrics (current : Totals) (delta : Movement) : Attempt Unit := do
  let monitor ← get
  let host ← (MonadStateOf.get : StateM Host Host)
  writing (some "failed to write metrics")
    (Disk.append monitor.evidence.bench (monitor.metrics host.time current delta))

def crashEntry (monitor : Monitor) (crash : Store.Crash) : String :=
  metric "seed" monitor.seedText ++ metric "time" (toString monitor.elapsed) ++
    metric "id" crash.generation ++ "error_message:\n" ++ crash.message ++
    "\n==========================================\n"

/-- Writes a crash and then marks it, so one that could not be written comes up again. -/
def logCrash (crash : Store.Crash) : Attempt Unit := do
  let monitor ← get
  writing (some "failed to write compiler crash")
    (Disk.append monitor.evidence.crashes (monitor.crashEntry crash))
  let _ ← asking none (Pipeline.markCrashLogged crash.generation)

def logCrashes : Attempt Nat := do
  let monitor ← get
  let crashes ← asking none (Pipeline.unloggedCrashes monitor.config.crashMarkers)
  crashes.forM logCrash
  pure crashes.length

/-- The source of a candidate that has a discrepancy may be gone. -/
def discrepancyEntry (monitor : Monitor) (verification : Verification)
    (generation : Option Generation) : String :=
  let digest := (generation.map Generation.fingerprint).getD "unknown"
  let source := (generation.map Generation.source).getD "<missing generation>"
  let detail := (Json.list Verdict.encode verification.discrepancies).prettyText
  metric "seed" monitor.seedText ++ metric "total_time" (toString monitor.totalTime) ++
    metric "time_elapsed" (toString monitor.elapsed) ++ metric "id" verification.generation ++
    metric "source_sha256" digest ++ "verification_discrepancy:\n" ++ detail ++
    "\noriginal_contract:\n" ++ source ++ "\n===================================\n"

def logDiscrepancy (verification : Verification) : Attempt Unit := do
  let generation ← asking none (Pipeline.loadGeneration verification.generation)
  let monitor ← get
  writing (some "failed to write discrepancy")
    (Disk.append monitor.evidence.discrepancies
      (monitor.discrepancyEntry verification generation))
  let _ ← asking none (Pipeline.markDiscrepancyLogged verification.generation)

def logDiscrepancies : Attempt Nat := do
  let found ← asking none Pipeline.unloggedDiscrepancies
  found.forM logDiscrepancy
  pure found.length

/-! ### Health -/

def noteEvent (event : String) : Attempt Unit := do
  let monitor ← get
  writing none (Disk.append monitor.evidence.metadata ("monitor_event:" ++ event ++ "\n"))

/-- Asks the supervisor for a restart. -/
def restart (kind : Restart) : Attempt Unit := do
  let monitor ← get
  let (result, supervisor) ←
    (onDisk (monitor.supervisor.carryOut kind monitor.evidence.metadata) : Step _)
  modify fun monitor => { monitor with supervisor }
  match result with
  | .ok () => pure ()
  | .error fault => throw ⟨some ("failed to restart " ++ kind.name), .files fault⟩

/-- Did some backend make no progress? -/
def stalled (monitor : Monitor) (delta : Movement) : Bool :=
  monitor.context.backends.any fun backend => delta.runsFor backend == 0

/-- Is it time to restart the runners in any case? -/
def recycles (monitor : Monitor) : Bool :=
  0 < monitor.config.ramCleanup && monitor.elapsed % monitor.config.ramCleanup == 0

def judgeRunners (bad : Bool) : Attempt Unit := do
  if bad then
    noteEvent "restarting_runners"
    restart .runners
    modify fun monitor => { monitor with runnerStreak := monitor.runnerStreak + 1 }
  else modify fun monitor => { monitor with runnerStreak := 0 }

def judgeGenerator (bad : Bool) : Attempt Unit := do
  if bad then
    noteEvent "restarting_generator"
    restart .generator
    modify fun monitor => { monitor with generatorStreak := monitor.generatorStreak + 1 }
  else modify fun monitor => { monitor with generatorStreak := 0 }

def overThreshold (monitor : Monitor) : Bool :=
  monitor.config.restartThreshold ≤ monitor.runnerStreak ||
    monitor.config.restartThreshold ≤ monitor.generatorStreak

def restartAll : Attempt Unit := do
  modify fun monitor => { monitor with phase := .fullRestart }
  noteEvent "full_restart_triggered"
  restart .pipeline

/-- Restarts what made no progress since the last cycle, and everything once a streak is long
enough. -/
def judge (delta : Movement) : Attempt Action := do
  let monitor ← get
  let runners := monitor.stalled delta || monitor.recycles
  let generator := delta.generated == 0
  judgeRunners runners
  judgeGenerator generator
  if (← get).overThreshold then
    restartAll
    pure .fullRestart
  else if runners || generator then
    modify fun monitor => { monitor with phase := .restarting }
    pure (.restarted runners generator)
  else pure .healthy

/-- The first cycle is not judged. -/
def evaluate (delta : Movement) : Attempt Action := do
  let monitor ← get
  if monitor.phase = .initializing then
    modify fun monitor => { monitor with phase := .running }
    pure .grace
  else judge delta

/-! ### Cycles -/

/-- A restarted part is taken to run again. -/
def wake (monitor : Monitor) : Monitor :=
  if monitor.phase = .restarting then { monitor with phase := .running } else monitor

/-- The end of a cycle that did not restart everything. -/
def passed (monitor : Monitor) (current : Totals) : Monitor :=
  { monitor with
    baseline := some current
    elapsed := monitor.elapsed + monitor.config.interval
    totalTime := monitor.totalTime + monitor.config.interval }

/-- The time goes on, and after a full restart with new evidence files. -/
def close (sequence : Nat) (current : Totals) : Action → Attempt Unit
  | .fullRestart => do
      modify fun monitor =>
        { monitor with totalTime := monitor.totalTime + monitor.config.interval }
      reset (sequence + 1)
      modify fun monitor => { monitor with baseline := some current }
  | _ => modify (·.passed current)

def attemptCycle : Attempt Report := do
  modify wake
  let monitor ← get
  let current ← asking (some "failed to read counters") (Pipeline.counters monitor.context.backends)
  let delta := current.since (monitor.baseline.getD .zero)
  logMetrics current delta
  let crashesLogged ← logCrashes
  let discrepanciesLogged ← logDiscrepancies
  let sequence := monitor.evidence.sequence
  let action ← evaluate delta
  close sequence current action
  pure ⟨sequence, current, delta, crashesLogged, discrepanciesLogged, action⟩

/-- Notes a failure, if it can, and starts over, if it can. -/
def recover (message : String) : Step Unit := do
  let monitor ← get
  let _ ← onDisk (Disk.append monitor.evidence.metadata
    ("monitor_event:error\nerror_message:" ++ message ++ "\n"))
  let _ ← (reset (monitor.evidence.sequence + 1)).run

def cycle : Step Outcome := do
  match ← attemptCycle.run with
  | .ok report => pure (.completed report)
  | .error failure => do
      recover failure.message
      pure (.failed failure.message)

/-- Is the monitor stopped when it reads the counters next? -/
def stops (pipeline : Pipeline) : Bool :=
  match pipeline.fates.get? Access.counters.name with
  | some (.stop :: _) => true
  | _ => false

/-- Cycles up to where the monitor is stopped, at most `count` of them. -/
def cycles : Nat → Step Unit
  | 0 => pure ()
  | count + 1 => do
      let host ← (MonadStateOf.get : StateM Host Host)
      if stops host.pipeline then
        modify wake
        let _ ← (Host.onPipeline (Pipeline.nextFate .counters) : StateM Host Fate)
      else
        let _ ← cycle
        cycles count

/-- Cycles without end, but for a stop among the fates of the counters. -/
def run : Step Unit := do
  let host ← (MonadStateOf.get : StateM Host Host)
  cycles (((host.pipeline.fates.get? Access.counters.name).getD []).length + 1)

end Monitor

end Concord
