import Concord.Arguments
import Concord.Comparison
import Concord.Execution
import Concord.Monitor
import Concord.Runner

/-!
The options of the programs of a pipeline.
-/

namespace Concord

open Arguments

/-- What all programs are told: where the database is and how often to try to reach it, which
backends there are, and how long a job may take. Times are in seconds. -/
structure PipelineOptions where
  database : String
  backends : List String
  connectAttempts : Nat
  connectDelay : Nat
  lease : Nat
  deriving Repr

namespace PipelineOptions

def parameters : List Parameter := [
  { name := "database", kind := .text, variableName := some "DIFFUZZ_DATABASE" },
  { name := "backends", kind := .text, variableName := some "DIFFUZZ_BACKENDS", many := true,
    splits := true },
  { name := "connect-attempts", kind := .natural 32,
    variableName := some "DIFFUZZ_CONNECT_ATTEMPTS" },
  { name := "connect-delay-secs", kind := .natural 64,
    variableName := some "DIFFUZZ_CONNECT_DELAY" },
  { name := "lease-secs", kind := .natural 64, variableName := some "DIFFUZZ_LEASE" }]

def ofParsed (parsed : Parsed) : PipelineOptions where
  database := parsed.text "database" "sqlite://diffuzz.db"
  backends := parsed.texts "backends"
  connectAttempts := parsed.natural 32 "connect-attempts" 20
  connectDelay := parsed.natural 64 "connect-delay-secs" 5
  lease := parsed.natural 64 "lease-secs" 600

def parse (environment : Table String) (arguments : List String) :
    Except Fault PipelineOptions := do
  let grammar : Grammar := { parameters }
  .ok (ofParsed (← grammar.parse environment arguments))

/-- At least one attempt is made. -/
def retry (options : PipelineOptions) : RetryPolicy :=
  .fixed (max options.connectAttempts 1) (options.connectDelay * RetryPolicy.second)

def context (options : PipelineOptions) : Context :=
  ⟨options.backends, options.retry⟩

end PipelineOptions

/-- What a dispatcher is asked to do. -/
inductive DispatcherCommand where
  | run (batch : Nat)
  | ingest (file : String)
  deriving Repr

namespace DispatcherCommand

def grammar : Grammar where
  parameters := PipelineOptions.parameters ++ [
    { name := "batch-size", kind := .natural 32 },
    { name := "poll-interval", kind := .natural 64 }]
  commands := [("run", 0), ("ingest", 1)]

def ofParsed (parsed : Parsed) : DispatcherCommand :=
  match parsed.command with
  | some ("ingest", [file]) => .ingest file
  | _ => .run (parsed.natural 32 "batch-size" 1000)

end DispatcherCommand

/-- What a verifier is asked to do. -/
structure VerifierCommand where
  rule : Comparison
  batch : Nat
  deriving Repr

namespace VerifierCommand

def grammar : Grammar where
  parameters := PipelineOptions.parameters ++ [
    { name := "check-memory", kind := .flag, variableName := some "DIFFUZZ_CHECK_MEMORY" },
    { name := "check-gas", kind := .flag, variableName := some "DIFFUZZ_CHECK_GAS" },
    { name := "marker", kind := .text, variableName := some "DIFFUZZ_MARKERS", many := true,
      splits := true },
    { name := "common-markers", kind := .flag, variableName := some "DIFFUZZ_COMMON_MARKERS" },
    { name := "identical-errors", kind := .flag,
      variableName := some "DIFFUZZ_IDENTICAL_ERRORS" },
    { name := "batch-size", kind := .natural 32 },
    { name := "poll-interval", kind := .natural 64 }]

/-- Markers that are given take the place of the standard ones; the wider vocabulary is added to
either. -/
def ofParsed (parsed : Parsed) : VerifierCommand where
  rule :=
    { markers :=
        (match parsed.texts "marker" with
          | [] => ({} : Comparison).markers
          | markers => markers) ++
        (if parsed.flag "common-markers" then Comparison.broadMarkers else [])
      identicalErrors := parsed.flag "identical-errors"
      memory := parsed.flag "check-memory"
      gas := parsed.flag "check-gas" }
  batch := parsed.natural 32 "batch-size" 100

end VerifierCommand

/-- What a runner is asked to do. -/
structure RunnerCommand where
  config : RunConfig
  policy : PoisonPolicy
  program : String
  arguments : List String
  deriving Repr

namespace RunnerCommand

def grammar : Grammar where
  parameters := PipelineOptions.parameters ++ [
    { name := "backend", kind := .text, variableName := some "DIFFUZZ_BACKEND",
      required := true },
    { name := "backend-cmd", kind := .text, variableName := some "DIFFUZZ_BACKEND_CMD",
      required := true },
    { name := "backend-arg", kind := .text, many := true, hyphens := true },
    { name := "inputs-per-function", kind := .natural 64,
      variableName := some "DIFFUZZ_INPUTS_PER_FUNCTION" },
    { name := "snapshot-slots", kind := .natural 64,
      variableName := some "DIFFUZZ_SNAPSHOT_SLOTS" },
    { name := "poison", kind := .choice ["dead-letter", "drop"],
      variableName := some "DIFFUZZ_POISON" }]

def ofParsed (parsed : Parsed) : RunnerCommand where
  config :=
    { backend := parsed.text "backend" ""
      inputsPerFunction := parsed.natural? 64 "inputs-per-function"
      snapshotSlots := parsed.natural 64 "snapshot-slots" 10 }
  policy := if parsed.text? "poison" = some "drop" then .drop else .deadLetter
  program := parsed.text "backend-cmd" ""
  arguments := parsed.texts "backend-arg"

end RunnerCommand

/-- What a monitor is asked to do. -/
inductive MonitorCommand where
  | run (config : MonitorConfig) (scripts : String)
  | stats
  | dump (directory : String)
  deriving Repr

namespace MonitorCommand

def grammar : Grammar where
  parameters := PipelineOptions.parameters ++ [
    { name := "results-dir", kind := .path, variableName := some "DIFFUZZ_RESULTS_DIR" },
    { name := "scripts-dir", kind := .path, variableName := some "DIFFUZZ_SCRIPTS_DIR" },
    { name := "generator-log", kind := .path, variableName := some "DIFFUZZ_GENERATOR_LOG" },
    { name := "no-seed", kind := .flag },
    { name := "interval", kind := .natural 64 },
    { name := "restart-threshold", kind := .natural 32 },
    { name := "ram-cleanup", kind := .natural 64 },
    { name := "crash-marker", kind := .text, many := true }]
  commands := [("run", 0), ("stats", 0), ("dump", 1)]

def config (parsed : Parsed) : MonitorConfig where
  results := parsed.text "results-dir" "results"
  interval := parsed.natural 64 "interval" 60
  ramCleanup := parsed.natural 64 "ram-cleanup" 300
  restartThreshold := parsed.natural 32 "restart-threshold" 2
  generatorLog :=
    if parsed.flag "no-seed" then none
    else some (parsed.text "generator-log" "logs/generator.log")
  crashMarkers :=
    match parsed.texts "crash-marker" with
    | [] => ["This is an unhandled"]
    | markers => markers

def ofParsed (parsed : Parsed) : MonitorCommand :=
  match parsed.command with
  | some ("stats", _) => .stats
  | some ("dump", [directory]) => .dump directory
  | _ => .run (config parsed) (parsed.text "scripts-dir" "scripts")

end MonitorCommand

end Concord
