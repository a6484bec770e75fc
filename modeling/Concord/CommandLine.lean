import Concord.Address
import Concord.Bridge.Machine
import Concord.Database.Reach
import Concord.Dispatcher
import Concord.Options
import Concord.Report
import Concord.Shell
import Concord.Verifier

/-!
The programs of a pipeline, as far as they come to an end: loading candidates, reports, and whatever
fails.
-/

namespace Concord

/-- How a program ended: its exit code, what it printed, and the first line of what it tells went
wrong. -/
structure Exit where
  code : Nat
  output : String := ""
  error : Option String := none
  deriving DecidableEq, Repr

inductive Program where
  | dispatcher
  | runner
  | verifier
  | monitor
  deriving DecidableEq, Repr

def Program.name : Program → String
  | dispatcher => "dispatcher"
  | runner => "runner"
  | verifier => "verifier"
  | monitor => "monitor"

/-- A failure as a program reports it, without the causes behind it. -/
def Failure.headline (failure : Failure) : String :=
  match failure.task, failure.cause with
  | some task, _ => task
  | none, .store fault => fault.message
  | none, .queue fault => fault.message
  | none, cause => cause.message

namespace Exit

/-- A program that was not called as it should be. Asking for help is no mistake. -/
def ofUsage (fault : Arguments.Fault) : Exit :=
  if fault = .displayHelp then { code := 0 } else { code := 2 }

/-- A program that could not do its work. Only the first line of the message counts. -/
def failed (message : String) : Exit where
  code := 1
  error := some ("Error: " ++
    String.ofList (Text.dropReturn (message.toList.takeWhile (· ≠ '\n'))))

/-- A program that broke off for lack of a delay. -/
def broken : Exit where
  code := 101

def ofFailure (failure : Failure) : Exit :=
  match failure.cause with
  | .noDelay _ => broken
  | _ => failed failure.headline

end Exit

namespace CommandLine

/-! ### Databases -/

/-- Trying to reach a database to which there is no way. -/
def unreachable (policy : RetryPolicy) (fault : Database.Fault) : Exit :=
  let attempt : StateM Unit (Except Database.Fault Empty) := pure (.error fault)
  match (policy.tryAll Context.pause "connect" attempt ()).1 with
  | .ok (.error error) => .failed error.message
  | .error _ => .broken

/-- Runs a step on a pipeline in place of that of the host, and gives what becomes of it. -/
def aside (pipeline : Pipeline) (step : StateM Host (Option Exit)) :
    StateM Host (Option Exit × Pipeline) := fun host =>
  let (exit, after) := step { host with pipeline }
  ((exit, after.pipeline), { after with pipeline := host.pipeline })

/-- Runs a step on the pipeline that is kept under a name. -/
def withKept (name : String) (writable : Bool) (step : StateM Host (Option Exit)) :
    StateM Host (Option Exit) := do
  let pipeline := (← get).database name
  let (exit, after) ← aside { pipeline with readOnly := !writable } step
  modify fun host => host.keep name { after with readOnly := false }
  pure exit

/-- Runs a step on the database that was reached. A file that can be written tells from then on what
is kept in it. -/
def onReached (reach : Database.Reach) (step : StateM Host (Option Exit)) :
    StateM Host (Option Exit) := do
  match reach with
  | .passing => Prod.fst <$> aside {} step
  | .barren => pure (some (.failed "failed to create collections"))
  | .file place name writable logged => do
      let name := name.getD (← get).newName
      if writable then
        Host.onDisk (modify fun disk =>
          { disk with files := disk.files.put place (.file [Database.Image.make logged name]) })
      withKept name writable step

/-- Runs a step on the database of a program. -/
def connected (options : PipelineOptions) (step : StateM Host (Option Exit)) :
    StateM Host (Option Exit) := do
  match Address.ofText? options.database with
  | none => pure (some (.failed ("invalid database url: " ++ options.database)))
  | some address =>
      match address.opening with
      | .error fault => pure (some (unreachable options.retry fault))
      | .ok opening => do
          let (reach, files) := opening.reach (← get).disk.files
          Host.onDisk (modify fun disk => { disk with files })
          match reach with
          | .error fault => pure (some (unreachable options.retry fault))
          | .ok reach => onReached reach step

/-! ### Programs -/

/-- An endless loop ends with its failure, if it has one. -/
def ending (failure : Option Failure) : Option Exit :=
  failure.map .ofFailure

def dispatcher (context : Context) : DispatcherCommand → StateM Host (Option Exit)
  | .run batch => do
      pure (ending (← Host.onPipeline (Dispatcher.run context batch)))
  | .ingest file => do
      let host ← get
      match ← Host.onPipeline (Ingest.file context host.disk.files file).run with
      | .ok _ => pure (some { code := 0 })
      | .error failure => pure (some (.ofFailure failure))

def verifier (context : Context) (command : VerifierCommand) : StateM Host (Option Exit) := do
  pure (ending (← Host.onPipeline (Verifier.run context command.rule command.batch)))

def runner (context : Context) (command : RunnerCommand) : StateM Host (Option Exit) := do
  let files := (← get).disk.files
  let backend : Bridge :=
    { program := .ofMachine files command.program command.arguments }
  let (failure, _) ← Host.onPipeline
    (Runner.run context command.config command.policy Bridge.executor backend)
  pure (ending failure)

def monitor (context : Context) : MonitorCommand → StateM Host (Option Exit)
  | .stats => do
      match ← (Report.stats context).run with
      | .ok totals => pure (some { code := 0, output := totals.report })
      | .error failure => pure (some (.ofFailure failure))
  | .dump directory => do
      match ← (Report.dump directory).run with
      | .ok written =>
          let line := toString written ++ " generations written to " ++ directory ++ "\n"
          pure (some { code := 0, output := line })
      | .error failure => pure (some (.ofFailure failure))
  | .run config scripts => do
      match ← Monitor.start context config (.scripted scripts Shell.runScript) with
      | .ok _ => pure none
      | .error failure => pure (some (.ofFailure failure))

def grammar : Program → Arguments.Grammar
  | .dispatcher => DispatcherCommand.grammar
  | .runner => RunnerCommand.grammar
  | .verifier => VerifierCommand.grammar
  | .monitor => MonitorCommand.grammar

/-- Does what a program is asked to, given that it can reach its database. -/
def perform (program : Program) (context : Context) (parsed : Arguments.Parsed) :
    StateM Host (Option Exit) :=
  match program with
  | .dispatcher => dispatcher context (.ofParsed parsed)
  | .runner => runner context (.ofParsed parsed)
  | .verifier => verifier context (.ofParsed parsed)
  | .monitor => monitor context (.ofParsed parsed)

/-- What keeps a program from being begun, if anything does. A verifier needs something to
compare. -/
def refusal? (program : Program) (options : PipelineOptions) : Option Exit :=
  if program = .verifier && options.backends.length < 2 then
    some (.failed "at least two backends are needed for differential verification")
  else none

/-- Runs a program on a host; `none` if it does not end. -/
def run (program : Program) (environment : Table String) (arguments : List String) :
    StateM Host (Option Exit) :=
  match (grammar program).parse environment arguments with
  | .error fault => pure (some (.ofUsage fault))
  | .ok parsed =>
      let options := PipelineOptions.ofParsed parsed
      match refusal? program options with
      | some exit => pure (some exit)
      | none => connected options (perform program options.context parsed)

end CommandLine

end Concord
