import Concord.Files

/-!
Restarting parts of a pipeline. What a restart prints goes to the end of a log file.
-/

namespace Concord

inductive Restart where
  | runners
  | generator
  | pipeline
  deriving DecidableEq, Repr

def Restart.name : Restart → String
  | runners => "runners"
  | generator => "generator"
  | pipeline => "pipeline"

/-- The scripts of a restart, in order. -/
def Restart.scripts : Restart → List String
  | runners => ["kill_runners.sh", "run_runners.sh"]
  | generator => ["run_generator.sh"]
  | pipeline => ["kill_fuzzer.sh", "start_fuzzer.sh"]

/-- A restart that was asked for, and the log it was to write. -/
structure RestartCall where
  restart : Restart
  log : String
  deriving DecidableEq, Repr

/-- Restarts are carried out by the scripts in a directory, or only noted. What a script makes of the
files is told by `effect`, from its path and the log that its output goes to. Restarts that are noted
fail as `refusals` tells: for each kind of restart, what becomes of the next ones. -/
inductive Supervisor where
  | scripted (directory : String) (effect : String → String → Files → Files)
  | noting (calls : List RestartCall) (refusals : Restart → List (Option String))

namespace Supervisor

/-- Runs a script with its output at the end of the log, which comes into being before. How the
script ends does not matter. -/
def runScript (directory : String) (effect : String → String → Files → Files) (log name : String) :
    StateM Disk (Except Files.Fault Unit) := do
  match ← Disk.attempt (·.writeWith log id) with
  | .ok () => do
      modify fun disk =>
        { disk with files := effect (Files.join directory name) log disk.files }
      pure (.ok ())
  | .error fault => pure (.error fault)

def runScripts (directory : String) (effect : String → String → Files → Files) (log : String) :
    List String → StateM Disk (Except Files.Fault Unit)
  | [] => pure (.ok ())
  | name :: rest => do
      match ← runScript directory effect log name with
      | .ok () => runScripts directory effect log rest
      | .error fault => pure (.error fault)

/-- Notes a restart, and refuses it if that is its fate. -/
def note (calls : List RestartCall) (refusals : Restart → List (Option String)) (restart : Restart)
    (log : String) : Except Files.Fault Unit × Supervisor :=
  let noted := calls ++ [⟨restart, log⟩]
  match refusals restart with
  | [] => (.ok (), .noting noted refusals)
  | refusal :: rest =>
      let left (kind : Restart) := if kind = restart then rest else refusals kind
      (match refusal with
        | some text => .error (.refused text)
        | none => .ok (),
        .noting noted left)

def carryOut (supervisor : Supervisor) (restart : Restart) (log : String) :
    StateM Disk (Except Files.Fault Unit × Supervisor) :=
  match supervisor with
  | .scripted directory effect => do
      pure (← runScripts directory effect log restart.scripts, supervisor)
  | .noting calls refusals => pure (note calls refusals restart log)

/-- The restarts that were noted. -/
def calls : Supervisor → List RestartCall
  | scripted _ _ => []
  | noting calls _ => calls

end Supervisor

end Concord
