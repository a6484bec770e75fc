import Concord.Bridge
import Concord.Files.System
import Concord.Shell

/-!
Backends that are programs of a machine: why one cannot be started, and what it prints.
-/

namespace Concord.Bridge

/-- Why what is at a path cannot be started, if it cannot. -/
def refusalAt (files : Files) (path : String) : Option Files.Fault :=
  match files.find path with
  | .ok (_, .program) => none
  | .ok _ => some .notPermitted
  | .error fault => some fault

/-- Why a name cannot be started that is looked for in some directories. What is there but cannot be
started counts for more than what is not there. -/
def refusalIn (files : Files) (name : String) : Bool → List String → Option Files.Fault
  | denied, [] => some (if denied then .notPermitted else .missing)
  | denied, directory :: rest =>
      match refusalAt files (Files.join directory name) with
      | none => none
      | some fault => refusalIn files name (denied || fault = .notPermitted) rest

/-- The directories in which programs are looked for. -/
def searched : List String :=
  Files.programDirectories.map Files.pathOf

/-- Why a program cannot be started, if it cannot. A name with a slash is a path. -/
def refusal? (files : Files) (name : String) (arguments : List String) : Option String :=
  if (name :: arguments).any fun text => text.toList.contains '\x00' then
    some "nul byte found in provided data"
  else if name = "" then some Files.Fault.missing.message
  else if name.toList.contains '/' then (refusalAt files name).map Files.Fault.message
  else if Files.nameAtMost < name.utf8ByteSize then some Files.Fault.nameTooLong.message
  else (refusalIn files name false searched).map Files.Fault.message

/-- The lines of what was printed, and whether nothing more comes. A line that is not ended counts
at the end. -/
def outputOf (text : List Char) (ended : Bool) : Output :=
  let lines := (Text.split '\n' text).map Text.Octets.toBytes
  { lines := if lines.getLast? = some [] || !ended then lines.dropLast else lines
    exited := ended }

/-- A program of a machine. -/
def Program.ofMachine (files : Files) (name : String) (arguments : List String) : Program where
  name
  refusal := refusal? files name arguments
  output heard :=
    let sent := heard.flatMap fun (_, line) => Text.Utf8.encode line ++ [0x0A]
    let (printed, ended) := Shell.heard name arguments (Text.Octets.ofBytes sent) files
    outputOf printed ended

end Concord.Bridge
