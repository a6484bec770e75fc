import Concord.Shell.Evaluation

/-!
Shells and other programs that are started from outside: a script whose output goes to the end of a
file, and a program that reads what it is sent.
-/

namespace Concord.Shell

open Session

/-- What programs find in their environment. -/
def standardEnvironment : List (String × String) :=
  [("PATH", "/usr/local/sbin:/usr/local/bin:/usr/sbin:/usr/bin:/sbin:/bin"), ("HOME", "/root"),
    ("PWD", "/")]

/-- A shell that has no streams yet. -/
def fresh (files : Files) : Session where
  world := { files }
  bindings := standardEnvironment.map fun (name, value) =>
    (name.toList, { value := some value.toList, exported := true })

/-- Carries out an action, and gives how it stopped and what is there then. -/
def perform {α : Type} (action : Act α) (session : Session) : Except Stop α × Session :=
  ExceptT.run action session

/-- Connects the streams of a script: nothing comes in, and all that it prints goes to the end of a
file. -/
def connect (log : String) : Act Unit := do
  setStream 0 (← addChannel { target := .sink })
  let output ← Evaluation.openPlace .append (Text.Octets.ofString log) log
  setStream 1 output
  setStream 2 output

/-- The files after a script was carried out. Its output goes to the end of a file. -/
def runScript (path log : String) (files : Files) : Files :=
  let action : Act Nat := do
    connect log
    Evaluation.shell Evaluation.steps "sh".toList [Text.Octets.ofString path]
  (perform action (fresh files)).2.world.files

/-- What a program has printed after it was sent a text, and whether it has ended. More may be sent
to a program that has not. -/
def heard (name : String) (arguments : List String) (sent : List Char) (files : Files) :
    List Char × Bool :=
  let action : Act (Nat × Nat) := do
    setStream 0 (← addChannel
      { target := .pipe [sent] sent.length false, writes := false })
    let output ← Evaluation.newPipe
    setStream 1 output
    setStream 2 (← addChannel { target := .sink })
    let status ← Evaluation.inStage
      (Evaluation.start (Text.Octets.ofString name) (arguments.map Text.Octets.ofString))
    pure (output, if status then 1 else 0)
  match perform action (fresh files) with
  | (.ok (output, waits), session) =>
      let text := perform (Evaluation.pipeText output) session
      ((text.1.toOption).getD [], waits = 0)
  | (.error _, _) => ([], true)

end Concord.Shell
