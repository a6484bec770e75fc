import Concord.Files
import Concord.Text.Blank
import Concord.Text.Search

/-!
The seed of a generator, which it names at the start of its log.
-/

namespace Concord.Seed

def label : List Char :=
  "Seed: ".toList

/-- The text behind the label in the first labelled line of a window at the start of a log, unless
it is blank. -/
def find (log : String) (window : Nat) : Option String :=
  match ((Text.lines log.toList).take window).findSome? (Text.after? label) with
  | some found =>
      let seed := Text.trim found
      if seed = [] then none else some (String.ofList seed)
  | none => none

/-- The seed that a log file names now. -/
def peek (files : Files) (log : String) (window : Nat) : Option String :=
  match files.readText log with
  | .ok text => find text window
  | .error _ => none

/-- Looks for the seed a number of times, and notes each miss. -/
def await (log : String) (window : Nat) (metadata : String) : Nat → StateM Disk (Option String)
  | 0 => pure none
  | attempts + 1 => do
      let disk ← get
      match peek disk.files log window with
      | some seed => pure (some seed)
      | none => do
          let _ ← Disk.append metadata "waiting for seed\n"
          await log window metadata attempts

end Concord.Seed
