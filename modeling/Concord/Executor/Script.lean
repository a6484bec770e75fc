import Concord.Executor

/-!
A backend that answers from lists: each use of an operation takes the next answer of its list, and
past the end the last one again.
-/

namespace Concord.Executor

/-- The answers of a scripted backend, and how many of each list are used up. -/
structure Script where
  deploy : List (Except Fault String) := []
  manifest : List (Except Fault (List Export)) := []
  calls : Table (List (Except Fault Trace)) := .empty
  dumpState : List (Except Fault (List Slot)) := []
  reset : List (Except Fault Unit) := []

namespace Script

/-- The answer at the head of a list, and the list with it used up unless it is the last. -/
def next {α : Type} (default : α) : List (Except Fault α) → Except Fault α × List (Except Fault α)
  | [] => (.ok default, [])
  | [answer] => (answer, [answer])
  | answer :: rest => (answer, rest)

def emptyTrace : Trace :=
  ⟨.null, none, none⟩

def executor : Executor Script where
  deploy _ _ := fun script =>
    let (answer, rest) := next "h" script.deploy
    (answer, { script with deploy := rest })
  manifest _ := fun script =>
    let (answer, rest) := next [] script.manifest
    (answer, { script with manifest := rest })
  call _ function _ := fun script =>
    let (answer, rest) := next emptyTrace ((script.calls.get? function).getD [])
    (answer, { script with calls := script.calls.insert function rest })
  dumpState _ := fun script =>
    let (answer, rest) := next [] script.dumpState
    (answer, { script with dumpState := rest })
  reset := fun script =>
    let (answer, rest) := next () script.reset
    (answer, { script with reset := rest })

end Script

end Concord.Executor
