import Concord.Text.Integer

/-!
Failures of the database that keeps documents and jobs, and which of them may pass by themselves.
-/

namespace Concord

/-- A failure that may be gone when the same is tried again. -/
class Transient (ε : Type) where
  transient : ε → Bool

/-- What a failure tells about itself. -/
class Explained (ε : Type) where
  message : ε → String

namespace Database

inductive Fault where
  | io (text : String)
  | poolTimedOut
  | poolClosed
  | rowNotFound
  | workerCrashed
  | protocol (text : String)
  | reported (text : String) (code : Option String)
  deriving DecidableEq, Repr

namespace Fault

def message : Fault → String
  | io text => "error communicating with database: " ++ text
  | poolTimedOut => "pool timed out while waiting for an open connection"
  | poolClosed => "attempted to acquire a connection on a closed pool"
  | rowNotFound => "no rows returned by a query that expected to return at least one row"
  | workerCrashed => "attempted to communicate with a crashed background worker"
  | protocol text => "encountered unexpected or invalid data: " ++ text
  | reported text _ => "error returned from database: " ++ text

/-- What the engine itself said, if the failure passes that on. -/
def reason? : Fault → Option String
  | io text => some text
  | reported text _ => some text
  | _ => none

/-- A failure of the engine with one of its plain result codes. -/
def ofCode (code : Nat) (text : String) : Fault :=
  reported ("(code: " ++ toString code ++ ") " ++ text) (some (toString code))

/-- The low byte of a result code tells that the database or a table of it is locked. -/
def lockCode (code : String) : Bool :=
  match Text.integer? 32 code with
  | some value => value % 256 == 5 || value % 256 == 6
  | none => false

/-- Lost connections and locks pass, errors of the program do not. -/
def transient : Fault → Bool
  | io _ => true
  | poolTimedOut => true
  | poolClosed => true
  | reported _ (some code) => lockCode code
  | _ => false

instance : Transient Fault := ⟨transient⟩

instance : Explained Fault := ⟨message⟩

end Fault

end Database

end Concord
