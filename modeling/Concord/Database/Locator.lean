import Concord.Database.Image
import Concord.Text.Percent
import Concord.Text.Search

/-!
What the database engine is asked to open. The name of a file may be a locator: `file:`, a path, and
parameters behind a question mark, in which a byte may be written as a percent sign and two
hexadecimal digits.
-/

namespace Concord.Database

/-- The parts of an operating system that the engine works with. Those without shared memory cannot
write ahead to a log. -/
inductive Backing where
  | full
  | plain
  | memory
  deriving DecidableEq, Repr

/-- How a database is opened. A fixed one is taken to be never changed by anyone. -/
structure Opening where
  path : String
  inMemory : Bool := false
  readOnly : Bool := false
  creates : Bool := true
  fixed : Bool := false
  backing : Backing := .full
  deriving DecidableEq, Repr

def Backing.ofName? : String → Option Backing
  | "unix" => some .full
  | "unix-excl" => some .full
  | "unix-none" => some .plain
  | "unix-dotfile" => some .plain
  | "memdb" => some .memory
  | _ => none

def wrongRequest (text : String) : Fault := .ofCode 1 text

/-- The parts that an engine is told to work with. -/
def Opening.withBacking (opening : Opening) (name : String) : Except Fault Opening :=
  match Backing.ofName? name with
  | some backing => .ok { opening with backing }
  | none => .error (wrongRequest ("no such vfs: " ++ name))

namespace Locator

/-- A part of a locator with bytes by number in their place; a zero ends it. -/
def plain (text : List Char) : String :=
  Text.Utf8.mend ((Text.Percent.bytes text).takeWhile (· ≠ 0))

/-- Drops the host before a path, which has to be this one. -/
def dropHost (text : List Char) : Except Fault (List Char) :=
  match text with
  | '/' :: '/' :: rest =>
      let host := String.ofList (rest.takeWhile (· ≠ '/'))
      if host = "" ∨ host = "localhost" then .ok (rest.dropWhile (· ≠ '/'))
      else .error (wrongRequest ("invalid uri authority: " ++ host))
  | text => .ok text

/-- Parameters by name; one without a name tells nothing. -/
def parameters (text : List Char) : List (String × String) :=
  (Text.split '&' text).filterMap fun part =>
    let (name, value) := Text.cut '=' part
    if name = [] then none else some (plain name, plain (value.getD []))

/-- A truth value as the engine reads it. -/
def truth (value : String) : Bool :=
  let digits := value.toList.takeWhile Char.isDigit
  if digits = [] then ["on", "yes", "true"].contains (value.map Char.toLower)
  else digits.any (· ≠ '0')

/-- Rights can be given up, and not gained. -/
def grant (opening : Opening) (mode : String) : Except Fault Opening :=
  let refused : Except Fault Opening :=
    .error (.ofCode 3 ("access mode not allowed: " ++ mode))
  match mode with
  | "ro" => .ok { opening with readOnly := true }
  | "rw" => if opening.readOnly then refused else .ok { opening with creates := false }
  | "rwc" => if opening.readOnly || !opening.creates then refused else .ok opening
  | "memory" => .ok { opening with inMemory := true }
  | _ => .error (wrongRequest ("no such access mode: " ++ mode))

def adjust (opening : Opening) (name value : String) : Except Fault Opening :=
  match name with
  | "mode" => grant opening value
  | "cache" =>
      if value = "shared" ∨ value = "private" then .ok opening
      else .error (wrongRequest ("no such cache mode: " ++ value))
  | _ => .ok opening

def adjustAll (opening : Opening) : List (String × String) → Except Fault Opening
  | [] => .ok opening
  | (name, value) :: rest => do adjustAll (← adjust opening name value) rest

/-- What is asked for by a locator without its scheme. -/
def read (opening : Opening) (text : List Char) : Except Fault Opening := do
  let (path, asked) := Text.cut '?' ((← dropHost text).takeWhile (· ≠ '#'))
  let asked := parameters (asked.getD [])
  let adjusted ← adjustAll { opening with path := plain path } asked
  let holds (name : String) : Bool := truth ((asked.lookup name).getD "")
  let adjusted := { adjusted with fixed := holds "immutable" }
  let backed ← match asked.reverse.lookup "vfs" with
    | some name => adjusted.withBacking name
    | none => .ok adjusted
  .ok (if holds "nolock" then { backed with backing := .plain } else backed)

/-- What is asked for by the name of a file. -/
def ofName (opening : Opening) (name : String) : Except Fault Opening :=
  match Text.dropLabel? "file:".toList name.toList with
  | some rest => read opening rest
  | none => .ok { opening with path := name }

end Locator

end Concord.Database
