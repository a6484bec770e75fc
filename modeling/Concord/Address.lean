import Concord.Database.Locator

/-!
Where a database is. An address is a path, which a scheme may stand before, and parameters behind a
question mark. A byte may be written as a percent sign and two hexadecimal digits.
-/

namespace Concord

/-- A path, and how to open what is there; a database in memory is gone with whoever opened it. -/
structure Address where
  path : String
  inMemory : Bool := false
  readOnly : Bool := false
  fixed : Bool := false
  backing : Option String := none
  deriving DecidableEq, Repr

namespace Address

/-- Drops a label as often as the text starts with it. -/
def dropAll (label : List Char) : Nat → List Char → List Char
  | 0, text => text
  | count + 1, text =>
      match Text.dropLabel? label text with
      | some rest => dropAll label count rest
      | none => text

def dropScheme (url : List Char) : List Char :=
  let count := url.length
  dropAll "sqlite:".toList count (dropAll "sqlite://".toList count url)

/-- A parameter, in which a plus sign stands for a space. -/
def parameter (text : List Char) : String × String :=
  let spaced := text.map fun c => if c = '+' then ' ' else c
  let (name, value) := Text.cut '=' spaced
  (Text.Utf8.mend (Text.Percent.bytes name), Text.Utf8.mend (Text.Percent.bytes (value.getD [])))

/-- What a parameter tells of a database, or `none` if there is no such parameter or value. -/
def adjust? (address : Address) (name value : String) : Option Address :=
  match name, value with
  | "mode", "ro" => some { address with readOnly := true }
  | "mode", "rw" => some address
  | "mode", "rwc" => some address
  | "mode", "memory" => some { address with inMemory := true }
  | "cache", "private" => some address
  | "cache", "shared" => some address
  | "immutable", "true" => some { address with fixed := true }
  | "immutable", "1" => some { address with fixed := true }
  | "immutable", "false" => some { address with fixed := false }
  | "immutable", "0" => some { address with fixed := false }
  | "vfs", name => some { address with backing := some name }
  | _, _ => none

def adjustAll? (address : Address) : List (List Char) → Option Address
  | [] => some address
  | text :: rest => do
      let (name, value) := parameter text
      let adjusted ← address.adjust? name value
      adjusted.adjustAll? rest

/-- The address that a text stands for, if it stands for one. -/
def ofText? (text : String) : Option Address := do
  let (path, asked) := Text.cut '?' (dropScheme text.toList)
  let place : Address ←
    if path = ":memory:".toList then some { path := "", inMemory := true }
    else do some { path := ← (Text.Utf8.decode (Text.Percent.bytes path)).toOption }
  place.adjustAll? ((Text.split '&' (asked.getD [])).filter (· ≠ []))

/-- The name of the parts to work with as it is passed on: up to a zero, without spaces. -/
def backingName (name : String) : String :=
  String.ofList ((name.toList.takeWhile (· ≠ '\x00')).map fun c => if c = ' ' then '+' else c)

/-- What the engine is asked for. A path that comes with parameters is never read as a locator. -/
def opening (address : Address) : Except Database.Fault Database.Opening := do
  if address.path.toList.contains '\x00' then
    .error (.io "filename passed to SQLite must not contain nul bytes")
  let asked : Database.Opening :=
    { path := address.path
      inMemory := address.inMemory
      readOnly := address.readOnly
      fixed := address.fixed }
  match address.backing with
  | some name => asked.withBacking (backingName name)
  | none => if address.fixed then .ok asked else Database.Locator.ofName asked address.path

end Address

end Concord
