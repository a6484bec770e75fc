import Concord.Database.Locator
import Concord.Files

/-!
What opening a database comes to on a disk. A path is brought to its shortest form without a look at
what is there, so that a name before `..` may be missing.
-/

namespace Concord.Database

/-- What a program gets to work with: something that is gone with the program, a file without tables
that cannot be given any, or a file. A new file has no name yet. -/
inductive Reach where
  | passing
  | barren
  | file (place : Place) (name : Option String) (writable logged : Bool)
  deriving DecidableEq, Repr

namespace Reach

/-- The place of a path, if every name on the way is possible. -/
def placeFrom? (files : Files) (place : Place) : List String → Option Place
  | [] => if place = [] then none else some place
  | name :: rest =>
      if name = "." then placeFrom? files place rest
      else if name = ".." then placeFrom? files place.dropLast rest
      else
        let next := place ++ [name]
        let path := Files.pathOf next
        if 512 ≤ path.utf8ByteSize then none
        else
          match files.find path with
          | .ok _ => placeFrom? files next rest
          | .error .missing => placeFrom? files next rest
          | .error _ => none

/-- The place of a path that leaves room for the names of companion files. -/
def place? (files : Files) (path : String) : Option Place :=
  (placeFrom? files [] (Files.steps path)).filter fun place =>
    (Files.pathOf place).utf8ByteSize < 505

/-- The place of a file beside another, with a longer name. -/
def companion (place : Place) (ending : String) : Place :=
  place.dropLast ++ [place.getLastD "" ++ ending]

/-- Is a companion file impossible, because there is a directory in its place? -/
def blocked (files : Files) (place : Place) (ending : String) : Bool :=
  files.isDirectory (companion place ending)

def nameLength (place : Place) : Nat :=
  (place.getLastD "").utf8ByteSize

def diskFault (code : Nat) : Fault := .ofCode code "disk I/O error"

/-- A file without tables, unless there is no right to make them. -/
def fresh (opening : Opening) (place : Place) (fillable : Bool) : Reach :=
  if opening.readOnly || opening.fixed || !fillable then .barren
  else .file place none true (opening.backing == .full)

/-- An empty file. Its changes need a journal beside it. -/
def ofBlank (files : Files) (opening : Opening) (place : Place) : Except Fault Reach :=
  let logs := opening.backing == .full && !opening.fixed
  if logs && opening.readOnly then .error readOnlyWrite
  else if opening.readOnly || opening.fixed then .ok .barren
  else if Files.nameAtMost < nameLength place + "-journal".length then .error cannotOpen
  else if blocked files place "-journal" then .error cannotOpen
  else if logs && blocked files place "-wal" then .error (diskFault 2570)
  else if logs && blocked files place "-shm" then .ok .barren
  else .ok (fresh opening place true)

/-- A database with a name, or without one if it has no tables. -/
def ofSound (files : Files) (opening : Opening) (place : Place) (name : Option String)
    (logged fillable : Bool) : Except Fault Reach :=
  let tell (writable : Bool) : Reach :=
    if name.isSome then .file place name writable (opening.backing == .full)
    else if writable then fresh opening place fillable
    else .barren
  if opening.fixed then .ok (tell false)
  else if opening.backing ≠ .full then
    if logged then .error cannotOpen else .ok (tell !opening.readOnly)
  else if opening.readOnly && !logged then .error readOnlyWrite
  else if blocked files place "-journal" then .error (diskFault 266)
  else if blocked files place "-wal" then .error cannotOpen
  else .ok (tell (!opening.readOnly && !blocked files place "-shm"))

/-- What is found at a place. -/
def found (files : Files) (opening : Opening) (place : Place) : Except Fault Reach :=
  match files.entry? place with
  | some .directory => .error cannotOpen
  | some .sink => .error (diskFault 1034)
  | some .program => .error notDatabase
  | some (.file pieces) => do
      match ← Image.condition pieces.flatten with
      | .blank => ofBlank files opening place
      | .sound logged fillable =>
          ofSound files opening place (Image.name? pieces.flatten) logged fillable
  | none =>
      if files.isDirectory place.dropLast && !opening.readOnly && opening.creates then
        ofBlank files opening place
      else .error cannotOpen

/-- The files after something was opened at a place: what was not there is an empty file then. -/
def touched (files : Files) (opening : Opening) (place : Place) : Files :=
  if ( files.entry? place).isNone && files.isDirectory place.dropLast && !opening.readOnly &&
      opening.creates then files.put place (.file [])
  else files

end Reach

/-- Opens a database, and gives the files with what that has made of them. -/
def Opening.reach (opening : Opening) (files : Files) : Except Fault Reach × Files :=
  if opening.inMemory || opening.path = ":memory:" || opening.path = "" then (.ok .passing, files)
  else if opening.backing = .memory then
    (.ok (if opening.readOnly then .barren else .passing), files)
  else
    match Reach.place? files opening.path with
    | none => (.error cannotOpen, files)
    | some place => (Reach.found files opening place, Reach.touched files opening place)

end Concord.Database
