import Concord.Text.Search
import Concord.Text.Utf8

/-!
Files and directories, reached by paths of names between slashes. A path is followed name by name
from the root, so the first name that is wrong decides what is reported. Names are at most 255 bytes
long, and paths less than 4096.
-/

namespace Concord

/-- Names from the root down, without the special names `.` and `..`. -/
abbrev Place := List String

/-- A file is kept in the pieces in which it was written. A sink takes everything and stays empty; a
program is only there to be run. -/
inductive Entry where
  | directory
  | file (pieces : List (List UInt8))
  | sink
  | program
  deriving DecidableEq, Repr

/-- Every place that holds something, apart from the root. -/
structure Files where
  entries : List (Place × Entry) := []
  deriving DecidableEq, Repr

namespace Files

inductive Fault where
  | missing
  | alreadyThere
  | notDirectory
  | isDirectory
  | notPermitted
  | nameTooLong
  | nulInName
  | notText (fault : Text.Utf8.Fault)
  | refused (text : String)
  deriving DecidableEq, Repr

def Fault.reason : Fault → String
  | missing => "No such file or directory"
  | alreadyThere => "File exists"
  | notDirectory => "Not a directory"
  | isDirectory => "Is a directory"
  | notPermitted => "Permission denied"
  | nameTooLong => "File name too long"
  | nulInName => "file name contained an unexpected NUL byte"
  | notText fault => fault.message
  | refused text => text

/-- The number that the system has for a fault of its own. -/
def Fault.number? : Fault → Option Nat
  | missing => some 2
  | notPermitted => some 13
  | alreadyThere => some 17
  | notDirectory => some 20
  | isDirectory => some 21
  | nameTooLong => some 36
  | _ => none

def Fault.message (fault : Fault) : String :=
  match fault.number? with
  | some number => fault.reason ++ " (os error " ++ toString number ++ ")"
  | none => fault.reason

/-! ### Paths -/

/-- The path of something below a directory; a path from the root stands for itself. -/
def join (directory name : String) : String :=
  match name.toList with
  | '/' :: _ => name
  | _ => if directory.isEmpty || directory.toList.getLast? = some '/' then directory ++ name
      else directory ++ "/" ++ name

/-- The names of a path, special ones included. -/
def steps (path : String) : List String :=
  ((Text.split '/' path.toList).map String.ofList).filter (· != "")

/-- The names of a path, without those that stay where they are. -/
def names (path : String) : List String :=
  (steps path).filter (· != ".")

def pathOf (place : Place) : String :=
  "/" ++ "/".intercalate place

/-- What a path ends with: a name, a name and a slash, so that only a directory will do, or a
special name, behind which there is always a directory. -/
inductive Ending where
  | name (last : String)
  | slash (last : String)
  | special
  deriving DecidableEq, Repr

def ending (path : String) : Ending :=
  match (steps path).getLast? with
  | none => .special
  | some last =>
      if last = "." ∨ last = ".." then .special
      else if path.toList.getLast? = some '/' then .slash last
      else .name last

/-- Where a path leads; the directory above is there. -/
structure Spot where
  place : Place
  ending : Ending
  deriving DecidableEq, Repr

def nameAtMost : Nat := 255

def pathBelow : Nat := 4096

/-! ### Looking -/

variable (files : Files)

def entry? (place : Place) : Option Entry :=
  if place = [] then some .directory else files.entries.lookup place

def isDirectory (place : Place) : Bool :=
  files.entry? place == some .directory

/-- The directory called `name` in another one. -/
def enter (place : Place) (name : String) : Except Fault Place :=
  if nameAtMost < name.utf8ByteSize then .error .nameTooLong
  else
    match files.entry? (place ++ [name]) with
    | some .directory => .ok (place ++ [name])
    | some _ => .error .notDirectory
    | none => .error .missing

/-- Goes from one directory to the next. -/
def walk (place : Place) : List String → Except Fault Place
  | [] => .ok place
  | name :: rest =>
      if name = "." then walk place rest
      else if name = ".." then walk place.dropLast rest
      else
        match files.enter place name with
        | .ok next => walk next rest
        | .error fault => .error fault

/-- The spot of a last name in the directory that is reached by the names before it. -/
def spot (path last : String) (ending : Ending) : Except Fault Spot := do
  let above ← files.walk [] (steps path).dropLast
  if nameAtMost < last.utf8ByteSize then .error .nameTooLong else .ok ⟨above ++ [last], ending⟩

def locate (path : String) : Except Fault Spot :=
  if path.toList.contains '\x00' then .error .nulInName
  else if path = "" then .error .missing
  else if pathBelow ≤ path.utf8ByteSize then .error .nameTooLong
  else
    match ending path with
    | .name last => files.spot path last (.name last)
    | .slash last => files.spot path last (.slash last)
    | .special => (⟨·, .special⟩) <$> files.walk [] (steps path)

/-- What is at a path, and its place. -/
def find (path : String) : Except Fault (Place × Entry) := do
  let spot ← files.locate path
  match files.entry? spot.place, spot.ending with
  | none, _ => .error .missing
  | some .directory, _ => .ok (spot.place, .directory)
  | some _, .slash _ => .error .notDirectory
  | some entry, _ => .ok (spot.place, entry)

/-- Is there a directory at a path? -/
def hasDirectory (path : String) : Bool :=
  match files.find path with
  | .ok (_, .directory) => true
  | _ => false

def hasSomething (path : String) : Bool :=
  (files.find path).toOption.isSome

def Entry.content : Entry → List UInt8
  | .file pieces => pieces.flatten
  | _ => []

/-- The content of a file. -/
def read (path : String) : Except Fault (List UInt8) := do
  match ← files.find path with
  | (_, .directory) => .error .isDirectory
  | (_, entry) => .ok (Entry.content entry)

/-- The content of a file that is a text. -/
def readText (path : String) : Except Fault String := do
  match Text.Utf8.decode (← files.read path) with
  | .ok text => .ok text
  | .error fault => .error (.notText fault)

/-- The name of what is directly in a directory. -/
def childName? (directory : Place) (entry : Place × Entry) : Option String :=
  match entry.1.getLast? with
  | some name => if entry.1 = directory ++ [name] then some name else none
  | none => none

/-- The names in a directory. -/
def list (path : String) : Except Fault (List String) := do
  match ← files.find path with
  | (place, .directory) => .ok (files.entries.filterMap (childName? place))
  | _ => .error .notDirectory

/-- Is a place inside a directory, at any depth? -/
def inside (directory place : Place) : Bool :=
  directory.isPrefixOf place && directory.length < place.length

/-- A path from a directory, and the content if there is a file. Directories with something in them
are left out. -/
def leaf? (directory : Place) (entry : Place × Entry) : Option (String × Option (List UInt8)) :=
  let path := "/".intercalate (entry.1.drop directory.length)
  match entry.2 with
  | .directory =>
      if files.entries.any fun other => inside entry.1 other.1 then none else some (path, none)
  | other => some (path, some (Entry.content other))

/-- Every file below a directory with its content, and every directory that is empty. -/
def below (directory : Place) : List (String × Option (List UInt8)) :=
  (files.entries.filter fun entry => inside directory entry.1).filterMap (files.leaf? directory)

/-! ### Writing -/

/-- Puts an entry at a place, over what is there. -/
def put (place : Place) (entry : Entry) : Files :=
  if (files.entries.lookup place).isSome then
    ⟨files.entries.map fun old => if old.1 = place then (place, entry) else old⟩
  else ⟨files.entries ++ [(place, entry)]⟩

/-- The place of a file that is to be written; a path that asks for a directory is refused. -/
def writable (path : String) : Except Fault Place := do
  let spot ← files.locate path
  match spot.ending with
  | .name _ => if files.isDirectory spot.place then .error .isDirectory else .ok spot.place
  | _ => .error .isDirectory

/-- Writes a file that the old content, if there is one, decides. -/
def writeWith (path : String) (content : List (List UInt8) → List (List UInt8)) :
    Except Fault Files := do
  let place ← files.writable path
  match files.entry? place with
  | some (.file pieces) => .ok (files.put place (.file (content pieces)))
  | some _ => .ok files
  | none => .ok (files.put place (.file (content [])))

/-- Writes behind the end of a file, which comes into being if there is none. -/
def append (path text : String) : Except Fault Files :=
  files.writeWith path fun pieces => pieces ++ [Text.Utf8.encode text]

/-- Writes a file anew. -/
def write (path : String) (content : List UInt8) : Except Fault Files :=
  files.writeWith path fun _ => [content]

def makeDirectory (path : String) : Except Fault Files := do
  let spot ← files.locate path
  match spot.ending, files.entry? spot.place with
  | .special, _ => .error .alreadyThere
  | _, some _ => .error .alreadyThere
  | _, none => .ok (files.put spot.place .directory)

/-- Makes a directory that may be there already. -/
def ensureDirectory (path : String) : Except Fault Files :=
  match files.makeDirectory path with
  | .ok made => .ok made
  | .error fault => if files.hasDirectory path then .ok files else .error fault

/-- Makes a directory after those above it, where there is nothing above it. What was made stays
even if the rest fails. -/
def ensureAfter (files : Files) (above : Files → Except Fault Unit × Files) (path : String) :
    Except Fault Unit × Files :=
  match files.ensureDirectory path with
  | .ok made => (.ok (), made)
  | .error .missing =>
      match above files with
      | (.ok (), made) =>
          match made.ensureDirectory path with
          | .ok full => (.ok (), full)
          | .error fault => (.error fault, made)
      | failed => failed
  | .error fault => (.error fault, files)

/-- Makes a directory and those above it, innermost name first. -/
def makeUpwards (rooted : Bool) : List String → Files → Except Fault Unit × Files
  | [], files => (.ok (), files)
  | name :: above, files =>
      let path := (if rooted then "/" else "") ++ "/".intercalate (name :: above).reverse
      files.ensureAfter (makeUpwards rooted above) path

/-- Makes a directory and those above it. The directory that a `.` at the end of the path stands in
is not one of those, so it has to be there. -/
def makeDirectories (path : String) : Except Fault Unit × Files :=
  if path = "" then (.ok (), files)
  else if path.toList.contains '\x00' then (.error .nulInName, files)
  else
    files.ensureAfter
      (makeUpwards (path.toList.head? = some '/') (names path).dropLast.reverse) path

/-- Puts a file at a place, and directories above it where there is nothing. -/
def place (place : Place) (content : List UInt8) : Files :=
  let above := (makeUpwards true place.dropLast.reverse files).2
  above.put place (.file [content])

/-- Removes what is at a place and below. -/
def remove (place : Place) : Files :=
  ⟨files.entries.filter fun entry => !place.isPrefixOf entry.1⟩

end Files

/-- Files on a disk that may refuse a write for reasons of its own: `refusals` tells what becomes of
the next writes, which all go through when it is empty. -/
structure Disk where
  files : Files := {}
  refusals : List (Option Files.Fault) := []
  deriving DecidableEq, Repr

namespace Disk

/-- What becomes of the next write. -/
def nextRefusal (disk : Disk) : Option Files.Fault × Disk :=
  match disk.refusals with
  | [] => (none, disk)
  | refusal :: rest => (refusal, { disk with refusals := rest })

/-- Carries out one write, which leaves the disk as it is if it fails. -/
def attempt (write : Files → Except Files.Fault Files) : StateM Disk (Except Files.Fault Unit) :=
  fun disk =>
    match disk.nextRefusal with
    | (some fault, disk) => (.error fault, disk)
    | (none, disk) =>
        match write disk.files with
        | .ok files => (.ok (), { disk with files })
        | .error fault => (.error fault, disk)

def append (path text : String) : StateM Disk (Except Files.Fault Unit) :=
  attempt (·.append path text)

def write (path : String) (content : List UInt8) : StateM Disk (Except Files.Fault Unit) :=
  attempt (·.write path content)

def makeDirectories (path : String) : StateM Disk (Except Files.Fault Unit) := fun disk =>
  match disk.nextRefusal with
  | (some fault, disk) => (.error fault, disk)
  | (none, disk) =>
      let (result, files) := disk.files.makeDirectories path
      (result, { disk with files })

end Disk

end Concord
