import Concord.Database
import Concord.Text.Utf8

/-!
Database files. A file begins with a header of 100 bytes, behind which the first page goes on with
an empty table of contents, and then the name of what is kept in it.
-/

namespace Concord.Database

/-- What opening a file finds. `logged` tells that changes are written ahead to a log, `fillable`
that tables can be made in it. -/
inductive Condition where
  | blank
  | sound (logged fillable : Bool)
  deriving DecidableEq, Repr

def cannotOpen : Fault := .ofCode 14 "unable to open database file"

def notDatabase : Fault := .ofCode 26 "file is not a database"

def malformed : Fault := .ofCode 11 "database disk image is malformed"

def readOnlyWrite : Fault := .ofCode 8 "attempt to write a readonly database"

namespace Image

def magic : List UInt8 :=
  "SQLite format 3\x00".toList.map fun c => UInt8.ofNat c.toNat

/-- The number in `count` bytes from `start` on, high byte first; there are zeros behind the end. -/
def number (bytes : List UInt8) (start count : Nat) : Nat :=
  (List.range count).foldl (fun value i => 256 * value + (bytes.getD (start + i) 0).toNat) 0

/-- The size of a page, if it is a power of two that is large and small enough. -/
def pageSize? (bytes : List UInt8) : Option Nat :=
  let size := 256 * number bytes 16 1 + 65536 * number bytes 17 1
  if [512, 1024, 2048, 4096, 8192, 16384, 32768, 65536].contains size then some size else none

/-- How many pages the header claims, unless the claim is outdated. -/
def claimedPages (bytes : List UInt8) (present : Nat) : Nat :=
  let claim := number bytes 28 4
  if claim = 0 ∨ number bytes 24 4 ≠ number bytes 92 4 then present else claim

/-- Can the first page take up tables? -/
def fillable (bytes : List UInt8) (usable : Nat) : Bool :=
  let content := number bytes 105 2
  number bytes 36 4 == 0 && number bytes 101 2 == 0 && number bytes 107 1 == 0 &&
    108 ≤ content && content ≤ usable

/-- What is found on the first page, whose header is in order. -/
def contents (bytes : List UInt8) (usable : Nat) : Except Fault Condition :=
  if 2 < number bytes 18 1 then .error readOnlyWrite
  else if 4 < number bytes 44 4 then .error (.ofCode 1 "unsupported file format")
  else if number bytes 100 1 ≠ 13 ∨ number bytes 103 2 ≠ 0 then .error malformed
  else .ok (.sound (number bytes 19 1 == 2) (fillable bytes usable))

/-- The condition of a file; one byte counts as none. -/
def condition (bytes : List UInt8) : Except Fault Condition :=
  if bytes.length ≤ 1 then .ok .blank
  else if bytes.take 16 ≠ magic ∨ 2 < number bytes 19 1 ∨ number bytes 21 3 ≠ 0x402020 then
    .error notDatabase
  else
    match pageSize? bytes with
    | none => .error notDatabase
    | some size =>
        let present := (bytes.length + size - 1) / size
        let usable := size - number bytes 20 1
        if present < claimedPages bytes present then .error malformed
        else if usable < 480 then .error notDatabase
        else contents bytes usable

/-- The part of a new file in front of the name. -/
def start (logged : Bool) : List UInt8 :=
  let version : UInt8 := if logged then 2 else 1
  magic ++ [0x10, 0, version, version, 0, 64, 32, 32, 0, 0, 0, 1, 0, 0, 0, 1] ++
    List.replicate 15 0 ++ [4] ++ List.replicate 11 0 ++ [1] ++ List.replicate 35 0 ++ [1] ++
    List.replicate 4 0 ++ [13, 0, 0, 0, 0, 0x10, 0, 0] ++ List.replicate 4 0

def make (logged : Bool) (name : String) : List UInt8 :=
  start logged ++ Text.Utf8.encode name

/-- The name in a file that was made here. -/
def name? (bytes : List UInt8) : Option String :=
  let front := (start true).length
  if bytes.take front = start true ∨ bytes.take front = start false then
    (Text.Utf8.decode (bytes.drop front)).toOption
  else none

end Image

end Concord.Database
