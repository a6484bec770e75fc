import Concord.Archive
import Concord.CommandLine
import Concord.Files.System
import Concord.Utility.Programs

/-!
The command line: the name of a program and its arguments. The database is a file of its own beside
the other files; a program that would not end is not begun. Backends are programs that the machine
is known to have.
-/

namespace Concord.Main

def programs : List Program :=
  [.dispatcher, .runner, .verifier, .monitor]

/-- What the environment tells of the options of a program. -/
def environment (program : Program) : IO (Table String) := do
  let names := (CommandLine.grammar program).parameters.filterMap (·.variableName)
  let found ← names.mapM fun name => do
    return (← IO.getEnv name).map (name, ·)
  return .ofList (found.filterMap id)

def readFile? (path : String) : IO (Option ByteArray) := do
  try
    return some (← IO.FS.readBinFile path)
  catch _ =>
    return none

/-- The pipeline in a database file, an empty one if there is no such file. -/
def readPipeline (path : String) : IO (Option Pipeline) := do
  match ← readFile? path with
  | none => return some {}
  | some bytes =>
      match Text.Utf8.decode bytes.toList with
      | .ok text => return Pipeline.decoder.read? text
      | .error _ => return none

/-- The directories above the file that a path names. -/
def above (path : String) : List (Place × Entry) :=
  let names := (Files.names path).dropLast
  (List.range names.length).map fun index => (names.take (index + 1), .directory)

/-- The files that arguments name, and the directories above them. -/
def readFiles (arguments : List String) : IO Files := do
  let mut entries : List (Place × Entry) := []
  for argument in arguments do
    entries := entries ++ above argument
    match ← readFile? argument with
    | some bytes => entries := entries ++ [(Files.names argument, .file [bytes.toList])]
    | none => pure ()
  return ⟨entries⟩

/-- Writes the files that a program has made or changed below the place it was told. -/
def writeFiles (directory : String) (old new : Files) : IO Unit := do
  for (place, entry) in new.entries do
    let top := Files.names directory
    match entry with
    | .file pieces =>
        if old.entry? place != some entry && top.isPrefixOf place then
          let path := Files.join directory ("/".intercalate (place.drop top.length))
          IO.FS.writeBinFile path ⟨pieces.flatten.toArray⟩
    | _ => if place = top && entry = .directory then IO.FS.createDirAll directory

def finish (exit : Exit) : IO UInt32 := do
  IO.print exit.output
  match exit.error with
  | some line => IO.eprintln line
  | none => pure ()
  return exit.code.toUInt32

/-- Writes the database file, and tells whether that could be done. -/
def writePipeline (path : String) (pipeline : Pipeline) : IO Bool := do
  try
    IO.FS.writeFile path pipeline.encode.text
    return true
  catch _ =>
    return false

/-- Runs a program on a pipeline, whose database is one of some files, and gives its exit code and
the pipeline after it. -/
def conclude (program : Program) (environment : Table String) (arguments : List String)
    (database : List (Place × Entry)) (pipeline : Pipeline) : IO (UInt32 × Pipeline) := do
  let machine := Files.system Utility.names
  let files : Files := ⟨database ++ (← readFiles arguments).entries ++ machine.entries⟩
  let host : Host := { pipeline, disk := { files } }
  let (exit, after) := CommandLine.run program environment arguments host
  match exit with
  | none => return (← finish (.failed (program.name ++ " does not end by itself")), pipeline)
  | some exit => do
      writeFiles ((arguments.getLast?).getD "") files after.disk.files
      return (← finish exit, after.pipeline)

/-- The file of a database, if it has one. -/
def databaseFile? (url : String) : Option String := do
  let address ← Address.ofText? url
  let opening ← address.opening.toOption
  if opening.inMemory || opening.path.isEmpty then none else some opening.path

/-- A file that tells that the pipeline at hand is kept in it, and the directories above it. -/
def databaseEntries (path : String) : List (Place × Entry) :=
  above path ++ [(Files.names path, .file [Database.Image.make true ""])]

/-- Runs a program on its database. -/
def perform (program : Program) (environment : Table String) (arguments : List String)
    (options : PipelineOptions) : IO UInt32 := do
  let refuse (fault : Database.Fault) := finish (CommandLine.unreachable options.retry fault)
  match databaseFile? options.database with
  | none => return (← conclude program environment arguments [] {}).1
  | some path =>
      match ← readPipeline path with
      | none => refuse Database.notDatabase
      | some pipeline => do
          unless ← writePipeline path pipeline do
            return ← refuse Database.cannotOpen
          let (code, after) ←
            conclude program environment arguments (databaseEntries path) pipeline
          let _ ← writePipeline path after
          return code

/-- Runs a program that was called with some arguments. -/
def begin (program : Program) (arguments : List String) : IO UInt32 := do
  let environment ← environment program
  match (CommandLine.grammar program).parse environment arguments with
  | .error fault => finish (.ofUsage fault)
  | .ok parsed =>
      let options := PipelineOptions.ofParsed parsed
      match CommandLine.refusal? program options with
      | some exit => finish exit
      | none => perform program environment arguments options

end Concord.Main

def main (arguments : List String) : IO UInt32 := do
  match arguments with
  | [] => return 2
  | name :: rest =>
      match Concord.Main.programs.find? (·.name == name) with
      | some program => Concord.Main.begin program rest
      | none => return 2
