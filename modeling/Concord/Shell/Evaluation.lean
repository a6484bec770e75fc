import Concord.Shell.Builtin
import Concord.Utility.Programs

/-!
Carrying out commands. A subshell, a stage of a pipeline and a command inside a word change nothing
of the shell that starts them but what all shells share. A pipe is filled before it is read; what is
in the background is begun when something waits for it.
-/

namespace Concord.Shell

namespace Evaluation

open Session

/-! ### Streams -/

/-- The device that stands for a stream of the shell, if a path names one. -/
def streamOf? (path : List Char) : Option Nat :=
  match String.ofList path with
  | "/dev/stdin" => some 0
  | "/dev/stdout" => some 1
  | "/dev/stderr" => some 2
  | "/proc/self/fd/0" => some 0
  | "/proc/self/fd/1" => some 1
  | "/proc/self/fd/2" => some 2
  | _ =>
      match Text.dropLabel? "/dev/fd/".toList path with
      | some digits =>
          if digits ≠ [] && digits.all Char.isDigit then some (Expansion.number digits) else none
      | none => none

def isWriting : Mode → Bool
  | .read => false
  | _ => true

/-- The channel to a file that is there or can be made, and the files after that. -/
def channelTo (mode : Mode) (path : String) (files : Files) :
    Except Files.Fault (Channel × Files) := do
  match mode with
  | .read => do
      match ← files.find path with
      | (place, .file _) => .ok ({ target := .file place, writes := false }, files)
      | _ => .ok ({ target := .sink, writes := false }, files)
  | mode => do
      let place ← files.writable path
      let append := mode = .append
      let reads := mode = .readWrite
      match files.entry? place with
      | some (.file _) =>
          let files := if append || reads then files else files.put place (.file [])
          .ok ({ target := .file place, appends := append, reads }, files)
      | some _ => .ok ({ target := .sink }, files)
      | none =>
          .ok ({ target := .file place, appends := append, reads }, files.put place (.file []))

def openingFault (mode : Mode) (name : List Char) (fault : Files.Fault) : List Char :=
  let reason :=
    match fault, isWriting mode with
    | .missing, false => "No such file"
    | .notDirectory, false => "No such file"
    | .missing, true => "Directory nonexistent"
    | .notDirectory, true => "Directory nonexistent"
    | fault, _ => fault.reason
  (if isWriting mode then "cannot create " else "cannot open ").toList ++ name ++ ": ".toList ++
    reason.toList

def badStream {α : Type} (stream : Nat) : Act α :=
  fail (digits stream ++ ": Bad file descriptor".toList)

/-- Opens a file that is a file by its place, as a path to a stream is opened once more. -/
def openPlace (mode : Mode) (name : List Char) (path : String) : Act Nat := do
  let session ← get
  let guarded := mode = .write && session.options.contains 'C'
  let taken := match session.world.files.find path with
    | .ok (_, .file _) => true
    | _ => false
  match if guarded && taken then .error .alreadyThere
      else channelTo mode path session.world.files with
  | .ok (channel, files) => do
      onWorld fun world => { world with files }
      addChannel channel
  | .error fault => fail (openingFault mode name fault)

def openFile (mode : Mode) (name : List Char) : Act Nat := do
  let session ← get
  match streamOf? name with
  | some stream =>
      match session.channel? stream with
      | some (number, channel) =>
          match channel.target with
          | .file place => openPlace mode name (Files.pathOf place)
          | _ => pure number
      | none => fail (openingFault mode name .missing)
  | none => openPlace mode name (session.pathOf name)

/-- A redirection whose words are expanded. -/
inductive Prepared where
  | file (stream : Nat) (mode : Mode) (name : List Char)
  | duplicate (stream source : Nat)
  | close (stream : Nat)
  | content (stream : Nat) (text : List Char)

def perform (redirection : Prepared) : Act Unit := do
  match redirection with
  | .file stream mode name => setStream stream (← openFile mode name)
  | .duplicate stream source => do
      match (← get).streams.lookup source with
      | some number => setStream stream number
      | none => badStream source
  | .close stream => closeStream stream
  | .content stream text => do
      setStream stream (← addChannel { target := .pipe [text] text.length true, writes := false })

def performAll : List Prepared → Act Unit
  | [] => pure ()
  | first :: rest => do
      perform first
      performAll rest

/-- Tells what an action comes to, if it is an error of the shell. -/
def attempt {α : Type} (action : Act α) : Act (Except Nat α) := do
  try
    .ok <$> action
  catch stop =>
    match stop with
    | .failed status => pure (.error status)
    | stop => throw stop

/-! ### Subshells -/

/-- The status with which a shell ends, and whether a trap for its end is carried out. -/
def statusOf? : Stop → Option Nat
  | .exit status => some status
  | .failed status => some status
  | .leave _ => some 0
  | .again _ => some 0
  | .back status => some status
  | .waiting => none
  | .exhausted => none

def trapOf (session : Session) (signal : String) : Option (List Char) :=
  session.traps.lookup signal

/-- Carries out what a shell does, and its trap for the end. -/
def finishing (carryOut : List Char → Act Unit) (action : Act Nat) : Act Nat := do
  let status ←
    try action
    catch stop =>
      match statusOf? stop with
      | some status => pure status
      | none => throw stop
  let session ← get
  match trapOf session "EXIT" with
  | none => pure status
  | some text => do
      set { session with status, traps := dropAt "EXIT" session.traps, loops := 0, speaker := none }
      try
        carryOut text
        pure status
      catch stop =>
        match stop with
        | .exit status => pure status
        | .waiting => throw .waiting
        | .exhausted => throw .exhausted
        | _ => pure status

/-- Carries out an action in a shell of its own. -/
def inSubshell (carryOut : List Char → Act Unit) (action : Act Nat) : Act Nat := do
  let outer ← get
  set { outer with
    traps := outer.traps.filter fun entry => entry.2.isEmpty
    jobs := []
    loops := 0 }
  let status ← finishing carryOut action
  modify fun inner => { outer with world := inner.world }
  pure status

/-! ### Programs -/

/-- What is found under the name of a program. What cannot be started has a status. -/
inductive Found where
  | program (name path : String)
  | script (place : Place) (path : String)
  | refused (status : Nat)
  | missing

def inspect (world : World) (path : String) : Found :=
  match world.files.find path with
  | .ok (place, .program) => .program (place.getLast?.getD "") path
  | .ok (place, .file _) =>
      if world.executables.contains place then .script place path else .refused 126
  | .ok _ => .refused 126
  | .error .missing => .missing
  | .error .notDirectory => .missing
  | .error _ => .refused 126

/-- Looks for a program in one directory after the other. If all that has its name is a directory,
it is as if there were no program. -/
def search (world : World) (name : String) : List String → Found
  | [] => .missing
  | directory :: rest =>
      let path := if directory.isEmpty then name else directory ++ "/" ++ name
      match inspect world path with
      | .program name path => .program name path
      | .script place path => .script place path
      | .missing => search world name rest
      | .refused _ =>
          let status := if world.files.hasDirectory path then 127 else 126
          match search world name rest with
          | .missing => .refused status
          | .refused other => .refused (min status other)
          | found => found

def directories (path : List Char) : List String :=
  (Text.split ':' path).map Text.Octets.asString

def locate (session : Session) (name : List Char) : Found :=
  let text := Text.Octets.asString name
  if name.contains '/' then
    match inspect session.world (session.pathOf name) with
    | .program kind _ => .program kind text
    | .script place _ => .script place text
    | found => found
  else if name.isEmpty then .missing
  else search session.world text (directories (session.valueOr "PATH" []))

def taskFor (session : Session) (name : List Char) (arguments : List (List Char)) :
    Utility.Task where
  name
  arguments
  files := session.world.files
  directory := session.directory
  executables := session.world.executables
  environment := session.environment
  input := (session.channel? 0).map fun found => left session.world.files found.2
  fromFile := match (session.channel? 0).map fun found => found.2.target with
    | some (Target.file _) => true
    | some (Target.removed _) => true
    | _ => false

def showAll : List (Nat × List Char) → Act Unit
  | [] => pure ()
  | (stream, text) :: rest => do
      let _ ← write stream text
      showAll rest

/-- Carries out a program that starts no other ones. -/
def runUtility (work : Utility.Work Nat) (name : List Char) (arguments : List (List Char)) :
    Act Nat := do
  let session ← get
  let before := session.world.files
  let result := work.run (taskFor session name arguments)
  onWorld fun world => { world with files := result.files, executables := result.executables }
  settle before
  advance 0 result.taken
  showAll result.output
  if result.waits then throw .waiting else pure result.status

/-- Variables with one that tells where programs are, if there is none. -/
def withPath (path : String) (bindings : List (List Char × Variable)) :
    List (List Char × Variable) :=
  if (bindings.lookup "PATH".toList).isSome then bindings
  else bindings ++ [("PATH".toList, { value := some path.toList })]

/-- Without a path, programs are looked for where the usual ones are. -/
def searchable (bindings : List (List Char × Variable)) : List (List Char × Variable) :=
  withPath "/bin:/usr/bin" bindings

/-- Variables with those that a shell has from the start. What separates fields and counts options
is not taken from outside. -/
def ownVariables (parent : Nat) (directory : String) (bindings : List (List Char × Variable)) :
    List (List Char × Variable) :=
  let usual := [("PS1", "# "), ("PS2", "> "), ("PS4", "+ ")].filterMap fun (name, value) =>
    if (bindings.lookup name.toList).isSome then none
    else some (name.toList, { value := some value.toList })
  let own : List (List Char × Variable) :=
    [("IFS", " \t\n"), ("OPTIND", "1"), ("PPID", toString parent)].map fun (name, value) =>
      (name.toList, { value := some value.toList })
  let place : Variable := { value := some (Text.Octets.ofString directory), exported := true }
  (("PWD".toList, place) :: own).foldl
    (fun bindings entry => putAt entry.1 entry.2 bindings) (bindings ++ usual)

/-- A shell that a shell starts gets the variables that were exported, and nothing else. -/
def freshShell (session : Session) (name : List Char) (parameters : List (List Char)) : Session :=
  { world := session.world
    name
    parameters
    bindings := withPath "/usr/local/sbin:/usr/local/bin:/usr/sbin:/usr/bin:/sbin:/bin"
      (ownVariables session.process session.directory (session.environment.map fun (name, value) =>
        (name, { value := some value, exported := true })))
    streams := session.streams
    directory := session.directory
    patience := session.patience
    process := session.process + 1
    mask := session.mask }

/-- How a shell that is started by name is told what to do. -/
inductive Start where
  | text (content name : List Char) (parameters : List (List Char))
  | file (path : List Char) (parameters : List (List Char))
  | input (parameters : List (List Char))

/-- What a shell is told when it is started: its options, among them whether it carries out its
first argument, and what is not an option. -/
structure Options where
  letters : List Char := []
  command : Bool := false
  operands : List (List Char) := []

def Options.switch (options : Options) (on : Bool) (letter : Char) : Options :=
  let others := options.letters.filter (· ≠ letter)
  { options with letters := if on then others ++ [letter] else others }

/-- Takes the letters of one argument; the last of them may take a name. -/
def Options.take (options : Options) (on : Bool) : List Char → List (List Char) →
    Except (List Char) (Options × List (List Char))
  | [], rest => .ok (options, rest)
  | 'c' :: more, rest => ({ options with command := true }).take on more rest
  | 'l' :: more, rest => options.take on more rest
  | 'o' :: more, rest =>
      match rest with
      | [] => options.take on more []
      | name :: rest =>
          match Builtin.optionNames.lookup (String.ofList name) with
          | some letter => (options.switch on letter).take on more rest
          | none =>
              .error ("Illegal option ".toList ++ (if on then '-' else '+') :: 'o' :: ' ' :: name)
  | letter :: more, rest =>
      if Builtin.optionNames.any fun entry => entry.2 = letter then
        (options.switch on letter).take on more rest
      else .error ("Illegal option ".toList ++ [if on then '-' else '+', letter])

/-- Takes options off the front of the arguments of a shell. -/
def Options.takeAll (options : Options) : Nat → List (List Char) → Except (List Char) Options
  | 0, arguments => .ok { options with operands := arguments }
  | fuel + 1, arguments => do
      match arguments with
      | ['-'] :: rest => .ok { options with operands := rest }
      | ['-', '-'] :: rest => .ok { options with operands := rest }
      | ('-' :: more) :: rest => do
          let (options, rest) ← options.take true more rest
          options.takeAll fuel rest
      | ('+' :: more) :: rest => do
          let (options, rest) ← options.take false more rest
          options.takeAll fuel rest
      | arguments => .ok { options with operands := arguments }

def Options.start (name : List Char) (options : Options) : Except (List Char) Start :=
  match options.command, options.operands with
  | true, text :: zero :: rest => .ok (.text text zero rest)
  | true, [text] => .ok (.text text name [])
  | true, [] => .error "-c requires an argument".toList
  | false, [] => .ok (.input [])
  | false, path :: rest =>
      .ok (if options.letters.contains 's' then .input (path :: rest) else .file path rest)

/-- A job in the background is cut short when it sleeps longer than anything waits for it. -/
def slumber (milliseconds : Nat) : Act Unit := do
  let session ← get
  match session.patience with
  | none => pure ()
  | some patience =>
      if patience < milliseconds then throw (.exit 143)
      else set { session with patience := some (patience - milliseconds) }

/-- What is added to the number of a signal for the end of a job that it was sent to. -/
def signalled : Nat := 256

/-- What is told about jobs that were ended by a signal. -/
def signalText? (signal : Nat) : Option String :=
  [(1, "Hangup"), (3, "Quit"), (6, "Aborted"), (9, "Killed"), (10, "User defined signal 1"),
    (12, "User defined signal 2"), (14, "Alarm clock"), (15, "Terminated")].lookup signal

/-- The status of a job that has ended. -/
def tellEnd (ending : Nat) : Act Nat := do
  if ending < signalled then pure ending
  else do
    let signal := ending - signalled
    match signalText? signal with
    | some text => do
        let _ ← write 2 (text.toList ++ ['\n'])
        pure (128 + signal)
    | none => pure (128 + signal)

/-- Carries out an action that may take only so long; an action that takes longer is ended. -/
def limited (limit : Option Nat) (action : Act Nat) : Act Nat := do
  match limit with
  | none => action
  | some limit => do
      let outer := (← get).patience
      modify fun session => { session with patience := some (min limit (outer.getD limit)) }
      let status ← (try action catch stop =>
        match stop with
        | .exit 143 => pure 143
        | stop => throw stop)
      pure (if status = 143 then 124 else status)

/-! ### Traces -/

def traceWords (words : List (List Char)) : List Char :=
  (words.intersperse [' ']).flatten

/-- Writes a command before it is carried out, to where errors went before its redirections. -/
def trace (streams : List (Nat × Nat)) (words : List (List Char)) : Act Unit := do
  if ← hasOption 'x' then do
    match streams.lookup 2 with
    | some number => do
        let sign := (← get).valueOr "PS4" ['+', ' ']
        let _ ← writeChannel number (sign ++ traceWords words ++ ['\n'])
    | none => pure ()
  else pure ()

/-! ### Commands -/

def setStatus (status : Nat) : Act Nat := do
  modify fun session => { session with status }
  pure status

/-- Ends the shell after a failure that nothing tests, if the shell was told so. -/
def checked (tested : Bool) (status : Nat) : Act Nat := do
  let status ← setStatus status
  if status ≠ 0 && !tested && (← hasOption 'e') then throw (.exit status) else pure status

/-- What a loop does after its test or its body has stopped. -/
inductive Course where
  | onward (status : Nat)
  | finished

def inLoop (action : Act Nat) : Act Course := do
  try
    .onward <$> action
  catch stop =>
    match stop with
    | .leave levels => if levels ≤ 1 then pure .finished else throw (.leave (levels - 1))
    | .again levels => if levels ≤ 1 then pure (.onward 0) else throw (.again (levels - 1))
    | stop => throw stop

def withLoop (action : Act Nat) : Act Nat := do
  modify fun session => { session with loops := session.loops + 1 }
  ensuring action (modify fun session => { session with loops := session.loops - 1 })

def restoreStreams (streams : List (Nat × Nat)) : Act Unit :=
  modify fun session => { session with streams }

def withSpeaker (name : List Char) (action : Act Nat) : Act Nat := do
  let outer := (← get).speaker
  modify fun session => { session with speaker := some name }
  ensuring action (modify fun session => { session with speaker := outer })

/-- A function has its own parameters, and ends where it is told to return. -/
def inFunction (line : Nat) (arguments : List (List Char)) (action : Act Nat) : Act Nat := do
  let outer ← get
  set { outer with parameters := arguments, functionLine := line, loops := 0, cursor := {} }
  openScope
  let result : Act Nat := do
    try action
    catch stop =>
      match stop with
      | .back status => pure status
      | stop => throw stop
  ensuring result do
    closeScope
    modify fun session => { session with
      parameters := outer.parameters
      functionLine := outer.functionLine
      cursor := outer.cursor
      loops := outer.loops }

def isSpecial (name : String) : Bool :=
  name ∈ specialNames

/-- How a name is understood; a program may be known from before. -/
inductive Meaning where
  | keyword
  | aliased (text : List Char)
  | special
  | function
  | builtin
  | program (path : String) (known : Bool)
  | unknown

def meaning (session : Session) (name : List Char) : Meaning :=
  let text := String.ofList name
  if text ∈ keywords then .keyword
  else
    match session.aliases.lookup name with
    | some text => .aliased text
    | none =>
        if isSpecial text then .special
        else if (session.functions.lookup name).isSome then .function
        else if Builtin.isBuiltin text then .builtin
        else
          let known := (session.programs.lookup name).isSome
          match locate session name with
          | .program _ path => .program path known
          | .script _ path => .program path known
          | _ => .unknown

/-- Remembers a program that was looked for. -/
def rememberProgram (name : List Char) : Act Unit := do
  let there :=
    match locate (← get) name with
    | .program _ _ => true
    | .script _ _ => true
    | .refused status => status = 126
    | .missing => false
  if there && !name.contains '/' then
    modify fun session => { session with programs := putAt name false session.programs }
  else pure ()

/-- Remembers the programs that the stages of a pipeline are, as far as their names are plain. -/
def rememberStages : List Command → Act Unit
  | [] => pure ()
  | stage :: rest => do
      match stage with
      | .simple _ _ ([.text name false] :: _) _ =>
          let session ← get
          let own :=
            (session.functions.lookup name).isSome || Builtin.isBuiltin (String.ofList name)
          if isName name && !own then rememberProgram name else pure ()
      | _ => pure ()
      rememberStages rest

/-- Tells how names are understood, in words or as they are to be used. -/
def explain (inWords : Bool) : List (List Char) → Act Nat
  | [] => pure 0
  | name :: rest => do
      let session ← get
      let found := meaning session name
      let is (text : String) : List Char := name ++ " is ".toList ++ text.toList
      let path (path : String) : List Char := Text.Octets.ofString path
      let line? : Option (List Char) :=
        match found, inWords with
        | .keyword, true => some (is "a shell keyword")
        | .aliased text, true => some (is "an alias for " ++ text)
        | .special, true => some (is "a special shell builtin")
        | .function, true => some (is "a shell function")
        | .builtin, true => some (is "a shell builtin")
        | .program found known, true =>
            some (is (if known then "a tracked alias for " else "") ++ path found)
        | .unknown, true => some (name ++ ": not found".toList)
        | .aliased text, false => some ("alias ".toList ++ name ++ '=' :: Builtin.quoted text)
        | .program found _, false => some (path found)
        | .unknown, false => none
        | _, false => some name
      match line? with
      | some line => Builtin.printLine line
      | none => pure ()
      match found with
      | .program _ _ => rememberProgram name
      | _ => pure ()
      let status ← explain inWords rest
      match found with
      | .unknown => pure 127
      | _ => pure status

/-- Prints the programs that are remembered, row by row; those that have to be looked for again are
marked. -/
def listPrograms : Act Unit := do
  let session ← get
  let rows := session.programs.mergeSort fun a b => rowOf 31 a.1 ≤ rowOf 31 b.1
  for (name, again) in rows do
    let mark := if again then ['*'] else []
    match locate session name with
    | .program _ path => Builtin.printLine (Text.Octets.ofString path ++ mark)
    | .script _ path => Builtin.printLine (Text.Octets.ofString path ++ mark)
    | _ => pure ()

/-- Looks for programs, and remembers them. -/
def rememberAll : List (List Char) → Act Nat
  | [] => pure 0
  | name :: rest => do
      modify fun session => { session with programs := dropAt name session.programs }
      let session ← get
      let status ← (match meaning session name with
        | .program _ _ => do
            rememberProgram name
            pure 0
        | .unknown => do
            complain (name ++ ": not found".toList)
            pure 1
        | _ => pure 0)
      let others ← rememberAll rest
      pure (max status others)

/-- Does a command stay away because there is no such program? -/
def notFound (name : List Char) (found : Found) : Act Nat := do
  match found with
  | .refused status => do
      complain (name ++ ": Permission denied".toList)
      pure status
  | _ => do
      complain (name ++ ": not found".toList)
      pure 127

/-- The interpreter that the first line of a script names, with its argument. -/
def interpreter? (content : List Char) : Option (List (List Char)) :=
  match content with
  | '#' :: '!' :: rest =>
      let words := (Text.split ' ' (rest.takeWhile (· ≠ '\n'))).filter (· ≠ [])
      if words.isEmpty then none else some words
  | _ => none

def wordText (text : List Char) : List Char × Option Nat :=
  match text with
  | [c] => if c.isDigit then (text, some (c.toNat - 48)) else (text, none)
  | text => (text, none)

def badNumber {α : Type} : Act α := do
  modify fun session => { session with line := session.readLine }
  failText "Syntax error: Bad fd number"

/-- Puts the pipe of a stage in the place of its input. -/
def readsFrom (channel? : Option Nat) : Act Unit :=
  match channel? with
  | some channel => setStream 0 channel
  | none => pure ()

def endPipe (number : Nat) : Act Unit := do
  match (← get).world.channels[number]? with
  | some channel =>
      match channel.target with
      | .pipe texts size _ => setChannel number { channel with target := .pipe texts size true }
      | _ => pure ()
  | none => pure ()

def newPipe : Act Nat :=
  addChannel { target := .pipe [] 0 false }

def pipeText (number : Nat) : Act (List Char) := do
  match (← get).world.channels[number]? with
  | some channel =>
      match channel.target with
      | .pipe texts _ _ => pure texts.reverse.flatten
      | _ => pure []
  | none => pure []

/-- Drops line feeds behind a text, and zeros anywhere. -/
def captured (text : List Char) : List Char :=
  ((text.filter (· ≠ '\x00')).reverse.dropWhile (· = '\n')).reverse

/-- Does a stage wait for its input? -/
def inStage (action : Act Nat) : Act Bool := do
  let outer ← get
  try
    let _ ← action
    pure false
  catch stop =>
    match stop with
    | .waiting => do
        modify fun inner => { outer with world := inner.world }
        pure true
    | stop => throw stop

/-- Writes what was read, if the shell was told to. -/
def echoInput (text : List Char) : Act Unit := do
  if ← hasOption 'v' then do
    let _ ← write 2 text
    pure ()
  else pure ()

mutual

/-- Carries out a command and gives its status. -/
def run (tested : Bool) : Nat → Command → Act Nat
  | 0, _ => throw .exhausted
  | fuel + 1, command => do
      if ← hasOption 'n' then pure 0
      else
        match command with
        | .simple line assignments words redirections => do
            checked tested (← simple tested fuel line assignments words redirections)
        | .sequence first second => do
            let _ ← run tested fuel first
            run tested fuel second
        | .both first second => do
            let status ← run true fuel first
            if status = 0 then run tested fuel second else setStatus status
        | .either first second => do
            let status ← run true fuel first
            if status = 0 then setStatus 0 else run tested fuel second
        | .background body => do
            let number := (← get).world.processes + (← get).process + 1
            onWorld fun world => { world with processes := world.processes + 1 }
            modify fun session => { session with
              jobs := session.jobs ++ [⟨number, body⟩], lastJob := some number }
            setStatus 0
        | .pipeline stages => do
            rememberStages stages
            checked tested (← pipeline tested fuel stages none)
        | .negation body => do
            let status ← run true fuel body
            setStatus (if status = 0 then 1 else 0)
        | .redirected line body redirections => do
            modify fun session => { session with line }
            setStatus (← redirected fuel redirections (run tested fuel body))
        | .subshell line body redirections => do
            modify fun session => { session with line }
            checked tested (← inSubshell (carryOut fuel)
              (redirected fuel redirections (run tested fuel body)))
        | .choice test yes no => do
            let status ← run true fuel test
            if status = 0 then run tested fuel yes
            else
              match no with
              | some no => run tested fuel no
              | none => setStatus 0
        | .loop expected test body => do
            setStatus (← withLoop (loop tested expected test body 0 fuel))
        | .each line name words body => do
            modify fun session => { session with line }
            let values ← Expansion.allFields (substitute fuel) words
            setStatus (← withLoop (each tested name body 0 fuel values))
        | .selection line subject arms => do
            modify fun session => { session with line }
            let text ← Expansion.single (substitute fuel) subject
            select tested text fuel arms
        | .definition line name body => do
            modify fun session => { session with
              functions := putAt name ⟨line, body⟩ session.functions }
            setStatus 0
termination_by structural fuel => fuel

def loop (tested expected : Bool) (test body : Command) (status : Nat) : Nat → Act Nat
  | 0 => throw .exhausted
  | fuel + 1 => do
      match ← inLoop (run true fuel test) with
      | .finished => pure status
      | .onward found =>
          if (found = 0) = expected then do
            match ← inLoop (run tested fuel body) with
            | .finished => pure 0
            | .onward status => loop tested expected test body status fuel
          else pure status
termination_by structural fuel => fuel

def each (tested : Bool) (name : List Char) (body : Command) (status : Nat) :
    Nat → List (List Char) → Act Nat
  | _, [] => pure status
  | 0, _ => throw .exhausted
  | fuel + 1, value :: rest => do
      assign name value false
      match ← inLoop (run tested fuel body) with
      | .finished => pure 0
      | .onward status => each tested name body status fuel rest
termination_by structural fuel => fuel

/-- Carries out the body behind the first pattern that fits. -/
def select (tested : Bool) (text : List Char) : Nat → List Arm → Act Nat
  | _, [] => setStatus 0
  | 0, _ => throw .exhausted
  | fuel + 1, .mk patterns body :: rest => do
      if ← fitsAny text fuel patterns then
        match body with
        | some body => run tested fuel body
        | none => setStatus 0
      else select tested text fuel rest
termination_by structural fuel => fuel

def fitsAny (text : List Char) : Nat → List Word → Act Bool
  | _, [] => pure false
  | 0, _ => throw .exhausted
  | fuel + 1, word :: rest => do
      let pattern ← Expansion.pattern (substitute fuel) word
      if pattern.fits text then pure true else fitsAny text fuel rest
termination_by structural fuel => fuel

/-- Carries out stages one after the other, each on what the one before has written. -/
def pipeline (tested : Bool) : Nat → List Command → Option Nat → Act Nat
  | 0, _, _ => throw .exhausted
  | _, [], _ => pure 0
  | fuel + 1, [last], input => do
      inSubshell (carryOut fuel) (do
        readsFrom input
        run tested fuel last)
  | fuel + 1, first :: rest, input => do
      let output ← newPipe
      let waits ← inStage (inSubshell (carryOut fuel) (do
        readsFrom input
        setStream 1 output
        run tested fuel first))
      if waits then pure () else endPipe output
      let status ← pipeline tested fuel rest (some output)
      if waits then throw .waiting else pure status
termination_by structural fuel => fuel

/-- What a command inside a word prints. -/
def substitute : Nat → Option Command → Act (List Char)
  | 0, _ => throw .exhausted
  | _, none => do
      modify fun session => { session with substituted := 0 }
      pure []
  | fuel + 1, some body => do
      let output ← newPipe
      let status ← inSubshell (carryOut fuel) (do
        setStream 1 output
        run false fuel body)
      modify fun session => { session with substituted := status }
      pure (captured (← pipeText output))
termination_by structural fuel => fuel

def prepare : Nat → Redirection → Act Prepared
  | 0, _ => throw .exhausted
  | fuel + 1, redirection => do
      match redirection with
      | .file stream mode name => do
          pure (.file stream mode (← Expansion.single (substitute fuel) name))
      | .duplicate stream source => do
          let text ← Expansion.single (substitute fuel) source
          match wordText text with
          | (_, some source) => pure (.duplicate stream source)
          | (['-'], none) => pure (.close stream)
          | _ => badNumber
      | .document stream number => do
          let word := ((← get).world.documents.lookup number).getD []
          let glyphs ← Expansion.pieces (substitute fuel) false false word
          pure (.content stream (Glyph.text glyphs))
termination_by structural fuel => fuel

def prepareAll : Nat → List Redirection → Act (List Prepared)
  | 0, _ => throw .exhausted
  | _, [] => pure []
  | fuel + 1, first :: rest => do
      let prepared ← prepare fuel first
      let others ← prepareAll fuel rest
      pure (prepared :: others)
termination_by structural fuel => fuel

/-- Carries out an action with redirected streams; a redirection that fails has the status 2. -/
def redirected : Nat → List Redirection → Act Nat → Act Nat
  | 0, _, _ => throw .exhausted
  | fuel + 1, redirections, action => do
      let prepared ← prepareAll fuel redirections
      let streams := (← get).streams
      ensuring (do
        match ← attempt (performAll prepared) with
        | .ok () => action
        | .error status => pure status) (restoreStreams streams)
termination_by structural fuel => fuel

/-- Expands words; behind the name of a command that declares variables, assignments stay whole. -/
def expandWords : Nat → List Word → Act (List (List Char))
  | 0, _ => throw .exhausted
  | _, [] => pure []
  | fuel + 1, first :: rest => do
      match ← Expansion.fields (substitute fuel) first with
      | [] => expandWords fuel rest
      | name :: others => do
          let declares := String.ofList name ∈ ["export", "readonly", "local"]
          let arguments ← expandArguments declares fuel rest
          pure (name :: others ++ arguments)
termination_by structural fuel => fuel

def expandArguments (declares : Bool) : Nat → List Word → Act (List (List Char))
  | 0, _ => throw .exhausted
  | _, [] => pure []
  | fuel + 1, first :: rest => do
      let found ←
        match if declares then assignment? first else none with
        | some (name, value) => do
            pure [name ++ '=' :: (← Expansion.assigned (substitute fuel) value)]
        | none => Expansion.fields (substitute fuel) first
      let others ← expandArguments declares fuel rest
      pure (found ++ others)
termination_by structural fuel => fuel

/-- Gives variables their values, and tells the values. -/
def assignAll (exported passing : Bool) : Nat → List (List Char × Word) →
    Act (List (List Char))
  | 0, _ => throw .exhausted
  | _, [] => pure []
  | fuel + 1, (name, word) :: rest => do
      let value ← Expansion.assigned (substitute fuel) word
      if passing then remember name else pure ()
      assign name value exported
      let others ← assignAll exported passing fuel rest
      pure ((name ++ '=' :: value) :: others)
termination_by structural fuel => fuel

/-- Carries out a simple command. Its assignments stay if there is nothing else in it, or if it is a
special command; otherwise they hold for the command only. -/
def simple (tested : Bool) (fuel : Nat) (line : Nat) (assignments : List (List Char × Word))
    (words : List Word) (redirections : List Redirection) : Act Nat :=
  match fuel with
  | 0 => throw .exhausted
  | fuel + 1 => do
      modify fun session => { session with line, substituted := 0 }
      let words ← expandWords fuel words
      let name := String.ofList (words.headD [])
      let special := !words.isEmpty && isSpecial name
      let passing := !words.isEmpty && !special
      let prepared ← prepareAll fuel redirections
      let streams := (← get).streams
      match ← attempt (performAll prepared) with
      | .error status => do
          restoreStreams streams
          if special then throw (.failed status) else pure status
      | .ok () => do
          let named : Act Nat := do
            let values ← assignAll passing passing fuel assignments
            if words.isEmpty && values.isEmpty then pure () else trace streams (values ++ words)
            match words with
            | [] => do pure (← get).substituted
            | name :: arguments => invoke tested fuel name arguments
          let action : Act Nat :=
            if passing && !assignments.isEmpty then do
              openScope
              ensuring named closeScope
            else named
          if name = "exec" && words.length = 1 then action
          else ensuring action (restoreStreams streams)
termination_by structural fuel

/-- Carries out a command by its name. -/
def invoke (tested : Bool) : Nat → List Char → List (List Char) → Act Nat
  | 0, _, _ => throw .exhausted
  | fuel + 1, name, arguments => do
      let session ← get
      let text := String.ofList name
      if isSpecial text then withSpeaker name (builtin tested fuel text arguments)
      else
        match session.functions.lookup name with
        | some function => inFunction function.line arguments (run tested fuel function.body)
        | none => do
            if Builtin.isBuiltin text then pure () else rememberProgram name
            regular tested fuel name arguments
termination_by structural fuel => fuel

/-- Carries out a command that is no function. -/
def regular (tested : Bool) : Nat → List Char → List (List Char) → Act Nat
  | 0, _, _ => throw .exhausted
  | fuel + 1, name, arguments => do
      let text := String.ofList name
      if Builtin.isBuiltin text then
        match ← attempt (withSpeaker name (builtin tested fuel text arguments)) with
        | .ok status => pure status
        | .error status => pure status
      else program fuel name arguments
termination_by structural fuel => fuel

def builtin (tested : Bool) : Nat → String → List (List Char) → Act Nat
  | 0, _, _ => throw .exhausted
  | fuel + 1, name, arguments => do
      match Builtin.find? name with
      | some act => act arguments
      | none =>
          match name with
          | "eval" => do
              let text := traceWords arguments
              if text.isEmpty then pure 0 else runText tested fuel text
          | "." => do
              match arguments with
              | path :: _ => source fuel path
              | [] => pure 0
          | "exec" => do
              match arguments with
              | [] => pure 0
              | name :: arguments => do
                  let status ← program fuel name arguments
                  throw (.exit status)
          | "command" => do
              let (found, words) ← Builtin.flags ['p', 'v', 'V'] arguments
              if found.contains 'v' then explain false (words.take 1)
              else if found.contains 'V' then explain true (words.take 1)
              else
                match words with
                | [] => pure 0
                | name :: arguments => do
                    modify fun session => { session with speaker := none }
                    regular tested fuel name arguments
          | "type" => explain true arguments
          | "hash" => do
              let (found, arguments) ← Builtin.flags ['r'] arguments
              if found.contains 'r' then do
                modify fun session => { session with programs := [] }
                pure 0
              else if arguments.isEmpty then do
                listPrograms
                pure 0
              else rememberAll arguments
          | "wait" => wait fuel arguments
          | "kill" => kill fuel arguments
          | _ => failText "No current job"
termination_by structural fuel => fuel

/-- Carries out the commands in a file in this shell. -/
def source : Nat → List Char → Act Nat
  | 0, _ => throw .exhausted
  | fuel + 1, path => do
      let session ← get
      let paths :=
        if path.contains '/' then [session.pathOf path]
        else (directories (session.valueOr "PATH" [])).map fun directory =>
          directory ++ "/" ++ Text.Octets.asString path
      match paths.findSome? fun path => (session.world.files.read path).toOption with
      | none =>
          if path.contains '/' then
            fail ("cannot open ".toList ++ path ++ ": No such file".toList)
          else fail (path ++ ": not found".toList)
      | some bytes => do
          let outer := session.line
          let body : Act Nat := do
            try runText false fuel (Text.Octets.ofBytes bytes)
            catch stop =>
              match stop with
              | .back status => pure status
              | stop => throw stop
          let status ← withSpeaker path body
          modify fun session => { session with line := outer }
          pure status
termination_by structural fuel => fuel

/-- Waits for what is in the background, or for one job there. -/
def wait : Nat → List (List Char) → Act Nat
  | 0, _ => throw .exhausted
  | fuel + 1, arguments => do
      match arguments with
      | [] => do
          runJobs fuel none
          modify fun session => { session with ended := [] }
          pure 0
      | word :: _ => do
          let number ← Builtin.number word
          match (← get).ended.lookup number with
          | some status => tellEnd status
          | none => do
              runJobs fuel none
              match (← get).ended.lookup number with
              | some status => tellEnd status
              | none => pure 127
termination_by structural fuel => fuel

/-- Carries out the jobs in the background, with so much time for each. -/
def runJobs (fuel : Nat) (patience : Option Nat) : Act Unit :=
  match fuel with
  | 0 => throw .exhausted
  | fuel + 1 => do
      match (← get).jobs with
      | [] => pure ()
      | job :: rest => do
          modify fun session => { session with jobs := rest }
          let input ← addChannel { target := .sink }
          let status ← inSubshell (carryOut fuel) (do
            modify fun session => { session with patience }
            setStream 0 input
            run false fuel job.body)
          modify fun session => { session with ended := (job.number, status) :: session.ended }
          runJobs fuel patience
termination_by structural fuel

/-- Sends a signal to this shell or to a job, which has not begun and does not begin then. -/
def kill : Nat → List (List Char) → Act Nat
  | 0, _ => throw .exhausted
  | fuel + 1, arguments => do
      let usage : Act Nat := failText
        ("Usage: kill [-s sigspec | -signum | -sigspec] [pid | job]... or\n" ++
          "kill -l [exitstatus]")
      let send (signal : List Char) (targets : List (List Char)) : Act Nat := do
        match Builtin.signal? signal with
        | none => fail ("invalid signal number or name: ".toList ++ signal)
        | some (name, number) => signalAll fuel name number targets
      match arguments with
      | [] => usage
      | ['-', 'l'] :: word :: _ => do
          let number ← Builtin.number word
          match Builtin.signals.find? fun entry => entry.2 = number % 128 with
          | some (name, _) => Builtin.printLine name.toList
          | none => failText ("invalid signal number or exit status: " ++ String.ofList word)
          pure 0
      | [['-', 'l']] => do
          for (name, number) in Builtin.signals do
            if number ≠ 0 then Builtin.printLine name.toList
          pure 0
      | ['-', 's'] :: signal :: targets => if targets.isEmpty then usage else send signal targets
      | ['-', '-'] :: targets => if targets.isEmpty then usage else send "TERM".toList targets
      | ('-' :: signal) :: targets => if targets.isEmpty then usage else send signal targets
      | targets => send "TERM".toList targets
termination_by structural fuel => fuel

def signalAll (fuel : Nat) (name : String) (signal : Nat) (targets : List (List Char)) : Act Nat :=
  match fuel with
  | 0 => throw .exhausted
  | fuel + 1 => do
      match targets with
      | [] => pure 0
      | target :: rest => do
          let number ← Builtin.number target
          let session ← get
          let status ←
            if number = session.process then do
              if signal = 0 then pure 0
              else
                match trapOf session name with
                | some text => do
                    modify fun session => { session with speaker := none }
                    if text.isEmpty then pure () else carryOut fuel text
                    pure 0
                | none => throw (.exit (128 + signal))
            else if session.jobs.any fun job => job.number = number then do
              if signal = 0 then pure 0
              else do
                set { session with
                  jobs := session.jobs.filter fun job => job.number ≠ number
                  ended := (number, signalled + signal) :: session.ended }
                pure 0
            else do
              warn "No such process\n"
              pure 1
          let others ← signalAll fuel name signal rest
          pure (max status others)
termination_by structural fuel

/-- Carries out a program, which may be a shell or start other programs itself. -/
def program : Nat → List Char → List (List Char) → Act Nat
  | 0, _, _ => throw .exhausted
  | fuel + 1, name, arguments => do
      match locate (← get) name with
      | .program kind _ =>
          match kind with
          | "sh" => shell fuel name arguments
          | "dash" => shell fuel name arguments
          | "bash" => shell fuel name arguments
          | "sleep" => do
              match arguments.mapM Utility.interval? with
              | some (first :: rest) => do
                  let duration := rest.foldl (· + ·) first
                  runJobs fuel (some duration)
                  slumber duration
                  pure 0
              | _ => runUtility (Utility.work "sleep") name arguments
          | "env" => withEnvironment fuel name arguments
          | "xargs" => distribute fuel name arguments
          | kind =>
              match Utility.launched? kind arguments with
              | some launch => inSubshell (carryOut fuel) (do
                  limited launch.limit (launching fuel name launch.command launch.arguments))
              | none => runUtility (Utility.work kind) name arguments
      | .script place path => do
          let content := fileContent (← get).world.files place
          let path := Text.Octets.ofString path
          match interpreter? content with
          | some (interpreter :: given) => program fuel interpreter (given ++ path :: arguments)
          | _ => shell fuel ['s', 'h'] (path :: arguments)
      | found => notFound name (if name.isEmpty then .refused 127 else found)
termination_by structural fuel => fuel

/-- Carries out a program that another one starts, which complains if it cannot. -/
def launching (fuel : Nat) (name command : List Char) (arguments : List (List Char)) : Act Nat :=
  match fuel with
  | 0 => throw .exhausted
  | fuel + 1 => do
      match locate (← get) command with
      | .missing => do
          let _ ← write 2 (Utility.launchFault name command "No such file or directory")
          pure 127
      | .refused _ => do
          let _ ← write 2 (Utility.launchFault name command "Permission denied")
          pure 126
      | _ => program fuel command arguments
termination_by structural fuel

/-- Carries out a program with other variables. -/
def withEnvironment : Nat → List Char → List (List Char) → Act Nat
  | 0, _, _ => throw .exhausted
  | fuel + 1, name, arguments => do
      match Utility.changes arguments with
      | none => runUtility (Utility.work "env") name arguments
      | some (changes, []) => do
          let session ← get
          for (key, value) in changes.apply session.environment do
            Builtin.print (key ++ '=' :: value ++ [changes.finish])
          pure 0
      | some (changes, command :: rest) =>
          inSubshell (carryOut fuel) (do
            modify fun session => { session with
              bindings := searchable ((changes.apply session.environment).map fun (key, value) =>
                (key, { value := some value, exported := true })) }
            match changes.directory with
            | none => launching fuel name command rest
            | some directory => do
                let path := (← get).pathOf directory
                match (← get).world.files.find path with
                | .ok (place, .directory) => do
                    modify fun session => { session with directory := Files.pathOf place }
                    launching fuel name command rest
                | found => do
                    let reason := match found with
                      | .error fault => fault.reason
                      | .ok _ => "Not a directory"
                    let _ ← write 2 (name ++ ": cannot change directory to ".toList ++
                      Utility.Work.quote directory ++ ": ".toList ++ reason.toList ++ ['\n'])
                    pure 125)
termination_by structural fuel => fuel

/-- Carries out a program on the words that are read. -/
def distribute : Nat → List Char → List (List Char) → Act Nat
  | 0, _, _ => throw .exhausted
  | fuel + 1, name, arguments => do
      match Utility.shares? arguments with
      | none => runUtility (Utility.work "xargs") name arguments
      | some plan => do
          let (text, complete) := (← remaining 0).getD ([], true)
          advance 0 text.length
          if !complete then throw .waiting
          else do
            let status ← runShares name plan.status fuel (plan.calls text)
            match plan.fault text with
            | some message => do
                let _ ← write 2 (name ++ ": ".toList ++ message ++ ['\n'])
                pure (max status 1)
            | none => pure status
termination_by structural fuel => fuel

def runShares (name : List Char) (failure : Nat) : Nat → List (List (List Char)) → Act Nat
  | 0, _ => throw .exhausted
  | _, [] => pure 0
  | fuel + 1, call :: rest => do
      match call with
      | [] => runShares name failure fuel rest
      | command :: arguments => do
          let input ← addChannel { target := .sink }
          let missing := match locate (← get) command with
            | .missing => true
            | .refused _ => true
            | _ => false
          let status ← inSubshell (carryOut fuel) (do
            setStream 0 input
            launching fuel name command arguments)
          if missing then pure status
          else if status = 255 then do
            let _ ← write 2 (name ++ ": ".toList ++ command ++
              ": exited with status 255; aborting\n".toList)
            pure 124
          else do
            let others ← runShares name failure fuel rest
            if status = 0 then pure others else pure (max failure others)
termination_by structural fuel => fuel

/-- Carries out a shell that this shell starts. -/
def shell : Nat → List Char → List (List Char) → Act Nat
  | 0, _, _ => throw .exhausted
  | fuel + 1, name, arguments => do
      let outer ← get
      let refuse (message : List Char) : Act Nat := do
        let _ ← write 2 (name ++ ": 0: ".toList ++ message ++ ['\n'])
        pure 2
      let found := (Options.takeAll {} (arguments.length + 1) arguments).bind fun options =>
        (options.start name).map (options, ·)
      let begin (options : List Char) (name : List Char) (parameters : List (List Char))
          (text : List Char) : Act Nat := do
        set { freshShell outer name parameters with options }
        let status ← finishing (carryOut fuel) (runText false fuel text)
        runJobs fuel (some 0)
        modify fun inner => { outer with world := inner.world }
        pure status
      match found with
      | .error message => refuse message
      | .ok (options, .text content name parameters) =>
          begin options.letters name parameters content
      | .ok (options, .file path parameters) => do
          match outer.world.files.read (outer.pathOf path) with
          | .ok bytes => begin options.letters path parameters (Text.Octets.ofBytes bytes)
          | .error _ => refuse ("cannot open ".toList ++ path ++ ": No such file".toList)
      | .ok (options, .input parameters) => do
          let (text, complete) := (← remaining 0).getD ([], true)
          if !complete then throw .waiting
          else do
            advance 0 text.length
            let letters := (options.switch true 's').letters
            begin letters name parameters text
termination_by structural fuel => fuel

/-- Carries out a text in this shell, one line after the other. -/
def runText (tested : Bool) (fuel : Nat) (text : List Char) : Act Nat :=
  match fuel with
  | 0 => throw .exhausted
  | fuel + 1 => runLines tested 0 fuel { input := text }
termination_by structural fuel

def runLines (tested : Bool) (status : Nat) : Nat → Reader → Act Nat
  | 0, _ => throw .exhausted
  | fuel + 1, reader => do
      let session ← get
      let prepared := { reader with
        aliases := session.aliases, nextDocument := session.world.nextDocument, documents := [] }
      match Grammar.line prepared with
      | .error mistake => do
          echoInput (prepared.input)
          modify fun session => { session with line := mistake.line }
          failText ("Syntax error: " ++ mistake.message)
      | .ok (found, reader) => do
          echoInput (prepared.input.take (prepared.input.length - reader.input.length))
          onWorld fun world => { world with
            documents := reader.documents ++ world.documents
            nextDocument := reader.nextDocument }
          modify fun session => { session with readLine := reader.line }
          match found with
          | none => pure status
          | some none => runLines tested status fuel reader
          | some (some command) => do
              let status ← run tested fuel command
              runLines tested status fuel reader
termination_by structural fuel => fuel

/-- Carries out a text for its effect, and keeps the status. -/
def carryOut (fuel : Nat) (text : List Char) : Act Unit :=
  match fuel with
  | 0 => throw .exhausted
  | fuel + 1 => do
      let session ← get
      let _ ← runText false fuel text
      modify fun inner => { inner with status := session.status, line := session.line }
termination_by structural fuel

end

/-- How many steps commands may be nested or repeated. -/
def steps : Nat := 100000

/-- Carries out a program by its name, as if a shell had been told to. -/
def start (name : List Char) (arguments : List (List Char)) : Act Nat :=
  program steps name arguments

end Evaluation

end Concord.Shell
