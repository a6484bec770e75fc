import Concord.Files
import Concord.Shell.Words
import Concord.Text.Octets

/-!
What a shell knows while it runs: the files and the channels to them, which it shares with the
shells that it starts, and its own variables, functions and settings.
-/

namespace Concord.Shell

/-- Why commands are not carried on with. An input that is not at its end may still bring more, and
then its reader waits. -/
inductive Stop where
  | exit (status : Nat)
  | failed (status : Nat)
  | leave (levels : Nat)
  | again (levels : Nat)
  | back (status : Nat)
  | waiting
  | exhausted
  deriving DecidableEq, Repr

/-- Where a channel leads. A file that was removed is kept as long as there is a channel to it. What
was written to a pipe is kept with the last text in front. -/
inductive Target where
  | file (place : Place)
  | removed (content : List Char)
  | sink
  | pipe (texts : List (List Char)) (size : Nat) (ended : Bool)
  deriving DecidableEq, Repr

structure Channel where
  target : Target
  position : Nat := 0
  appends : Bool := false
  reads : Bool := true
  writes : Bool := true
  deriving DecidableEq, Repr

/-- What all shells and programs share. -/
structure World where
  files : Files
  channels : List Channel := []
  documents : List (Nat × Word) := []
  nextDocument : Nat := 0
  executables : List Place := []
  processes : Nat := 0

structure Variable where
  value : Option (List Char)
  exported : Bool := false
  fixed : Bool := false
  deriving DecidableEq, Repr

structure Function where
  line : Nat
  body : Command

/-- A job in the background, which is begun when it is waited for. -/
structure Job where
  number : Nat
  body : Command

/-- Where a script looks for its next option: a word, and how many characters of the word before it
are done if that has more letters. -/
structure OptionCursor where
  index : Nat := 1
  offset : Option Nat := none
  deriving DecidableEq, Repr

/-- A shell. Streams are numbers of channels; `line` is where the command that is carried out
stands, and `speaker` the name of the built-in command that speaks. Programs that were found are
remembered, with whether they have to be looked for again. -/
structure Session where
  world : World
  name : List Char := ['s', 'h']
  parameters : List (List Char) := []
  bindings : List (List Char × Variable) := []
  functions : List (List Char × Function) := []
  aliases : List (List Char × List Char) := []
  streams : List (Nat × Nat) := []
  directory : String := "/"
  options : List Char := []
  traps : List (String × List Char) := []
  status : Nat := 0
  line : Nat := 1
  functionLine : Nat := 0
  speaker : Option (List Char) := none
  loops : Nat := 0
  scopes : List (List (List Char × Option Variable)) := []
  jobs : List Job := []
  ended : List (Nat × Nat) := []
  lastJob : Option Nat := none
  patience : Option Nat := none
  readLine : Nat := 1
  substituted : Nat := 0
  process : Nat := 4000
  mask : Nat := 18
  cursor : OptionCursor := {}
  programs : List (List Char × Bool) := []

abbrev Act := ExceptT Stop (StateM Session)

/-- Puts a value at its key, over the value that is there. -/
def putAt {κ α : Type} [DecidableEq κ] (key : κ) (value : α) : List (κ × α) → List (κ × α)
  | [] => [(key, value)]
  | (k, v) :: rest => if k = key then (key, value) :: rest else (k, v) :: putAt key value rest

def dropAt {κ α : Type} [DecidableEq κ] (key : κ) (entries : List (κ × α)) : List (κ × α) :=
  entries.filter fun entry => entry.1 ≠ key

def digits (n : Nat) : List Char :=
  (toString n).toList

def integerText (n : Int) : List Char :=
  (toString n).toList

namespace Session

def onWorld (change : World → World) : Act Unit :=
  modify fun session => { session with world := change session.world }

def hasOption (letter : Char) : Act Bool := do
  pure ((← get).options.contains letter)

/-! ### Channels -/

def channel? (session : Session) (stream : Nat) : Option (Nat × Channel) := do
  let number ← session.streams.lookup stream
  let channel ← session.world.channels[number]?
  pure (number, channel)

def setChannel (number : Nat) (channel : Channel) : Act Unit :=
  onWorld fun world => { world with channels := world.channels.set number channel }

/-- A new channel; its number is given back. -/
def addChannel (channel : Channel) : Act Nat := do
  let number := (← get).world.channels.length
  onWorld fun world => { world with channels := world.channels ++ [channel] }
  pure number

def setStream (stream number : Nat) : Act Unit :=
  modify fun session => { session with streams := putAt stream number session.streams }

def closeStream (stream : Nat) : Act Unit :=
  modify fun session => { session with streams := dropAt stream session.streams }

def fileContent (files : Files) (place : Place) : List Char :=
  match files.entry? place with
  | some entry => Text.Octets.ofBytes (Files.Entry.content entry)
  | none => []

/-- A text with another one put over it from a position on; a gap is filled with zeros. -/
def overwrite (content : List Char) (position : Nat) (text : List Char) : List Char :=
  let front := content.take position
  front ++ List.replicate (position - front.length) '\x00' ++ text ++
    content.drop (position + text.length)

def isThere (files : Files) (place : Place) : Bool :=
  match files.entry? place with
  | some (.file _) => true
  | _ => false

/-- What becomes of files and of a channel when a text is written to it. -/
def writing (channel : Channel) (text : List Char) (files : Files) : Channel × Files :=
  match channel.target with
  | .sink => (channel, files)
  | .pipe texts size ended =>
      ({ channel with target := .pipe (text :: texts) (size + text.length) ended }, files)
  | .removed content =>
      ({ channel with
        target := .removed (overwrite content channel.position text)
        position := channel.position + text.length }, files)
  | .file place =>
      match channel.appends, files.entry? place with
      | true, some (.file pieces) =>
          (channel, files.put place (.file (pieces ++ [Text.Octets.toBytes text])))
      | false, some (.file pieces) =>
          let content := overwrite (Text.Octets.ofBytes pieces.flatten) channel.position text
          ({ channel with position := channel.position + text.length },
            files.put place (.file [Text.Octets.toBytes content]))
      | _, _ => (channel, files)

/-- As much as a pipe takes before its writer is ended. -/
def pipeHolds : Nat := 200000

def overfull : Target → Bool
  | .pipe _ size _ => pipeHolds < size
  | _ => false

/-- Writes to a channel, and tells whether it can be written to. -/
def writeChannel (number : Nat) (text : List Char) : Act Bool := do
  match (← get).world.channels[number]? with
  | some channel =>
      if channel.writes then do
        let (after, files) := writing channel text (← get).world.files
        onWorld fun world => { world with files }
        setChannel number after
        if overfull after.target then throw (.exit 141) else pure true
      else pure false
  | none => pure false

def write (stream : Nat) (text : List Char) : Act Bool := do
  match (← get).streams.lookup stream with
  | some number => writeChannel number text
  | none => pure false

/-- What is left to read on a channel, and whether it has an end. -/
def left (files : Files) (channel : Channel) : List Char × Bool :=
  match channel.target with
  | .sink => ([], true)
  | .pipe texts _ ended => (texts.reverse.flatten.drop channel.position, ended)
  | .removed content => (content.drop channel.position, true)
  | .file place => ((fileContent files place).drop channel.position, true)

/-- What is left on a stream, or `none` if it cannot be read from. -/
def remaining (stream : Nat) : Act (Option (List Char × Bool)) := do
  let session ← get
  match session.channel? stream with
  | some (_, channel) =>
      pure (if channel.reads then some (left session.world.files channel) else none)
  | none => pure none

def advance (stream count : Nat) : Act Unit := do
  match (← get).channel? stream with
  | some (number, channel) =>
      setChannel number { channel with position := channel.position + count }
  | none => pure ()

/-- Channels to files that are no longer there keep what was in them. -/
def settle (before : Files) : Act Unit :=
  onWorld fun world => { world with
    channels := world.channels.map fun channel =>
      match channel.target with
      | .file place =>
          if isThere before place && !isThere world.files place then
            { channel with target := .removed (fileContent before place) }
          else channel
      | _ => channel }

/-! ### Messages -/

/-- A message as a shell gives it, with its name and the line. -/
def complain (message : List Char) : Act Unit := do
  let session ← get
  let speaker :=
    match session.speaker with
    | some name => name ++ [':', ' ']
    | none => []
  let _ ← write 2 (session.name ++ [':', ' '] ++ digits session.line ++ [':', ' '] ++ speaker ++
    message ++ ['\n'])

def warn (message : String) : Act Unit :=
  complain message.toList

/-- An error ends the shell, unless a regular built-in command has made it. -/
def fail {α : Type} (message : List Char) : Act α := do
  complain message
  throw (.failed 2)

def failText {α : Type} (message : String) : Act α :=
  fail message.toList

/-! ### Variables -/

def valueOf? (session : Session) (name : List Char) : Option (List Char) :=
  (session.bindings.lookup name).bind Variable.value

def valueOr (session : Session) (name : String) (otherwise : List Char) : List Char :=
  (session.valueOf? name.toList).getD otherwise

/-- What goes with a new value of some variables: options are looked for from a word on, and
programs where they are found now. -/
def noticing (name value : List Char) : Act Unit :=
  match String.ofList name with
  | "OPTIND" =>
      if value ≠ [] && value.all Char.isDigit then
        let index := max 1 ((String.ofList value).toNat?.getD 1)
        modify fun session => { session with cursor := { index } }
      else fail ("Illegal number: ".toList ++ value)
  | "PATH" => modify fun session => { session with programs := [] }
  | _ => pure ()

/-- Gives a variable a value, with nothing else. -/
def store (name value : List Char) (exported : Bool) : Act Unit := do
  let session ← get
  let found := session.bindings.lookup name
  let old := found.getD { value := none }
  if old.fixed then fail (name ++ ": is read only".toList)
  else
    let exported := exported || old.exported || session.options.contains 'a'
    let changed : Variable := { old with value := some value, exported }
    modify fun session => { session with bindings := putAt name changed session.bindings }

/-- Gives a variable a value. -/
def assign (name value : List Char) (exported : Bool) : Act Unit := do
  noticing name value
  store name value exported

/-- Remembers a variable, so that it gets its value back when the innermost function ends. -/
def remember (name : List Char) : Act Unit := modify fun session =>
  match session.scopes with
  | scope :: outer =>
      if (scope.lookup name).isSome then session
      else { session with
        scopes := ((name, session.bindings.lookup name) :: scope) :: outer }
  | [] => session

def openScope : Act Unit :=
  modify fun session => { session with scopes := [] :: session.scopes }

def restoreIn (bindings : List (List Char × Variable)) :
    List (List Char × Option Variable) → List (List Char × Variable)
  | [] => bindings
  | (name, some old) :: rest => restoreIn (putAt name old bindings) rest
  | (name, none) :: rest => restoreIn (dropAt name bindings) rest

def closeScope : Act Unit := modify fun session =>
  match session.scopes with
  | scope :: outer =>
      { session with bindings := restoreIn session.bindings scope, scopes := outer }
  | [] => session

/-- Names are kept in so many rows; the row of a name is a sum of its characters. -/
def rowOf (rows : Nat) (name : List Char) : Nat :=
  name.foldr (fun c sum => c.toNat + sum) ((name.head?.elim 0 Char.toNat) * 16) % 32768 % rows

/-- The variables that programs get, row by row. -/
def environment (session : Session) : List (List Char × List Char) :=
  let found := session.bindings.filterMap fun (name, found) =>
    if found.exported then found.value.map (name, ·) else none
  found.mergeSort fun a b => rowOf 39 a.1 ≤ rowOf 39 b.1

/-- A path as it is seen from where the shell is. -/
def pathOf (session : Session) (path : List Char) : String :=
  if path.isEmpty then "" else Files.join session.directory (Text.Octets.asString path)

end Session

/-- Carries out an action after which another one is carried out, however the first one stops. -/
def ensuring {α : Type} (action : Act α) (after : Act Unit) : Act α := do
  let result ← (try (.ok <$> action : Act (Except Stop α)) catch stop => pure (.error stop))
  after
  match result with
  | .ok value => pure value
  | .error stop => throw stop

end Concord.Shell
