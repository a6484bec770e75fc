import Concord.Files
import Concord.Text.Octets

/-!
Programs that scripts are made of: what such a program is given, what it leaves behind, and how it
reads its options.
-/

namespace Concord

namespace Utility

/-- What a program is given. Its input is closed, or there is something left on it, which may be all
that comes. A program can go back in an input that is a file. -/
structure Task where
  name : List Char
  arguments : List (List Char)
  files : Files
  directory : String
  executables : List Place := []
  environment : List (List Char × List Char) := []
  input : Option (List Char × Bool)
  fromFile : Bool := false

/-- What a program has done so far. What it prints is held back to the end unless it is an error. -/
structure State where
  task : Task
  files : Files
  executables : List Place
  unread : List Char
  taken : Nat := 0
  touchedEnd : Bool := false
  shown : List (Nat × List Char) := []
  held : List (List Char) := []
  status : Nat := 0

/-- What a program leaves behind. It waits if it has read all that there is of an input that is not
complete. -/
structure Result where
  output : List (Nat × List Char)
  status : Nat
  files : Files
  executables : List Place
  taken : Nat
  waits : Bool

/-- A program ends early by giving its status. -/
abbrev Work := ExceptT Nat (StateM State)

namespace Work

def printed (state : State) : List (Nat × List Char) :=
  (if state.held.isEmpty then state.shown
    else (1, state.held.reverse.flatten) :: state.shown).reverse

/-- Carries out a program. One that waits has not printed what it holds back. -/
def run (work : Work Nat) (task : Task) : Result :=
  let (unread, complete) := task.input.getD ([], true)
  let start : State :=
    { task, files := task.files, executables := task.executables, unread }
  let (result, state) := ExceptT.run work start
  let waits := !complete && state.touchedEnd
  { output := if waits then state.shown.reverse else printed state
    status := match result with
      | .ok status => max status state.status
      | .error status => status
    files := state.files
    executables := state.executables
    taken := state.taken
    waits }

/-- Prints at the end. -/
def print (text : List Char) : Work Unit :=
  modify fun state => { state with held := text :: state.held }

def printLine (text : List Char) : Work Unit :=
  print (text ++ ['\n'])

/-- Prints what is held back. -/
def flush : Work Unit := modify fun state =>
  { state with
    shown := if state.held.isEmpty then state.shown
      else (1, state.held.reverse.flatten) :: state.shown
    held := [] }

/-- Prints at once. -/
def printNow (text : List Char) : Work Unit := do
  print text
  flush

/-- An error message, without the name of the program. -/
def complainPlain (message : List Char) : Work Unit :=
  modify fun state => { state with shown := (2, message ++ ['\n']) :: state.shown }

def complain (message : List Char) : Work Unit := do
  complainPlain ((← get).task.name ++ [':', ' '] ++ message)

/-- Complains, and goes on to a status that is not zero. -/
def fault (status : Nat) (message : List Char) : Work Unit := do
  complain message
  modify fun state => { state with status := max state.status status }

def fail {α : Type} (status : Nat) (message : List Char) : Work α := do
  complain message
  throw status

/-- Complains about the arguments, and tells where help is found. -/
def misuse {α : Type} (status : Nat) (message : List Char) : Work α := do
  complain message
  complainPlain ("Try '".toList ++ (← get).task.name ++ " --help' for more information.".toList)
  throw status

def arguments : Work (List (List Char)) := do
  pure (← get).task.arguments

/-! ### Files -/

def pathOf (path : List Char) : Work String := do
  if path.isEmpty then pure ""
  else pure (Files.join (← get).task.directory (Text.Octets.asString path))

def quote (name : List Char) : List Char :=
  '\'' :: name ++ ['\'']

/-- Everything on the input. -/
def readInput : Work (List Char) := do
  let state ← get
  set { state with
    unread := [], taken := state.taken + state.unread.length, touchedEnd := true }
  pure state.unread

/-- A front part of the input, of which is told whether it is as much as was wanted. What comes with
it in one piece is taken too where a program cannot go back. -/
def readPart (wanted : List Char → List Char × Bool) : Work (List Char) := do
  let state ← get
  let (part, enough) := wanted state.unread
  let count := if state.task.fromFile then part.length
    else min state.unread.length (max part.length 8192)
  set { state with
    unread := state.unread.drop count
    taken := state.taken + count
    touchedEnd := state.touchedEnd || !enough }
  pure part

/-- The content of a file; a hyphen stands for the input. -/
def readFile (name : List Char) : Work (Except Files.Fault (List Char)) := do
  if name = ['-'] then .ok <$> readInput
  else do
    let path ← pathOf name
    match (← get).files.read path with
    | .ok bytes => pure (.ok (Text.Octets.ofBytes bytes))
    | .error fault => pure (.error fault)

def reason (fault : Files.Fault) : List Char :=
  fault.reason.toList

/-- The content of a file, or a complaint with the name of the file. -/
def contentOr (status : Nat) (name : List Char) : Work (Option (List Char)) := do
  match ← readFile name with
  | .ok content => pure (some content)
  | .error problem => do
      fault status (name ++ [':', ' '] ++ reason problem)
      pure none

/-- Changes the files, or gives the fault that keeps them as they are. -/
def onFiles (change : Files → Except Files.Fault Files) : Work (Except Files.Fault Unit) := do
  let state ← get
  match change state.files with
  | .ok files => do
      set { state with files }
      pure (.ok ())
  | .error fault => pure (.error fault)

/-! ### Options -/

/-- Options of a program: letters that take no value or one, and long names for letters. An optional
value is there only if it stands in the same argument. -/
structure Grammar where
  letters : List (Char × Bool)
  optional : List Char := []
  names : List (String × Char) := []
  status : Nat := 1
  inOrder : Bool := false
  usage : List String := []

/-- An option with its value, if it takes one. -/
abbrev Given := Char × List Char

/-- Complains about an option; some programs say then how they are used. -/
def refuse {α : Type} (grammar : Grammar) (message : List Char) : Work α :=
  match grammar.usage with
  | [] => misuse grammar.status message
  | usage => do
      complain message
      for line in usage do
        complainPlain line.toList
      throw grammar.status

/-- Letters that stand in one argument. -/
def letterOptions (grammar : Grammar) : List Char → List (List Char) →
    Work (List Given × List (List Char))
  | [], rest => pure ([], rest)
  | letter :: more, rest =>
      if grammar.optional.contains letter then pure ([(letter, more)], rest)
      else
      match grammar.letters.lookup letter with
      | none => refuse grammar ("invalid option -- ".toList ++ quote [letter])
      | some false => do
          let (found, rest) ← letterOptions grammar more rest
          pure ((letter, []) :: found, rest)
      | some true =>
          if !more.isEmpty then pure ([(letter, more)], rest)
          else
            match rest with
            | value :: rest => pure ([(letter, value)], rest)
            | [] =>
                refuse grammar ("option requires an argument -- ".toList ++ quote [letter])

/-- The option that a long name means; the front of a name will do if it is the front of one. -/
def longLetter? (grammar : Grammar) (name : List Char) : Option (String × Char) :=
  match grammar.names.find? fun entry => entry.1.toList = name with
  | some found => some found
  | none =>
      match grammar.names.filter fun entry => name.isPrefixOf entry.1.toList with
      | [found] => some found
      | _ => none

def longOption (grammar : Grammar) (text : List Char) (rest : List (List Char)) :
    Work (List Given × List (List Char)) := do
  let name := text.takeWhile (· ≠ '=')
  let value? := if name.length < text.length then some (text.drop (name.length + 1)) else none
  match longLetter? grammar name with
  | none => refuse grammar ("unrecognized option ".toList ++ quote ('-' :: '-' :: text))
  | some (full, letter) =>
      if grammar.optional.contains letter then pure ([(letter, value?.getD [])], rest)
      else
      let takes := (grammar.letters.lookup letter).getD false
      match takes, value?, rest with
      | false, none, rest => pure ([(letter, [])], rest)
      | false, some _, _ =>
          refuse grammar ("option ".toList ++ quote ("--".toList ++ full.toList) ++
            " doesn't allow an argument".toList)
      | true, some value, rest => pure ([(letter, value)], rest)
      | true, none, value :: rest => pure ([(letter, value)], rest)
      | true, none, [] =>
          refuse grammar ("option ".toList ++ quote ("--".toList ++ full.toList) ++
            " requires an argument".toList)

/-- Options, which may stand behind other arguments, and the other arguments. -/
def optionsFrom (grammar : Grammar) : Nat → List (List Char) → Work (List Given × List (List Char))
  | 0, arguments => pure ([], arguments)
  | _, [] => pure ([], [])
  | fuel + 1, argument :: rest =>
      match argument with
      | ['-', '-'] => pure ([], rest)
      | '-' :: '-' :: name => do
          let (found, rest) ← longOption grammar name rest
          let (others, operands) ← optionsFrom grammar fuel rest
          pure (found ++ others, operands)
      | '-' :: letter :: more => do
          let (found, rest) ← letterOptions grammar (letter :: more) rest
          let (others, operands) ← optionsFrom grammar fuel rest
          pure (found ++ others, operands)
      | operand =>
          if grammar.inOrder then pure ([], operand :: rest)
          else do
            let (found, operands) ← optionsFrom grammar fuel rest
            pure (found, operand :: operands)

def options (grammar : Grammar) : Work (List Given × List (List Char)) := do
  let arguments ← arguments
  optionsFrom grammar (arguments.length + 1) arguments

def has (given : List Given) (letter : Char) : Bool :=
  given.any fun option => option.1 = letter

/-- The value of an option; the last one counts. -/
def value? (given : List Given) (letter : Char) : Option (List Char) :=
  given.reverse.lookup letter

end Work

/-! ### Texts -/

/-- Puts a character in front of lines. -/
def addToLines (c : Char) (found : List (List Char)) : List (List Char) :=
  match c, found with
  | '\n', lines => ['\n'] :: lines
  | c, line :: more => (c :: line) :: more
  | c, [] => [[c]]

/-- The lines of a text, each with its line feed if it has one. -/
def lines (text : List Char) : List (List Char) :=
  text.foldr addToLines []

/-- A line without its line feed. -/
def bare (line : List Char) : List Char :=
  if line.getLast? = some '\n' then line.dropLast else line

def naturalText (n : Nat) : List Char :=
  (toString n).toList

def natural? (text : List Char) : Option Nat :=
  if text ≠ [] && text.all Char.isDigit then
    some (text.foldl (fun value c => 10 * value + (c.toNat - 48)) 0)
  else none

/-- A text behind blanks that make it so wide. -/
def rightIn (width : Nat) (text : List Char) : List Char :=
  List.replicate (width - text.length) ' ' ++ text

end Utility

end Concord
