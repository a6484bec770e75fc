import Concord.Utility.Edit.Script
import Concord.Utility.Lines

/-!
The program that edits a text line by line, as a script tells.
-/

namespace Concord.Utility

namespace Edit

open Work
open Text (Regex)

/-- What is put behind a line when the next one is read. -/
inductive Later where
  | text (text : List Char)
  | file (name : List Char)

/-- The text that is edited: the lines that are still to come, each with the name of its file, the
line that is being edited and the one that is kept aside. What is printed is collected where it goes
into a file. -/
structure Editor where
  lines : List (List Char × List Char)
  live : Bool
  number : Nat := 0
  name : List Char := ['-']
  space : List Char := []
  fed : Bool := true
  hold : List Char := []
  later : List Later := []
  replaced : Bool := false
  ranges : List (Nat × Option Nat) := []
  last : Option (Regex × Bool) := none
  missing : Bool := false
  quiet : Bool
  unheld : Bool
  collected : Option (List (List Char)) := none
  width : Nat := 70

abbrev Act := StateT Editor Work

/-! ### Output -/

def put (text : List Char) : Act Unit := do
  let editor ← get
  match editor.collected with
  | some texts => set { editor with collected := some (text :: texts) }
  | none => do
      print text
      if editor.unheld then flush else pure ()

/-- Prints, behind a line feed that is missing so far. -/
def emit (text : List Char) : Act Unit := do
  if (← get).missing then do
    put ['\n']
    modify fun editor => { editor with missing := false }
  else pure ()
  put text

/-- Prints a line; the last line of a file ends as it does there. -/
def emitLine (text : List Char) : Act Unit := do
  let fed := (← get).fed
  emit (if fed then text ++ ['\n'] else text)
  if fed then pure () else modify fun editor => { editor with missing := true }

def emitSpace : Act Unit := do
  emitLine (← get).space

def appendTo (name text : List Char) : Act Unit := do
  if name = "/dev/stdout".toList then emit text
  else if name = "/dev/stderr".toList then
    modifyThe State fun state => { state with shown := (2, text) :: state.shown }
  else do
    let path ← pathOf name
    let _ ← onFiles fun files =>
      files.writeWith path fun pieces => pieces ++ [Text.Octets.toBytes text]
    pure ()

/-- Prints what was to be put behind the line. -/
def emitLater : Act Unit := do
  let later := (← get).later
  modify fun editor => { editor with later := [] }
  for entry in later do
    match entry with
    | .text text => emit text
    | .file name =>
        match ← readFile name with
        | .ok content => if content.isEmpty then pure () else emit content
        | .error _ => pure ()

/-! ### Input -/

/-- Waits for more, which ends what can be done now. -/
def await {α : Type} : Act α := do
  modifyThe State fun state => { state with touchedEnd := true }
  throw 0

/-- Is the line that is being edited the last one? -/
def isLast : Act Bool := do
  let editor ← get
  if !editor.lines.isEmpty then pure false
  else if editor.live then await
  else pure true

/-- Reads the next line, and tells whether there is one. -/
def nextLine : Act (Option (List Char)) := do
  let editor ← get
  match editor.lines with
  | [] => if editor.live then await else pure none
  | (name, line) :: rest => do
      set { editor with lines := rest, name, number := editor.number + 1, fed := line ≠ bare line }
      pure (some (bare line))

/-! ### Which lines -/

def matchesPattern (pattern : Pattern) : Act Bool := do
  match pattern with
  | some (regex, caseless) => do
      modify fun editor => { editor with last := some (regex, caseless) }
      pure (regex.hasMatch caseless (← get).space)
  | none =>
      match (← get).last with
      | some (regex, caseless) => pure (regex.hasMatch caseless (← get).space)
      | none => fail 1 "no previous regular expression".toList

def fits (address : Address) : Act Bool := do
  let number := (← get).number
  match address with
  | .line wanted => pure (number = wanted)
  | .every first step =>
      pure (if step = 0 then number = first else first ≤ number && (number - first) % step = 0)
  | .last => isLast
  | .found pattern => matchesPattern pattern

def keepRange (key : Nat) (stop : Option Nat) : Act Unit :=
  modify fun editor => { editor with ranges := (key, stop) :: editor.ranges }

def dropRange (key : Nat) : Act Unit :=
  modify fun editor => { editor with ranges := editor.ranges.filter fun entry => entry.1 ≠ key }

/-- The first line of a range was found. A range up to a line that is not behind it has no more
lines. -/
def beginRange (key : Nat) (reach : Reach) : Act Unit := do
  let number := (← get).number
  let upTo (stop : Nat) : Act Unit := if number < stop then keepRange key (some stop) else pure ()
  match reach with
  | .line stop => upTo stop
  | .after count => upTo (number + count)
  | .multiple step =>
      if step = 0 then pure () else upTo ((number + step - 1) / step * step)
  | .last => keepRange key none
  | .found _ => keepRange key none

/-- Is the line in a range that has begun? -/
def insideRange (key : Nat) (reach : Reach) (stop : Option Nat) : Act Bool := do
  match stop with
  | some stop => do
      let number := (← get).number
      if stop ≤ number then dropRange key else pure ()
      pure (number ≤ stop)
  | none => do
      let past ← (do
        match reach with
        | .last => isLast
        | .found pattern => matchesPattern pattern
        | _ => pure true)
      if past then dropRange key else pure ()
      pure true

/-- Is an instruction for the line? -/
def isChosen (instruction : Instruction) : Act Bool := do
  let choice := instruction.choice
  let key := instruction.number
  let found ← (do
    match choice.first, choice.second with
    | none, _ => pure true
    | some first, none => fits first
    | some first, some reach =>
        match (← get).ranges.lookup key with
        | some stop => insideRange key reach stop
        | none =>
            if ← fits first then do
              beginRange key reach
              pure true
            else pure false)
  pure (found != choice.negated)

/-- Ranges from the line 0 have begun before the first line. -/
def earlyRanges (program : List Instruction) : List (Nat × Option Nat) :=
  program.filterMap fun instruction =>
    match instruction.choice.first, instruction.choice.second with
    | some (.line 0), some (.found _) => some (instruction.number, none)
    | _, _ => none

/-! ### Replacing -/

/-- How letters are changed: all from here on, and the next one. -/
structure Casing where
  all : Option Bool := none
  one : Option Bool := none

def Casing.char (casing : Casing) (c : Char) : Char :=
  match casing.one, casing.all with
  | some true, _ => c.toUpper
  | some false, _ => c.toLower
  | none, some true => c.toUpper
  | none, some false => c.toLower
  | none, none => c

def Casing.text (casing : Casing) : List Char → List Char × Casing
  | [] => ([], casing)
  | c :: rest =>
      (casing.char c :: rest.map ({ casing with one := none } : Casing).char,
        { casing with one := none })

/-- What comes in place of a match. -/
def filled (found : Regex.Match) : Casing → List Piece → List Char
  | _, [] => []
  | casing, piece :: rest =>
      let go (text : List Char) : List Char :=
        let (text, casing) := casing.text text
        text ++ filled found casing rest
      match piece with
      | .char c => go [c]
      | .group number => go (found.group number)
      | .upper => filled found { casing with all := some true } rest
      | .lower => filled found { casing with all := some false } rest
      | .upperNext => filled found { casing with one := some true } rest
      | .lowerNext => filled found { casing with one := some false } rest
      | .asItIs => filled found {} rest

/-- A text with matches replaced from an occurrence on, and whether there was one to replace. A
match of nothing does not count right behind another match. -/
def replaced (substitution : Substitution) (regex : Regex) (caseless : Bool) :
    Nat → Nat → Bool → Regex.Cursor → List Char × Bool
  | 0, _, _, cursor => (cursor.rest, false)
  | fuel + 1, count, behindMatch, cursor =>
      match regex.find caseless cursor with
      | none => (cursor.rest, false)
      | some found =>
          let stop : Regex.Cursor := { found.stop with groups := [] }
          if found.text.isEmpty && behindMatch && found.skipped.isEmpty then
            match cursor.rest with
            | [] => ([], false)
            | c :: rest =>
                let (text, changed) := replaced substitution regex caseless fuel count false
                  { before := some c, rest, position := cursor.position + 1 }
                (c :: text, changed)
          else
            let count := count + 1
            let isWanted := substitution.occurrence ≤ count
            let new := if isWanted then filled found {} substitution.pieces else found.text
            if isWanted && !substitution.every then (found.skipped ++ new ++ stop.rest, true)
            else if found.text.isEmpty then
              match stop.rest with
              | [] => (found.skipped ++ new, isWanted)
              | c :: rest =>
                  let (text, changed) := replaced substitution regex caseless fuel count false
                    { before := some c, rest, position := stop.position + 1 }
                  (found.skipped ++ new ++ c :: text, isWanted || changed)
            else
              let (text, changed) := replaced substitution regex caseless fuel count true stop
              (found.skipped ++ new ++ text, isWanted || changed)

def substitute (substitution : Substitution) : Act Unit := do
  let editor ← get
  match substitution.pattern.orElse fun _ => editor.last with
  | none => fail 1 "no previous regular expression".toList
  | some (regex, caseless) => do
      let (text, changed) := replaced substitution regex caseless (2 * editor.space.length + 2) 0
        false { rest := editor.space }
      set { editor with last := some (regex, caseless) }
      if changed then do
        modify fun editor => { editor with space := text, replaced := true }
        if substitution.prints then emitSpace else pure ()
        match substitution.file with
        | some name => appendTo name (text ++ ['\n'])
        | none => pure ()
      else pure ()

/-! ### Showing what cannot be seen -/

def octalDigits (n : Nat) : List Char :=
  [n / 64, n / 8 % 8, n % 8].map fun digit => Char.ofNat (48 + digit)

def shownChar (c : Char) : List Char :=
  match c with
  | '\\' => ['\\', '\\']
  | '\x07' => ['\\', 'a']
  | '\x08' => ['\\', 'b']
  | '\x0c' => ['\\', 'f']
  | '\n' => ['\\', 'n']
  | '\r' => ['\\', 'r']
  | '\t' => ['\\', 't']
  | '\x0b' => ['\\', 'v']
  | c => if 32 ≤ c.toNat && c.toNat < 127 then [c] else '\\' :: octalDigits c.toNat

/-- A text in lines of a width, each but the last ended by a backslash. -/
def shownIn (width : Nat) : Nat → List Char → List Char
  | _, [] => ['$', '\n']
  | column, c :: rest =>
      let text := shownChar c
      if 1 < width && width - 1 < column + text.length then
        '\\' :: '\n' :: text ++ shownIn width text.length rest
      else text ++ shownIn width (column + text.length) rest

/-! ### Carrying out -/

/-- What happens behind the last instruction for a line. -/
inductive Course where
  | printed
  | dropped
  | again
  | finished (status : Nat)

/-- The instructions behind a group. -/
def behindGroup : Nat → List Instruction → List Instruction
  | _, [] => []
  | depth, instruction :: rest =>
      match instruction.deed with
      | .opening => behindGroup (depth + 1) rest
      | .closing => if depth = 0 then rest else behindGroup (depth - 1) rest
      | _ => behindGroup depth rest

def behindLabel (name : List Char) : List Instruction → List Instruction
  | [] => []
  | instruction :: rest =>
      match instruction.deed with
      | .label there => if there = name then rest else behindLabel name rest
      | _ => behindLabel name rest

def setSpace (space : List Char) : Act Unit :=
  modify fun editor => { editor with space }

def addLater (entry : Later) : Act Unit :=
  modify fun editor => { editor with later := editor.later ++ [entry] }

/-- Carries out a command that is only a letter. The course is set if the line is done. -/
def plain (letter : Char) : Act (Option Course) := do
  let editor ← get
  let upToLine := editor.space.takeWhile (· ≠ '\n')
  match letter with
  | '=' => do
      emit (naturalText editor.number ++ ['\n'])
      pure none
  | 'd' => pure (some .dropped)
  | 'D' =>
      if upToLine.length < editor.space.length then do
        setSpace (editor.space.drop (upToLine.length + 1))
        pure (some .again)
      else pure (some .dropped)
  | 'F' => do
      emit (editor.name ++ ['\n'])
      pure none
  | 'g' => do
      setSpace editor.hold
      pure none
  | 'G' => do
      setSpace (editor.space ++ '\n' :: editor.hold)
      pure none
  | 'h' => do
      set { editor with hold := editor.space }
      pure none
  | 'H' => do
      set { editor with hold := editor.hold ++ '\n' :: editor.space }
      pure none
  | 'x' => do
      set { editor with space := editor.hold, hold := editor.space }
      pure none
  | 'z' => do
      setSpace []
      pure none
  | 'p' => do
      emitSpace
      pure none
  | 'P' => do
      emit (upToLine ++ ['\n'])
      pure none
  | 'n' => do
      if ← isLast then pure (some .printed)
      else do
        if editor.quiet then pure () else emitSpace
        emitLater
        match ← nextLine with
        | some line => do
            setSpace line
            pure none
        | none => pure (some (.finished 0))
  | _ => do
      if ← isLast then pure (some .printed)
      else do
        emitLater
        match ← nextLine with
        | some line => do
            modify fun after => { after with space := editor.space ++ '\n' :: line }
            pure none
        | none => pure (some (.finished 0))

/-- Carries out instructions on the line, up to the last one or one that ends it. -/
def carryOut (program : List Instruction) : Nat → List Instruction → Act Course
  | 0, _ => pure .printed
  | _, [] => pure .printed
  | fuel + 1, instruction :: rest => do
      let chosen ← isChosen instruction
      match instruction.deed with
      | .opening => carryOut program fuel (if chosen then rest else behindGroup 0 rest)
      | deed =>
          if !chosen then carryOut program fuel rest
          else
            match deed with
            | .plain letter => do
                match ← plain letter with
                | some course => pure course
                | none => carryOut program fuel rest
            | .text letter text =>
                match letter with
                | 'a' => do
                    addLater (.text text)
                    carryOut program fuel rest
                | 'i' => do
                    emit text
                    carryOut program fuel rest
                | _ => do
                    let more := ((← get).ranges.lookup instruction.number).isSome
                    if more && !instruction.choice.negated then pure () else emit text
                    pure .dropped
            | .quit prints status => do
                if prints then do
                  if (← get).quiet then pure () else emitSpace
                  emitLater
                else pure ()
                pure (.finished status)
            | .list width => do
                let editor ← get
                emit (shownIn (width.getD editor.width) 0 editor.space)
                carryOut program fuel rest
            | .jump letter name => do
                let wasReplaced := (← get).replaced
                if letter = 'b' then pure ()
                else modify fun editor => { editor with replaced := false }
                let jumps := letter = 'b' || (wasReplaced == (letter = 't'))
                carryOut program fuel
                  (if !jumps then rest else if name.isEmpty then [] else behindLabel name program)
            | .substitute substitution => do
                substitute substitution
                carryOut program fuel rest
            | .exchange pairs => do
                modify fun editor => { editor with
                  space := editor.space.map fun c => (pairs.lookup c).getD c }
                carryOut program fuel rest
            | .readFile name => do
                addLater (.file name)
                carryOut program fuel rest
            | .writeFile name => do
                appendTo name ((← get).space ++ ['\n'])
                carryOut program fuel rest
            | _ => carryOut program fuel rest

/-- How often commands are carried out on one line. -/
def patience : Nat := 1000000

/-- Edits lines as long as there are any, and gives the status if the script ends it. -/
def lines (program : List Instruction) : Nat → Bool → Act (Option Nat)
  | 0, _ => pure none
  | fuel + 1, reads => do
      let found ← (do
        if reads then nextLine else pure (some (← get).space))
      match found with
      | none => pure none
      | some line => do
          modify fun editor => { editor with
            space := line, replaced := if reads then false else editor.replaced }
          let course ← carryOut program patience program
          match course with
          | .finished status => pure (some status)
          | .printed => do
              if (← get).quiet then pure () else emitSpace
              emitLater
              lines program fuel true
          | .dropped => do
              emitLater
              lines program fuel true
          | .again => do
              emitLater
              lines program fuel false

/-- The files that a script writes to are empty at first. -/
def outputs (program : List Instruction) : List (List Char) :=
  program.filterMap fun instruction =>
    match instruction.deed with
    | .writeFile name => some name
    | .substitute substitution => substitution.file
    | _ => none

/-! ### What is edited -/

structure Settings where
  program : List Instruction
  quiet : Bool
  unheld : Bool
  width : Nat

def Settings.editor (settings : Settings) (found : List (List Char × List Char)) (live : Bool) :
    Editor :=
  { lines := found, live, ranges := earlyRanges settings.program, quiet := settings.quiet
    unheld := settings.unheld, width := settings.width }

def edit (settings : Settings) (editor : Editor) : Work (Option Nat × Editor) :=
  StateT.run (lines settings.program (patience + editor.lines.length) true) editor

/-- The lines of a file, or none with a complaint. -/
def linesOf (name : List Char) : Work (Option (List (List Char × List Char))) := do
  match ← readFile name with
  | .ok content => pure (some ((Utility.lines content).map (name, ·)))
  | .error .isDirectory => do
      fault 4 ("read error on ".toList ++ name ++ ": Is a directory".toList)
      pure none
  | .error problem => do
      fault 2 ("can't read ".toList ++ name ++ [':', ' '] ++ reason problem)
      pure none

/-- Edits files where they are. -/
def inPlace (settings : Settings) (ending : List Char) : List (List Char) → Work Nat
  | [] => pure 0
  | name :: rest => do
      let path ← pathOf name
      let state ← get
      match state.files.find path with
      | .error problem => do
          fault 4 ("can't read ".toList ++ name ++ [':', ' '] ++ reason problem)
          inPlace settings ending rest
      | .ok (_, .file pieces) => do
          let old := Text.Octets.ofBytes pieces.flatten
          let start := settings.editor ((Utility.lines old).map (name, ·)) false
          let (stopped, editor) ← edit settings { start with collected := some [] }
          let new := ((editor.collected.getD []).reverse.flatten) ++
            (match stopped with
              | some _ => (editor.lines.map Prod.snd).flatten
              | none => [])
          if ending.isEmpty then pure ()
          else do
            let _ ← onFiles (·.write
              (Files.join state.task.directory (Text.Octets.asString (name ++ ending)))
              (Text.Octets.toBytes old))
            pure ()
          let _ ← onFiles (·.write path (Text.Octets.toBytes new))
          match stopped with
          | some status => pure status
          | none => inPlace settings ending rest
      | .ok _ => do
          fault 4 ("couldn't edit ".toList ++ name ++ ": not a regular file".toList)
          inPlace settings ending rest

/-- Edits files one by one, or all as if they were one. -/
def throughFiles (settings : Settings) (apart : Bool) (names : List (List Char)) : Work Nat := do
  let live := !((← get).task.input.getD ([], true)).2 && names.contains ['-']
  if apart then do
    for name in names do
      match ← linesOf name with
      | some found => do
          let (stopped, _) ← edit settings (settings.editor found live)
          match stopped with
          | some status => throw status
          | none => pure ()
      | none => pure ()
    pure 0
  else do
    let found ← names.mapM linesOf
    let (stopped, _) ← edit settings
      (settings.editor ((found.filterMap id).flatten) live)
    match stopped with
    | some status => throw status
    | none => pure 0

end Edit

open Work

def sedUsage : List String :=
  [
    "Usage: sed [OPTION]... \x7bscript-only-if-no-other-script\x7d [input-file]...",
    "",
    "  -n, --quiet, --silent",
    "                 suppress automatic printing of pattern space",
    "      --debug",
    "                 annotate program execution",
    "  -e script, --expression=script",
    "                 add the script to the commands to be executed",
    "  -f script-file, --file=script-file",
    "                 add the contents of script-file to the commands to be executed",
    "  --follow-symlinks",
    "                 follow symlinks when processing in place",
    "  -i[SUFFIX], --in-place[=SUFFIX]",
    "                 edit files in place (makes backup if SUFFIX supplied)",
    "  -l N, --line-length=N",
    "                 specify the desired line-wrap length for the \x60l' command",
    "  --posix",
    "                 disable all GNU extensions.",
    "  -E, -r, --regexp-extended",
    "                 use extended regular expressions in the script",
    "                 (for portability use POSIX -E).",
    "  -s, --separate",
    "                 consider files as separate rather than as a single,",
    "                 continuous long stream.",
    "      --sandbox",
    "                 operate in sandbox mode (disable e/r/w commands).",
    "  -u, --unbuffered",
    "                 load minimal amounts of data from the input files and flush",
    "                 the output buffers more often",
    "  -z, --null-data",
    "                 separate lines by NUL characters",
    "      --help     display this help and exit",
    "      --version  output version information and exit",
    "",
    "If no -e, --expression, -f, or --file option is given, then the first",
    "non-option argument is taken as the sed script to interpret.  All",
    "remaining arguments are names of input files; if no input files are",
    "specified, then the standard input is read.",
    ""]

def sedGrammar : Work.Grammar where
  letters :=
    [('n', false), ('e', true), ('f', true), ('E', false), ('r', false), ('s', false),
      ('u', false), ('z', false), ('l', true), ('1', false)]
  optional := ['i']
  names :=
    [("quiet", 'n'), ("silent", 'n'), ("expression", 'e'), ("file", 'f'), ("in-place", 'i'),
      ("line-length", 'l'), ("posix", '1'), ("debug", '1'), ("sandbox", '1'),
      ("follow-symlinks", '1'), ("regexp-extended", 'E'), ("separate", 's'), ("unbuffered", 'u'),
      ("null-data", 'z')]
  usage := sedUsage

/-- The parts of a script among options. -/
def scriptParts : List Work.Given → Work (List Edit.Part)
  | [] => pure []
  | (letter, value) :: rest => do
      let part ← (do
        if letter = 'e' then pure [⟨none, value⟩]
        else if letter = 'f' then
          match ← readFile value with
          | .ok content =>
              pure [⟨some value,
                if content.getLast? = some '\n' then content.dropLast else content⟩]
          | .error problem =>
              fail 4 ("couldn't open file ".toList ++ value ++ [':', ' '] ++ reason problem)
        else pure [])
      pure (part ++ (← scriptParts rest))

def sed : Work Nat := do
  let (given, operands) ← options sedGrammar
  let parts ← scriptParts given
  let (parts, names) ← (do
    match parts, operands with
    | [], script :: names => pure ([(⟨none, script⟩ : Edit.Part)], names)
    | [], [] => do
        for line in sedUsage do
          complainPlain line.toList
        throw 1
    | parts, names => pure (parts, names))
  match Edit.read (has given 'E' || has given 'r') parts with
  | .error message => fail 1 message
  | .ok program => do
      let comment := ['#', 'n', '\n'].isPrefixOf ((parts.map Edit.Part.text).headD [] ++ ['\n'])
      let settings : Edit.Settings :=
        { program, quiet := has given 'n' || comment, unheld := has given 'u'
          width := ((value? given 'l').bind natural?).getD 70 }
      for name in Edit.outputs program do
        if "/dev/".toList.isPrefixOf name then pure ()
        else do
          let path ← pathOf name
          match ← onFiles (·.write path []) with
          | .ok () => pure ()
          | .error problem =>
              fail 4 ("couldn't open file ".toList ++ name ++ [':', ' '] ++ reason problem)
      match value? given 'i' with
      | some ending =>
          if names.isEmpty then fail 4 "no input files".toList
          else Edit.inPlace settings ending names
      | none => Edit.throughFiles settings (has given 's') (orInput names)

end Concord.Utility
