import Concord.Shell.Condition
import Concord.Shell.Expansion
import Concord.Shell.Format
import Concord.Shell.Grammar

/-!
The commands that a shell carries out itself and that run no other commands. An error in one of the
special ones ends the shell.
-/

namespace Concord.Shell

namespace Builtin

open Session

abbrev Arguments := List (List Char)

def print (text : List Char) : Act Unit := do
  let _ ← write 1 text

def printLine (text : List Char) : Act Unit :=
  print (text ++ ['\n'])

/-- Prints a text, and tells so if that cannot be done. -/
def printing (name : String) (text : List Char) : Act Nat := do
  if ← write 1 text then pure 0
  else do
    warn (name ++ ": I/O error")
    pure 1

/-! ### Arguments -/

def illegalNumber {α : Type} (word : List Char) : Act α :=
  fail ("Illegal number: ".toList ++ word)

/-- A number without a sign. -/
def number (word : List Char) : Act Nat :=
  if word ≠ [] && word.all Char.isDigit then pure (Arithmetic.numeralValue 10 word)
  else illegalNumber word

/-- The letters of one argument, and the value of the last one if it takes a value. -/
def letters (known : List (Char × Bool)) : List Char → Arguments →
    Act (List (Char × List Char) × Arguments)
  | [], rest => pure ([], rest)
  | letter :: more, rest =>
      match known.lookup letter with
      | none => fail ("Illegal option -".toList ++ [letter])
      | some false => do
          let (found, rest) ← letters known more rest
          pure ((letter, []) :: found, rest)
      | some true =>
          if !more.isEmpty then pure ([(letter, more)], rest)
          else
            match rest with
            | value :: rest => pure ([(letter, value)], rest)
            | [] => fail ("No arg for -".toList ++ letter :: " option".toList)

/-- Takes options off the front of arguments. -/
def options (known : List (Char × Bool)) : Nat → Arguments →
    Act (List (Char × List Char) × Arguments)
  | 0, arguments => pure ([], arguments)
  | fuel + 1, arguments =>
      match arguments with
      | ['-', '-'] :: rest => pure ([], rest)
      | ('-' :: letter :: more) :: rest => do
          let (found, rest) ← letters known (letter :: more) rest
          let (others, rest) ← options known fuel rest
          pure (found ++ others, rest)
      | arguments => pure ([], arguments)

def flags (known : List Char) (arguments : Arguments) : Act (List Char × Arguments) := do
  let (found, rest) ← options (known.map (·, false)) (arguments.length + 1) arguments
  pure (found.map Prod.fst, rest)

/-- A text in single quotes; quotes in it stand between double quotes. -/
def quotedIn : Nat → List Char → List Char
  | 0, _ => []
  | fuel + 1, text =>
      let front := text.takeWhile (· ≠ '\'')
      let rest := text.drop front.length
      let marks := rest.takeWhile (· = '\'')
      '\'' :: front ++ ['\''] ++
        (if marks.isEmpty then []
          else
            let behind := rest.drop marks.length
            '"' :: marks ++ ['"'] ++ (if behind.isEmpty then [] else quotedIn fuel behind))

def quoted (text : List Char) : List Char :=
  quotedIn (text.length + 1) text

/-! ### Printing and testing -/

def printf (arguments : Arguments) : Act Nat := do
  let (_, arguments) ← flags [] arguments
  match arguments with
  | [] => failText "usage: printf format [arg ...]"
  | format :: words => do
      let printed := Format.printf format words
      for message in printed.messages do complain message
      let status ← printing "printf" printed.output
      match printed.fault with
      | some message => fail message
      | none => pure (if printed.messages.isEmpty then status else 1)

def conditionPlace (session : Session) : Condition.Place :=
  ⟨session.world.files, session.directory, session.world.executables⟩

def test (words : Arguments) : Act Nat := do
  match Condition.holds (conditionPlace (← get)) (words.length + 1) words with
  | .ok found => pure (if found then 0 else 1)
  | .error message => failText message

def bracket (words : Arguments) : Act Nat :=
  if words.getLast? = some [']'] then test words.dropLast else failText "missing ]"

/-! ### Directories -/

/-- The directory that a path leads to by its names alone. -/
def normalized (path : String) : String :=
  let place := (Files.names path).foldl
    (fun place name => if name = ".." then place.dropLast else place ++ [name]) ([] : List String)
  Files.pathOf place

def goTo (path : List Char) : Act Unit := do
  let session ← get
  let target := normalized (session.pathOf path)
  if session.world.files.hasDirectory target then do
    modify fun session => { session with
      directory := target
      programs := session.programs.map fun (name, _) => (name, true) }
    assign "OLDPWD".toList (Text.Octets.ofString session.directory) true
    assign "PWD".toList (Text.Octets.ofString target) true
  else fail ("can't cd to ".toList ++ path)

def cd (arguments : Arguments) : Act Nat := do
  let (_, arguments) ← flags ['L', 'P'] arguments
  let session ← get
  match arguments with
  | [] => do
      let home := session.valueOr "HOME" []
      if home.isEmpty then pure 0
      else do
        goTo home
        pure 0
  | ['-'] :: _ => do
      let old := session.valueOr "OLDPWD" []
      goTo old
      printLine (Text.Octets.ofString (← get).directory)
      pure 0
  | path :: _ => do
      if path.isEmpty then pure 0
      else do
        goTo path
        pure 0

def pwd (arguments : Arguments) : Act Nat := do
  let _ ← flags ['L', 'P'] arguments
  printLine (Text.Octets.ofString (← get).directory)
  pure 0

/-! ### Variables -/

def assignmentIn? (word : List Char) : Option (List Char × List Char) :=
  let name := word.takeWhile (· ≠ '=')
  if name.length < word.length then some (name, word.drop (name.length + 1)) else none

def checkedName (name : List Char) : Act Unit :=
  if isName name then pure () else fail (name ++ ": bad variable name".toList)

def listed (intro : String) (wanted : Variable → Bool) : Act Nat := do
  let found := (← get).bindings.filter fun entry => wanted entry.2
  for (name, entry) in found.mergeSort fun a b => Pattern.comesBefore a.1 b.1 do
    match entry.value with
    | some value => printLine (intro.toList ++ name ++ '=' :: quoted value)
    | none => printLine (intro.toList ++ name)
  pure 0

/-- Changes a variable, which comes into being without a value if it is not there. -/
def change (name : List Char) (f : Variable → Variable) : Act Unit := modify fun session =>
  let old := (session.bindings.lookup name).getD { value := none }
  { session with bindings := putAt name (f old) session.bindings }

/-- Gives a variable the value in a word, if there is one, and then a property. -/
def declare (f : Variable → Variable) (word : List Char) : Act Unit :=
  match assignmentIn? word with
  | some (name, value) => do
      checkedName name
      assign name value false
      change name f
  | none => do
      checkedName word
      change word f

def exporting (arguments : Arguments) : Act Nat := do
  let (found, words) ← flags ['p'] arguments
  if words.isEmpty || found.contains 'p' then listed "export " Variable.exported
  else do
    for word in words do declare (fun entry => { entry with exported := true }) word
    pure 0

def fixing (arguments : Arguments) : Act Nat := do
  let (found, words) ← flags ['p'] arguments
  if words.isEmpty || found.contains 'p' then listed "readonly " Variable.fixed
  else do
    for word in words do declare (fun entry => { entry with fixed := true }) word
    pure 0

def localizing (words : Arguments) : Act Nat := do
  if (← get).functionLine = 0 then failText "not in a function"
  else do
    for word in words do
      let name := word.takeWhile (· ≠ '=')
      checkedName name
      remember name
      match assignmentIn? word with
      | some (name, value) => assign name value false
      | none => pure ()
    pure 0

def unset (arguments : Arguments) : Act Nat := do
  let (found, words) ← flags ['v', 'f'] arguments
  for word in words do
    if found.getLast? = some 'f' then
      modify fun session => { session with functions := dropAt word session.functions }
    else do
      checkedName word
      match (← get).bindings.lookup word with
      | some entry =>
          if entry.fixed then fail (word ++ ": is read only".toList)
          else modify fun session => { session with bindings := dropAt word session.bindings }
      | none => pure ()
  pure 0

/-! ### Settings -/

def optionNames : List (String × Char) :=
  [("errexit", 'e'), ("noglob", 'f'), ("ignoreeof", 'I'), ("interactive", 'i'), ("monitor", 'm'),
    ("noexec", 'n'), ("stdin", 's'), ("xtrace", 'x'), ("verbose", 'v'), ("vi", 'V'),
    ("emacs", 'E'), ("noclobber", 'C'), ("allexport", 'a'), ("notify", 'b'), ("nounset", 'u'),
    ("privileged", 'p'), ("nolog", '\x01'), ("debug", '\x02')]

def setOption (letter : Char) (on : Bool) : Act Unit := modify fun session =>
  let others := session.options.filter (· ≠ letter)
  { session with options := if on then others ++ [letter] else others }

def listOptions (asCommands : Bool) : Act Unit := do
  let session ← get
  if asCommands then
    for (name, letter) in optionNames do
      printLine ("set ".toList ++
        (if session.options.contains letter then '-' else '+') :: "o ".toList ++ name.toList)
  else do
    printLine "Current option settings".toList
    for (name, letter) in optionNames do
      let padded := name.toList ++ List.replicate (16 - name.length) ' '
      printLine (padded ++ (if session.options.contains letter then "on" else "off").toList)

def namedOption (name : List Char) (on : Bool) : Act Unit :=
  match optionNames.lookup (String.ofList name) with
  | some letter => setOption letter on
  | none => fail ("Illegal option ".toList ++ (if on then '-' else '+') :: "o ".toList ++ name)

/-- Sets or clears the options of one argument; the last of them may take a name. -/
def setLetters (on : Bool) : List Char → Arguments → Act Arguments
  | [], rest => pure rest
  | 'o' :: more, rest => do
      match rest with
      | name :: rest => do
          namedOption name on
          setLetters on more rest
      | [] => do
          listOptions (!on)
          setLetters on more []
  | letter :: more, rest => do
      if optionNames.any fun entry => entry.2 = letter then do
        setOption letter on
        setLetters on more rest
      else fail ("Illegal option ".toList ++ [if on then '-' else '+', letter])

def setParameters (words : Arguments) : Act Unit :=
  modify fun session => { session with parameters := words, cursor := {} }

/-- Reads options, and takes the words behind them as parameters if there are any. -/
def setAll : Nat → Arguments → Act Unit
  | 0, _ => pure ()
  | fuel + 1, arguments =>
      match arguments with
      | [] => pure ()
      | ['-', '-'] :: rest => setParameters rest
      | ['-'] :: rest => do
          setOption 'x' false
          setOption 'v' false
          if rest.isEmpty then pure () else setParameters rest
      | ('-' :: more) :: rest => do
          let rest ← setLetters true more rest
          setAll fuel rest
      | ('+' :: more) :: rest => do
          let rest ← setLetters false more rest
          setAll fuel rest
      | words => setParameters words

def setting (arguments : Arguments) : Act Nat := do
  if arguments.isEmpty then listed "" fun entry => entry.value.isSome
  else do
    setAll (arguments.length + 1) arguments
    pure 0

def shift (arguments : Arguments) : Act Nat := do
  let count ← match arguments with
    | [] => pure 1
    | word :: _ => number word
  let session ← get
  if session.parameters.length < count then failText "can't shift that many"
  else do
    set { session with parameters := session.parameters.drop count, cursor := {} }
    pure 0

/-! ### Reading -/

/-- Characters of a line, and whether each may separate fields. -/
abbrev Input := List (Char × Bool)

/-- A line with its backslashes resolved, how many characters of the text it takes, and whether it
has an end. -/
def inputLine (raw : Bool) : Nat → List Char → Input × Nat × Bool
  | count, [] => ([], count, false)
  | count, '\n' :: _ => ([], count + 1, true)
  | count, '\\' :: c :: rest =>
      if raw then
        let (line, found) := inputLine raw (count + 1) (c :: rest)
        (('\\', true) :: line, found)
      else
        let (line, found) := inputLine raw (count + 2) rest
        (if c = '\n' then line else (c, false) :: line, found)
  | count, ['\\'] => (if raw then [('\\', true)] else [], count + 1, false)
  | count, c :: rest =>
      let (line, found) := inputLine raw (count + 1) rest
      ((c, true) :: line, found)

def separates (separators : List Char) (c : Char × Bool) : Bool :=
  c.2 && separators.contains c.1

def separatesBlank (separators : List Char) (c : Char × Bool) : Bool :=
  separates separators c && Glyph.isBlank c.1

/-- The last field takes all that is left, without blanks behind it. One separator by itself behind
a field is not taken. -/
def lastField (separators : List Char) (line : Input) : List Char :=
  let field := line.takeWhile (!separates separators ·)
  let behind := (line.drop field.length).dropWhile (separatesBlank separators)
  let behind :=
    match behind with
    | c :: rest =>
        if separates separators c then rest.dropWhile (separatesBlank separators) else c :: rest
    | [] => []
  if behind.isEmpty then field.map Prod.fst
  else ((line.reverse.dropWhile (separatesBlank separators)).reverse).map Prod.fst

/-- Divides a line among so many names. -/
def shares (separators : List Char) : Nat → Input → List (List Char)
  | 0, _ => []
  | 1, line => [lastField separators (line.dropWhile (separatesBlank separators))]
  | count + 1, line =>
      let line := line.dropWhile (separatesBlank separators)
      let field := line.takeWhile (!separates separators ·)
      let behind := (line.drop field.length).dropWhile (separatesBlank separators)
      let behind :=
        match behind with
        | c :: rest => if separates separators c then rest else c :: rest
        | [] => []
      field.map Prod.fst :: shares separators count behind

/-- The next line on the input, and whether it has an end. A line may still be coming if the input
has none. -/
def readLine (raw : Bool) : Act (Input × Bool) := do
  match ← remaining 0 with
  | none => pure ([], false)
  | some (text, complete) => do
      let (line, count, ended) := inputLine raw 0 text
      if !ended && !complete then throw .waiting
      else do
        advance 0 count
        pure (line, ended)

def reading (arguments : Arguments) : Act Nat := do
  let (found, names) ← options [('r', false), ('p', true)] (arguments.length + 1) arguments
  if names.isEmpty then failText "arg count"
  else do
    let (line, ended) ← readLine (found.any fun option => option.1 = 'r')
    let values := shares (Expansion.separators (← get)) names.length line
    for (name, value) in names.zip values do
      checkedName name
      assign name value false
    pure (if ended then 0 else 1)

/-! ### Options of scripts -/

def optionMessage (text : List Char) : Act Unit := do
  let _ ← write 2 (text ++ ['\n'])

/-- The letters that are left in front of the words from the cursor on, with the word that they are
in, or `none` behind the last option; and the number of the word behind. -/
def lettersLeft (words : Arguments) (cursor : OptionCursor) :
    Option (List Char × List Char) × Nat :=
  let word := words[cursor.index - 2]?.getD []
  let inside := if cursor.index ≤ 1 then [] else cursor.offset.elim [] word.drop
  if !inside.isEmpty then (some (inside, word), cursor.index)
  else
    match words[cursor.index - 1]? with
    | some ['-', '-'] => (none, cursor.index + 1)
    | some ('-' :: letter :: more) =>
        (some (letter :: more, '-' :: letter :: more), cursor.index + 1)
    | _ => (none, cursor.index)

/-- What is known of an option: that it takes a value or takes none, or nothing. -/
def takesValue? (letter : Char) : List Char → Option Bool
  | [] => none
  | c :: ':' :: rest => if c = letter then some true else takesValue? letter rest
  | c :: rest => if c = letter then some false else takesValue? letter rest

def getopts (arguments : Arguments) : Act Nat := do
  match arguments with
  | known :: name :: given => do
      let session ← get
      let words := if given.isEmpty then session.parameters else given
      let cursor := if words.length + 1 < session.cursor.index then {} else session.cursor
      let silent := known.head? = some ':'
      let value (text : Option (List Char)) : Act Unit :=
        match text with
        | some text => assign "OPTARG".toList text false
        | none => modify fun session =>
            { session with bindings := dropAt "OPTARG".toList session.bindings }
      let finish (found : Char) (index : Nat) (offset : Option Nat) (status : Nat) : Act Nat := do
        store "OPTIND".toList (digits index) false
        checkedName name
        assign name [found] false
        modify fun session => { session with cursor := { index, offset } }
        pure status
      match lettersLeft words cursor with
      | (none, index) => finish '?' index none 1
      | (some (left, word), index) => do
          let letter := left.headD '?'
          let behind := left.drop 1
          let offset := some (word.length - behind.length)
          match takesValue? letter known with
          | none => do
              if silent then value (some [letter])
              else do
                optionMessage ("Illegal option -".toList ++ [letter])
                value none
              finish '?' index offset 0
          | some false => do
              value (some [])
              finish letter index offset 0
          | some true => do
              match if behind.isEmpty then words[index - 1]? else some behind with
              | some text => do
                  value (some text)
                  finish letter (if behind.isEmpty then index + 1 else index) none 0
              | none => do
                  if silent then value (some [letter])
                  else do
                    optionMessage ("No arg for -".toList ++ letter :: " option".toList)
                    value none
                  finish (if silent then ':' else '?') index none 0
  | _ => failText "Usage: getopts optstring var [arg...]"

/-! ### Aliases -/

def aliasing (words : Arguments) : Act Nat := do
  if words.isEmpty then do
    for (name, text) in (← get).aliases do printLine (name ++ '=' :: quoted text)
    pure 0
  else do
    let mut status := 0
    for word in words do
      match assignmentIn? word with
      | some (name, text) =>
          modify fun session => { session with aliases := putAt name text session.aliases }
      | none =>
          match (← get).aliases.lookup word with
          | some text => printLine (word ++ '=' :: quoted text)
          | none => do
              optionMessage ("alias: ".toList ++ word ++ " not found".toList)
              status := 1
    pure status

def unaliasing (arguments : Arguments) : Act Nat := do
  let (found, words) ← flags ['a'] arguments
  if found.contains 'a' then do
    modify fun session => { session with aliases := [] }
    pure 0
  else do
    let mut status := 0
    for word in words do
      if ((← get).aliases.lookup word).isSome then
        modify fun session => { session with aliases := dropAt word session.aliases }
      else do
        optionMessage ("unalias: ".toList ++ word ++ " not found".toList)
        status := 1
    pure status

/-! ### Signals -/

def signals : List (String × Nat) :=
  [("EXIT", 0), ("HUP", 1), ("INT", 2), ("QUIT", 3), ("ILL", 4), ("TRAP", 5), ("ABRT", 6),
    ("BUS", 7), ("FPE", 8), ("KILL", 9), ("USR1", 10), ("SEGV", 11), ("USR2", 12), ("PIPE", 13),
    ("ALRM", 14), ("TERM", 15), ("STKFLT", 16), ("CHLD", 17), ("CONT", 18), ("STOP", 19),
    ("TSTP", 20), ("TTIN", 21), ("TTOU", 22), ("URG", 23), ("XCPU", 24), ("XFSZ", 25),
    ("VTALRM", 26), ("PROF", 27), ("WINCH", 28), ("IO", 29), ("PWR", 30), ("SYS", 31)]

/-- The signal that a word names or numbers. -/
def signal? (word : List Char) : Option (String × Nat) :=
  if word ≠ [] && word.all Char.isDigit then
    let wanted := Arithmetic.numeralValue 10 word
    signals.find? fun entry => entry.2 = wanted
  else
    let upper := String.ofList (word.map Char.toUpper)
    signals.find? fun entry => entry.1 = upper

def setTrap (action : Option (List Char)) : Arguments → Act Nat
  | [] => pure 0
  | word :: rest =>
      match signal? word with
      | some (name, _) => do
          modify fun session => { session with
            traps := match action with
              | some text => putAt name text session.traps
              | none => dropAt name session.traps }
          setTrap action rest
      | none => do
          optionMessage ("trap: ".toList ++ word ++ ": bad trap".toList)
          pure 1

def trapping (arguments : Arguments) : Act Nat := do
  let (_, arguments) ← flags [] arguments
  match arguments with
  | [] => do
      let session ← get
      for (name, _) in signals do
        match session.traps.lookup name with
        | some action =>
            printLine ("trap -- ".toList ++ quoted action ++ ' ' :: name.toList)
        | none => pure ()
      pure 0
  | [word] => setTrap none [word]
  | action :: rest =>
      if action = ['-'] then setTrap none rest
      else if action ≠ [] && action.all Char.isDigit then setTrap none (action :: rest)
      else setTrap (some action) rest

/-! ### Going on elsewhere -/

def exiting (words : Arguments) : Act Nat := do
  match words with
  | [] => throw (.exit (← get).status)
  | word :: _ => do
      let status ← number word
      throw (.exit (status % 256))

def returning (words : Arguments) : Act Nat := do
  match words with
  | [] => throw (.back (← get).status)
  | word :: _ => do
      let status ← number word
      throw (.back status)

/-- How many loops are meant, no more than there are. -/
def levels (words : Arguments) : Act Nat := do
  match words with
  | [] => pure (min 1 (← get).loops)
  | word :: _ => do
      let count ← number word
      if count = 0 then illegalNumber word else pure (min count (← get).loops)

def leaving (words : Arguments) : Act Nat := do
  let count ← levels words
  if count = 0 then pure 0 else throw (.leave count)

def repeating (words : Arguments) : Act Nat := do
  let count ← levels words
  if count = 0 then pure 0 else throw (.again count)

/-! ### Masks and times -/

def permissions (bits : Nat) : List Char :=
  (if bits / 4 % 2 = 0 then ['r'] else []) ++ (if bits / 2 % 2 = 0 then ['w'] else []) ++
    (if bits % 2 = 0 then ['x'] else [])

/-- How often the bits of a class of users are shifted. -/
def shifts (letter : Char) : List Nat :=
  match letter with
  | 'u' => [6]
  | 'g' => [3]
  | 'o' => [0]
  | _ => [6, 3, 0]

/-- What is permitted by a letter: a bit for each class, those of another class, or nothing. -/
def permitted? (permissions : Nat) (letter : Char) : Option Nat :=
  match letter with
  | 'r' => some 4
  | 'w' => some 2
  | 'x' => some 1
  | 'X' => some 1
  | 's' => some 0
  | 'u' => some (permissions / 64 % 8)
  | 'g' => some (permissions / 8 % 8)
  | 'o' => some (permissions % 8)
  | _ => none

/-- Permissions after one change that is made to those of some classes. -/
def permit (classes : List Nat) (sign : Char) (bits : Nat) (permissions : Nat) : Nat :=
  classes.foldl (fun permissions shift =>
    let old := permissions >>> shift % 8
    let new :=
      match sign with
      | '+' => old ||| bits
      | '-' => old &&& (7 - bits)
      | _ => bits
    permissions - old <<< shift + new <<< shift) permissions

/-- Permissions after changes such as one of the group's, or `none` if they cannot be understood. -/
def permitAll (classes : List Nat) : Nat → List Char → Nat → Option Nat
  | 0, _, _ => none
  | fuel + 1, text, permissions =>
      match text with
      | [] => some permissions
      | ',' :: rest =>
          let named := rest.takeWhile fun c => ['u', 'g', 'o', 'a'].contains c
          let behind := rest.drop named.length
          let classes := if named.isEmpty then [6, 3, 0] else (named.flatMap shifts).eraseDups
          if behind.head?.any fun c => ['+', '-', '='].contains c then
            permitAll classes fuel behind permissions
          else none
      | sign :: rest =>
          if !(['+', '-', '='].contains sign) then none
          else
            let letters := rest.takeWhile fun c => !(['+', '-', '=', ','].contains c)
            match letters.mapM (permitted? permissions) with
            | some bits =>
                permitAll classes fuel (rest.drop letters.length)
                  (permit classes sign (bits.foldl (· ||| ·) 0) permissions)
            | none => none

/-- A mask after changes of what it lets through. -/
def maskBy (text : List Char) (mask : Nat) : Option Nat :=
  (permitAll [6, 3, 0] (text.length + 2) (',' :: text) (511 - mask)).map (511 - ·)

def umask (arguments : Arguments) : Act Nat := do
  let (found, words) ← flags ['S'] arguments
  let mask := (← get).mask
  match words with
  | [] => do
      if found.contains 'S' then
        printLine ("u=".toList ++ permissions (mask / 64) ++ ",g=".toList ++
          permissions (mask / 8) ++ ",o=".toList ++ permissions mask)
      else do
        let octal := Nat.toDigits 8 mask
        printLine (List.replicate (4 - octal.length) '0' ++ octal)
      pure 0
  | word :: _ => do
      if word.all Format.isOctal then
        modify fun session => { session with mask := Arithmetic.numeralValue 8 word % 512 }
      else if word.head?.any Char.isDigit then illegalNumber word
      else
        match maskBy word mask with
        | some mask => modify fun session => { session with mask }
        | none => fail ("Illegal mode: ".toList ++ word)
      pure 0

/-- Nothing is limited. -/
def ulimit (arguments : Arguments) : Act Nat := do
  let setsLimit := arguments.any fun word => word.head? ≠ some '-'
  if setsLimit then pure 0
  else do
    printLine "unlimited".toList
    pure 0

def times (_ : Arguments) : Act Nat := do
  printLine "0m0.000000s 0m0.000000s".toList
  printLine "0m0.000000s 0m0.000000s".toList
  pure 0

/-- The built-in commands that run no other commands. -/
def find? (name : String) : Option (Arguments → Act Nat) :=
  match name with
  | ":" => some fun _ => pure 0
  | "true" => some fun _ => pure 0
  | "false" => some fun _ => pure 1
  | "echo" => some fun words => printing "echo" (Format.echo words)
  | "printf" => some printf
  | "test" => some test
  | "[" => some bracket
  | "cd" => some cd
  | "chdir" => some cd
  | "pwd" => some pwd
  | "export" => some exporting
  | "readonly" => some fixing
  | "local" => some localizing
  | "unset" => some unset
  | "set" => some setting
  | "shift" => some shift
  | "read" => some reading
  | "getopts" => some getopts
  | "alias" => some aliasing
  | "unalias" => some unaliasing
  | "trap" => some trapping
  | "exit" => some exiting
  | "return" => some returning
  | "break" => some leaving
  | "continue" => some repeating
  | "umask" => some umask
  | "ulimit" => some ulimit
  | "times" => some times
  | "jobs" => some fun _ => pure 0
  | _ => none

/-- The built-in commands that run other commands, or look for them. -/
def running : List String :=
  [".", "eval", "exec", "command", "wait", "type", "hash", "kill", "fg", "bg"]

def isBuiltin (name : String) : Bool :=
  (find? name).isSome || name ∈ running

end Builtin

end Concord.Shell
