import Concord.Text.Regex
import Concord.Utility.Basic

/-!
Scripts that edit a text line by line: what they are made of, and how they are read.
-/

namespace Concord.Utility.Edit

open Text (Regex)

/-- An expression with whether the case of letters matters; an empty one means the last that was
used. -/
abbrev Pattern := Option (Regex × Bool)

inductive Address where
  | line (number : Nat)
  | every (first step : Nat)
  | last
  | found (pattern : Pattern)

/-- Where a range of lines ends. -/
inductive Reach where
  | line (number : Nat)
  | after (count : Nat)
  | multiple (number : Nat)
  | last
  | found (pattern : Pattern)

structure Choice where
  first : Option Address := none
  second : Option Reach := none
  negated : Bool := false

/-- A piece of what comes in place of a match. -/
inductive Piece where
  | char (c : Char)
  | group (number : Nat)
  | upper
  | lower
  | upperNext
  | lowerNext
  | asItIs

structure Substitution where
  pattern : Pattern
  pieces : List Piece
  occurrence : Nat := 1
  every : Bool := false
  prints : Bool := false
  file : Option (List Char) := none

inductive Deed where
  | opening
  | closing
  | label (name : List Char)
  | plain (letter : Char)
  | text (letter : Char) (text : List Char)
  | quit (prints : Bool) (status : Nat)
  | list (width : Option Nat)
  | jump (letter : Char) (label : List Char)
  | substitute (substitution : Substitution)
  | exchange (pairs : List (Char × Char))
  | readFile (name : List Char)
  | writeFile (name : List Char)

structure Instruction where
  number : Nat
  choice : Choice
  deed : Deed

/-! ### Reading -/

/-- What is wrong in a script, and whether there is a place to point to. -/
structure Mistake where
  message : String
  placed : Bool := true

abbrev Reading := ExceptT Mistake (StateM (List Char))

def mistake {α : Type} (message : String) : Reading α :=
  throw { message }

def next : Reading (Option Char) := do
  match ← get with
  | [] => pure none
  | c :: rest => do
      set rest
      pure (some c)

def isBlank (c : Char) : Bool :=
  c = ' ' || c = '\t'

def isSpace (c : Char) : Bool :=
  isBlank c || c = '\n' || c = '\r' || c = '\x0b' || c = '\x0c'

def skip (skipped : Char → Bool) : Reading Unit :=
  modify fun text => text.dropWhile skipped

/-- The next character that is not a blank. -/
def nextVisible : Reading (Option Char) := do
  skip isBlank
  next

def takeWhile (wanted : Char → Bool) : Reading (List Char) := do
  let text ← get
  let found := text.takeWhile wanted
  set (text.drop found.length)
  pure found

/-- A number whose first digit may have been read. -/
def number : Reading Nat := do
  let digits ← takeWhile Char.isDigit
  pure (Regex.numeral digits)

/-- Nothing more may belong to a command. -/
def endOfCommand : Reading Unit := do
  skip isBlank
  match ← get with
  | [] => pure ()
  | c :: rest =>
      if c = '}' || c = '#' then pure ()
      else do
        set rest
        if c = '\n' || c = ';' then pure () else mistake "extra characters after command"

/-- How long a set is, its brackets not counted in front. -/
def setLength? : Nat → List Char → Option Nat
  | 0, _ => none
  | _, [] => none
  | fuel + 1, c :: rest =>
      if c = ']' then some 1
      else
        match c, rest with
        | '[', ':' :: behind =>
            match Regex.kindName? behind with
            | some (name, left) => (setLength? fuel left).map (· + name.length + 4)
            | none => (setLength? fuel rest).map (· + 1)
        | _, rest => (setLength? fuel rest).map (· + 1)

/-- The length of a set whose bracket was read; a bracket in front belongs to it. -/
def wholeSetLength? (text : List Char) : Option Nat :=
  let (sign, text) := match text with
    | '^' :: rest => (1, rest)
    | rest => (0, rest)
  match text with
  | ']' :: rest => (setLength? (rest.length + 1) rest).map (· + 1 + sign)
  | rest => (setLength? (rest.length + 1) rest).map (· + sign)

/-- A text up to a mark, which stands for itself behind a backslash or in a set, and what is behind
the mark. -/
def upToMark (mark : Char) (regex : Bool) : Nat → List Char → Option (List Char × List Char)
  | 0, _ => none
  | _, [] => none
  | fuel + 1, c :: rest =>
      let keep (front : List Char) (rest : List Char) : Option (List Char × List Char) :=
        (upToMark mark regex fuel rest).map fun (text, behind) => (front ++ text, behind)
      if c = mark then some ([], rest)
      else if c = '\\' then
        match rest with
        | [] => none
        | d :: rest =>
            if d = 'n' && regex then keep ['\n'] rest
            else if d = '\n' then keep (if regex then ['\n'] else ['\\', '\n']) rest
            else if d = mark && (regex || d ≠ '&') then keep [d] rest
            else keep ['\\', d] rest
      else if c = '\n' && regex then none
      else if c = '[' && regex then
        match wholeSetLength? rest with
        | some length => keep (c :: rest.take length) (rest.drop length)
        | none => none
      else keep [c] rest

def delimited (mark : Char) (regex : Bool) (message : String) : Reading (List Char) := do
  let text ← get
  match upToMark mark regex (text.length + 1) text with
  | some (found, behind) => do
      set behind
      pure found
  | none => do
      set (text.dropWhile (· ≠ '\n'))
      mistake message

def hexadecimal (c : Char) : Nat :=
  if c.isDigit then c.toNat - 48
  else if 'a' ≤ c && c ≤ 'f' then c.toNat - 87
  else if 'A' ≤ c && c ≤ 'F' then c.toNat - 55
  else 16

/-- The character that some letters stand for behind a backslash, and what is behind them. -/
def escaped? (text : List Char) : Option (Char × List Char) :=
  match text with
  | 'a' :: rest => some ('\x07', rest)
  | 'f' :: rest => some ('\x0c', rest)
  | 'n' :: rest => some ('\n', rest)
  | 'r' :: rest => some ('\r', rest)
  | 't' :: rest => some ('\t', rest)
  | 'v' :: rest => some ('\x0b', rest)
  | 'x' :: a :: b :: rest =>
      if hexadecimal a < 16 && hexadecimal b < 16 then
        some (Char.ofNat (16 * hexadecimal a + hexadecimal b), rest)
      else none
  | _ => none

/-- An expression in which letters behind backslashes are the characters that they stand for. -/
def resolveRegex : Nat → List Char → List Char
  | 0, text => text
  | _, [] => []
  | fuel + 1, '\\' :: rest =>
      match escaped? rest with
      | some (c, behind) => c :: resolveRegex fuel behind
      | none => '\\' :: rest.take 1 ++ resolveRegex fuel (rest.drop 1)
  | fuel + 1, c :: rest => c :: resolveRegex fuel rest

/-- The pattern that a text is, and how many groups it has. -/
def readPattern (extended caseless : Bool) (text : List Char) : Reading (Pattern × Option Nat) := do
  if text.isEmpty then pure (none, none)
  else
    match Regex.read extended (resolveRegex (text.length + 1) text) with
    | .ok (regex, groups) => pure (some (regex, caseless), some groups)
    | .error problem => mistake problem.message

/-! ### Addresses -/

def addressPattern (extended : Bool) (mark : Char) : Reading Pattern := do
  let text ← delimited mark true "unterminated address regex"
  let flags ← takeWhile fun c => c = 'I' || c = 'M'
  let (pattern, _) ← readPattern extended (flags.contains 'I') text
  pure pattern

def address (extended : Bool) : Reading (Option Address) := do
  match ← get with
  | [] => pure none
  | c :: rest =>
      if c.isDigit then do
        let first ← number
        skip isBlank
        match ← get with
        | '~' :: rest => do
            set rest
            pure (some (.every first (← number)))
        | _ => pure (some (.line first))
      else if c = '$' then do
        set rest
        pure (some .last)
      else if c = '/' then do
        set rest
        pure (some (.found (← addressPattern extended '/')))
      else
        match c, rest with
        | '\\', mark :: rest => do
            set rest
            pure (some (.found (← addressPattern extended mark)))
        | _, _ => pure none

def reach (extended : Bool) : Reading Reach := do
  skip isBlank
  match ← get with
  | '+' :: rest => do
      set rest
      pure (.after (← number))
  | '~' :: rest => do
      set rest
      pure (.multiple (← number))
  | _ =>
      match ← address extended with
      | some (.line number) => pure (.line number)
      | some (.every first _) => pure (.line first)
      | some .last => pure .last
      | some (.found pattern) => pure (.found pattern)
      | none => do
          let _ ← next
          mistake "unexpected \x60,'"

/-- The lines that a command is for, and the letter of the command. -/
def choice (extended : Bool) : Reading (Choice × Option Char) := do
  let first ← address extended
  skip isBlank
  let second ← (do
    match first, ← get with
    | some _, ',' :: rest => do
        set rest
        pure (some (← reach extended))
    | _, _ => pure none)
  let letter ← nextVisible
  match first, second with
  | some (.line 0), some (.found _) => pure ()
  | some (.line 0), _ => mistake "invalid usage of line address 0"
  | _, _ => pure ()
  if letter = some '!' then do
    let letter ← nextVisible
    if letter = some '!' then mistake "multiple \x60!'s"
    else pure ({ first, second, negated := true }, letter)
  else pure ({ first, second }, letter)

/-! ### Commands -/

/-- A text to be put in, up to the end of its last line. -/
def textUpToEnd : Nat → List Char → List Char × List Char
  | 0, rest => ([], rest)
  | _, [] => ([], [])
  | _, ['\\'] => ([], [])
  | _, '\n' :: rest => ([], rest)
  | fuel + 1, '\\' :: c :: rest =>
      let (d, behind) := (escaped? (c :: rest)).getD (c, rest)
      let (text, behind) := textUpToEnd fuel behind
      (d :: text, behind)
  | fuel + 1, c :: rest =>
      let (text, behind) := textUpToEnd fuel rest
      (c :: text, behind)

def insertedText : Reading (List Char) := do
  skip isBlank
  match ← get with
  | [] => mistake "expected \\ after \x60a', \x60c' or \x60i'"
  | '\\' :: rest => do
      let behind := rest.dropWhile isBlank
      match behind with
      | '\n' :: text => finish text
      | _ => finish rest
  | text => finish text
where
  finish (text : List Char) : Reading (List Char) := do
    let (found, behind) := textUpToEnd (text.length + 1) text
    set behind
    pure (if text.isEmpty then [] else found ++ ['\n'])

/-- The pieces of what comes in place of a match. -/
def pieces : Nat → List Char → List Piece
  | 0, _ => []
  | _, [] => []
  | fuel + 1, '&' :: rest => .group 0 :: pieces fuel rest
  | fuel + 1, '\\' :: c :: rest =>
      match c with
      | 'U' => .upper :: pieces fuel rest
      | 'L' => .lower :: pieces fuel rest
      | 'u' => .upperNext :: pieces fuel rest
      | 'l' => .lowerNext :: pieces fuel rest
      | 'E' => .asItIs :: pieces fuel rest
      | c =>
          if c.isDigit then .group (c.toNat - 48) :: pieces fuel rest
          else
            match escaped? (c :: rest) with
            | some (d, behind) => .char d :: pieces fuel behind
            | none => .char c :: pieces fuel rest
  | fuel + 1, c :: rest => .char c :: pieces fuel rest

def highestGroup (pieces : List Piece) : Nat :=
  pieces.foldl (fun highest piece => match piece with
    | .group number => max highest number
    | _ => highest) 0

def fileName : Reading (List Char) := do
  skip isBlank
  let name ← takeWhile (· ≠ '\n')
  if name.isEmpty then mistake "missing filename in r/R/w/W commands" else pure name

structure Flags where
  occurrence : Option Nat := none
  every : Bool := false
  prints : Bool := false
  caseless : Bool := false
  file : Option (List Char) := none

def flags : Nat → Flags → Reading Flags
  | 0, found => pure found
  | fuel + 1, found => do
      match ← get with
      | [] => pure found
      | c :: rest =>
          if c = '}' || c = '#' then pure found
          else if c.isDigit then do
            let count ← number
            if found.occurrence.isSome then
              mistake "multiple number options to \x60s' command"
            else if count = 0 then
              mistake "number option to \x60s' command may not be zero"
            else flags fuel { found with occurrence := some count }
          else do
            set rest
            match c with
            | '\n' => pure found
            | ';' => pure found
            | 'g' =>
                if found.every then mistake "multiple \x60g' options to \x60s' command"
                else flags fuel { found with every := true }
            | 'p' =>
                if found.prints then mistake "multiple \x60p' options to \x60s' command"
                else flags fuel { found with prints := true }
            | 'i' => flags fuel { found with caseless := true }
            | 'I' => flags fuel { found with caseless := true }
            | 'm' => flags fuel found
            | 'M' => flags fuel found
            | 'w' => do pure { found with file := some (← fileName) }
            | c =>
                if isBlank c then flags fuel found
                else mistake "unknown option to \x60s'"

def substitution (extended : Bool) : Reading Deed := do
  let unterminated := "unterminated \x60s' command"
  match ← next with
  | none => mistake unterminated
  | some mark => do
      let text ← delimited mark true unterminated
      let new ← delimited mark false unterminated
      let found ← flags ((← get).length + 1) {}
      let (pattern, groups) ← readPattern extended found.caseless text
      let pieces := pieces (new.length + 1) new
      let highest := highestGroup pieces
      if groups.any (· < highest) then
        mistake ("invalid reference \\" ++ toString highest ++ " on \x60s' command's RHS")
      else
        pure (.substitute
          { pattern, pieces, occurrence := found.occurrence.getD 1, every := found.every
            prints := found.prints, file := found.file })

def plainText : Nat → List Char → List Char
  | 0, text => text
  | fuel + 1, '\\' :: '\\' :: rest => '\\' :: plainText fuel rest
  | fuel + 1, '\\' :: rest =>
      match escaped? rest with
      | some (c, behind) => c :: plainText fuel behind
      | none => '\\' :: plainText fuel rest
  | fuel + 1, c :: rest => c :: plainText fuel rest
  | _, [] => []

def exchange : Reading Deed := do
  let unterminated := "unterminated \x60y' command"
  match ← next with
  | none => mistake unterminated
  | some mark => do
      let old ← delimited mark false unterminated
      let new ← delimited mark false unterminated
      let old := plainText (old.length + 1) old
      let new := plainText (new.length + 1) new
      if old.length ≠ new.length then do
        mistake "strings for \x60y' command are different lengths"
      else do
        endOfCommand
        pure (.exchange (old.zip new))

def labelName (closes : Bool) : Reading (List Char) := do
  skip isBlank
  let name ← takeWhile fun c => !isSpace c && c ≠ ';' && !(closes && c = '}')
  pure name

def exitStatus (choice : Choice) : Reading Nat := do
  if choice.second.isSome then mistake "command only uses one address"
  else do
    skip isBlank
    let status ← number
    endOfCommand
    pure status

def plainLetters : List Char :=
  ['=', 'd', 'D', 'F', 'g', 'G', 'h', 'H', 'n', 'N', 'p', 'P', 'x', 'z']

/-- What a command with a letter does. -/
def deed (extended : Bool) (choice : Choice) (letter : Char) : Reading Deed := do
  match letter with
  | '{' => pure .opening
  | 's' => substitution extended
  | 'y' => exchange
  | 'a' => .text 'a' <$> insertedText
  | 'i' => .text 'i' <$> insertedText
  | 'c' => .text 'c' <$> insertedText
  | 'q' => .quit true <$> exitStatus choice
  | 'Q' => .quit false <$> exitStatus choice
  | 'l' => do
      skip isBlank
      let digits ← takeWhile Char.isDigit
      endOfCommand
      pure (.list (if digits.isEmpty then none else some (Regex.numeral digits)))
  | 'r' => .readFile <$> fileName
  | 'w' => .writeFile <$> fileName
  | ':' => do
      if choice.first.isSome then mistake ": doesn't want any addresses"
      else do
        let name ← labelName false
        if name.isEmpty then mistake "\":\" lacks a label" else pure (.label name)
  | 'v' => do
      let _ ← labelName true
      endOfCommand
      pure (.label [])
  | letter =>
      if letter = 'b' || letter = 't' || letter = 'T' then do
        let name ← labelName true
        endOfCommand
        pure (.jump letter name)
      else if plainLetters.contains letter then do
        endOfCommand
        pure (.plain letter)
      else mistake ("unknown command: \x60" ++ String.ofList [letter] ++ "'")

/-- Reads commands; `depth` groups are not closed. -/
def instructions (extended : Bool) : Nat → Nat → Nat → Reading (List Instruction)
  | 0, _, _ => pure []
  | fuel + 1, count, depth => do
      skip fun c => isSpace c || c = ';'
      if (← get).isEmpty then
        if 0 < depth then throw { message := "unmatched \x60\x7b'", placed := false } else pure []
      else do
        let (choice, letter) ← choice extended
        let more (depth : Nat) (deed : Deed) : Reading (List Instruction) := do
          let rest ← instructions extended fuel (count + 1) depth
          pure (⟨count, choice, deed⟩ :: rest)
        match letter with
        | none => mistake "missing command"
        | some '#' => do
            if choice.first.isSome then mistake "comments don't accept any addresses"
            else do
              skip (· ≠ '\n')
              instructions extended fuel count depth
        | some '}' => do
            if depth = 0 then mistake "unexpected \x60\x7d'"
            else if choice.first.isSome then mistake "\x60\x7d' doesn't want any addresses"
            else do
              endOfCommand
              more (depth - 1) .closing
        | some '{' => more (depth + 1) .opening
        | some letter => do
            let deed ← deed extended choice letter
            more depth deed

/-! ### Whole scripts -/

/-- A part of a script as it is given: a text among the arguments, or the content of a file. -/
structure Part where
  file : Option (List Char)
  text : List Char

/-- Where a place in a script is: the part with its number, and the text of it before the place. -/
def located : Nat → Nat → List Part → Option (Part × Nat × List Char)
  | _, _, [] => none
  | number, place, part :: rest =>
      let count := if part.file.isNone then number + 1 else number
      if place ≤ part.text.length || rest.isEmpty then some (part, count, part.text.take place)
      else located count (place - part.text.length - 1) rest

def partFault (part : Part) (number : Nat) (front : List Char) (mistake : Mistake) : List Char :=
  (match part.file with
    | none =>
        "-e expression #".toList ++ naturalText number ++ ", char ".toList ++
          naturalText (if mistake.placed then front.length else 0)
    | some name =>
        "file ".toList ++ name ++ " line ".toList ++
          naturalText (if mistake.placed then front.count '\n' + 1 else 0)) ++
    [':', ' '] ++ mistake.message.toList

/-- A jump to a label that is not there. -/
def lostJump? (program : List Instruction) : Option (List Char) :=
  program.findSome? fun instruction =>
    match instruction.deed with
    | .jump _ name =>
        let known := name.isEmpty || program.any fun other =>
          match other.deed with
          | .label there => there = name
          | _ => false
        if known then none else some name
    | _ => none

/-- The instructions of a script, or what is wrong with it. -/
def read (extended : Bool) (parts : List Part) : Except (List Char) (List Instruction) :=
  let text := ['\n'].intercalate (parts.map Part.text)
  let (result, rest) := ExceptT.run (instructions extended (text.length + 1) 0 0) text
  match result with
  | .ok program =>
      match lostJump? program with
      | some name => .error ("can't find label for jump to \x60".toList ++ name ++ ['\''])
      | none => .ok program
  | .error mistake =>
      match located 0 (text.length - rest.length) parts with
      | some (part, number, front) => .error (partFault part number front mistake)
      | none => .error mistake.message.toList

end Concord.Utility.Edit
