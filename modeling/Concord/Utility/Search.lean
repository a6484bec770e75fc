import Concord.Text.Regex
import Concord.Utility.Lines

/-!
The program that prints the lines in which something is found.
-/

namespace Concord.Utility

open Work
open Text (Regex)

/-- What is searched for, and what is told about the lines. -/
structure Search where
  regex : Option Regex
  caseless : Bool
  inverted : Bool
  counted : Bool
  onlyMatches : Bool
  numbered : Bool
  offsets : Bool
  named : Bool
  silent : Bool
  listed : Option Bool
  asText : Bool
  most : Option Nat
  before : Nat
  behind : Nat

namespace Search

/-- Is a line one of those that are wanted? -/
def selects (search : Search) (line : List Char) : Bool :=
  match search.regex with
  | some regex => regex.hasMatch search.caseless (bare line) != search.inverted
  | none => search.inverted

/-- The matches in a text one after the other, each with the place where it begins. -/
def matchesFrom (regex : Regex) (caseless : Bool) : Nat → Regex.Cursor → List (Nat × List Char)
  | 0, _ => []
  | fuel + 1, cursor =>
      match regex.find caseless cursor with
      | none => []
      | some found =>
          let start := cursor.position + found.skipped.length
          if found.text.isEmpty then
            match found.stop.rest with
            | [] => []
            | c :: rest =>
                matchesFrom regex caseless fuel
                  { before := some c, rest, position := found.stop.position + 1 }
          else (start, found.text) :: matchesFrom regex caseless fuel found.stop

def matchesIn (search : Search) (line : List Char) : List (Nat × List Char) :=
  match search.regex with
  | some regex =>
      let text := bare line
      matchesFrom regex search.caseless (text.length + 1) { rest := text }
  | none => []

/-- A line of a file with its number and the place where it begins. -/
structure Place where
  number : Nat
  offset : Nat
  line : List Char

def places : Nat → Nat → List (List Char) → List Place
  | _, _, [] => []
  | number, offset, line :: rest =>
      ⟨number, offset, line⟩ :: places (number + 1) (offset + line.length) rest

/-- What stands in front of a line. -/
def label (search : Search) (name : List Char) (mark : Char) (number offset : Nat) : List Char :=
  (if search.named then name ++ [mark] else []) ++
    (if search.numbered then naturalText number ++ [mark] else []) ++
    (if search.offsets then naturalText offset ++ [mark] else [])

def written (search : Search) (name : List Char) (mark : Char) (place : Place) : List Char :=
  search.label name mark place.number place.offset ++ bare place.line ++ ['\n']

def writtenMatches (search : Search) (name : List Char) (place : Place) : List Char :=
  if search.inverted then []
  else
    (search.matchesIn place.line).flatMap fun (start, text) =>
      search.label name ':' place.number (place.offset + start) ++ text ++ ['\n']

/-- The lines that are printed for the selected ones and around them. Lines that were passed are
kept while they may be printed before the next one. -/
def around (search : Search) (name : List Char) (selected : Place → Bool) :
    List Place → Nat → Option Nat → List Place → List Char
  | _, _, _, [] => []
  | passed, owed, last, place :: rest =>
      if selected place then
        let front := passed.reverse
        let first := (front.head?.getD place).number
        let gap := match last with
          | some last => if last + 1 < first then ['-', '-', '\n'] else []
          | none => []
        gap ++ front.flatMap (search.written name '-') ++ search.written name ':' place ++
          around search name selected [] search.behind (some place.number) rest
      else if 0 < owed then
        search.written name '-' place ++
          around search name selected [] (owed - 1) (some place.number) rest
      else
        around search name selected ((place :: passed).take search.before) 0 last rest

/-- What is printed for a file in which some lines are selected. -/
def report (search : Search) (name : List Char) (all selected : List Place) : List Char :=
  if search.onlyMatches then selected.flatMap (search.writtenMatches name)
  else if search.before = 0 && search.behind = 0 then selected.flatMap (search.written name ':')
  else
    let numbers := selected.map Place.number
    search.around name (fun place => numbers.contains place.number) [] 0 none all

/-- Prints what is asked for about a file, and tells whether a line was selected. -/
def file (search : Search) (name content : List Char) : Work Bool := do
  let all := places 1 0 (lines content)
  let wanted := all.filter fun place => search.selects place.line
  let selected := match search.most with
    | some most => wanted.take most
    | none => wanted
  let found := !selected.isEmpty
  if search.silent then pure found
  else
    match search.listed with
    | some present => do
        if found = present then printLine name else pure ()
        pure found
    | none =>
        if search.counted then do
          printLine ((if search.named then name ++ [':'] else []) ++
            naturalText selected.length)
          pure found
        else if found && content.contains '\x00' && !search.asText then do
          flush
          complain (name ++ ": binary file matches".toList)
          pure true
        else do
          print (search.report name all selected)
          pure found

end Search

/-! ### Where to search -/

/-- The files at a path and below. -/
def filesBelow (files : Files) (directory : String) : Nat → List Char → List (List Char)
  | 0, _ => []
  | fuel + 1, path =>
      let full := Files.join directory (Text.Octets.asString path)
      match files.list full with
      | .ok names =>
          names.flatMap fun name =>
            let name := Text.Octets.ofString name
            filesBelow files directory fuel
              (if path = ['.'] then name
                else if path.getLast? = some '/' then path ++ name
                else path ++ '/' :: name)
      | .error _ => [path]

/-! ### What to search for -/

/-- How the patterns are spelled. -/
inductive Spelling where
  | plain
  | basic
  | extended
  deriving DecidableEq

def readPattern (spelling : Spelling) (text : List Char) : Work Regex := do
  match spelling with
  | .plain => pure (Regex.ofText text)
  | spelling =>
      match Regex.read (spelling = .extended) text with
      | .ok (regex, _) => pure regex
      | .error problem => fail 2 problem.message.toList

/-- One expression for all the patterns. -/
def alternatives : List Regex → Option Regex
  | [] => none
  | [regex] => some regex
  | regex :: rest => (alternatives rest).map fun others => .either regex others

/-- An expression that has to fill a word or a line. -/
def bounded (word line : Bool) (regex : Regex) : Regex :=
  if line then .sequence (.edge .lineStart) (.sequence regex (.edge .lineEnd))
  else if word then .sequence (.edge .noWordBefore) (.sequence regex (.edge .noWordBehind))
  else regex

/-- An option that is a number means so many lines around. -/
def withContext (argument : List Char) : List Char :=
  match argument with
  | '-' :: digits => if (natural? digits).isSome then '-' :: 'C' :: digits else argument
  | argument => argument

def grepUsage : List String :=
  ["Usage: grep [OPTION]... PATTERNS [FILE]...", "Try 'grep --help' for more information."]

def grepGrammar : Work.Grammar where
  letters :=
    [('E', false), ('F', false), ('G', false), ('P', false), ('i', false), ('y', false),
      ('v', false), ('c', false), ('n', false), ('q', false), ('o', false), ('w', false),
      ('x', false), ('l', false), ('L', false), ('h', false), ('H', false), ('s', false),
      ('r', false), ('R', false), ('a', false), ('b', false), ('I', false), ('U', false),
      ('u', false), ('Z', false), ('T', false), ('m', true), ('e', true), ('f', true), ('A', true),
      ('B', true), ('C', true), ('d', true), ('D', true), ('1', true), ('2', false)]
  names :=
    [("extended-regexp", 'E'), ("fixed-strings", 'F'), ("basic-regexp", 'G'), ("perl-regexp", 'P'),
      ("ignore-case", 'i'), ("invert-match", 'v'), ("count", 'c'), ("line-number", 'n'),
      ("quiet", 'q'), ("silent", 'q'), ("only-matching", 'o'), ("word-regexp", 'w'),
      ("line-regexp", 'x'), ("files-with-matches", 'l'), ("files-without-match", 'L'),
      ("no-filename", 'h'), ("with-filename", 'H'), ("no-messages", 's'), ("recursive", 'r'),
      ("text", 'a'), ("byte-offset", 'b'), ("max-count", 'm'), ("regexp", 'e'), ("file", 'f'),
      ("after-context", 'A'), ("before-context", 'B'), ("context", 'C'), ("label", '1'),
      ("line-buffered", '2')]
  status := 2
  usage := grepUsage

def contextLength (text : List Char) : Work Nat := do
  match natural? text with
  | some count => pure count
  | none => fail 2 (text ++ ": invalid context length argument".toList)

/-- The patterns that are given by options, if any are. -/
def givenPatterns : List Work.Given → Work (Option (List (List Char)))
  | [] => pure none
  | (letter, value) :: rest => do
      let more ← givenPatterns rest
      if letter = 'e' then pure (some (splitOn '\n' value ++ more.getD []))
      else if letter = 'f' then
        match ← readFile value with
        | .ok content => pure (some ((lines content).map bare ++ more.getD []))
        | .error problem => fail 2 (value ++ [':', ' '] ++ reason problem)
      else pure more

/-- Searches files one after the other: was a line selected, and was there a fault? -/
def searchAll (search : Search) (label : List Char) (quiet flushes : Bool) :
    List (List Char) → Work (Bool × Bool)
  | [] => pure (false, false)
  | name :: rest => do
      let found ← readFile name
      let (selected, faulty) ← (do
        match found with
        | .ok content => do
            let selected ← search.file (if name = ['-'] then label else name) content
            if flushes then flush else pure ()
            pure (selected, false)
        | .error problem => do
            if quiet then pure () else complain (name ++ [':', ' '] ++ reason problem)
            pure (false, true))
      if selected && search.silent then pure (true, false)
      else do
        let (others, faults) ← searchAll search label quiet flushes rest
        pure (selected || others, faulty || faults)

def grepAs (standard : Spelling) : Work Nat := do
  modify fun state => { state with
    task := { state.task with arguments := state.task.arguments.map withContext } }
  let (given, operands) ← options grepGrammar
  let (patterns, names) ← (do
    match ← givenPatterns given, operands with
    | some patterns, names => pure (patterns, names)
    | none, text :: names => pure (splitOn '\n' text, names)
    | none, [] => do
        for line in grepUsage do
          complainPlain line.toList
        throw 2)
  let any (letters : List Char) : Bool := letters.any (has given)
  let spellings := given.filter fun option => ['E', 'F', 'G', 'P'].contains option.1
  let spelling := match spellings.getLast? with
    | some ('F', _) => Spelling.plain
    | some ('G', _) => .basic
    | some _ => .extended
    | none => standard
  let regexes ← patterns.mapM (readPattern spelling)
  let most ← (do
    match value? given 'm' with
    | none => pure none
    | some text =>
        match natural? text with
        | some count => pure (some count)
        | none => fail 2 "invalid max count".toList)
  let around (letter : Char) : Work Nat := do
    match value? given letter, value? given 'C' with
    | some text, _ => contextLength text
    | none, some text => contextLength text
    | none, none => pure 0
  let recursive := any ['r', 'R']
  let state ← get
  let named := if names.isEmpty && recursive then [['.']] else orInput names
  let targets := if recursive then
      named.flatMap fun name =>
        if name = ['-'] then [name]
        else filesBelow state.files state.task.directory (state.files.entries.length + 2) name
    else named
  let search : Search :=
    { regex := (alternatives regexes).map (bounded (has given 'w') (has given 'x'))
      caseless := any ['i', 'y'], inverted := has given 'v', counted := has given 'c'
      onlyMatches := has given 'o', numbered := has given 'n', offsets := has given 'b'
      named := !has given 'h' && (has given 'H' || recursive || 1 < targets.length)
      silent := has given 'q'
      listed := if has given 'L' then some false else if has given 'l' then some true else none
      asText := has given 'a', most, before := ← around 'B', behind := ← around 'A' }
  let label := (value? given '1').getD "(standard input)".toList
  let (selected, faulty) ← searchAll search label (has given 's') (has given '2') targets
  pure (if selected && search.silent then 0 else if faulty then 2 else if selected then 0 else 1)

end Concord.Utility
