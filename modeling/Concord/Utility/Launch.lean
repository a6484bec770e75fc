import Concord.Utility.Lines

/-!
Programs that start other programs: with other variables, for a limited time, or again and again
with the words that they read. What is here tells which programs they start; starting them is not
done here. -/

namespace Concord.Utility

open Work

/-! ### Durations -/

def secondsIn? (unit : List Char) : Option Nat :=
  match unit with
  | [] => some 1
  | ['s'] => some 1
  | ['m'] => some 60
  | ['h'] => some 3600
  | ['d'] => some 86400
  | _ => none

/-- Seconds with a fraction and a unit, in thousandths of a second. -/
def interval? (word : List Char) : Option Nat :=
  let whole := word.takeWhile Char.isDigit
  let behind := word.drop whole.length
  let places := match behind with
    | '.' :: rest => rest.takeWhile Char.isDigit
    | _ => []
  let unit := match behind with
    | '.' :: rest => rest.drop places.length
    | rest => rest
  if whole.isEmpty && places.isEmpty then none
  else
    (secondsIn? unit).map fun factor =>
      factor * (1000 * (natural? whole).getD 0 +
        1000 * (natural? places).getD 0 / Nat.pow 10 places.length)

/-! ### Starting one program -/

/-- A program that another one starts, and for how long it may run. -/
structure Launch where
  command : List Char
  arguments : List (List Char)
  limit : Option Nat := none

def Launch.ofWords? (limit : Option Nat) : List (List Char) → Option Launch
  | [] => none
  | command :: arguments => some { command, arguments, limit }

/-- The words behind options, if all of them are known. An option takes a value if its letter is
among those that do. -/
def behindOptions (plain valued : List Char) (names valuedNames : List String) :
    Nat → List (List Char) → Option (List (List Char))
  | 0, words => some words
  | _, [] => some []
  | fuel + 1, word :: rest =>
      match word with
      | ['-', '-'] => some rest
      | '-' :: '-' :: name =>
          let bare := String.ofList (name.takeWhile (· ≠ '='))
          if bare ∈ names then behindOptions plain valued names valuedNames fuel rest
          else if bare ∈ valuedNames then
            behindOptions plain valued names valuedNames fuel
              (if name.contains '=' then rest else rest.drop 1)
          else none
      | '-' :: letter :: more =>
          if valued.contains letter then
            if more.isEmpty && rest.isEmpty then none
            else behindOptions plain valued names valuedNames fuel
              (if more.isEmpty then rest.drop 1 else rest)
          else if (letter :: more).all plain.contains then
            behindOptions plain valued names valuedNames fuel rest
          else none
      | _ => some (word :: rest)

/-- The program that is started by one that only prepares it. -/
def launched? (name : String) (arguments : List (List Char)) : Option Launch :=
  let fuel := arguments.length + 1
  match name with
  | "nohup" => (behindOptions [] [] [] [] fuel arguments).bind (Launch.ofWords? none)
  | "setsid" =>
      (behindOptions ['c', 'f', 'w'] [] ["ctty", "fork", "wait"] [] fuel arguments).bind
        (Launch.ofWords? none)
  | "stdbuf" =>
      (behindOptions [] ['i', 'o', 'e'] [] ["input", "output", "error"] fuel arguments).bind
        (Launch.ofWords? none)
  | "nice" =>
      (behindOptions (('0' : Char) :: "123456789".toList) ['n'] [] ["adjustment"] fuel
        arguments).bind (Launch.ofWords? none)
  | "ionice" =>
      (behindOptions ['t'] ['c', 'n'] ["ignore"] ["class", "classdata"] fuel arguments).bind
        (Launch.ofWords? none)
  | "timeout" => do
      let words ← behindOptions ['v'] ['k', 's'] ["foreground", "preserve-status", "verbose"]
        ["kill-after", "signal"] fuel arguments
      let limit ← interval? (← words.head?)
      Launch.ofWords? (if limit = 0 then none else some limit) (words.drop 1)
  | _ => none

/-- What a program prints that cannot start another one. -/
def launchFault (name command : List Char) (reason : String) : List Char :=
  let kind := String.ofList name
  name ++ [':', ' '] ++
    (if kind = "nice" || kind = "env" then quote command
    else if kind = "setsid" || kind = "ionice" then "failed to execute ".toList ++ command
    else if kind = "xargs" then command
    else "failed to run command ".toList ++ quote command) ++
    [':', ' '] ++ reason.toList ++ ['\n']

/-- What such a program does that is given nothing to start. -/
def nohup : Work Nat := do
  let _ ← options { letters := [], status := 125, inOrder := true }
  misuse 125 "missing operand".toList

def setsid : Work Nat := do
  let _ ← options
    { letters := ['c', 'f', 'w'].map (·, false)
      names := [("ctty", 'c'), ("fork", 'f'), ("wait", 'w')], inOrder := true }
  misuse 1 "no command specified".toList

def stdbuf : Work Nat := do
  let _ ← options
    { letters := ['i', 'o', 'e'].map (·, true)
      names := [("input", 'i'), ("output", 'o'), ("error", 'e')], status := 125, inOrder := true }
  misuse 125 "missing operand".toList

def nice : Work Nat := do
  let (given, _) ← options
    { letters := ('n', true) :: "0123456789".toList.map (·, false)
      names := [("adjustment", 'n')], status := 125, inOrder := true }
  match given with
  | [] => do
      printLine ['0']
      pure 0
  | _ => misuse 125 "a command must be given with an adjustment".toList

def timeout : Work Nat := do
  let (_, operands) ← options
    { letters := [('v', false), ('k', true), ('s', true), ('f', false), ('p', false)]
      names := [("kill-after", 'k'), ("signal", 's'), ("foreground", 'f'),
        ("preserve-status", 'p'), ("verbose", 'v')]
      status := 125, inOrder := true }
  match operands with
  | word :: _ :: _ => misuse 125 ("invalid time interval ".toList ++ quote word)
  | _ => do
      complainPlain "Try 'timeout --help' for more information.".toList
      pure 125

/-! ### Starting a program with other variables -/

/-- What becomes of the variables and the directory. -/
structure Changes where
  cleared : Bool := false
  dropped : List (List Char) := []
  added : List (List Char × List Char) := []
  directory : Option (List Char) := none
  finish : Char := '\n'

def putVariable (name value : List Char) :
    List (List Char × List Char) → List (List Char × List Char)
  | [] => [(name, value)]
  | (key, old) :: rest =>
      if key = name then (name, value) :: rest else (key, old) :: putVariable name value rest

def Changes.apply (changes : Changes) (environment : List (List Char × List Char)) :
    List (List Char × List Char) :=
  let kept := if changes.cleared then []
    else environment.filter fun entry => !changes.dropped.contains entry.1
  changes.added.foldl (fun found (name, value) => putVariable name value found) kept

/-- The values that come before a program, and the program with its arguments. -/
def withValues (changes : Changes) : List (List Char) → Changes × List (List Char)
  | [] => (changes, [])
  | word :: rest =>
      let name := word.takeWhile (· ≠ '=')
      if name.length < word.length then
        withValues { changes with added := changes.added ++ [(name, word.drop (name.length + 1))] }
          rest
      else (changes, word :: rest)

def changesFrom : Nat → Changes → List (List Char) → Option (Changes × List (List Char))
  | 0, changes, words => some (withValues changes words)
  | _, changes, [] => some (changes, [])
  | fuel + 1, changes, word :: rest =>
      let dropping (name : List Char) : Changes :=
        { changes with dropped := name :: changes.dropped }
      match String.ofList word with
      | "--" => some (withValues changes rest)
      | "-" => changesFrom fuel { changes with cleared := true } rest
      | "-i" => changesFrom fuel { changes with cleared := true } rest
      | "--ignore-environment" => changesFrom fuel { changes with cleared := true } rest
      | "-0" => changesFrom fuel { changes with finish := '\x00' } rest
      | "--null" => changesFrom fuel { changes with finish := '\x00' } rest
      | _ =>
          match word, rest with
          | ['-', 'u'], name :: rest => changesFrom fuel (dropping name) rest
          | ['-', 'C'], path :: rest =>
              changesFrom fuel { changes with directory := some path } rest
          | ['-', 'S'], text :: rest => changesFrom fuel changes (wordsOf text ++ rest)
          | '-' :: 'u' :: c :: name, rest => changesFrom fuel (dropping (c :: name)) rest
          | '-' :: '-' :: text, rest =>
              let name := text.takeWhile (· ≠ '=')
              let value := text.drop (name.length + 1)
              if name = "unset".toList && name.length < text.length then
                changesFrom fuel (dropping value) rest
              else if name = "chdir".toList && name.length < text.length then
                changesFrom fuel { changes with directory := some value } rest
              else none
          | '-' :: _, _ => none
          | _, _ => some (withValues changes (word :: rest))

def changes (arguments : List (List Char)) : Option (Changes × List (List Char)) :=
  changesFrom (2 * arguments.length + 1) {} arguments

/-- What is wrong with the options for other variables. -/
def env : Work Nat := do
  let _ ← options
    { letters := [('i', false), ('0', false), ('v', false), ('u', true), ('C', true), ('S', true)]
      names := [("ignore-environment", 'i'), ("null", '0'), ("unset", 'u'), ("chdir", 'C'),
        ("split-string", 'S')]
      status := 125, inOrder := true }
  pure 125

/-! ### Starting a program with words that are read -/

/-- How a text is taken apart: the words of each line, and what is wrong with the quotes. -/
structure Shares where
  lines : List (List (List Char))
  fault : Option (List Char) := none

def isGap (c : Char) : Bool :=
  c = ' ' || c = '\t'

/-- Takes a text apart at its blanks, or only at its line feeds. -/
def sharesIn (blanks : Bool) : Nat → Option (List Char) → List (List Char) →
    List (List (List Char)) → List Char → Shares
  | 0, _, _, done, _ => ⟨done.reverse, none⟩
  | _, word, words, done, [] =>
      let words := word.toList.map List.reverse ++ words
      ⟨(if words.isEmpty then done else words.reverse :: done).reverse, none⟩
  | fuel + 1, word, words, done, c :: rest =>
      let ended := word.toList.map List.reverse ++ words
      if c = '\n' then
        sharesIn blanks fuel none [] (if ended.isEmpty then done else ended.reverse :: done) rest
      else if isGap c && (blanks || word.isNone) then sharesIn blanks fuel none ended done rest
      else if c = '\\' then
        match rest with
        | d :: rest => sharesIn blanks fuel (some (d :: word.getD [])) words done rest
        | [] => sharesIn blanks fuel word words done []
      else if c = '\'' || c = '"' then
        let inner := rest.takeWhile fun d => d ≠ c && d ≠ '\n'
        match rest.drop inner.length with
        | d :: rest =>
            if d = c then
              sharesIn blanks fuel (some (inner.reverse ++ word.getD [])) words done rest
            else ⟨done.reverse, some (unmatched c)⟩
        | [] => ⟨done.reverse, some (unmatched c)⟩
      else sharesIn blanks fuel (some (c :: word.getD [])) words done rest
where
  unmatched (c : Char) : List Char :=
    "unmatched ".toList ++ (if c = '"' then "double" else "single").toList ++
      (" quote; by default quotes are special to xargs unless you use the -0 option").toList

/-- Groups of so many words. -/
def groupsOf {α : Type} (count : Nat) : Nat → List α → List (List α)
  | 0, _ => []
  | fuel + 1, words =>
      if words.isEmpty then [] else words.take count :: groupsOf count fuel (words.drop count)

/-- A text with each place of a mark filled. -/
def fillMark (mark new : List Char) : Nat → List Char → List Char
  | 0, text => text
  | _, [] => []
  | fuel + 1, c :: rest =>
      if !mark.isEmpty && mark.isPrefixOf (c :: rest) then
        new ++ fillMark mark new fuel ((c :: rest).drop mark.length)
      else c :: fillMark mark new fuel rest

/-- How a program is started again and again: the commands for a text that is read, and what is
wrong with the text. -/
structure Plan where
  status : Nat := 123
  calls : List Char → List (List (List Char))
  fault : List Char → Option (List Char)

/-- How the words are given to the program. -/
structure Sharing where
  command : List (List Char)
  mark : Option (List Char)
  separator : Option Char
  atMost : Option Nat
  lineCount : Option Nat
  skipsNothing : Bool
  ending : Option (List Char)

namespace Sharing

def shares (sharing : Sharing) (text : List Char) : Shares :=
  match sharing.separator with
  | some c =>
      let parts := splitOn c text
      let parts := if parts.getLast? = some [] then parts.dropLast else parts
      ⟨parts.map ([·]), none⟩
  | none => sharesIn sharing.mark.isNone (text.length + 1) none [] [] text

def calls (sharing : Sharing) (text : List Char) : List (List (List Char)) :=
  let shares := sharing.shares text
  let lines := match sharing.ending with
    | some ending =>
        let words := shares.lines.flatten.takeWhile (· ≠ ending)
        words.map ([·])
    | none => shares.lines
  let words := lines.flatten
  match sharing.mark, sharing.lineCount, sharing.atMost with
  | some mark, _, _ =>
      words.map fun word =>
        sharing.command.map fun part => fillMark mark word (part.length + 1) part
  | none, some count, _ =>
      (groupsOf (max count 1) (lines.length + 1) lines).map fun group =>
        sharing.command ++ group.flatten
  | none, none, some count =>
      if words.isEmpty then if sharing.skipsNothing then [] else [sharing.command]
      else (groupsOf (max count 1) (words.length + 1) words).map (sharing.command ++ ·)
  | none, none, none =>
      if words.isEmpty && sharing.skipsNothing then [] else [sharing.command ++ words]

/-- The commands that are begun before something wrong is read. -/
def begun (sharing : Sharing) (text : List Char) : List (List (List Char)) :=
  match (sharing.shares text).fault with
  | none => sharing.calls text
  | some _ =>
      if (sharing.mark.isSome || sharing.atMost.isSome || sharing.lineCount.isSome) then
        sharing.calls text
      else []

end Sharing

def sharesGrammar : Work.Grammar where
  letters :=
    [('0', false), ('r', false), ('t', false), ('x', false), ('p', false), ('o', false),
      ('n', true), ('L', true), ('I', true), ('d', true), ('P', true), ('s', true), ('a', true),
      ('E', true)]
  optional := ['i', 'l', 'e']
  names :=
    [("null", '0'), ("no-run-if-empty", 'r'), ("verbose", 't'), ("exit", 'x'), ("max-args", 'n'),
      ("max-lines", 'L'), ("replace", 'i'), ("delimiter", 'd'), ("max-procs", 'P'),
      ("max-chars", 's'), ("arg-file", 'a')]
  inOrder := true

/-- The character that a separator means. -/
def separatorChar (text : List Char) : Option Char :=
  match text with
  | ['\\', 'n'] => some '\n'
  | ['\\', 't'] => some '\t'
  | ['\\', '0'] => some '\x00'
  | c :: _ => some c
  | [] => none

def readSharing : Work Sharing := do
  let (given, operands) ← options sharesGrammar
  let count (letter : Char) : Work (Option Nat) := do
    match value? given letter with
    | none => pure none
    | some text =>
        match natural? text with
        | some count => pure (some count)
        | none => misuse 1 ("invalid number \"".toList ++ text ++ "\" for -".toList ++ [letter] ++
            " option".toList)
  let atMost ← count 'n'
  let lineCount ← count 'L'
  let mark := match value? given 'I', value? given 'i' with
    | some mark, _ => some mark
    | none, some [] => some ['{', '}']
    | none, some mark => some mark
    | none, none => none
  pure
    { command := if operands.isEmpty then ["echo".toList] else operands
      mark
      separator := if has given '0' then some '\x00'
        else match value? given 'd' with
          | some text => separatorChar text
          | none => none
      atMost
      lineCount
      skipsNothing := has given 'r'
      ending := value? given 'E' }

/-- What is wrong with the options. -/
def xargs : Work Nat := do
  let _ ← readSharing
  pure 1

/-- How words are given to a program, if the options are right. -/
def shares? (arguments : List (List Char)) : Option Plan :=
  let task : Task :=
    { name := "xargs".toList, arguments, files := {}, directory := "/", input := none }
  let start : State :=
    { task, files := {}, executables := [], unread := [] }
  match (ExceptT.run readSharing start).1 with
  | .ok sharing =>
      some
        { calls := sharing.begun
          fault := fun text => (sharing.shares text).fault }
  | .error _ => none

end Concord.Utility
