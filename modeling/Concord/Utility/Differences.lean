import Concord.Utility.Lines

/-!
Programs that compare two files.
-/

namespace Concord.Utility

open Work

/-- The place of the first difference: the byte and the line, counted from one. -/
def firstDifference (a b : List Char) : Nat × Nat × Bool :=
  go 1 1 a b
where
  go (byte line : Nat) : List Char → List Char → Nat × Nat × Bool
    | c :: rest, d :: others =>
        if c = d then go (byte + 1) (if c = '\n' then line + 1 else line) rest others
        else (byte, line, true)
    | _, _ => (byte, line, false)

def cmp : Work Nat := do
  let (given, names) ← options
    { letters := [('s', false), ('b', false), ('l', false), ('i', true), ('n', true)]
      names := [("silent", 's'), ("quiet", 's')], status := 2 }
  match names with
  | [] => misuse 2 "missing operand after 'cmp'".toList
  | _ :: _ :: _ :: extra :: _ => misuse 2 ("extra operand ".toList ++ quote extra)
  | first :: rest => do
      let second := rest.headD ['-']
      let content (name : List Char) : Work (List Char) := do
        match ← readFile name with
        | .ok content => pure content
        | .error problem =>
            if has given 's' then throw 2 else fail 2 (name ++ [':', ' '] ++ reason problem)
      let a ← content first
      let b ← content second
      if a = b then pure 0
      else if has given 's' then pure 1
      else
        let (byte, line, differs) := firstDifference a b
        if differs then do
          printLine (first ++ ' ' :: second ++ " differ: char ".toList ++ naturalText byte ++
            ", line ".toList ++ naturalText line)
          pure 1
        else do
          let shorter := if a.length < b.length then first else second
          let count := byte - 1
          if count = 0 then complain ("EOF on ".toList ++ shorter ++ " which is empty".toList)
          else
            let atLineEnd := (if a.length < b.length then a else b).getLast? = some '\n'
            complain ("EOF on ".toList ++ shorter ++ " after byte ".toList ++ naturalText count ++
              (if atLineEnd then ", line ".toList ++ naturalText (line - 1)
                else ", in line ".toList ++ naturalText line))
          pure 1

/-! ### Line by line -/

/-- How long the longest common parts of the ends of two lists are, for every end of the second one;
`below` tells it for the rest of the first list. -/
def commonRow (line : List Char) : List (List Char) → List Nat → List Nat
  | other :: rest, here :: below =>
      let behind := commonRow line rest below
      (if line = other then below.headD 0 + 1 else max here (behind.headD 0)) :: behind
  | _, _ => [0]

def commonRows (others : List (List Char)) : List (List Char) → List (List Nat)
  | [] => [List.replicate (others.length + 1) 0]
  | line :: rest =>
      let below := commonRows others rest
      commonRow line others (below.headD []) :: below

/-- A change: lines that are dropped and lines that are new, each with the number of lines
before. -/
structure Change where
  oldAt : Nat
  newAt : Nat
  dropped : List (List Char)
  added : List (List Char)

inductive Step where
  | keep
  | drop (line : List Char)
  | add (line : List Char)

def stepsBetween : Nat → List (List Nat) → List (List Char) → List (List Char) → List Step
  | 0, _, _, _ => []
  | _, _, [], new => new.map .add
  | _, _, old, [] => old.map .drop
  | fuel + 1, rows, a :: old, b :: new =>
      if a = b then .keep :: stepsBetween fuel ((rows.drop 1).map (·.drop 1)) old new
      else
        let row := rows.headD []
        let below := (rows.drop 1).headD []
        if (row.drop 1).headD 0 ≤ below.headD 0 then
          .drop a :: stepsBetween fuel (rows.drop 1) old (b :: new)
        else .add b :: stepsBetween fuel (rows.map (·.drop 1)) (a :: old) new

def changesIn : Nat → Nat → Option Change → List Step → List Change
  | _, _, pending, [] => pending.toList
  | old, new, pending, step :: rest =>
      let change := pending.getD ⟨old, new, [], []⟩
      match step with
      | .keep => pending.toList ++ changesIn (old + 1) (new + 1) none rest
      | .drop line =>
          changesIn (old + 1) new (some { change with dropped := change.dropped ++ [line] }) rest
      | .add line =>
          changesIn old (new + 1) (some { change with added := change.added ++ [line] }) rest

def lineRange (first count : Nat) : List Char :=
  if count ≤ 1 then naturalText (first + count)
  else naturalText (first + 1) ++ ',' :: naturalText (first + count)

def markedLine (mark : Char) (line : List Char) : List Char :=
  mark :: ' ' :: bare line ++
    (if line = bare line then "\n\\ No newline at end of file\n".toList else ['\n'])

def changeText (change : Change) : List Char :=
  let letter := if change.dropped.isEmpty then 'a' else if change.added.isEmpty then 'd' else 'c'
  lineRange change.oldAt change.dropped.length ++ letter ::
    lineRange change.newAt change.added.length ++ ['\n'] ++
    change.dropped.flatMap (markedLine '<') ++
    (if letter = 'c' then "---\n".toList else []) ++
    change.added.flatMap (markedLine '>')

def diff : Work Nat := do
  let (given, names) ← options
    { letters := ['q', 's', 'a', 'i', 'w', 'b', 'B', 'r', 'N', 'u', 'y', 'e'].map (·, false)
      names := [("brief", 'q'), ("report-identical-files", 's'), ("text", 'a'),
        ("ignore-case", 'i'), ("recursive", 'r')]
      status := 2 }
  let lackingAfter (name : List Char) : Work Nat := do
    complain ("missing operand after ".toList ++ quote name)
    complain "Try 'diff --help' for more information.".toList
    pure 2
  match names with
  | [] => lackingAfter "diff".toList
  | [name] => lackingAfter name
  | [first, second] => do
      let a? ← contentOr 2 first
      let b? ← contentOr 2 second
      match a?, b? with
      | some a, some b =>
          if a = b then do
            if has given 's' then
              printLine ("Files ".toList ++ first ++ " and ".toList ++ second ++
                " are identical".toList)
            else pure ()
            pure 0
          else if has given 'q' then do
            printLine ("Files ".toList ++ first ++ " and ".toList ++ second ++ " differ".toList)
            pure 1
          else do
            let old := lines a
            let new := lines b
            let steps := stepsBetween (old.length + new.length + 1) (commonRows new old) old new
            print ((changesIn 0 0 none steps).flatMap changeText)
            pure 1
      | _, _ => pure 2
  | _ :: _ :: extra :: _ => do
      complain ("extra operand ".toList ++ quote extra)
      complain "Try 'diff --help' for more information.".toList
      pure 2

end Concord.Utility
