import Concord.Shell.Format
import Concord.Utility.Lines

/-!
Putting characters in the place of others, dropping them, and drawing repetitions together.
-/

namespace Concord.Utility

open Work

namespace Characters

/-- A character of a set as it is written, and whether a backslash was before it. -/
abbrev Written := Char × Bool

def written : Nat → List Char → List Written
  | 0, _ => []
  | _, [] => []
  | fuel + 1, '\\' :: rest =>
      match rest with
      | [] => [('\\', false)]
      | c :: behind =>
          if Shell.Format.isOctal c then
            let (found, behind) := Shell.Format.octal 3 rest
            (found, true) :: written fuel behind
          else
            let meant := if c = 'e' then c else (Shell.Format.letter? c).getD c
            (meant, true) :: written fuel behind
  | fuel + 1, c :: rest => (c, false) :: written fuel rest

def between (first last : Char) : List Char :=
  (List.range (last.toNat + 1 - first.toNat)).map fun n => Char.ofNat (first.toNat + n)

def ofKind (name : String) : List Char :=
  (between '\x00' 'ÿ').filter (Text.isOfKind name)

/-- Part of a set: characters, or one that is repeated as often as it takes to fill the set. -/
inductive Part where
  | chars (chars : List Char)
  | filler (c : Char)

inductive Fault where
  | reversed (first last : Char)
  | unknownKind (name : List Char)

/-- The name between two marks and brackets. -/
def named? (mark : Char) : List Written → Option (List Char × List Written)
  | (c, false) :: (']', false) :: rest => if c = mark then some ([], rest) else
      (named? mark ((']', false) :: rest)).map fun (name, behind) => (c :: name, behind)
  | (c, _) :: rest => (named? mark rest).map fun (name, behind) => (c :: name, behind)
  | [] => none

/-- How often a character is repeated: a number, or nothing for as often as needed. -/
def repeats? (rest : List Written) : Option (Option Nat × List Written) :=
  let digits := rest.takeWhile fun c => c.1.isDigit && !c.2
  match rest.drop digits.length with
  | (']', false) :: behind =>
      let text := digits.map Prod.fst
      let base := if text.head? = some '0' then 8 else 10
      let count := Shell.Arithmetic.numeralValue base text
      some (if count = 0 then none else some count, behind)
  | _ => none

def parts : Nat → List Written → Except Fault (List Part)
  | 0, _ => .ok []
  | _, [] => .ok []
  | fuel + 1, first :: rest =>
      let plain : Except Fault (List Part) :=
        match rest with
        | ('-', false) :: last :: behind =>
            if last.1 < first.1 then .error (.reversed first.1 last.1)
            else (.chars (between first.1 last.1) :: ·) <$> parts fuel behind
        | rest => (.chars [first.1] :: ·) <$> parts fuel rest
      match first, rest with
      | ('[', false), (':', false) :: behind =>
          match named? ':' behind with
          | some (name, behind) =>
              let chars := ofKind (String.ofList name)
              if chars.isEmpty then .error (.unknownKind name)
              else (.chars chars :: ·) <$> parts fuel behind
          | none => plain
      | ('[', false), ('=', false) :: (c, _) :: ('=', false) :: (']', false) :: behind =>
          (.chars [c] :: ·) <$> parts fuel behind
      | ('[', false), (c, _) :: ('*', false) :: behind =>
          match repeats? behind with
          | some (some count, behind) =>
              (.chars (List.replicate count c) :: ·) <$> parts fuel behind
          | some (none, behind) => (.filler c :: ·) <$> parts fuel behind
          | none => plain
      | _, _ => plain

/-- A set that is filled up to a length. -/
def filled (length : Nat) (parts : List Part) : List Char :=
  let known := parts.foldr (fun part count =>
    match part with
    | .chars chars => chars.length + count
    | .filler _ => count) 0
  parts.flatMap fun part =>
    match part with
    | .chars chars => chars
    | .filler c => List.replicate (length - known) c

/-- The characters of a set in their order. -/
def set (text : List Char) (length : Nat) : Except Fault (List Char) := do
  .ok (filled length (← parts (text.length + 1) (written (text.length + 1) text)))

/-- The character that stands for another one; the last one of a shorter set stands for the rest. -/
def translated (old new : List Char) (c : Char) : Char :=
  match (old.zipIdx.reverse.find? fun entry => entry.1 = c) with
  | some (_, index) => (new[index]?).getD (new.getLast?.getD c)
  | none => c

/-- Draws repetitions of some characters together. -/
def squeezed (wanted : Char → Bool) (text : List Char) : List Char :=
  let step (c : Char) (kept : List Char) : List Char :=
    match kept with
    | d :: _ => if c = d && wanted c then kept else c :: kept
    | [] => [c]
  text.foldr step []

end Characters

open Characters

def faultMessage (fault : Characters.Fault) : List Char :=
  match fault with
  | .reversed first last =>
      "range-endpoints of ".toList ++ quote [first, '-', last] ++
        " are in reverse collating sequence order".toList
  | .unknownKind name => "invalid character class ".toList ++ quote name

def readSet (text : List Char) (length : Nat) : Work (List Char) := do
  match Characters.set text length with
  | .ok found => pure found
  | .error problem => fail 1 (faultMessage problem)

/-- Complains about the sets, and tells where help is found. -/
def misuseSets {α : Type} (message hint : String) (operand : List Char) : Work α := do
  complain (message.toList ++ quote operand)
  complainPlain hint.toList
  complainPlain ("Try '".toList ++ (← get).task.name ++ " --help' for more information.".toList)
  throw 1

def tr : Work Nat := do
  let (given, sets) ← options
    { letters := ['c', 'C', 'd', 's', 't'].map (·, false)
      names := [("complement", 'c'), ("delete", 'd'), ("squeeze-repeats", 's'),
        ("truncate-set1", 't')]
      inOrder := true }
  let deletes := has given 'd'
  let squeezes := has given 's'
  let complement := has given 'c' || has given 'C'
  let least := if deletes == squeezes then 2 else 1
  let most := if deletes && !squeezes then 1 else 2
  match sets with
  | [] => misuse 1 "missing operand".toList
  | first :: more =>
      if least = 2 && more.isEmpty then
        misuseSets "missing operand after "
          (if squeezes then "Two strings must be given when both deleting and squeezing repeats."
            else "Two strings must be given when translating.") first
      else
        match more.drop (most - 1) with
        | extra :: _ =>
            if most = 1 && more.length = 1 then
              misuseSets "extra operand "
                "Only one string may be given when deleting without squeezing repeats." extra
            else misuse 1 ("extra operand ".toList ++ quote extra)
        | [] => do
            let own ← readSet first 0
            let all := Characters.between '\x00' 'ÿ'
            let chosen := if complement then all.filter fun c => !own.contains c else own
            let second ←
              match more.head? with
              | some text => readSet text chosen.length
              | none => pure []
            let content ← readInput
            if deletes then do
              let kept := content.filter fun c => !chosen.contains c
              print (if squeezes then squeezed second.contains kept else kept)
              pure 0
            else if more.isEmpty then do
              print (squeezed chosen.contains content)
              pure 0
            else if second.isEmpty && !has given 't' then
              fail 1 "when not truncating set1, string2 must be non-empty".toList
            else do
              let chosen := if has given 't' then chosen.take second.length else chosen
              let changed := content.map (translated chosen second)
              print (if squeezes then squeezed second.contains changed else changed)
              pure 0

end Concord.Utility
