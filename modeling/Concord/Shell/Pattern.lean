import Concord.Text.Kinds

/-!
Patterns for texts: a star for any text, a question mark for any character, and sets in brackets. A
quoted character stands for itself.
-/

namespace Concord.Shell

open Text

/-- A character of a pattern, and whether it can have a meaning of its own. -/
structure Sign where
  char : Char
  active : Bool
  deriving DecidableEq, Repr

inductive Element where
  | one (c : Char)
  | any
  | many
  | set (excluded : Bool) (items : List Item)
  deriving DecidableEq, Repr

abbrev Pattern := List Element

namespace Pattern

/-- The name of a kind of characters, and what is behind it. -/
def kindName? : List Sign → Option (List Char × List Sign)
  | ⟨':', _⟩ :: ⟨']', _⟩ :: rest => some ([], rest)
  | ⟨c, _⟩ :: rest => (kindName? rest).map fun (name, behind) => (c :: name, behind)
  | [] => none

/-- The items of a set up to its closing bracket, which is an item where it stands first. -/
def items? (first : Bool) : Nat → List Sign → Option (List Item × List Sign)
  | 0, _ => none
  | _, [] => none
  | fuel + 1, ⟨c, active⟩ :: rest =>
      if c = ']' && active && !first then some ([], rest)
      else
        let single :=
          match rest with
          | ⟨'-', true⟩ :: ⟨last, lastActive⟩ :: behind =>
              if last = ']' && lastActive then
                (items? false fuel rest).map fun (more, left) => (.range c c :: more, left)
              else
                (items? false fuel behind).map fun (more, left) => (.range c last :: more, left)
          | rest => (items? false fuel rest).map fun (more, left) => (.range c c :: more, left)
        match c, active, rest with
        | '[', true, ⟨':', _⟩ :: behind =>
            match kindName? behind with
            | some (name, left) =>
                (items? false fuel left).map fun (more, left) =>
                  (.kind (String.ofList name) :: more, left)
            | none => single
        | _, _, _ => single

/-- The set behind an opening bracket, and what is behind the set. -/
def set? (signs : List Sign) : Option (Element × List Sign) :=
  match signs with
  | ⟨'!', true⟩ :: rest => make true rest
  | ⟨'^', true⟩ :: rest => make true rest
  | rest => make false rest
where
  make (excluded : Bool) (rest : List Sign) : Option (Element × List Sign) :=
    (items? true (rest.length + 1) rest).map fun (items, left) => (.set excluded items, left)

def ofSignsIn : Nat → List Sign → Pattern
  | 0, _ => []
  | _, [] => []
  | fuel + 1, ⟨c, active⟩ :: rest =>
      match active, c with
      | true, '*' => .many :: ofSignsIn fuel rest
      | true, '?' => .any :: ofSignsIn fuel rest
      | true, '[' =>
          match set? rest with
          | some (set, left) => set :: ofSignsIn fuel left
          | none => .one c :: ofSignsIn fuel rest
      | _, _ => .one c :: ofSignsIn fuel rest

def ofSigns (signs : List Sign) : Pattern :=
  ofSignsIn signs.length signs

/-- A text and all that is left of it when characters are taken off its front. -/
def endings : List Char → List (List Char)
  | [] => [[]]
  | c :: rest => (c :: rest) :: endings rest

/-- Does a pattern fit a whole text? -/
def fits : Pattern → List Char → Bool
  | [], text => text.isEmpty
  | .many :: pattern, text => (endings text).any (fits pattern)
  | .one c :: pattern, d :: text => c = d && fits pattern text
  | .any :: pattern, _ :: text => fits pattern text
  | .set excluded items :: pattern, d :: text =>
      (items.any (·.has d) != excluded) && fits pattern text
  | _ :: _, [] => false

/-- Has a pattern more to say than its characters? -/
def isOpen (pattern : Pattern) : Bool :=
  pattern.any fun element =>
    match element with
    | .one _ => false
    | _ => true

/-- How many characters are cut off the front of a text. -/
def cutInFront (pattern : Pattern) (longest : Bool) (text : List Char) : Nat :=
  let lengths := (List.range (text.length + 1)).filter fun length =>
    pattern.fits (text.take length)
  if longest then lengths.getLast?.getD 0 else lengths.headD 0

/-- What is left in front when characters are cut off the end of a text. -/
def keptInFront (pattern : Pattern) (longest : Bool) (text : List Char) : Nat :=
  let lengths := (List.range (text.length + 1)).filter fun length =>
    pattern.fits (text.drop length)
  if longest then lengths.headD text.length else lengths.getLast?.getD text.length

end Pattern

end Concord.Shell
