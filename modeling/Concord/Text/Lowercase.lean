import Concord.Text.CaseTable

/-!
Full lower-casing. Every character is mapped by itself, one of them to two characters, except that
a capital sigma at the end of a word takes its final form.
-/

namespace Concord.Text

def lowerChar (c : Char) : List Char :=
  if c = '\u0130' then ['i', '\u0307']
  else
    match lowerSteps.find? fun (first, last, step, _) =>
        first ≤ c.toNat && c.toNat ≤ last && (c.toNat - first) % step == 0 with
    | some (_, _, _, distance) => [Char.ofNat (c.toNat + distance).toNat]
    | none => [c]

/-- Does a cased letter come first, characters without a say in the matter aside? -/
def meetsCased (text : List Char) : Bool :=
  match text.dropWhile caseIgnorableRanges.contains with
  | c :: _ => casedRanges.contains c
  | [] => false

/-- A sigma is final when a cased letter stands before it and none after it. -/
def lowerSigma (before after : List Char) : Char :=
  if meetsCased before && !meetsCased after then 'ς' else 'σ'

/-- Lower-cases a text whose earlier characters, nearest first, are `before`. -/
def lowerFrom (before : List Char) : List Char → List Char
  | [] => []
  | c :: rest =>
      (if c = 'Σ' then [lowerSigma before rest] else lowerChar c) ++ lowerFrom (c :: before) rest

def lowercase (text : String) : String :=
  String.ofList (lowerFrom [] text.toList)

end Concord.Text
