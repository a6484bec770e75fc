/-!
Integers in decimal digits, which may have a sign and leading zeros but nothing else around them.
-/

namespace Concord.Text

def digitsValue? (digits : List Char) : Option Nat :=
  if digits ≠ [] ∧ digits.all Char.isDigit then
    some (digits.foldl (fun value c => 10 * value + (c.toNat - 48)) 0)
  else none

/-- A natural number below `2 ^ bits`. A plus sign may stand before it, a minus sign may not. -/
def natural? (bits : Nat) (text : String) : Option Nat :=
  let digits :=
    match text.toList with
    | '+' :: rest => rest
    | all => all
  (digitsValue? digits).filter (· < Nat.pow 2 bits)

/-- A signed number of so many bits. -/
def integer? (bits : Nat) (text : String) : Option Int :=
  match text.toList with
  | '-' :: digits =>
      ((digitsValue? digits).filter (· ≤ Nat.pow 2 (bits - 1))).map fun n => -(n : Int)
  | _ => (natural? (bits - 1) text).map Int.ofNat

end Concord.Text
