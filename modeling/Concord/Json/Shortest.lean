import Concord.Json.Binary64

/-!
The shortest decimal that reads back to a number, and its layout.
-/

namespace Concord.Binary64

/-- `digits · 10^exponent`. -/
structure Decimal where
  digits : Nat
  exponent : Int
  deriving DecidableEq, Repr

/-- Compares `a · 10^i` with `n · 2^j`. -/
def compareScaled (a : Nat) (i : Int) (n : Nat) (j : Int) : Ordering :=
  compare (a * Nat.pow 10 i.toNat * Nat.pow 2 (-j).toNat)
    (n * Nat.pow 2 j.toNat * Nat.pow 10 (-i).toNat)

/-- The gap to the number below is half the gap to the number above. -/
def narrowBelow (x : Binary64) : Bool :=
  x.significand == Nat.pow 2 52 && x.exponent != -1074

/-- Does a decimal lie among the reals that round to the magnitude of a number? The two ends belong
to it when the significand is even. -/
def readsBack (x : Binary64) (d : Decimal) : Bool :=
  let low := if x.narrowBelow then 4 * x.significand - 1 else 4 * x.significand - 2
  let high := 4 * x.significand + 2
  let inclusive := x.significand % 2 == 0
  let fromLow := compareScaled d.digits d.exponent low (x.exponent - 2)
  let fromHigh := compareScaled d.digits d.exponent high (x.exponent - 2)
  (fromLow == .gt || (inclusive && fromLow == .eq)) &&
    (fromHigh == .lt || (inclusive && fromHigh == .eq))

/-- The least power of ten above the magnitude, found from an estimate that is never too high. -/
def magnitude (x : Binary64) : Int :=
  let bits : Int := x.significand.log2 + x.exponent
  let guess : Int := Int.fdiv (bits * 30103) 100000
  let above (k : Int) : Bool := compareScaled 1 k x.significand x.exponent == .gt
  if above guess then guess else if above (guess + 1) then guess + 1 else guess + 2

/-- The decimals of exponent `exponent` next to the magnitude, at and above it. -/
def neighbours (x : Binary64) (exponent : Int) : Nat × Nat :=
  let num := x.ratio.1 * Nat.pow 10 (-exponent).toNat
  let den := x.ratio.2 * Nat.pow 10 exponent.toNat
  (num / den, num / den + 1)

/-- The nearer of two neighbours, the even one at a tie. -/
def nearer (x : Binary64) (exponent : Int) (low high : Nat) : Nat :=
  match compareScaled (low + high) exponent (2 * x.significand) x.exponent with
  | .gt => low
  | .lt => high
  | .eq => if low % 2 = 0 then low else high

/-- The decimal of exponent `exponent` that reads back, the nearer one if there are two. -/
def candidate? (x : Binary64) (exponent : Int) : Option Decimal :=
  let (low, high) := x.neighbours exponent
  match x.readsBack ⟨low, exponent⟩, x.readsBack ⟨high, exponent⟩ with
  | true, true => some ⟨x.nearer exponent low high, exponent⟩
  | true, false => some ⟨low, exponent⟩
  | false, true => some ⟨high, exponent⟩
  | false, false => none

/-- Moves trailing zeros of the digits into the exponent. -/
def Decimal.strip (fuel : Nat) (d : Decimal) : Decimal :=
  match fuel with
  | 0 => d
  | fuel + 1 =>
      if d.digits ≠ 0 ∧ d.digits % 10 = 0 then strip fuel ⟨d.digits / 10, d.exponent + 1⟩ else d

/-- The exact value of the magnitude. -/
def exact (x : Binary64) : Decimal :=
  ⟨x.significand * Nat.pow 2 x.exponent.toNat * Nat.pow 5 (-x.exponent).toNat, min 0 x.exponent⟩

/-- The shortest decimal that reads back, of those the nearest. Seventeen digits always suffice. -/
def shortest (x : Binary64) : Decimal :=
  if x.significand = 0 then ⟨0, 0⟩
  else
    let top := x.magnitude
    match (List.range 17).findSome? fun n : Nat => x.candidate? (top - (n + 1)) with
    | some d => d.strip 20
    | none => x.exact

/-- The digits with a point `places` from their end, which is inside them or at their end. -/
def pointInside (digits : List Char) (places : Nat) : List Char :=
  let whole := digits.length - places
  digits.take whole ++ '.' :: (if places = 0 then ['0'] else digits.drop whole)

/-- Positional notation, with at least one digit on each side of the point. -/
def positional (d : Decimal) : List Char :=
  let digits := Nat.toDigits 10 d.digits
  if 0 ≤ d.exponent then pointInside (digits ++ List.replicate d.exponent.toNat '0') 0
  else
    let places := (-d.exponent).toNat
    pointInside (List.replicate (places + 1 - digits.length) '0' ++ digits) places

/-- One digit before the point, and an exponent with its sign. -/
def scientific (d : Decimal) (leading : Int) : List Char :=
  let digits := Nat.toDigits 10 d.digits
  let fraction := digits.drop 1
  digits.take 1 ++ (if fraction = [] then [] else '.' :: fraction) ++
    'e' :: (if leading < 0 then '-' else '+') :: Nat.toDigits 10 leading.natAbs

/-- Exponents of the leading digit from -5 to 15 are written positionally. -/
def magnitudeText (x : Binary64) : List Char :=
  let d := x.shortest
  let leading := d.exponent + (Nat.toDigits 10 d.digits).length - 1
  if -5 ≤ leading ∧ leading < 16 then positional d else scientific d leading

def sign (x : Binary64) : List Char :=
  if x.negative then ['-'] else []

/-- The text of a number in a document. -/
def text (x : Binary64) : List Char :=
  x.sign ++ x.magnitudeText

end Concord.Binary64
