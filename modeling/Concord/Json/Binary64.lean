/-!
Finite binary floating-point numbers of 64 bits, with every operation carried out exactly and then
rounded once: to the nearest number, ties to the even significand.
-/

namespace Concord

/-- The number (-1)^negative · significand · 2^exponent. In canonical form the significand is below
2^53 and the exponent at least -1074, and the significand is at least 2^52 unless the exponent is
-1074. Every operation gives numbers in canonical form. -/
structure Binary64 where
  negative : Bool
  significand : Nat
  exponent : Int
  deriving DecidableEq, Repr

namespace Binary64

def zero (negative : Bool) : Binary64 :=
  ⟨negative, 0, -1074⟩

/-- Equality of numbers: the two zeros are equal. -/
def same (x y : Binary64) : Bool :=
  x.significand == y.significand &&
    (x.significand == 0 || (x.negative == y.negative && x.exponent == y.exponent))

/-- The magnitude as a quotient of two naturals. -/
def ratio (x : Binary64) : Nat × Nat :=
  (x.significand * Nat.pow 2 x.exponent.toNat, Nat.pow 2 (-x.exponent).toNat)

/-- The quotient rounded to an integer, ties to even. -/
def roundQuotient (num den : Nat) : Nat :=
  let q := num / den
  let twice := 2 * (num % den)
  if twice < den then q
  else if den < twice then q + 1
  else q + q % 2

/-- The exponent at which a positive quotient has a significand of 53 bits. -/
def scaleOf (num den : Nat) : Int :=
  let guess : Int := (num.log2 : Int) - den.log2
  let below := num * Nat.pow 2 (-guess).toNat < den * Nat.pow 2 guess.toNat
  max (-1074) ((if below then guess - 1 else guess) - 52)

/-- The number nearest to a quotient, or `none` beyond the range. -/
def ofRatio (negative : Bool) (num den : Nat) : Option Binary64 :=
  if num = 0 then some (zero negative)
  else
    let scale := scaleOf num den
    let rounded := roundQuotient (num * Nat.pow 2 (-scale).toNat) (den * Nat.pow 2 scale.toNat)
    let result : Binary64 :=
      if rounded = Nat.pow 2 53 then ⟨negative, Nat.pow 2 52, scale + 1⟩
      else ⟨negative, rounded, scale⟩
    if result.exponent ≤ 971 then some result else none

def ofNat (n : Nat) : Option Binary64 :=
  ofRatio false n 1

def mul (x y : Binary64) : Option Binary64 :=
  ofRatio (x.negative != y.negative) (x.ratio.1 * y.ratio.1) (x.ratio.2 * y.ratio.2)

/-- The divisor is not zero. -/
def div (x y : Binary64) : Option Binary64 :=
  ofRatio (x.negative != y.negative) (x.ratio.1 * y.ratio.2) (x.ratio.2 * y.ratio.1)

/-- The sum of two magnitudes. -/
def addMagnitudes (x y : Binary64) : Option Binary64 :=
  ofRatio false (x.ratio.1 * y.ratio.2 + y.ratio.1 * x.ratio.2) (x.ratio.2 * y.ratio.2)

/-- The number nearest to a power of ten; powers up to 22 are exact. -/
def tenPower (n : Nat) : Option Binary64 :=
  ofNat (Nat.pow 10 n)

/-- The largest power of ten that a decimal is scaled by in one step. -/
def largestStep : Nat := 308

/-- Divides by a power of ten. -/
def divTenPower (x : Binary64) (n : Nat) : Option Binary64 := do
  x.div (← tenPower n)

/-- Divides by the largest power of ten so many times, which soon gives zero. -/
def shrink : Nat → Binary64 → Option Binary64
  | 0, x => some x
  | count + 1, x =>
      if x.significand = 0 then some x
      else
        match x.divTenPower largestStep with
        | some quotient => shrink count quotient
        | none => none

/-- Scales a magnitude by a power of ten, rounding after each step. -/
def scaleByTen (x : Binary64) (exponent : Int) : Option Binary64 :=
  if x.significand = 0 then some x
  else if 0 ≤ exponent then
    if exponent ≤ largestStep then do x.mul (← tenPower exponent.toNat) else none
  else do
    let places := (-exponent).toNat
    let steps := (places - 1) / largestStep
    let shrunk ← shrink steps x
    if shrunk.significand = 0 then some shrunk
    else shrunk.divTenPower (places - largestStep * steps)

/-- Reads `significand · 10^exponent`. The significand is made a number first and then scaled, so
the result can differ from the nearest number where either step rounds. -/
def ofDecimal (negative : Bool) (significand : Nat) (exponent : Int) : Option Binary64 := do
  let scaled ← (← ofNat significand).scaleByTen exponent
  some { scaled with negative }

end Binary64

end Concord
