import Concord.Json.Basic

/-!
Numerals as JSON writes them, and their values.
-/

namespace Concord

/-- Digits before the point, after it if there is one, and an exponent if there is one, whose flag
tells whether it is negative. -/
structure Numeral where
  negative : Bool
  whole : List Nat
  fraction : Option (List Nat)
  exponent : Option (Bool × List Nat)
  deriving DecidableEq, Repr

namespace Numeral

/-- The largest significand that is kept. -/
def significandLimit : Nat := Nat.pow 2 64 - 1

/-- The largest exponent that is kept. -/
def exponentLimit : Nat := Nat.pow 2 31 - 1

/-- Digits taken into a significand while it stays within the limit, and how many came after. -/
def takeWhole (significand dropped : Nat) : List Nat → Nat × Nat
  | [] => (significand, dropped)
  | d :: rest =>
      if dropped = 0 ∧ significand * 10 + d ≤ significandLimit then
        takeWhole (significand * 10 + d) 0 rest
      else takeWhole significand (dropped + 1) rest

/-- Digits behind the point taken into a significand up to the first that does not fit, and how many
were taken. -/
def takeFraction (significand taken : Nat) : List Nat → Nat × Nat
  | [] => (significand, taken)
  | d :: rest =>
      if significand * 10 + d ≤ significandLimit then
        takeFraction (significand * 10 + d) (taken + 1) rest
      else (significand, taken)

/-- The exponent, or `none` past the limit. -/
def takeExponent (value : Nat) : List Nat → Option Nat
  | [] => some value
  | d :: rest =>
      if value * 10 + d ≤ exponentLimit then takeExponent (value * 10 + d) rest else none

/-- A float from a significand, the power of ten that its digits call for and the exponent. -/
def float? (n : Numeral) (significand : Nat) (shift : Int) : Option Binary64 :=
  match n.exponent with
  | none => Binary64.ofDecimal n.negative significand shift
  | some (below, digits) =>
      match takeExponent 0 digits with
      | some value =>
          let power : Int := if below then -(value : Int) else value
          Binary64.ofDecimal n.negative significand (shift + power)
      | none => if below ∨ significand = 0 then some (Binary64.zero n.negative) else none

/-- The value of a numeral, or `none` beyond the range of numbers. A numeral without a point and an
exponent is an integer as far as integers reach; minus zero is a float. -/
def value? (n : Numeral) : Option Number :=
  let (significand, dropped) := takeWhole 0 0 n.whole
  match n.fraction with
  | some digits =>
      let (longer, taken) := takeFraction significand 0 digits
      .float <$> n.float? longer (dropped - taken)
  | none =>
      if n.exponent.isNone ∧ dropped = 0 then
        if n.negative then
          if 0 < significand ∧ significand ≤ Nat.pow 2 63 then some (.int (-significand))
          else .float <$> Binary64.ofDecimal true significand 0
        else some (.int significand)
      else .float <$> n.float? significand dropped

end Numeral

end Concord
