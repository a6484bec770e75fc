import Concord.Shell.Format
import Concord.Text.Regex
import Concord.Utility.Lines

/-!
Programs that count and calculate.
-/

namespace Concord.Utility

open Work
open Text (Regex)

/-! ### Numbers in a row -/

/-- A number with a fixed count of decimal places. -/
structure Fixed where
  units : Int
  places : Nat

namespace Fixed

def scaled (number : Fixed) (places : Nat) : Int :=
  number.units * Nat.pow 10 (places - number.places)

def numeral (digits : List Char) : Nat :=
  digits.foldl (fun value c => 10 * value + (c.toNat - 48)) 0

/-- Digits with a point among them. -/
def ofDigits? (text : List Char) : Option Fixed :=
  let whole := text.takeWhile Char.isDigit
  match text.drop whole.length with
  | [] => if whole.isEmpty then none else some ⟨numeral whole, 0⟩
  | '.' :: rest =>
      if rest.all Char.isDigit && !(whole.isEmpty && rest.isEmpty) then
        some ⟨numeral (whole ++ rest), rest.length⟩
      else none
  | _ => none

/-- A number with an exponent. -/
def raised (number : Fixed) (up : Bool) (exponent : Nat) : Fixed :=
  if up then
    if exponent ≤ number.places then ⟨number.units, number.places - exponent⟩
    else ⟨number.units * Nat.pow 10 (exponent - number.places), 0⟩
  else ⟨number.units, number.places + exponent⟩

def unsigned? (text : List Char) : Option Fixed :=
  let mantissa := text.takeWhile fun c => c ≠ 'e' && c ≠ 'E'
  match text.drop mantissa.length with
  | [] => ofDigits? mantissa
  | _ :: exponent =>
      let (up, digits) := match exponent with
        | '-' :: rest => (false, rest)
        | '+' :: rest => (true, rest)
        | rest => (true, rest)
      match ofDigits? mantissa, natural? digits with
      | some number, some exponent =>
          if exponent < 100 then some (raised number up exponent) else none
      | _, _ => none

def ofText? (text : List Char) : Option Fixed :=
  match text with
  | '-' :: rest => (unsigned? rest).map fun number => ⟨-number.units, number.places⟩
  | '+' :: rest => unsigned? rest
  | rest => unsigned? rest

/-- Units of so many decimal places, filled up with zeros. -/
def text (places width : Nat) (units : Int) : List Char :=
  let digits := naturalText units.natAbs
  let filled := List.replicate (places + 1 - digits.length) '0' ++ digits
  let point := filled.take (filled.length - places) ++
    (if places = 0 then [] else '.' :: filled.drop (filled.length - places))
  let sign := if units < 0 then ['-'] else []
  sign ++ List.replicate (width - sign.length - point.length) '0' ++ point

end Fixed

/-- As many numbers as are printed in a row. -/
def longestRow : Nat := 2000000

/-- The numbers from a first one on that are not past the last one. -/
def row (step last : Int) : Nat → Int → List Int → List Int
  | 0, _, found => found.reverse
  | fuel + 1, value, found =>
      if (0 < step && last < value) || (step < 0 && value < last) then found.reverse
      else row step last fuel (value + step) (value :: found)

/-- Are an argument's first characters those of a negative number? -/
def isNegative (word : List Char) : Bool :=
  match word with
  | '-' :: c :: _ => c.isDigit || c = '.'
  | _ => false

def seq : Work Nat := do
  let words ← arguments
  let front := words.takeWhile fun word => !isNegative word
  modify fun state => { state with task := { state.task with arguments := front } }
  let (given, first) ← options
    { letters := [('w', false), ('s', true), ('f', true)]
      names := [("equal-width", 'w'), ("separator", 's'), ("format", 'f')], inOrder := true }
  let operands := first ++ words.drop front.length
  let number (word : List Char) : Work Fixed := do
    match Fixed.ofText? word with
    | some number => pure number
    | none => misuse 1 ("invalid floating point argument: ".toList ++ quote word)
  let one : Fixed := ⟨1, 0⟩
  let (first, step, last, stepWord) ← (do
    match operands with
    | [] => misuse 1 "missing operand".toList
    | [last] => pure (one, one, ← number last, ['1'])
    | [first, last] => pure (← number first, one, ← number last, ['1'])
    | [first, step, last] => pure (← number first, ← number step, ← number last, step)
    | _ :: _ :: _ :: extra :: _ => misuse 1 ("extra operand ".toList ++ quote extra))
  if step.units = 0 then misuse 1 ("invalid Zero increment value: ".toList ++ quote stepWord)
  else do
    let shown := max first.places step.places
    let places := max shown last.places
    let values := row (step.scaled places) (last.scaled places) longestRow
      (first.scaled places) []
    let unit : Int := Nat.pow 10 (places - shown)
    let width := if has given 'w' then
        max (Fixed.text shown 0 (first.scaled shown)).length
          (Fixed.text shown 0 (last.scaled places / unit)).length
      else 0
    let text (value : Int) : List Char :=
      let plain := Fixed.text shown width (value / unit)
      match value? given 'f' with
      | some format => (Shell.Format.printf format [plain]).output
      | none => plain
    let separator := (value? given 's').getD ['\n']
    if values.isEmpty then pure ()
    else print (separator.intercalate (values.map text) ++ ['\n'])
    pure 0

/-! ### Expressions of words -/

/-- Words that are left, and the word before them. -/
abbrev Calculation := StateT (List (List Char) × List Char) Work

namespace Calculation

def peek : Calculation (Option (List Char)) := do
  pure (← get).1.head?

def take : Calculation (List Char) := do
  match ← get with
  | (word :: rest, _) => do
      set (rest, word)
      pure word
  | ([], before) => fail 2 ("syntax error: missing argument after ".toList ++ quote before)

def takeOne (names : List String) : Calculation (Option String) := do
  match (← get).1 with
  | word :: rest =>
      if String.ofList word ∈ names then do
        set (rest, word)
        pure (some (String.ofList word))
      else pure none
  | [] => pure none

def integer? (word : List Char) : Option Int :=
  match word with
  | '-' :: digits => (natural? digits).map fun n => -(n : Int)
  | digits => (natural? digits).map fun n => (n : Int)

def needInteger (word : List Char) : Calculation Int := do
  match integer? word with
  | some value => pure value
  | none => fail 2 "non-integer argument".toList

def integerText (value : Int) : List Char :=
  (toString value).toList

/-- Is a word empty, or a zero? -/
def isNull (word : List Char) : Bool :=
  match word with
  | [] => true
  | '-' :: rest => !rest.isEmpty && rest.all (· = '0')
  | rest => rest.all (· = '0')

def truth (found : Bool) : List Char :=
  if found then ['1'] else ['0']

/-- The part that a pattern's group fits at the front of a text, or how long a fit there is. -/
def fitted (text pattern : List Char) : Calculation (List Char) := do
  match Regex.read false pattern with
  | .error problem => fail 2 problem.message.toList
  | .ok (regex, groups) =>
      match regex.matchAt false { rest := text } with
      | none => pure (if groups = 0 then ['0'] else [])
      | some stop =>
          pure (if groups = 0 then naturalText stop.position
            else (stop.groups.lookup 1).getD [])

def compared (name : String) (a b : List Char) : Bool :=
  let order := match integer? a, integer? b with
    | some a, some b => compare a b
    | _, _ => if a < b then .lt else if a = b then .eq else .gt
  match name with
  | "<" => order = .lt
  | "<=" => order ≠ .gt
  | "=" => order = .eq
  | "==" => order = .eq
  | "!=" => order ≠ .eq
  | ">=" => order ≠ .lt
  | _ => order = .gt

def calculated (active : Bool) (name : String) (a b : List Char) : Calculation (List Char) := do
  if !active then pure []
  else do
    let a ← needInteger a
    let b ← needInteger b
    match name with
    | "+" => pure (integerText (a + b))
    | "-" => pure (integerText (a - b))
    | "*" => pure (integerText (a * b))
    | name =>
        if b = 0 then fail 2 "division by zero".toList
        else pure (integerText (if name = "/" then a.tdiv b else a.tmod b))

/-- The part of a text from a position on, counted from one. -/
def portion (text : List Char) (start length : Option Int) : List Char :=
  match start, length with
  | some start, some length =>
      if start ≤ 0 || length ≤ 0 then [] else (text.drop (start.toNat - 1)).take length.toNat
  | _, _ => []

/-- Where the first of some characters is in a text, counted from one. -/
def position (text wanted : List Char) : Nat :=
  let before := text.takeWhile fun c => !wanted.contains c
  if before.length < text.length then before.length + 1 else 0

/-- The operators that bind as tightly as a level tells. -/
def operators : Nat → List String
  | 0 => ["|"]
  | 1 => ["&"]
  | 2 => ["<", "<=", "=", "==", "!=", ">=", ">"]
  | 3 => ["+", "-"]
  | 4 => ["*", "/", "%"]
  | _ => [":"]

mutual

/-- The value of an expression whose operators bind at least as tightly as a level tells. -/
def value (active : Bool) (level : Nat) : Nat → Calculation (List Char)
  | 0 => pure []
  | fuel + 1 => do
      if 5 < level then primary active fuel
      else do
        let first ← value active (level + 1) fuel
        rest active level first fuel
termination_by structural fuel => fuel

def rest (active : Bool) (level : Nat) (left : List Char) : Nat → Calculation (List Char)
  | 0 => pure left
  | fuel + 1 => do
      match ← takeOne (operators level) with
      | none => pure left
      | some name => do
          let needed := match level with
            | 0 => isNull left
            | 1 => !isNull left
            | _ => true
          let right ← value (active && needed) (level + 1) fuel
          let result ← (do
            match level with
            | 0 => pure (if !isNull left then left else if isNull right then ['0'] else right)
            | 1 => pure (if isNull left || isNull right then ['0'] else left)
            | 2 => pure (truth (compared name left right))
            | 5 => if active then fitted left right else pure []
            | _ => calculated active name left right)
          rest active level result fuel
termination_by structural fuel => fuel

def primary (active : Bool) : Nat → Calculation (List Char)
  | 0 => pure []
  | fuel + 1 => do
      let word ← take
      match String.ofList word with
      | "(" => do
          let found ← value active 0 fuel
          match ← get with
          | ([], before) => fail 2 ("syntax error: expecting ')' after ".toList ++ quote before)
          | (other :: others, _) => do
              if other = [')'] then do
                set (others, other)
                pure found
              else fail 2 ("syntax error: expecting ')' instead of ".toList ++ quote other)
      | ")" => fail 2 "syntax error: unexpected argument ')'".toList
      | "+" => take
      | "length" => do pure (naturalText (← primary active fuel).length)
      | "match" => do
          let text ← primary active fuel
          fitted text (← primary active fuel)
      | "index" => do
          let text ← primary active fuel
          pure (naturalText (position text (← primary active fuel)))
      | "substr" => do
          let text ← primary active fuel
          let start ← primary active fuel
          let length ← primary active fuel
          pure (portion text (integer? start) (integer? length))
      | _ => pure word
termination_by structural fuel => fuel

end

end Calculation

def expr : Work Nat := do
  let words ← arguments
  let words := if words.head? = some ['-', '-'] then words.drop 1 else words
  if words.isEmpty then misuse 2 "missing operand".toList
  else do
    let (found, left, _) ← StateT.run (Calculation.value true 0 (8 * words.length + 8)) (words, [])
    match left with
    | word :: _ => fail 2 ("syntax error: unexpected argument ".toList ++ quote word)
    | [] => do
        printLine found
        pure (if Calculation.isNull found then 1 else 0)

/-! ### Factors -/

def factorsFrom : Nat → Nat → Nat → List Nat
  | 0, _, n => if n = 1 then [] else [n]
  | fuel + 1, candidate, n =>
      if n < candidate * candidate then if n = 1 then [] else [n]
      else if n % candidate = 0 then candidate :: factorsFrom fuel candidate (n / candidate)
      else factorsFrom fuel (candidate + 1) n

def factor : Work Nat := do
  let (_, operands) ← options { letters := [] }
  let words ← (do
    if operands.isEmpty then pure (wordsOf (← readInput)) else pure operands)
  for word in words do
    match natural? word with
    | some n =>
        let factors := if n < 2 then [] else factorsFrom 1000000 2 n
        printLine (naturalText n ++ [':'] ++ factors.flatMap fun f => ' ' :: naturalText f)
    | none => fault 1 (quote word ++ " is not a valid positive integer".toList)
  pure 0

end Concord.Utility
