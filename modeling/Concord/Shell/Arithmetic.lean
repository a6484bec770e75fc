import Concord.Shell.Syntax

/-!
Sums of integers of 64 bits, with the operators of C apart from those that step a variable. A value
that is too large wraps around; a numeral that is too large stands for the largest value.
-/

namespace Concord.Shell

inductive Unary where
  | plus
  | minus
  | not
  | complement
  deriving DecidableEq, Repr

inductive Binary where
  | times
  | divide
  | remainder
  | plus
  | minus
  | shiftLeft
  | shiftRight
  | less
  | atMost
  | greater
  | atLeast
  | equal
  | different
  | bitAnd
  | bitXor
  | bitOr
  deriving DecidableEq, Repr

inductive Expression where
  | number (value : Int)
  | name (name : List Char)
  | unary (operator : Unary) (operand : Expression)
  | binary (operator : Binary) (left right : Expression)
  | and (left right : Expression)
  | or (left right : Expression)
  | choice (test yes no : Expression)
  | assign (name : List Char) (operator : Option Binary) (value : Expression)

namespace Arithmetic

/-- The value that 64 bits keep of an integer. -/
def wrap (value : Int) : Int :=
  Int.bmod value (Nat.pow 2 64)

def largest : Int := Nat.pow 2 63 - 1

/-! ### Numerals -/

def digitValue (c : Char) : Nat :=
  if c.isDigit then c.toNat - 48
  else if 'a' ≤ c && c ≤ 'z' then c.toNat - 87
  else if 'A' ≤ c && c ≤ 'Z' then c.toNat - 55
  else 99

def numeralValue (base : Nat) (digits : List Char) : Nat :=
  digits.foldl (fun value c => base * value + digitValue c) 0

/-- A numeral in front of a text, with the base that it shows, and what is behind it. -/
def numeral? (text : List Char) : Option (Nat × List Char) :=
  let read (base : Nat) (digits : List Char) : Option (Nat × List Char) :=
    let found := digits.takeWhile fun c => digitValue c < base
    if found.isEmpty then none else some (numeralValue base found, digits.drop found.length)
  match text with
  | '0' :: x :: rest =>
      if x = 'x' || x = 'X' then (read 16 rest).orElse fun _ => some (0, x :: rest)
      else read 8 ('0' :: x :: rest)
  | text => read 10 text

def isSpace (c : Char) : Bool :=
  c = ' ' || ('\t' ≤ c && c ≤ '\r')

/-- The integer that a whole text stands for; blanks may stand around it, and a blank text is
zero. -/
def integer? (text : List Char) : Option Int :=
  let text := text.dropWhile isSpace
  let (negative, digits) :=
    match text with
    | '-' :: rest => (true, rest)
    | '+' :: rest => (false, rest)
    | rest => (false, rest)
  if text.isEmpty then some 0
  else
    match numeral? digits with
    | some (value, behind) =>
        let value : Int := if negative then -value else value
        if (behind.all isSpace) && -largest - 1 ≤ value && value ≤ largest then some value else none
    | none => none

/-! ### Reading -/

inductive Token where
  | number (value : Int)
  | name (name : List Char)
  | mark (text : String)
  | bad
  deriving DecidableEq, Repr

def marks : List String :=
  ["<<=", ">>=", "<<", ">>", "<=", ">=", "==", "!=", "&&", "||", "+=", "-=", "*=", "/=", "%=", "&=",
    "^=", "|=", "<", ">", "=", "+", "-", "*", "/", "%", "&", "^", "|", "!", "~", "?", ":", "(", ")"]

def markIn? (text : List Char) : Option String :=
  marks.find? fun mark => mark.toList.isPrefixOf text

def tokens : Nat → List Char → List Token
  | 0, _ => []
  | _, [] => []
  | fuel + 1, c :: rest =>
      if isSpace c then tokens fuel rest
      else if c.isDigit then
        match numeral? (c :: rest) with
        | some (value, behind) => .number (min value largest) :: tokens fuel behind
        | none => [.bad]
      else if isNameStart c then
        let name := (c :: rest).takeWhile isNameChar
        .name name :: tokens fuel ((c :: rest).drop name.length)
      else
        match markIn? (c :: rest) with
        | some mark => .mark mark :: tokens fuel ((c :: rest).drop mark.length)
        | none => [.bad]

/-- An expression and the tokens behind it, or what was expected where something else stands. -/
abbrev Reading := Except String (Expression × List Token)

/-- Operators with the strength of their binding. -/
def binary? (mark : String) : Option (Nat × Binary) :=
  match mark with
  | "*" => some (10, .times)
  | "/" => some (10, .divide)
  | "%" => some (10, .remainder)
  | "+" => some (9, .plus)
  | "-" => some (9, .minus)
  | "<<" => some (8, .shiftLeft)
  | ">>" => some (8, .shiftRight)
  | "<" => some (7, .less)
  | "<=" => some (7, .atMost)
  | ">" => some (7, .greater)
  | ">=" => some (7, .atLeast)
  | "==" => some (6, .equal)
  | "!=" => some (6, .different)
  | "&" => some (5, .bitAnd)
  | "^" => some (4, .bitXor)
  | "|" => some (3, .bitOr)
  | _ => none

def assignment? (mark : String) : Option (Option Binary) :=
  match mark with
  | "=" => some none
  | "+=" => some (some .plus)
  | "-=" => some (some .minus)
  | "*=" => some (some .times)
  | "/=" => some (some .divide)
  | "%=" => some (some .remainder)
  | "<<=" => some (some .shiftLeft)
  | ">>=" => some (some .shiftRight)
  | "&=" => some (some .bitAnd)
  | "^=" => some (some .bitXor)
  | "|=" => some (some .bitOr)
  | _ => none

def unary? (mark : String) : Option Unary :=
  match mark with
  | "+" => some .plus
  | "-" => some .minus
  | "!" => some .not
  | "~" => some .complement
  | _ => none

mutual

def primary : Nat → List Token → Reading
  | 0, _ => .error "expecting primary"
  | fuel + 1, tokens =>
      match tokens with
      | .number value :: rest => .ok (.number value, rest)
      | .name name :: rest => .ok (.name name, rest)
      | .mark "(" :: rest => do
          let (inner, rest) ← assignment fuel rest
          match rest with
          | .mark ")" :: rest => .ok (inner, rest)
          | _ => .error "expecting ')'"
      | .mark mark :: rest =>
          match unary? mark with
          | some operator => do
              let (operand, rest) ← primary fuel rest
              .ok (.unary operator operand, rest)
          | none => .error "expecting primary"
      | _ => .error "expecting primary"

/-- Operators that bind at least as strongly as `least`, behind their first operand. -/
def operators (least : Nat) (left : Expression) : Nat → List Token → Reading
  | 0, tokens => .ok (left, tokens)
  | fuel + 1, tokens =>
      match tokens with
      | .mark mark :: rest =>
          match binary? mark with
          | some (strength, operator) =>
              if least ≤ strength then do
                let (right, rest) ← primary fuel rest
                let (right, rest) ← operators (strength + 1) right fuel rest
                operators least (.binary operator left right) fuel rest
              else .ok (left, tokens)
          | none => .ok (left, tokens)
      | _ => .ok (left, tokens)

def conjunction : Nat → List Token → Reading
  | 0, _ => .error "expecting primary"
  | fuel + 1, tokens => do
      let (first, rest) ← primary fuel tokens
      let (left, rest) ← operators 3 first fuel rest
      match rest with
      | .mark "&&" :: rest => do
          let (right, rest) ← conjunction fuel rest
          .ok (.and left right, rest)
      | rest => .ok (left, rest)

def disjunction : Nat → List Token → Reading
  | 0, _ => .error "expecting primary"
  | fuel + 1, tokens => do
      let (left, rest) ← conjunction fuel tokens
      match rest with
      | .mark "||" :: rest => do
          let (right, rest) ← disjunction fuel rest
          .ok (.or left right, rest)
      | rest => .ok (left, rest)

def choice : Nat → List Token → Reading
  | 0, _ => .error "expecting primary"
  | fuel + 1, tokens => do
      let (test, rest) ← disjunction fuel tokens
      match rest with
      | .mark "?" :: rest => do
          let (yes, rest) ← assignment fuel rest
          match rest with
          | .mark ":" :: rest => do
              let (no, rest) ← choice fuel rest
              .ok (.choice test yes no, rest)
          | _ => .error "expecting ':'"
      | rest => .ok (test, rest)

def assignment : Nat → List Token → Reading
  | 0, _ => .error "expecting primary"
  | fuel + 1, tokens =>
      match tokens with
      | .name name :: .mark mark :: rest =>
          match assignment? mark with
          | some operator => do
              let (value, rest) ← assignment fuel rest
              .ok (.assign name operator value, rest)
          | none => choice fuel tokens
      | tokens => choice fuel tokens

end

/-- The expression that a text is, or what was expected in it. -/
def read (text : List Char) : Except String Expression := do
  let tokens := tokens text.length text
  let (found, rest) ← assignment (8 * tokens.length + 8) tokens
  if rest.isEmpty then .ok found else .error "expecting EOF"

/-! ### Values -/

def truth (value : Bool) : Int :=
  if value then 1 else 0

/-- The bits of a value. -/
def bits (value : Int) : Nat :=
  (value % Nat.pow 2 64).toNat

def Unary.value (operator : Unary) (operand : Int) : Int :=
  match operator with
  | .plus => operand
  | .minus => wrap (-operand)
  | .not => truth (operand == 0)
  | .complement => -operand - 1

/-- Nothing is divided by zero. -/
def Binary.value? (operator : Binary) (left right : Int) : Option Int :=
  match operator with
  | .times => some (wrap (left * right))
  | .divide => if right = 0 then none else some (wrap (Int.tdiv left right))
  | .remainder => if right = 0 then none else some (Int.tmod left right)
  | .plus => some (wrap (left + right))
  | .minus => some (wrap (left - right))
  | .shiftLeft => some (wrap (left * Nat.pow 2 (bits right % 64)))
  | .shiftRight => some (Int.fdiv left (Nat.pow 2 (bits right % 64)))
  | .less => some (truth (left < right))
  | .atMost => some (truth (left ≤ right))
  | .greater => some (truth (right < left))
  | .atLeast => some (truth (right ≤ left))
  | .equal => some (truth (left == right))
  | .different => some (truth (left != right))
  | .bitAnd => some (wrap (bits left &&& bits right))
  | .bitXor => some (wrap (bits left ^^^ bits right))
  | .bitOr => some (wrap (bits left ||| bits right))

/-- What an expression needs of the place where it is evaluated. -/
structure Variables (m : Type → Type) where
  get : List Char → m Int
  set : List Char → Int → m Unit
  dividedByZero : m Int

variable {m : Type → Type} [Monad m]

def apply (access : Variables m) (operator : Binary) (left right : Int) : m Int :=
  match Binary.value? operator left right with
  | some value => pure value
  | none => access.dividedByZero

def evaluate (access : Variables m) : Expression → m Int
  | .number value => pure value
  | .name name => access.get name
  | .unary operator operand => Unary.value operator <$> evaluate access operand
  | .binary operator left right => do
      let first ← evaluate access left
      let second ← evaluate access right
      apply access operator first second
  | .and left right => do
      if (← evaluate access left) = 0 then pure 0
      else truth <$> (· != 0) <$> evaluate access right
  | .or left right => do
      if (← evaluate access left) ≠ 0 then pure 1
      else truth <$> (· != 0) <$> evaluate access right
  | .choice test yes no => do
      if (← evaluate access test) ≠ 0 then evaluate access yes else evaluate access no
  | .assign name operator value => do
      let value ← evaluate access value
      let value ←
        match operator with
        | some operator => do apply access operator (← access.get name) value
        | none => pure value
      access.set name value
      pure value

end Arithmetic

end Concord.Shell
