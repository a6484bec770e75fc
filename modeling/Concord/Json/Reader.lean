import Concord.Json.Numeral
import Concord.Json.Raw

/-!
Reading JSON. Blanks are the space, the tab and the two line ends; there is no byte order mark and
nothing may follow the value.
-/

namespace Concord.Raw

def isSpace (c : Char) : Bool :=
  c == ' ' || c == '\t' || c == '\n' || c == '\r'

def skipSpace (text : List Char) : List Char :=
  text.dropWhile isSpace

def digit? (c : Char) : Option Nat :=
  if '0' ≤ c ∧ c ≤ '9' then some (c.toNat - 48) else none

/-- The digits at the start of a text, and the rest. -/
def takeDigits : List Char → List Nat × List Char
  | [] => ([], [])
  | c :: rest =>
      match digit? c with
      | some d => (d :: (takeDigits rest).1, (takeDigits rest).2)
      | none => ([], c :: rest)

def hexDigit? (c : Char) : Option Nat :=
  if '0' ≤ c ∧ c ≤ '9' then some (c.toNat - 48)
  else if 'a' ≤ c ∧ c ≤ 'f' then some (c.toNat - 87)
  else if 'A' ≤ c ∧ c ≤ 'F' then some (c.toNat - 55)
  else none

/-- A piece of a string: a character, or a unit of 16 bits given by number. -/
inductive Piece where
  | char (c : Char)
  | unit (value : Nat)
  deriving DecidableEq, Repr

/-- The character of a short escape. -/
def unescape? (letter : Char) : Option Char :=
  if letter = '"' then some '"'
  else if letter = '\\' then some '\\'
  else if letter = '/' then some '/'
  else if letter = 'b' then some '\x08'
  else if letter = 'f' then some '\x0c'
  else if letter = 'n' then some '\n'
  else if letter = 'r' then some '\r'
  else if letter = 't' then some '\t'
  else none

def unit? (a b c d : Char) : Option Nat := do
  some (((← hexDigit? a) * 16 + (← hexDigit? b)) * 256 + (← hexDigit? c) * 16 + (← hexDigit? d))

/-- The pieces up to the closing quote, and the rest. -/
def takePieces : List Char → Option (List Piece × List Char)
  | '"' :: rest => some ([], rest)
  | '\\' :: 'u' :: a :: b :: c :: d :: rest => do
      let value ← unit? a b c d
      let (pieces, rest) ← takePieces rest
      some (.unit value :: pieces, rest)
  | '\\' :: letter :: rest => do
      let c ← unescape? letter
      let (pieces, rest) ← takePieces rest
      some (.char c :: pieces, rest)
  | c :: rest =>
      if c.toNat < 0x20 then none
      else do
        let (pieces, rest) ← takePieces rest
        some (.char c :: pieces, rest)
  | [] => none

def isLead (unit : Nat) : Bool :=
  0xD800 ≤ unit && unit < 0xDC00

def isTrail (unit : Nat) : Bool :=
  0xDC00 ≤ unit && unit < 0xE000

/-- Units by number are characters alone or in pairs of a leading and a trailing one. -/
def join? : List Piece → Option (List Char)
  | [] => some []
  | .char c :: rest => (c :: ·) <$> join? rest
  | .unit lead :: .unit trail :: rest =>
      if isLead lead then
        if isTrail trail then
          (Char.ofNat (0x10000 + (lead - 0xD800) * 0x400 + (trail - 0xDC00)) :: ·) <$> join? rest
        else none
      else if isTrail lead then none
      else (Char.ofNat lead :: ·) <$> join? (.unit trail :: rest)
  | .unit unit :: rest =>
      if isLead unit ∨ isTrail unit then none else (Char.ofNat unit :: ·) <$> join? rest

/-- A string behind its opening quote. -/
def takeString (text : List Char) : Option (Option String × List Char) := do
  let (pieces, rest) ← takePieces text
  some (String.ofList <$> join? pieces, rest)

/-- The digits before the point: a zero alone, or any digits that do not start with one. -/
def takeInteger (text : List Char) : Option (List Nat × List Char) :=
  match takeDigits text with
  | ([], _) => none
  | (0 :: _ :: _, _) => none
  | (digits, rest) => some (digits, rest)

def takeFraction (text : List Char) : Option (Option (List Nat) × List Char) :=
  match text with
  | '.' :: rest =>
      match takeDigits rest with
      | ([], _) => none
      | (digits, rest) => some (some digits, rest)
  | _ => some (none, text)

/-- The sign of an exponent, and the rest. -/
def takeSign : List Char → Bool × List Char
  | '+' :: rest => (false, rest)
  | '-' :: rest => (true, rest)
  | rest => (false, rest)

def takeExponent (text : List Char) : Option (Option (Bool × List Nat) × List Char) :=
  match text with
  | c :: rest =>
      if c = 'e' ∨ c = 'E' then
        let (below, rest) := takeSign rest
        match takeDigits rest with
        | ([], _) => none
        | (digits, rest) => some (some (below, digits), rest)
      else some (none, text)
  | [] => some (none, text)

/-- A numeral behind its sign. -/
def takeNumeral (negative : Bool) (text : List Char) : Option (Numeral × List Char) := do
  let (whole, rest) ← takeInteger text
  let (fraction, rest) ← takeFraction rest
  let (exponent, rest) ← takeExponent rest
  some (⟨negative, whole, fraction, exponent⟩, rest)

def takeNumber (text : List Char) : Option (Raw × List Char) := do
  let (numeral, rest) ←
    match text with
    | '-' :: rest => takeNumeral true rest
    | _ => takeNumeral false text
  some (.number numeral.value?, rest)

mutual

/-- A value at the start of a text, and the rest. Two units of fuel for each character suffice. -/
def takeValue (fuel : Nat) (text : List Char) : Option (Raw × List Char) :=
  match fuel with
  | 0 => none
  | fuel + 1 =>
      match skipSpace text with
      | 'n' :: 'u' :: 'l' :: 'l' :: rest => some (.null, rest)
      | 't' :: 'r' :: 'u' :: 'e' :: rest => some (.bool true, rest)
      | 'f' :: 'a' :: 'l' :: 's' :: 'e' :: rest => some (.bool false, rest)
      | '"' :: rest => do
          let (value, rest) ← takeString rest
          some (.str value, rest)
      | '[' :: rest =>
          match skipSpace rest with
          | ']' :: rest => some (.arr [], rest)
          | rest => do
              let (items, rest) ← takeItems fuel rest
              some (.arr items, rest)
      | '\x7b' :: rest =>
          match skipSpace rest with
          | '\x7d' :: rest => some (.obj [], rest)
          | rest => do
              let (fields, rest) ← takeFields fuel rest
              some (.obj fields, rest)
      | rest => takeNumber rest

/-- One item or more and the end of the array. -/
def takeItems (fuel : Nat) (text : List Char) : Option (List Raw × List Char) :=
  match fuel with
  | 0 => none
  | fuel + 1 => do
      let (item, rest) ← takeValue fuel text
      match skipSpace rest with
      | ',' :: rest =>
          let (items, rest) ← takeItems fuel rest
          some (item :: items, rest)
      | ']' :: rest => some ([item], rest)
      | _ => none

/-- One field or more and the end of the object. -/
def takeFields (fuel : Nat) (text : List Char) : Option (List (Option String × Raw) × List Char) :=
  match fuel with
  | 0 => none
  | fuel + 1 =>
      match skipSpace text with
      | '"' :: rest => do
          let (name, rest) ← takeString rest
          match skipSpace rest with
          | ':' :: rest =>
              let (value, rest) ← takeValue fuel rest
              match skipSpace rest with
              | ',' :: rest =>
                  let (fields, rest) ← takeFields fuel rest
                  some ((name, value) :: fields, rest)
              | '\x7d' :: rest => some ([(name, value)], rest)
              | _ => none
          | _ => none
      | _ => none

end

/-- The value that a text consists of. -/
def read (text : String) : Option Raw :=
  let chars := text.toList
  match takeValue (2 * chars.length + 2) chars with
  | some (raw, rest) => if skipSpace rest = [] then some raw else none
  | none => none

end Concord.Raw

namespace Concord.Json

/-- The value of a text, within the limits. -/
def read (text : String) : Option Json :=
  Raw.read text >>= Raw.value? Raw.depthLimit

end Concord.Json
