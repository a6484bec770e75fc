/-!
UTF-8 read one byte at a time, with the exact fault of a text that is not UTF-8.
-/

namespace Concord.Text.Utf8

/-- `invalid`: the bytes from `index` on begin no character, seen after `length` of them.
`incomplete`: the text ends inside the character that begins at `index`. -/
inductive Fault where
  | invalid (length index : Nat)
  | incomplete (index : Nat)
  deriving DecidableEq, Repr

def Fault.message : Fault → String
  | .invalid length index =>
      "invalid utf-8 sequence of " ++ toString length ++ " bytes from index " ++ toString index
  | .incomplete index => "incomplete utf-8 byte sequence from index " ++ toString index

/-- A character of which `seen` bytes are read and `owed` are still to come, the next of them
between `low` and `high`. -/
structure Pending where
  start : Nat
  seen : Nat
  owed : Nat
  low : Nat
  high : Nat
  value : Nat
  deriving DecidableEq, Repr

/-- What the first byte of a character promises, or `none` for a byte that begins no character. -/
def Pending.open? (start byte : Nat) : Option Pending :=
  let make owed low high bits := some ⟨start, 1, owed, low, high, byte % bits⟩
  if byte < 0x80 then some ⟨start, 1, 0, 0x80, 0xBF, byte⟩
  else if byte < 0xC2 then none
  else if byte < 0xE0 then make 1 0x80 0xBF 0x20
  else if byte = 0xE0 then make 2 0xA0 0xBF 0x10
  else if byte = 0xED then make 2 0x80 0x9F 0x10
  else if byte < 0xF0 then make 2 0x80 0xBF 0x10
  else if byte = 0xF0 then make 3 0x90 0xBF 0x08
  else if byte < 0xF4 then make 3 0x80 0xBF 0x08
  else if byte = 0xF4 then make 3 0x80 0x8F 0x08
  else none

def Pending.push? (pending : Pending) (byte : Nat) : Option Pending :=
  if pending.low ≤ byte ∧ byte ≤ pending.high then
    some { pending with
      seen := pending.seen + 1
      owed := pending.owed - 1
      low := 0x80
      high := 0xBF
      value := pending.value * 0x40 + byte % 0x40 }
  else none

/-- Reads on from `index`, inside the character `pending` if there is one. -/
def decodeFrom (index : Nat) : Option Pending → List UInt8 → Except Fault (List Char)
  | none, [] => .ok []
  | some pending, [] => .error (.incomplete pending.start)
  | none, byte :: rest =>
      match Pending.open? index byte.toNat with
      | none => .error (.invalid 1 index)
      | some pending =>
          if pending.owed = 0 then
            (Char.ofNat pending.value :: ·) <$> decodeFrom (index + 1) none rest
          else decodeFrom (index + 1) (some pending) rest
  | some pending, byte :: rest =>
      match pending.push? byte.toNat with
      | none => .error (.invalid pending.seen pending.start)
      | some next =>
          if next.owed = 0 then
            (Char.ofNat next.value :: ·) <$> decodeFrom (index + 1) none rest
          else decodeFrom (index + 1) (some next) rest

def decode (bytes : List UInt8) : Except Fault String :=
  String.ofList <$> decodeFrom 0 none bytes

/-- The mark that stands for bytes that are no text. -/
def replacement : Char := '\ufffd'

/-- Reads on with one mark in place of each piece that can begin no character or was broken off. -/
def mendFrom : Option Pending → List UInt8 → List Char
  | none, [] => []
  | some _, [] => [replacement]
  | pending, byte :: rest =>
      match pending.bind (·.push? byte.toNat) with
      | some next =>
          if next.owed = 0 then Char.ofNat next.value :: mendFrom none rest
          else mendFrom (some next) rest
      | none =>
          (if pending.isSome then [replacement] else []) ++
            match Pending.open? 0 byte.toNat with
            | none => replacement :: mendFrom none rest
            | some next =>
                if next.owed = 0 then Char.ofNat next.value :: mendFrom none rest
                else mendFrom (some next) rest

/-- The text of bytes that may be none in places. -/
def mend (bytes : List UInt8) : String :=
  String.ofList (mendFrom none bytes)

def encode (text : String) : List UInt8 :=
  text.toUTF8.toList

end Concord.Text.Utf8
