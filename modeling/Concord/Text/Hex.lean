/-!
Bytes as pairs of hexadecimal digits, written in lower case and read in either case.
-/

namespace Concord.Text.Hex

/-- An odd length is found before a bad character; positions count bytes. -/
inductive Fault where
  | oddLength
  | badByte (byte : UInt8) (index : Nat)
  deriving DecidableEq, Repr

def digit (value : Nat) : Char :=
  if value < 10 then Char.ofNat (48 + value) else Char.ofNat (87 + value)

def value? (byte : UInt8) : Option Nat :=
  let code := byte.toNat
  if 48 ≤ code ∧ code ≤ 57 then some (code - 48)
  else if 97 ≤ code ∧ code ≤ 102 then some (code - 87)
  else if 65 ≤ code ∧ code ≤ 70 then some (code - 55)
  else none

def pair (byte : UInt8) : List Char :=
  [digit (byte.toNat / 16), digit (byte.toNat % 16)]

def encode (bytes : List UInt8) : String :=
  String.ofList (bytes.flatMap pair)

/-- Reads digit pairs; `index` is the place of the first byte. -/
def decodePairs (index : Nat) : List UInt8 → Except Fault (List UInt8)
  | [] => .ok []
  | [_] => .error .oddLength
  | high :: low :: rest =>
      match value? high with
      | none => .error (.badByte high index)
      | some h =>
          match value? low with
          | none => .error (.badByte low (index + 1))
          | some l => (UInt8.ofNat (16 * h + l) :: ·) <$> decodePairs (index + 2) rest

def decode (text : String) : Except Fault (List UInt8) :=
  let bytes := text.toUTF8.toList
  if bytes.length % 2 = 1 then .error .oddLength else decodePairs 0 bytes

end Concord.Text.Hex
