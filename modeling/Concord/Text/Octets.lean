import Concord.Text.Utf8

/-!
Texts byte by byte. Command languages count, cut and compare bytes whatever characters they make, so
a text is there the list of its bytes, each written as the character with that number.
-/

namespace Concord.Text.Octets

def ofBytes (bytes : List UInt8) : List Char :=
  bytes.map fun byte => Char.ofNat byte.toNat

def toBytes (octets : List Char) : List UInt8 :=
  octets.map fun c => c.toNat.toUInt8

def ofString (text : String) : List Char :=
  ofBytes (Utf8.encode text)

/-- The text that the bytes make. Bytes that make none stand for a character each. -/
def asString (octets : List Char) : String :=
  match Utf8.decode (toBytes octets) with
  | .ok text => text
  | .error _ => String.ofList octets

end Concord.Text.Octets
