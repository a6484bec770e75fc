import Concord.Text.Hex
import Concord.Text.Utf8

/-!
Texts in which a byte may be written as a percent sign and two hexadecimal digits.
-/

namespace Concord.Text.Percent

/-- Puts bytes that are written by number in their place; a percent sign without two digits stands
for itself. -/
def resolve : List UInt8 → List UInt8
  | 0x25 :: high :: low :: rest =>
      match Hex.value? high, Hex.value? low with
      | some h, some l => UInt8.ofNat (16 * h + l) :: resolve rest
      | _, _ => 0x25 :: resolve (high :: low :: rest)
  | byte :: rest => byte :: resolve rest
  | [] => []

def bytes (text : List Char) : List UInt8 :=
  resolve (Utf8.encode (String.ofList text))

end Concord.Text.Percent
