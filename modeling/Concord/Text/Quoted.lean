import Concord.Text.Printable
import Concord.Text.Hex

/-!
Text and characters quoted for an error message: controls and other characters without a form of
their own are shown by number, the rest as they are.
-/

namespace Concord.Text.Quoted

/-- The number of a character without leading zeros, between braces. -/
def numbered (c : Char) : List Char :=
  "\\u\x7b".toList ++ Nat.toDigits 16 c.toNat ++ ['\x7d']

/-- One character inside quotes; `quote` is the mark that has to be escaped. -/
def escape (quote c : Char) : List Char :=
  if c = '\x00' then ['\\', '0']
  else if c = '\t' then ['\\', 't']
  else if c = '\r' then ['\\', 'r']
  else if c = '\n' then ['\\', 'n']
  else if c = '\\' ∨ c = quote then ['\\', c]
  else if extendingRanges.contains c ∨ hiddenRanges.contains c then numbered c
  else [c]

def string (text : String) : String :=
  String.ofList ('"' :: text.toList.flatMap (escape '"') ++ ['"'])

def char (c : Char) : String :=
  String.ofList ('\'' :: escape '\'' c ++ ['\''])

end Concord.Text.Quoted

namespace Concord.Text

/-- A bad byte is shown as the character of that number. -/
def Hex.Fault.message : Hex.Fault → String
  | .oddLength => "Odd number of digits"
  | .badByte byte index =>
      "Invalid character " ++ Quoted.char (Char.ofNat byte.toNat) ++ " at position " ++
        toString index

end Concord.Text
