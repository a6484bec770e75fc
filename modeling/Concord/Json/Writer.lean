import Concord.Json.Basic
import Concord.Json.Shortest
import Concord.Text.Hex

/-!
The text of a JSON value, on one line or indented.
-/

namespace Concord

def Number.text : Number → List Char
  | .int value => (toString value).toList
  | .float value => value.text

namespace Json

/-- The letter of the short escapes. -/
def shortEscape? (c : Char) : Option Char :=
  if c = '"' then some '"'
  else if c = '\\' then some '\\'
  else if c = '\x08' then some 'b'
  else if c = '\x0c' then some 'f'
  else if c = '\n' then some 'n'
  else if c = '\r' then some 'r'
  else if c = '\t' then some 't'
  else none

/-- Controls without a short escape are written by number, all else as it is. -/
def escape (c : Char) : List Char :=
  match shortEscape? c with
  | some letter => ['\\', letter]
  | none =>
      if c.toNat < 0x20 then
        ['\\', 'u', '0', '0', Text.Hex.digit (c.toNat / 16), Text.Hex.digit (c.toNat % 16)]
      else [c]

def quote (text : String) : List Char :=
  '"' :: text.toList.flatMap escape ++ ['"']

mutual

/-- A value without any space. -/
def chars : Json → List Char
  | .null => ['n', 'u', 'l', 'l']
  | .bool true => ['t', 'r', 'u', 'e']
  | .bool false => ['f', 'a', 'l', 's', 'e']
  | .number value => value.text
  | .str value => quote value
  | .arr [] => ['[', ']']
  | .arr (item :: rest) => '[' :: chars item ++ itemsChars rest
  | .obj [] => ['\x7b', '\x7d']
  | .obj ((name, value) :: rest) => '\x7b' :: quote name ++ ':' :: chars value ++ fieldsChars rest

/-- The items after the first, and the end of the array. -/
def itemsChars : List Json → List Char
  | [] => [']']
  | item :: rest => ',' :: chars item ++ itemsChars rest

/-- The fields after the first, and the end of the object. -/
def fieldsChars : List (String × Json) → List Char
  | [] => ['\x7d']
  | (name, value) :: rest => ',' :: quote name ++ ':' :: chars value ++ fieldsChars rest

end

def text (value : Json) : String :=
  String.ofList value.chars

/-- A new line at a level, two spaces for each. -/
def newLine (level : Nat) : List Char :=
  '\n' :: List.replicate (2 * level) ' '

mutual

/-- A value with one item or field a line; empty containers stay together. -/
def indented (level : Nat) : Json → List Char
  | .arr [] => ['[', ']']
  | .arr (item :: rest) =>
      '[' :: newLine (level + 1) ++ indented (level + 1) item ++ indentedItems (level + 1) rest ++
        newLine level ++ [']']
  | .obj [] => ['\x7b', '\x7d']
  | .obj ((name, value) :: rest) =>
      '\x7b' :: newLine (level + 1) ++ quote name ++ [':', ' '] ++ indented (level + 1) value ++
        indentedFields (level + 1) rest ++ newLine level ++ ['\x7d']
  | value => chars value

def indentedItems (level : Nat) : List Json → List Char
  | [] => []
  | item :: rest => ',' :: newLine level ++ indented level item ++ indentedItems level rest

def indentedFields (level : Nat) : List (String × Json) → List Char
  | [] => []
  | (name, value) :: rest =>
      ',' :: newLine level ++ quote name ++ [':', ' '] ++ indented level value ++
        indentedFields level rest

end

def prettyText (value : Json) : String :=
  String.ofList (value.indented 0)

end Json

end Concord
