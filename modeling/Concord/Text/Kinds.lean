/-!
Sets of characters as patterns write them in brackets: ranges, and kinds with a name.
-/

namespace Concord.Text

/-- Names for kinds of characters, in the ASCII sense. -/
def isOfKind (kind : String) (c : Char) : Bool :=
  match kind with
  | "alpha" => c.isAlpha
  | "digit" => c.isDigit
  | "alnum" => c.isAlphanum
  | "upper" => c.isUpper
  | "lower" => c.isLower
  | "blank" => c = ' ' || c = '\t'
  | "space" => c = ' ' || ('\t' ≤ c && c ≤ '\r')
  | "punct" => '!' ≤ c && c ≤ '~' && !c.isAlphanum
  | "print" => ' ' ≤ c && c ≤ '~'
  | "graph" => '!' ≤ c && c ≤ '~'
  | "cntrl" => c < ' ' || c = '\x7f'
  | "xdigit" => c.isDigit || ('a' ≤ c && c ≤ 'f') || ('A' ≤ c && c ≤ 'F')
  | _ => false

def kinds : List String :=
  ["alpha", "digit", "alnum", "upper", "lower", "blank", "space", "punct", "print", "graph",
    "cntrl", "xdigit"]

/-- Part of a set of characters. -/
inductive Item where
  | range (first last : Char)
  | kind (name : String)
  deriving DecidableEq, Repr

def Item.has (item : Item) (c : Char) : Bool :=
  match item with
  | range first last => first ≤ c && c ≤ last
  | kind name => isOfKind name c

end Concord.Text
