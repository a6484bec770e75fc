import Concord.Json.Binary64
import Concord.Table

/-!
JSON values. Integers and floating-point numbers are told apart; the fields of an object are in the
order in which they are written, which for a value read from a text is that of their names.
-/

namespace Concord

/-- A number of a document. Integers reach from -2^63 to 2^64 - 1. -/
inductive Number where
  | int (value : Int)
  | float (value : Binary64)
  deriving DecidableEq, Repr

/-- An integer and a float are never the same number. -/
def Number.same : Number → Number → Bool
  | .int a, .int b => a == b
  | .float a, .float b => a.same b
  | _, _ => false

inductive Json where
  | null
  | bool (value : Bool)
  | number (value : Number)
  | str (value : String)
  | arr (items : List Json)
  | obj (fields : List (String × Json))
  deriving Repr, Inhabited

namespace Json

def int (value : Int) : Json :=
  .number (.int value)

def nat (value : Nat) : Json :=
  .int value

mutual

/-- Equality of values: numbers are compared as numbers. -/
def same : Json → Json → Bool
  | .null, .null => true
  | .bool a, .bool b => a == b
  | .number a, .number b => a.same b
  | .str a, .str b => a == b
  | .arr a, .arr b => sameItems a b
  | .obj a, .obj b => sameFields a b
  | _, _ => false

def sameItems : List Json → List Json → Bool
  | [], [] => true
  | a :: as, b :: bs => same a b && sameItems as bs
  | _, _ => false

def sameFields : List (String × Json) → List (String × Json) → Bool
  | [], [] => true
  | (i, a) :: as, (j, b) :: bs => i == j && same a b && sameFields as bs
  | _, _ => false

end

instance : BEq Json := ⟨same⟩

end Json

namespace Json

/-- Fields in the order of their names, of fields of one name the last. -/
def sortFields (fields : List (String × Json)) : List (String × Json) :=
  fields.foldl (fun sorted field => insertEntry field.1 field.2 sorted) []

mutual

/-- The same value with the fields of every object in the order of their names. -/
def sorted : Json → Json
  | .arr items => .arr (sortedItems items)
  | .obj fields => .obj (sortFields (sortedFields fields))
  | value => value

def sortedItems : List Json → List Json
  | [] => []
  | item :: rest => sorted item :: sortedItems rest

def sortedFields : List (String × Json) → List (String × Json)
  | [] => []
  | (name, value) :: rest => (name, sorted value) :: sortedFields rest

end

mutual

/-- How many containers are inside one another. -/
def depth : Json → Nat
  | .arr items => itemsDepth items + 1
  | .obj fields => fieldsDepth fields + 1
  | _ => 0

def itemsDepth : List Json → Nat
  | [] => 0
  | item :: rest => max (depth item) (itemsDepth rest)

def fieldsDepth : List (String × Json) → Nat
  | [] => 0
  | (_, value) :: rest => max (depth value) (fieldsDepth rest)

end

end Json

end Concord
