import Concord.Json.Basic

/-!
JSON as it stands in a text, before the limits on values apply. A text that is skipped may hold a
number out of range, half of a surrogate pair or any number of containers inside one another; only
what is taken as a value may not.
-/

namespace Concord

/-- `none` is a number out of range, or a string that is no sequence of characters. Fields are in
the order of the text and may repeat a name. -/
inductive Raw where
  | null
  | bool (value : Bool)
  | number (value : Option Number)
  | str (value : Option String)
  | arr (items : List Raw)
  | obj (fields : List (Option String × Raw))
  deriving Inhabited

namespace Raw

/-- How many containers inside one another a value may have. -/
def depthLimit : Nat := 127

mutual

/-- The value, with the fields of objects in the order of their names and of repeated names the
last; `none` beyond the limits, where `allowance` containers may be inside one another. -/
def value? (allowance : Nat) : Raw → Option Json
  | .null => some .null
  | .bool b => some (.bool b)
  | .number n => .number <$> n
  | .str s => .str <$> s
  | .arr items =>
      match allowance with
      | 0 => none
      | allowance + 1 => .arr <$> itemValues? allowance items
  | .obj fields =>
      match allowance with
      | 0 => none
      | allowance + 1 => (.obj ∘ Json.sortFields) <$> fieldValues? allowance fields

def itemValues? (allowance : Nat) : List Raw → Option (List Json)
  | [] => some []
  | item :: rest => do
      let value ← value? allowance item
      let values ← itemValues? allowance rest
      some (value :: values)

def fieldValues? (allowance : Nat) : List (Option String × Raw) → Option (List (String × Json))
  | [] => some []
  | (name, raw) :: rest => do
      let name ← name
      let value ← value? allowance raw
      let values ← fieldValues? allowance rest
      some ((name, value) :: values)

end

end Raw

namespace Json

mutual

/-- A value as it stands in its own text. -/
def raw : Json → Raw
  | .null => .null
  | .bool b => .bool b
  | .number n => .number (some n)
  | .str s => .str (some s)
  | .arr items => .arr (rawItems items)
  | .obj fields => .obj (rawFields fields)

def rawItems : List Json → List Raw
  | [] => []
  | item :: rest => raw item :: rawItems rest

def rawFields : List (String × Json) → List (Option String × Raw)
  | [] => []
  | (name, value) :: rest => (some name, raw value) :: rawFields rest

end

end Json

end Concord
