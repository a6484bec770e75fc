import Concord.Json.Reader
import Concord.Json.Writer
import Concord.Text.Quoted

/-!
Records out of JSON. A record stands in a text as an object with its fields in any order, or as an
array of its fields in their own order. Unknown fields of an object are skipped unread; a known
field that is repeated is refused, and so is a longer array. When several fields are at fault, the
one met first in the text is reported, and missing fields after those that are there.
-/

namespace Concord

/-- Why a value is not what it was read as. -/
inductive Mismatch where
  | type (found : Raw) (expected : String)
  | value (found : Int) (expected : String)
  | missing (field : String)
  | short (length : Nat) (expected : String)
  | long (length : Nat)
  | repeated (field : String)
  | variant (name : String)
  | limit

/-- How a value is named in a report. -/
def Raw.noun : Raw → String
  | .null => "null"
  | .bool true => "boolean \x60true\x60"
  | .bool false => "boolean \x60false\x60"
  | .number (some (.int n)) => "integer \x60" ++ toString n ++ "\x60"
  | .number (some (.float x)) => "floating point \x60" ++ String.ofList x.text ++ "\x60"
  | .number none => "number out of range"
  | .str (some s) => "string " ++ Text.Quoted.string s
  | .str none => "broken string"
  | .arr _ => "sequence"
  | .obj _ => "map"

def Mismatch.message : Mismatch → String
  | .type found expected => "invalid type: " ++ found.noun ++ ", expected " ++ expected
  | .value found expected =>
      "invalid value: integer \x60" ++ toString found ++ "\x60, expected " ++ expected
  | .missing field => "missing field \x60" ++ field ++ "\x60"
  | .short length expected => "invalid length " ++ toString length ++ ", expected " ++ expected
  | .long length => "invalid length " ++ toString length ++ ", expected fewer elements in array"
  | .repeated field => "duplicate field \x60" ++ field ++ "\x60"
  | .variant name => "unknown variant \x60" ++ name ++ "\x60"
  | .limit => "beyond the limits of a value"

/-- Reads a value under which so many containers may still be inside one another. -/
abbrev Decoder (α : Type) :=
  Nat → Raw → Except Mismatch α

namespace Decoder

def text : Decoder String := fun _ raw =>
  match raw with
  | .str (some s) => .ok s
  | raw => .error (.type raw "a string")

def flag : Decoder Bool := fun _ raw =>
  match raw with
  | .bool b => .ok b
  | raw => .error (.type raw "a boolean")

/-- Integers between two bounds. -/
def integer (low high : Int) (name : String) : Decoder Int := fun _ raw =>
  match raw with
  | .number (some (.int n)) => if low ≤ n ∧ n ≤ high then .ok n else .error (.value n name)
  | raw => .error (.type raw name)

def word64 : Decoder Nat := fun allowance raw =>
  Int.toNat <$> integer 0 (Nat.pow 2 64 - 1) "u64" allowance raw

def signed64 : Decoder Int :=
  integer (-Nat.pow 2 63) (Nat.pow 2 63 - 1) "i64"

def byte : Decoder UInt8 := fun allowance raw =>
  (UInt8.ofNat ∘ Int.toNat) <$> integer 0 255 "u8" allowance raw

def json : Decoder Json := fun allowance raw =>
  match raw.value? allowance with
  | some value => .ok value
  | none => .error .limit

def option {α : Type} (decode : Decoder α) : Decoder (Option α) := fun allowance raw =>
  match raw with
  | .null => .ok none
  | raw => some <$> decode allowance raw

def list {α : Type} (decode : Decoder α) : Decoder (List α) := fun allowance raw =>
  match raw, allowance with
  | .arr items, allowance + 1 => items.mapM (decode allowance)
  | .arr _, 0 => .error .limit
  | raw, _ => .error (.type raw "a sequence")

/-- The entry of a field of an object used as a table. -/
def entry {κ α : Type} (key : String → Option κ) (decode : Decoder α) (allowance : Nat)
    (field : Option String × Raw) : Except Mismatch (κ × α) :=
  match field.1 with
  | none => .error .limit
  | some name =>
      match key name with
      | none => .error (.variant name)
      | some k => (k, ·) <$> decode allowance field.2

def entries {κ α : Type} (key : String → Option κ) (decode : Decoder α) : Decoder (List (κ × α)) :=
  fun allowance raw =>
    match raw, allowance with
    | .obj fields, allowance + 1 => fields.mapM (entry key decode allowance)
    | .obj _, 0 => .error .limit
    | raw, _ => .error (.type raw "a map")

/-- Of repeated keys the last counts. -/
def table {α : Type} (decode : Decoder α) : Decoder (Table α) := fun allowance raw =>
  Table.ofList <$> entries some decode allowance raw

end Decoder

/-- What reading a field of a record gave: its value, or a fault with its place. -/
def Reading (α : Type) :=
  Except (Nat × Mismatch) α

namespace Reading

variable {α β : Type}

def pure (value : α) : Reading α :=
  Except.ok value

/-- Reads two parts; of two faults the earlier one stands. -/
def seq (f : Reading (α → β)) (x : Unit → Reading α) : Reading β :=
  match f, x () with
  | .ok f, .ok x => Except.ok (f x)
  | .ok _, .error fault => Except.error fault
  | .error fault, .ok _ => Except.error fault
  | .error a, .error b => Except.error (if b.1 < a.1 then b else a)

instance : Applicative Reading where
  pure := pure
  seq := seq

def done (reading : Reading α) : Except Mismatch α :=
  match reading with
  | .ok value => .ok value
  | .error fault => .error fault.2

end Reading

/-- The fields of a record as a text has them. -/
inductive Fields where
  | named (fields : List (String × Raw))
  | placed (items : List Raw)

/-- A record being read: what it is called and what its fields are, and what the text has. -/
structure Opened where
  title : String
  names : List String
  allowance : Nat
  fields : Fields

namespace Opened

variable {α : Type}

/-- The text of a field, with its place. -/
def find? (opened : Opened) (name : String) : Option (Nat × Raw) :=
  match opened.fields with
  | .named fields => do
      let place ← fields.findIdx? (·.1 == name)
      let raw ← fields.lookup name
      some (place, raw)
  | .placed items => do
      let place := opened.names.idxOf name
      let raw ← items[place]?
      some (place, raw)

def absent (opened : Opened) (name : String) : Nat × Mismatch :=
  let index := opened.names.idxOf name
  match opened.fields with
  | .named fields => (fields.length + index, .missing name)
  | .placed _ =>
      let count := opened.names.length
      let unit := if count = 1 then " element" else " elements"
      (index, .short index ("struct " ++ opened.title ++ " with " ++ toString count ++ unit))

def read (opened : Opened) (decode : Decoder α) (found : Nat × Raw) : Reading α :=
  match decode opened.allowance found.2 with
  | .ok value => Except.ok value
  | .error fault => Except.error (found.1, fault)

def required (opened : Opened) (name : String) (decode : Decoder α) : Reading α :=
  match opened.find? name with
  | some found => opened.read decode found
  | none => Except.error (opened.absent name)

def withDefault (opened : Opened) (name : String) (decode : Decoder α) (default : α) : Reading α :=
  match opened.find? name with
  | some found => opened.read decode found
  | none => Except.ok default

def optional (opened : Opened) (name : String) (decode : Decoder α) : Reading (Option α) :=
  opened.withDefault name decode.option none

/-- A record has no field twice and no more items than fields. -/
def whole (opened : Opened) : Reading Unit :=
  match opened.fields with
  | .named fields =>
      match opened.names.find? fun name => 1 < (fields.filter (·.1 == name)).length with
      | some name => Except.error (fields.length, .repeated name)
      | none => Except.ok ()
  | .placed items =>
      if opened.names.length < items.length then
        Except.error (items.length, .long items.length)
      else Except.ok ()

end Opened

/-- The names of fields, unless one is no sequence of characters. -/
def namedFields? : List (Option String × Raw) → Option (List (String × Raw))
  | [] => some []
  | (name, raw) :: rest => do
      let name ← name
      let rest ← namedFields? rest
      some ((name, raw) :: rest)

/-- Reads the record called `title` with fields of these names. -/
def Decoder.record {α : Type} (title : String) (names : List String) (build : Opened → Reading α) :
    Decoder α := fun allowance raw =>
  let finish (allowance : Nat) (fields : Fields) : Except Mismatch α :=
    let opened : Opened := ⟨title, names, allowance, fields⟩
    ((fun value _ => value) <$> build opened <*> opened.whole : Reading α).done
  match raw, allowance with
  | .obj fields, allowance + 1 =>
      match namedFields? fields with
      | some fields => finish allowance (.named fields)
      | none => .error .limit
  | .arr items, allowance + 1 => finish allowance (.placed items)
  | .obj _, 0 => .error .limit
  | .arr _, 0 => .error .limit
  | raw, _ => .error (.type raw ("struct " ++ title))

/-- Splits a tagged value into its tag and what is left of it. -/
def Raw.untag? (tag : String) : Raw → Option (String × Raw)
  | .obj fields =>
      match fields.filter (·.1 == some tag) with
      | [(_, .str (some name))] => some (name, .obj (fields.filter (·.1 != some tag)))
      | _ => none
  | .arr (.str (some name) :: items) => some (name, .arr items)
  | _ => none

/-- Reads a value whose field `tag`, or first item, tells which variant it is. Such a value is taken
whole before it is looked into, so even the fields that are skipped must be within the limits. -/
def Decoder.tagged {α : Type} (tag : String) (variant : String → Option (Decoder α)) : Decoder α :=
  fun allowance raw =>
    match raw.value? allowance with
    | none => .error .limit
    | some _ =>
        match raw.untag? tag with
        | none => .error (.missing tag)
        | some (name, content) =>
            match variant name with
            | none => .error (.variant name)
            | some decode => decode allowance content

/-- A variant without content skips the fields of an object and has no items. -/
def Decoder.bare {α : Type} (value : α) : Decoder α := fun _ raw =>
  match raw with
  | .arr (_ :: rest) => .error (.long (rest.length + 1))
  | _ => .ok value

/-- Reads a record from a text. -/
def Decoder.read? {α : Type} (decode : Decoder α) (text : String) : Option α :=
  match Raw.read text with
  | none => none
  | some raw => (decode Raw.depthLimit raw).toOption

/-- Reads a record from a value. -/
def Decoder.take {α : Type} (decode : Decoder α) (value : Json) : Except Mismatch α :=
  decode (value.depth + 1) value.raw

namespace Json

def table {α : Type} (encode : α → Json) (t : Table α) : Json :=
  .obj (t.entries.map fun entry => (entry.1, encode entry.2))

def option {α : Type} (encode : α → Json) : Option α → Json
  | none => .null
  | some value => encode value

def list {α : Type} (encode : α → Json) (items : List α) : Json :=
  .arr (items.map encode)

end Json

end Concord
