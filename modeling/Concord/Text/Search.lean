/-!
Finding one text inside another, and cutting a text into lines.
-/

namespace Concord.Text

/-- The rest behind `label`, when the text starts with it. -/
def dropLabel? : List Char → List Char → Option (List Char)
  | [], rest => some rest
  | _ :: _, [] => none
  | l :: label, c :: rest => if l = c then dropLabel? label rest else none

/-- The text behind the first occurrence of `label`. -/
def after? (label : List Char) : List Char → Option (List Char)
  | [] => dropLabel? label []
  | c :: rest =>
      match dropLabel? label (c :: rest) with
      | some found => some found
      | none => after? label rest

def contains (text label : String) : Bool :=
  (after? label.toList text.toList).isSome

/-- The text before the first mark, and the text behind it if there is a mark. -/
def cut (mark : Char) : List Char → List Char × Option (List Char)
  | [] => ([], none)
  | c :: rest => if c = mark then ([], some rest) else (c :: (cut mark rest).1, (cut mark rest).2)

/-- The pieces of a text between marks. -/
def split (mark : Char) : List Char → List (List Char)
  | [] => [[]]
  | c :: rest =>
      if c = mark then [] :: split mark rest
      else
        match split mark rest with
        | [] => [[c]]
        | piece :: more => (c :: piece) :: more

/-- The pieces between line feeds; a text that ends in one has no empty last piece. -/
def pieces : List Char → List (List Char)
  | [] => []
  | c :: rest =>
      if c = '\n' then [] :: pieces rest
      else
        match pieces rest with
        | [] => [[c]]
        | piece :: more => (c :: piece) :: more

/-- Drops one carriage return at the end. -/
def dropReturn (line : List Char) : List Char :=
  match line.getLast? with
  | some '\r' => line.dropLast
  | _ => line

/-- Lines end in a line feed, before which one carriage return belongs to the line end. A last line
without a line feed keeps its carriage return. -/
def lines (text : List Char) : List (List Char) :=
  match text.getLast? with
  | some '\n' => (pieces text).map dropReturn
  | _ =>
      let all := pieces text
      all.dropLast.map dropReturn ++ all.drop (all.length - 1)

end Concord.Text
