import Concord.Shell.Arithmetic
import Concord.Utility.Lines

/-!
Putting lines in order: by keys between positions in a line, each compared in its own way, and at
last by all of their bytes.
-/

namespace Concord.Utility

open Work

namespace Order

/-- How two keys are compared. -/
inductive Manner where
  | bytes
  | numeric
  | general
  | human
  | month
  | version
  deriving DecidableEq, Repr

structure Style where
  manner : Manner := .bytes
  reversed : Bool := false
  folded : Bool := false
  wordsOnly : Bool := false
  visibleOnly : Bool := false
  blanksAtStart : Bool := false
  blanksAtEnd : Bool := false
  deriving DecidableEq, Repr

/-- A place in a line: so many fields and so many characters on. -/
structure Position where
  fields : Nat
  chars : Nat
  deriving DecidableEq, Repr

structure Key where
  first : Position
  last : Option Position := none
  style : Style := {}
  deriving DecidableEq, Repr

/-! ### Keys in a line -/

def isBlank (c : Char) : Bool :=
  c = ' ' || c = '\t'

def blanks (text : List Char) : Nat :=
  (text.takeWhile isBlank).length

/-- How long a field is, with what separates it from the next one if that is counted. -/
def fieldLength (mark : Option Char) (closed : Bool) (text : List Char) : Nat :=
  match mark with
  | some mark =>
      let field := (text.takeWhile (· ≠ mark)).length
      if closed && field < text.length then field + 1 else field
  | none =>
      let before := blanks text
      before + ((text.drop before).takeWhile fun c => !isBlank c).length

def start (mark : Option Char) (key : Key) (line : List Char) : Nat :=
  let skip (index : Nat) : Nat := index + fieldLength mark true (line.drop index)
  let index := (List.replicate key.first.fields ()).foldl (fun index _ => skip index) 0
  let index := if key.style.blanksAtStart then index + blanks (line.drop index) else index
  min line.length (index + key.first.chars)

def stop (mark : Option Char) (key : Key) (line : List Char) : Nat :=
  match key.last with
  | none => line.length
  | some last =>
      let fields := if last.chars = 0 then last.fields + 1 else last.fields
      let skip (index left : Nat) : Nat :=
        index + fieldLength mark (left ≠ 0 || last.chars ≠ 0) (line.drop index)
      let index := (List.range fields).foldl (fun index n => skip index (fields - 1 - n)) 0
      if last.chars = 0 then min line.length index
      else
        let index := if key.style.blanksAtEnd then index + blanks (line.drop index) else index
        min line.length (index + last.chars)

def part (mark : Option Char) (key : Key) (line : List Char) : List Char :=
  let first := start mark key line
  (line.drop first).take (stop mark key line - first)

/-! ### Comparing -/

/-- The sign and the size of a number in front of a text, with so many places behind the point. -/
structure Decimal where
  value : Int
  places : Nat

def decimal (text : List Char) : Decimal × List Char :=
  let text := text.dropWhile isBlank
  let (negative, digits) :=
    match text with
    | '-' :: rest => (true, rest)
    | rest => (false, rest)
  let whole := digits.takeWhile Char.isDigit
  let behind := digits.drop whole.length
  let places :=
    match behind with
    | '.' :: rest => rest.takeWhile Char.isDigit
    | _ => []
  let size : Int := Shell.Arithmetic.numeralValue 10 (whole ++ places)
  let rest := if places.isEmpty then behind else behind.drop (places.length + 1)
  (⟨if negative then -size else size, places.length⟩, rest)

def compareDecimals (a b : Decimal) : Ordering :=
  compare (a.value * Nat.pow 10 b.places) (b.value * Nat.pow 10 a.places)

/-- A number with an exponent. -/
def withExponent (text : List Char) : Decimal :=
  let (found, rest) := decimal text
  match rest with
  | mark :: more =>
      if mark = 'e' || mark = 'E' then
        match more with
        | '-' :: digits => { found with places := found.places + exponent digits }
        | '+' :: digits => { found with value := found.value * Nat.pow 10 (exponent digits) }
        | digits => { found with value := found.value * Nat.pow 10 (exponent digits) }
      else found
  | [] => found
where
  exponent (digits : List Char) : Nat :=
    min 400 (Shell.Arithmetic.numeralValue 10 (digits.takeWhile Char.isDigit))

def unitRank (text : List Char) : Nat :=
  match text.head? with
  | some c => (("KMGTPEZYRQ".toList.idxOf? c.toUpper).map (· + 1)).getD 0
  | none => 0

def compareHuman (a b : List Char) : Ordering :=
  let (x, left) := decimal a
  let (y, right) := decimal b
  let rank (value : Int) (rest : List Char) : Int :=
    if value = 0 then 0
    else if value < 0 then -(unitRank rest + 1 : Int) else unitRank rest + 1
  (compare (rank x.value left) (rank y.value right)).then (compareDecimals x y)

def monthOf (text : List Char) : Nat :=
  let name := String.ofList (upper ((text.dropWhile isBlank).take 3))
  ((["JAN", "FEB", "MAR", "APR", "MAY", "JUN", "JUL", "AUG", "SEP", "OCT", "NOV",
    "DEC"].idxOf? name).map (· + 1)).getD 0

/-- Compares texts with the numbers in them as numbers. -/
def compareVersions : Nat → List Char → List Char → Ordering
  | 0, _, _ => .eq
  | fuel + 1, a, b =>
      match a, b with
      | [], [] => .eq
      | [], _ => .lt
      | _, [] => .gt
      | c :: left, d :: right =>
          if c.isDigit && d.isDigit then
            let x := a.takeWhile Char.isDigit
            let y := b.takeWhile Char.isDigit
            (compare (Shell.Arithmetic.numeralValue 10 x) (Shell.Arithmetic.numeralValue 10 y)).then
              (compareVersions fuel (a.drop x.length) (b.drop y.length))
          else (compare (rank c) (rank d)).then (compareVersions fuel left right)
where
  rank (c : Char) : Int :=
    if c = '~' then -1 else if c.isDigit then 0 else if c.isAlpha then c.toNat else c.toNat + 256

def compareTexts (a b : List Char) : Ordering :=
  if a < b then .lt else if b < a then .gt else .eq

/-- A key as far as it counts. -/
def counted (style : Style) (text : List Char) : List Char :=
  let text := if style.wordsOnly then text.filter fun c => c.isAlphanum || isBlank c else text
  let text := if style.visibleOnly then text.filter fun c => ' ' ≤ c && c ≤ '~' else text
  if style.folded then upper text else text

def compareIn (style : Style) (a b : List Char) : Ordering :=
  let found :=
    match style.manner with
    | .bytes => compareTexts (counted style a) (counted style b)
    | .numeric => compareDecimals (decimal a).1 (decimal b).1
    | .general => compareDecimals (withExponent a) (withExponent b)
    | .human => compareHuman a b
    | .month => compare (monthOf a) (monthOf b)
    | .version => compareVersions (a.length + b.length + 1) a b
  if style.reversed then found.swap else found

def compareKeys (mark : Option Char) (a b : List Char) : List Key → Ordering
  | [] => .eq
  | key :: rest =>
      (compareIn key.style (part mark key a) (part mark key b)).then (compareKeys mark a b rest)

/-! ### Options -/

def withLetter (style : Style) (atEnd : Bool) (letter : Char) : Option Style :=
  match letter with
  | 'b' => some (if atEnd then { style with blanksAtEnd := true }
      else { style with blanksAtStart := true })
  | 'd' => some { style with wordsOnly := true }
  | 'f' => some { style with folded := true }
  | 'g' => some { style with manner := .general }
  | 'h' => some { style with manner := .human }
  | 'i' => some { style with visibleOnly := true }
  | 'M' => some { style with manner := .month }
  | 'n' => some { style with manner := .numeric }
  | 'r' => some { style with reversed := true }
  | 'V' => some { style with manner := .version }
  | _ => none

def withLetters (atEnd : Bool) : Style → List Char → Option Style
  | style, [] => some style
  | style, letter :: rest => (withLetter style atEnd letter).bind (withLetters atEnd · rest)

/-- A field and a character, and what is behind them. -/
def position? (text : List Char) : Option (Nat × Option Nat × List Char) := do
  let digits := text.takeWhile Char.isDigit
  let field ← natural? digits
  match text.drop digits.length with
  | '.' :: rest => do
      let digits := rest.takeWhile Char.isDigit
      let char ← natural? digits
      pure (field, some char, rest.drop digits.length)
  | rest => pure (field, none, rest)

def key? (text : List Char) : Option Key := do
  let (field, char, rest) ← position? text
  if field = 0 then none
  else do
    let letters := rest.takeWhile (· ≠ ',')
    let style ← withLetters false {} letters
    let first : Position := ⟨field - 1, char.getD 1 - 1⟩
    match rest.drop letters.length with
    | [] => pure { first, style }
    | _ :: rest => do
        let (field, char, letters) ← position? rest
        let style ← withLetters true style letters
        if field = 0 then none
        else pure { first, last := some ⟨field - 1, char.getD 0⟩, style }

def badKey {α : Type} (text : List Char) : Work α :=
  match position? text with
  | some (0, _, _) =>
      fail 2 ("field number is zero: invalid field specification ".toList ++ quote text)
  | some _ => fail 2 ("stray character in field spec: invalid field specification ".toList ++
      quote text)
  | none =>
      fail 2 ("invalid number at field start: invalid count at start of ".toList ++ quote text)

/-- The only keys that have nothing said about themselves are compared like whole lines. -/
def settled (whole : Style) (key : Key) : Key :=
  if key.style = {} then { key with style := whole } else key

end Order

open Concord.Utility.Order

/-- Lines that differ from the line before them. -/
def withoutRepeats (same : List Char → List Char → Bool) (lines : List (List Char)) :
    List (List Char) :=
  let step (kept : List (List Char)) (line : List Char) : List (List Char) :=
    match kept with
    | last :: _ => if same last line then kept else line :: kept
    | [] => [line]
  (lines.foldl step []).reverse

/-- The first line that does not come behind the one before it, and its number. -/
def firstDisorder (disorder : List Char → List Char → Bool) :
    Nat → List (List Char) → Option (Nat × List Char)
  | number, a :: b :: rest =>
      if disorder a b then some (number + 1, b) else firstDisorder disorder (number + 1) (b :: rest)
  | _, _ => none

def sort : Work Nat := do
  let (given, names) ← options
    { letters := ['b', 'd', 'f', 'g', 'h', 'i', 'M', 'n', 'r', 'V', 'c', 'C', 'm', 's', 'u',
        'z'].map (·, false) ++ [('k', true), ('t', true), ('o', true), ('S', true), ('T', true)]
      names := [("numeric-sort", 'n'), ("reverse", 'r'), ("unique", 'u'), ("key", 'k'),
        ("field-separator", 't'), ("output", 'o'), ("stable", 's'), ("ignore-case", 'f'),
        ("ignore-leading-blanks", 'b'), ("check", 'c'), ("merge", 'm'), ("version-sort", 'V'),
        ("human-numeric-sort", 'h'), ("month-sort", 'M'), ("general-numeric-sort", 'g'),
        ("dictionary-order", 'd')]
      status := 2 }
  let whole := given.foldl (fun style option => (withLetter style false option.1).getD style)
    ({} : Style)
  let whole := { whole with blanksAtEnd := whole.blanksAtStart }
  let keys ← (given.filter fun option => option.1 = 'k').mapM fun option =>
    match key? option.2 with
    | some key => pure (settled whole key)
    | none => badKey option.2
  let keys := if keys.isEmpty then [{ first := ⟨0, 0⟩, style := whole }] else keys
  let mark := (value? given 't').bind List.head?
  let unique := has given 'u'
  let order (a b : List Char) : Ordering :=
    let found := compareKeys mark a b keys
    if unique || has given 's' then found
    else
      let bytes := compareTexts a b
      found.then (if whole.reversed then bytes.swap else bytes)
  let mut text : List (List Char) := []
  for name in orInput names do
    match ← readFile name with
    | .ok content => text := text ++ (lines content).map bare
    | .error problem => fail 2 ("cannot read: ".toList ++ name ++ ": ".toList ++ reason problem)
  if has given 'c' || has given 'C' then
    let bad (a b : List Char) : Bool :=
      let found := order a b
      found = .gt || (unique && found = .eq)
    match firstDisorder bad 1 text with
    | none => pure 0
    | some (number, line) => do
        if has given 'c' then
          complain ((orInput names).headD [] ++ ':' :: naturalText number ++
            ": disorder: ".toList ++ line)
        pure 1
  else do
    let sorted := text.mergeSort fun a b => order a b ≠ .gt
    let kept := if unique then withoutRepeats (fun a b => order a b = .eq) sorted else sorted
    let output := kept.flatMap fun line => line ++ ['\n']
    match value? given 'o' with
    | none => do
        print output
        pure 0
    | some name => do
        let path ← pathOf name
        match ← onFiles (·.write path (Text.Octets.toBytes output)) with
        | .ok () => pure 0
        | .error problem => fail 2 ("open failed: ".toList ++ name ++ ": ".toList ++ reason problem)

end Concord.Utility
