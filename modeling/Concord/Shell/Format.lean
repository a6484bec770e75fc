import Concord.Json.Binary64
import Concord.Shell.Arithmetic
import Concord.Shell.Session

/-!
Printing by a format: backslashes that stand for other characters, and places that words are put
into. A format is used again while there are words left.
-/

namespace Concord.Shell

namespace Format

/-! ### Backslashes -/

def isOctal (c : Char) : Bool :=
  '0' ≤ c && c ≤ '7'

/-- The character with a number of up to `count` octal digits, and what is behind them. -/
def octal (count : Nat) (text : List Char) : Char × List Char :=
  let found := (text.take count).takeWhile isOctal
  (Char.ofNat (Arithmetic.numeralValue 8 found % 256), text.drop found.length)

def letter? (c : Char) : Option Char :=
  match c with
  | 'a' => some '\x07'
  | 'b' => some '\x08'
  | 'e' => some '\x1b'
  | 'f' => some '\x0c'
  | 'n' => some '\n'
  | 'r' => some '\r'
  | 't' => some '\t'
  | 'v' => some '\x0b'
  | '\\' => some '\\'
  | _ => none

/-- The character that a backslash before this text stands for, and what is behind it. Before any
other character a backslash stands for itself. -/
def escape (text : List Char) : Char × List Char :=
  match text with
  | [] => ('\\', [])
  | c :: rest =>
      if isOctal c then octal 3 (c :: rest)
      else
        match letter? c with
        | some meant => (meant, rest)
        | none => ('\\', c :: rest)

/-- A text with its backslashes resolved, and whether printing goes on behind it. Octal digits are
counted behind a zero. -/
def resolveIn : Nat → List Char → List Char × Bool
  | 0, _ => ([], true)
  | _, [] => ([], true)
  | _, '\\' :: 'c' :: _ => ([], false)
  | fuel + 1, '\\' :: '0' :: rest =>
      let (c, behind) := octal 3 rest
      let (text, goesOn) := resolveIn fuel behind
      (c :: text, goesOn)
  | fuel + 1, '\\' :: rest =>
      let (c, behind) := escape rest
      let (text, goesOn) := resolveIn fuel behind
      (c :: text, goesOn)
  | fuel + 1, c :: rest =>
      let (text, goesOn) := resolveIn fuel rest
      (c :: text, goesOn)

def resolve (text : List Char) : List Char × Bool :=
  resolveIn (text.length + 1) text

/-- Words with their backslashes resolved and blanks in between, and whether printing goes on. -/
def resolveAll : List (List Char) → List Char × Bool
  | [] => ([], true)
  | [word] => resolve word
  | word :: rest =>
      let (front, goesOn) := resolve word
      if goesOn then
        let (behind, goesOn) := resolveAll rest
        (front ++ ' ' :: behind, goesOn)
      else (front, false)

/-- What is printed of words: a line, unless it is said first that the line does not end. -/
def echo (words : List (List Char)) : List Char :=
  match words with
  | ['-', 'n'] :: rest => (resolveAll rest).1
  | words =>
      let (text, goesOn) := resolveAll words
      if goesOn then text ++ ['\n'] else text

/-! ### Layout -/

structure Layout where
  left : Bool := false
  plus : Bool := false
  blank : Bool := false
  alternate : Bool := false
  zero : Bool := false
  width : Nat := 0
  precision : Option Nat := none
  deriving DecidableEq, Repr

namespace Layout

def fill (count : Nat) (c : Char) : List Char :=
  List.replicate count c

/-- Puts a text into its width. -/
def pad (layout : Layout) (text : List Char) : List Char :=
  let missing := fill (layout.width - text.length) ' '
  if layout.left then text ++ missing else missing ++ text

/-- Puts a number into its width; zeros stand behind what is in front of the digits. -/
def padNumber (layout : Layout) (front digits : List Char) (zeros : Bool) : List Char :=
  if layout.zero && !layout.left && zeros then
    front ++ fill (layout.width - (front.length + digits.length)) '0' ++ digits
  else layout.pad (front ++ digits)

def text (layout : Layout) (word : List Char) : List Char :=
  layout.pad (match layout.precision with
    | some length => word.take length
    | none => word)

/-- The digits of a whole number, at least as many as the precision asks for. -/
def digits (layout : Layout) (base value : Nat) : List Char :=
  let found := if value = 0 then [] else Nat.toDigits base value
  let least := layout.precision.getD 1
  fill (least - found.length) '0' ++ found

def sign (layout : Layout) (negative : Bool) : List Char :=
  if negative then ['-'] else if layout.plus then ['+'] else if layout.blank then [' '] else []

def signed (layout : Layout) (value : Int) : List Char :=
  layout.padNumber (layout.sign (value < 0)) (layout.digits 10 value.natAbs)
    layout.precision.isNone

def unsigned (layout : Layout) (kind : Char) (value : Nat) : List Char :=
  let base := if kind = 'o' then 8 else if kind = 'u' then 10 else 16
  let lower := layout.digits base value
  let digits := if kind = 'X' then lower.map Char.toUpper else lower
  let front :=
    if layout.alternate && base = 16 && value ≠ 0 then ['0', kind] else []
  let digits :=
    if layout.alternate && base = 8 && digits.head? ≠ some '0' then '0' :: digits else digits
  layout.padNumber front digits layout.precision.isNone

/-! ### Fractions -/

/-- Digits with so many places behind the point. -/
def placed (layout : Layout) (places value : Nat) : List Char :=
  let all := Nat.toDigits 10 value
  let all := fill (places + 1 - all.length) '0' ++ all
  let whole := all.take (all.length - places)
  if places = 0 && !layout.alternate then whole
  else whole ++ '.' :: all.drop (all.length - places)

def fixed (layout : Layout) (places : Nat) (ratio : Nat × Nat) : List Char :=
  layout.placed places (Binary64.roundQuotient (ratio.1 * Nat.pow 10 places) ratio.2)

/-- The exponent of the first digit of a positive number. -/
def firstDigit (ratio : Nat × Nat) : Int :=
  let whole := ratio.1 / ratio.2
  if whole ≠ 0 then ((Nat.toDigits 10 whole).length : Int) - 1
  else -((Nat.toDigits 10 ((ratio.2 - 1) / ratio.1)).length : Int)

/-- The digits of a number, rounded to so many places behind the first one, and its exponent. -/
def scientificParts (places : Nat) (ratio : Nat × Nat) : Nat × Int :=
  if ratio.1 = 0 then (0, 0)
  else
    let exponent := firstDigit ratio
    let shift := (places : Int) - exponent
    let rounded :=
      Binary64.roundQuotient (ratio.1 * Nat.pow 10 shift.toNat)
        (ratio.2 * Nat.pow 10 (-shift).toNat)
    if rounded = Nat.pow 10 (places + 1) then (Nat.pow 10 places, exponent + 1)
    else (rounded, exponent)

def exponentText (upper : Bool) (exponent : Int) : List Char :=
  let digits := Nat.toDigits 10 exponent.natAbs
  (if upper then 'E' else 'e') :: (if exponent < 0 then '-' else '+') ::
    fill (2 - digits.length) '0' ++ digits

def scientific (layout : Layout) (upper : Bool) (places : Nat) (ratio : Nat × Nat) : List Char :=
  let (value, exponent) := scientificParts places ratio
  layout.placed places value ++ exponentText upper exponent

/-- Drops zeros behind the point, and the point if nothing is behind it. -/
def withoutZeros (digits : List Char) : List Char :=
  if digits.contains '.' then
    let kept := (digits.reverse.dropWhile (· = '0'))
    (if kept.head? = some '.' then kept.drop 1 else kept).reverse
  else digits

/-- The shorter of the two forms, with so many digits that count. -/
def general (layout : Layout) (upper : Bool) (ratio : Nat × Nat) : List Char :=
  let count := max 1 (layout.precision.getD 6)
  let (value, exponent) := scientificParts (count - 1) ratio
  let trim (digits : List Char) := if layout.alternate then digits else withoutZeros digits
  if -4 ≤ exponent && exponent < count then
    trim (layout.fixed ((count : Int) - 1 - exponent).toNat ratio)
  else trim (layout.placed (count - 1) value) ++ exponentText upper exponent

def fraction (layout : Layout) (kind : Char) (value : Binary64) : List Char :=
  let places := layout.precision.getD 6
  let upper := kind.isUpper
  let digits :=
    match kind.toLower with
    | 'f' => layout.fixed places value.ratio
    | 'e' => layout.scientific upper places value.ratio
    | _ => layout.general upper value.ratio
  layout.padNumber (layout.sign value.negative) digits true

end Layout

/-! ### Numbers in words -/

/-- Why a word is not quite the number that was asked for. -/
inductive Doubt where
  | none
  | notNumeric
  | notWhole
  | outOfRange
  deriving DecidableEq, Repr

def Doubt.message? (doubt : Doubt) (word : List Char) : Option (List Char) :=
  match doubt with
  | .none => Option.none
  | .notNumeric => some (word ++ ": expected numeric value".toList)
  | .notWhole => some (word ++ ": not completely converted".toList)
  | .outOfRange => some (word ++ ": Numerical result out of range".toList)

def doubt (word behind : List Char) (inRange : Bool) : Doubt :=
  if behind.isEmpty then if inRange then .none else .outOfRange
  else if behind.length = word.length then .notNumeric
  else .notWhole

def signOf (text : List Char) : Bool × List Char :=
  match text with
  | '-' :: rest => (true, rest)
  | '+' :: rest => (false, rest)
  | rest => (false, rest)

/-- The integer in front of a word. A quote in front asks for the number of the next character. -/
def integer (word : List Char) (unsigned : Bool) : Int × Doubt :=
  match word with
  | '"' :: rest => (((rest.headD '\x00').toNat : Int), .none)
  | '\'' :: rest => (((rest.headD '\x00').toNat : Int), .none)
  | word =>
      let (negative, digits) := signOf (word.dropWhile Arithmetic.isSpace)
      match Arithmetic.numeral? digits with
      | none => (0, doubt word word true)
      | some (value, behind) =>
          let signed : Int := if negative then -value else value
          if unsigned then
            if value < Nat.pow 2 64 then (signed % Nat.pow 2 64, doubt word behind true)
            else (Nat.pow 2 64 - 1, doubt word behind false)
          else
            let clamped := max (-Arithmetic.largest - 1) (min Arithmetic.largest signed)
            (clamped, doubt word behind (clamped = signed))

/-- The number in front of a word, as digits with a point and an exponent. -/
def real (word : List Char) : Binary64 × Doubt :=
  match word with
  | '"' :: rest => ((Binary64.ofNat (rest.headD '\x00').toNat).getD (Binary64.zero false), .none)
  | '\'' :: rest => ((Binary64.ofNat (rest.headD '\x00').toNat).getD (Binary64.zero false), .none)
  | word =>
      let (negative, digits) := signOf (word.dropWhile Arithmetic.isSpace)
      let whole := digits.takeWhile Char.isDigit
      let behind := digits.drop whole.length
      let places := if behind.head? = some '.' then (behind.drop 1).takeWhile Char.isDigit else []
      let behind := if behind.head? = some '.' && !(whole.isEmpty && places.isEmpty) then
          behind.drop (places.length + 1) else behind
      if whole.isEmpty && places.isEmpty then (Binary64.zero false, doubt word word true)
      else
        let (exponent, behind) := exponentOf behind
        let shift := exponent - places.length
        let value := Arithmetic.numeralValue 10 (whole ++ places)
        match Binary64.ofRatio negative (value * Nat.pow 10 (min shift.toNat 400))
            (Nat.pow 10 (min (-shift).toNat 800)) with
        | some found => (found, doubt word behind true)
        | none => (Binary64.zero negative, doubt word behind false)
where
  exponentOf (behind : List Char) : Int × List Char :=
    match behind with
    | mark :: rest =>
        if mark = 'e' || mark = 'E' then
          let (negative, digits) := signOf rest
          let found := digits.takeWhile Char.isDigit
          if found.isEmpty then (0, behind)
          else
            let value : Int := Arithmetic.numeralValue 10 found
            (if negative then -value else value, digits.drop found.length)
        else (0, behind)
    | [] => (0, [])

/-! ### Formats -/

/-- What was printed so far, what was said about the words, and the words that are left. -/
structure Printing where
  output : List Char := []
  messages : List (List Char) := []
  words : List (List Char)
  ended : Bool := false
  fault : Option (List Char) := none

namespace Printing

def put (printing : Printing) (text : List Char) : Printing :=
  { printing with output := printing.output ++ text }

/-- The next word, an empty one if there is none left. -/
def next (printing : Printing) : List Char × Printing :=
  (printing.words.headD [], { printing with words := printing.words.drop 1 })

def note (printing : Printing) (word : List Char) (doubt : Doubt) : Printing :=
  { printing with messages := printing.messages ++ (doubt.message? word).toList }

def nextInteger (printing : Printing) (unsigned : Bool) : Int × Printing :=
  let (word, printing) := printing.next
  let (value, doubt) := integer word unsigned
  (value, printing.note word doubt)

def nextReal (printing : Printing) : Binary64 × Printing :=
  let (word, printing) := printing.next
  let (value, doubt) := real word
  (value, printing.note word doubt)

end Printing

/-- Marks behind a percent sign that say how a place is filled. -/
def flags (layout : Layout) : List Char → Layout × List Char
  | '#' :: rest => flags { layout with alternate := true } rest
  | '-' :: rest => flags { layout with left := true } rest
  | '+' :: rest => flags { layout with plus := true } rest
  | ' ' :: rest => flags { layout with blank := true } rest
  | '0' :: rest => flags { layout with zero := true } rest
  | rest => (layout, rest)

def withWidth (layout : Layout) (width : Int) : Layout :=
  if width < 0 then { layout with left := true, width := width.natAbs }
  else { layout with width := width.toNat }

/-- The width and the precision of a place; a star takes them from the words. -/
def measures (layout : Layout) (printing : Printing) (text : List Char) :
    Layout × Printing × List Char :=
  let (layout, printing, text) :=
    match text with
    | '*' :: rest =>
        let (width, printing) := printing.nextInteger false
        (withWidth layout width, printing, rest)
    | text =>
        let found := text.takeWhile Char.isDigit
        ({ layout with width := Arithmetic.numeralValue 10 found }, printing,
          text.drop found.length)
  match text with
  | '.' :: '*' :: rest =>
      let (length, printing) := printing.nextInteger false
      ({ layout with precision := if length < 0 then none else some length.toNat }, printing, rest)
  | '.' :: rest =>
      let found := rest.takeWhile Char.isDigit
      ({ layout with precision := some (Arithmetic.numeralValue 10 found) }, printing,
        rest.drop found.length)
  | text => (layout, printing, text)

/-- Fills one place; `none` if there is no such place. -/
def fillPlace (layout : Layout) (kind : Char) (printing : Printing) : Option Printing :=
  match kind with
  | 's' =>
      let (word, printing) := printing.next
      some (printing.put (layout.text word))
  | 'b' =>
      let (word, printing) := printing.next
      let (text, goesOn) := resolve word
      some { printing.put (layout.text text) with ended := !goesOn }
  | 'c' =>
      let (word, printing) := printing.next
      some (printing.put (layout.pad [word.headD '\x00']))
  | _ =>
      if kind = 'd' || kind = 'i' then
        let (value, printing) := printing.nextInteger false
        some (printing.put (layout.signed value))
      else if kind = 'o' || kind = 'u' || kind = 'x' || kind = 'X' then
        let (value, printing) := printing.nextInteger true
        some (printing.put (layout.unsigned kind value.toNat))
      else if kind ∈ ['e', 'E', 'f', 'F', 'g', 'G'] then
        let (value, printing) := printing.nextReal
        some (printing.put (layout.fraction kind value))
      else none

/-- Prints by a format from its front to its end. -/
def once : Nat → List Char → Printing → Printing
  | 0, _, printing => printing
  | _, [], printing => printing
  | fuel + 1, '\\' :: rest, printing =>
      let (c, behind) := escape rest
      once fuel behind (printing.put [c])
  | fuel + 1, '%' :: '%' :: rest, printing => once fuel rest (printing.put ['%'])
  | fuel + 1, '%' :: rest, printing =>
      let (layout, behind) := flags {} rest
      let (layout, printing, behind) := measures layout printing behind
      match behind with
      | [] => { printing with fault := some "missing format character".toList, ended := true }
      | kind :: behind =>
          match fillPlace layout kind printing with
          | some filled => if filled.ended then filled else once fuel behind filled
          | none =>
              let start := '%' :: rest.take (rest.length - behind.length)
              { printing with
                fault := some (start ++ ": invalid directive".toList), ended := true }
  | fuel + 1, c :: rest, printing => once fuel rest (printing.put [c])

/-- Prints by a format until no words are left; a format without places is used once. -/
def repeated (format : List Char) : Nat → Printing → Printing
  | 0, printing => printing
  | count + 1, printing =>
      let after := once (format.length + 1) format printing
      if after.ended || after.words.isEmpty || after.words.length = printing.words.length then after
      else repeated format count after

def printf (format : List Char) (words : List (List Char)) : Printing :=
  repeated format (words.length + 1) { words }

end Format

end Concord.Shell
