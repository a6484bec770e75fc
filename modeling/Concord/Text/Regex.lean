import Concord.Text.Kinds

/-!
Regular expressions in their two spellings, basic and extended. Of the matches that begin first the
longest one counts; of equally long ones, the one in which what comes first takes most.
-/

namespace Concord.Text

inductive Edge where
  | lineStart
  | lineEnd
  | wordStart
  | wordEnd
  | word
  | noWord
  | noWordBefore
  | noWordBehind
  deriving DecidableEq, Repr

inductive Regex where
  | nothing
  | one (c : Char)
  | any
  | set (excluded : Bool) (items : List Item)
  | edge (edge : Edge)
  | sequence (first second : Regex)
  | either (first second : Regex)
  | group (number : Nat) (inner : Regex)
  | again (number : Nat)
  | repetition (inner : Regex) (least : Nat) (most : Option Nat)

namespace Regex

/-! ### Matching -/

/-- A place in a text: the character before it and the text behind it, and what groups have matched
on the way there. -/
structure Cursor where
  before : Option Char := none
  rest : List Char
  position : Nat := 0
  groups : List (Nat × List Char) := []

abbrev Best := Option Cursor

abbrev Next := Cursor → Best → Best

def better (cursor : Cursor) (best : Best) : Best :=
  match best with
  | some found => if found.position < cursor.position then some cursor else some found
  | none => some cursor

/-- Nothing is longer than a match that reaches the end of the text. -/
def isLongest (best : Best) : Bool :=
  best.any fun cursor => cursor.rest.isEmpty

def isWordChar (c : Char) : Bool :=
  c.isAlphanum || c = '_'

def Edge.holds (edge : Edge) (cursor : Cursor) : Bool :=
  let before := cursor.before.any isWordChar
  let behind := cursor.rest.head?.any isWordChar
  match edge with
  | .lineStart => cursor.before.isNone
  | .lineEnd => cursor.rest.isEmpty
  | .wordStart => !before && behind
  | .wordEnd => before && !behind
  | .word => before != behind
  | .noWord => before == behind
  | .noWordBefore => !before
  | .noWordBehind => !behind

def sameChar (caseless : Bool) (a b : Char) : Bool :=
  a = b || (caseless && a.toLower = b.toLower)

def inSet (caseless : Bool) (items : List Item) (c : Char) : Bool :=
  items.any (·.has c) ||
    (caseless && (items.any (·.has c.toLower) || items.any (·.has c.toUpper)))

def step (fits : Char → Bool) (cursor : Cursor) (next : Next) (best : Best) : Best :=
  match cursor.rest with
  | c :: rest =>
      if fits c then
        next { cursor with before := some c, rest, position := cursor.position + 1 } best
      else best
  | [] => best

/-- Goes on behind a text that is there once more. -/
def repeatText (caseless : Bool) : List Char → Cursor → Next → Best → Best
  | [], cursor, next, best => next cursor best
  | c :: text, cursor, next, best =>
      step (sameChar caseless c) cursor (repeatText caseless text · next) best

/-- Repeats a step as often as possible, then less often. A repetition that takes nothing is not
repeated. -/
def iterate (inner : Cursor → Next → Best → Best) :
    Nat → Nat → Option Nat → Cursor → Next → Best → Best
  | 0, least, _, cursor, next, best => if least = 0 then next cursor best else best
  | fuel + 1, least, most, cursor, next, best =>
      let onward (after : Cursor) (best : Best) : Best :=
        if after.position = cursor.position && least = 0 then best
        else iterate inner fuel (least - 1) (most.map (· - 1)) after next best
      let best := if most = some 0 then best else inner cursor onward best
      if isLongest best || least ≠ 0 then best else next cursor best

def go (caseless : Bool) : Regex → Cursor → Next → Best → Best
  | .nothing, cursor, next, best => next cursor best
  | .one c, cursor, next, best => step (sameChar caseless c) cursor next best
  | .any, cursor, next, best => step (fun _ => true) cursor next best
  | .set excluded items, cursor, next, best =>
      step (fun c => inSet caseless items c != excluded) cursor next best
  | .edge place, cursor, next, best => if Edge.holds place cursor then next cursor best else best
  | .sequence first second, cursor, next, best =>
      go caseless first cursor (fun after best => go caseless second after next best) best
  | .either first second, cursor, next, best =>
      let best := go caseless first cursor next best
      if isLongest best then best else go caseless second cursor next best
  | .group number inner, cursor, next, best =>
      go caseless inner cursor
        (fun after best =>
          let text := cursor.rest.take (after.position - cursor.position)
          next { after with groups := (number, text) :: after.groups } best)
        best
  | .again number, cursor, next, best =>
      match cursor.groups.lookup number with
      | some text => repeatText caseless text cursor next best
      | none => best
  | .repetition inner least most, cursor, next, best =>
      iterate (go caseless inner) (cursor.rest.length + least + 1) least most cursor next best

/-- The longest match that begins at a place, as the place where it ends. -/
def matchAt (regex : Regex) (caseless : Bool) (cursor : Cursor) : Option Cursor :=
  go caseless regex { cursor with groups := [] } better none

/-- A match: the text before it, the text of it and the place behind it. -/
structure Match where
  skipped : List Char
  text : List Char
  stop : Cursor

/-- The first match from a place on. -/
def findFrom (regex : Regex) (caseless : Bool) :
    List Char → Option Char → Nat → List Char → Option Match
  | skipped, before, position, rest =>
      match regex.matchAt caseless { before, rest, position } with
      | some stop => some ⟨skipped.reverse, rest.take (stop.position - position), stop⟩
      | none =>
          match rest with
          | [] => none
          | c :: rest => findFrom regex caseless (c :: skipped) (some c) (position + 1) rest
termination_by _ _ _ rest => rest.length

def find (regex : Regex) (caseless : Bool) (cursor : Cursor) : Option Match :=
  regex.findFrom caseless [] cursor.before cursor.position cursor.rest

def hasMatch (regex : Regex) (caseless : Bool) (text : List Char) : Bool :=
  (regex.find caseless { rest := text }).isSome

/-- What a group has matched; the whole match is the group with the number 0. -/
def Match.group (found : Match) (number : Nat) : List Char :=
  if number = 0 then found.text else (found.stop.groups.lookup number).getD []

/-! ### Reading -/

inductive Fault where
  | openGroup
  | closedGroup
  | openSet
  | bareSet
  | openCount
  | badCount
  | badRange
  | nothingToRepeat
  | trailingBackslash
  | unknownGroup
  | unknownKind
  deriving DecidableEq, Repr

def Fault.message : Fault → String
  | openGroup => "Unmatched ( or \\("
  | closedGroup => "Unmatched ) or \\)"
  | openSet => "Unmatched [, [^, [:, [., or [="
  | bareSet => "Invalid regular expression"
  | openCount => "Unmatched \\\x7b"
  | badCount => "Invalid content of \\\x7b\\\x7d"
  | badRange => "Invalid range end"
  | nothingToRepeat => "Invalid preceding regular expression"
  | trailingBackslash => "Trailing backslash"
  | unknownGroup => "Invalid back reference"
  | unknownKind => "Invalid character class name"

/-- A sign of an expression, with its meaning told apart from the character. -/
inductive Sign where
  | char (c : Char)
  | dot
  | openGroup
  | closeGroup
  | bar
  | star
  | plus
  | maybe
  | count (least : Nat) (most : Option Nat)
  | set (excluded : Bool) (items : List Item)
  | edge (edge : Edge)
  | caret
  | dollar
  | again (number : Nat)

/-- The name of a kind, between colons and brackets. -/
def kindName? : List Char → Option (List Char × List Char)
  | ':' :: ']' :: rest => some ([], rest)
  | c :: rest => (kindName? rest).map fun (name, behind) => (c :: name, behind)
  | [] => none

/-- The items of a set up to its bracket, which is an item where it stands first. -/
def items (first : Bool) : Nat → List Char → Except Fault (List Item × List Char)
  | 0, _ => .error .openSet
  | _, [] => .error .openSet
  | fuel + 1, c :: rest =>
      if c = ']' && !first then .ok ([], rest)
      else
        let plain : Except Fault (List Item × List Char) :=
          match rest with
          | '-' :: last :: behind =>
              if last = ']' then do
                let (more, left) ← items false fuel rest
                .ok (.range c c :: more, left)
              else if last < c then .error .badRange
              else do
                let (more, left) ← items false fuel behind
                .ok (.range c last :: more, left)
          | rest => do
              let (more, left) ← items false fuel rest
              .ok (.range c c :: more, left)
        match c, rest with
        | '[', ':' :: behind =>
            match kindName? behind with
            | some (name, left) =>
                if String.ofList name ∈ kinds then do
                  let (more, left) ← items false fuel left
                  .ok (.kind (String.ofList name) :: more, left)
                else .error .unknownKind
            | none => .error .openSet
        | '[', '=' :: d :: '=' :: ']' :: left => do
            let (more, left) ← items false fuel left
            .ok (.range d d :: more, left)
        | '[', '.' :: d :: '.' :: ']' :: left => do
            let (more, left) ← items false fuel left
            .ok (.range d d :: more, left)
        | _, _ => plain

def readSet (text : List Char) : Except Fault (Sign × List Char) := do
  match text with
  | [] => .error .bareSet
  | '^' :: rest => do
      let (found, left) ← items true (rest.length + 1) rest
      .ok (.set true found, left)
  | rest => do
      let (found, left) ← items true (rest.length + 1) rest
      .ok (.set false found, left)

def numeral (digits : List Char) : Nat :=
  digits.foldl (fun value c => 10 * value + (c.toNat - 48)) 0

/-- The numbers of a count, and what is behind them. -/
def countIn? (text : List Char) : Option (Nat × Option Nat × List Char) :=
  let low := text.takeWhile Char.isDigit
  match text.drop low.length with
  | ',' :: rest =>
      let high := rest.takeWhile Char.isDigit
      let most := if high.isEmpty then none else some (numeral high)
      if most.any (· < numeral low) then none
      else some (numeral low, most, rest.drop high.length)
  | rest => if low.isEmpty then none else some (numeral low, some (numeral low), rest)

def braced (extended : Bool) (text : List Char) : Except Fault (Sign × List Char) :=
  match countIn? text with
  | some (least, most, rest) =>
      match extended, rest with
      | true, '}' :: rest => .ok (.count least most, rest)
      | false, '\\' :: '}' :: rest => .ok (.count least most, rest)
      | true, _ => .ok (.char '{', text)
      | false, _ => if rest.isEmpty then .error .openCount else .error .badCount
  | none => if extended then .ok (.char '{', text) else .error .badCount

/-- What a backslash before a letter means in both spellings. -/
def letterSign? (c : Char) : Option Sign :=
  match c with
  | 'w' => some (.set false [.kind "alnum", .range '_' '_'])
  | 'W' => some (.set true [.kind "alnum", .range '_' '_'])
  | 's' => some (.set false [.kind "space"])
  | 'S' => some (.set true [.kind "space"])
  | 'b' => some (.edge .word)
  | 'B' => some (.edge .noWord)
  | '<' => some (.edge .wordStart)
  | '>' => some (.edge .wordEnd)
  | '\'' => some (.edge .lineEnd)
  | '\x60' => some (.edge .lineStart)
  | _ => if '1' ≤ c && c ≤ '9' then some (.again (c.toNat - 48)) else none

/-- The meaning of a sign that is written with a backslash in the basic spelling and without one in
the extended one. -/
def markSign? (c : Char) : Option Sign :=
  match c with
  | '(' => some .openGroup
  | ')' => some .closeGroup
  | '|' => some .bar
  | '+' => some .plus
  | '?' => some .maybe
  | _ => none

def escapedSign (extended : Bool) (c : Char) (rest : List Char) : Except Fault (Sign × List Char) :=
  match letterSign? c with
  | some sign => .ok (sign, rest)
  | none =>
      if extended then .ok (.char c, rest)
      else if c = '{' then braced false rest
      else .ok ((markSign? c).getD (.char c), rest)

def plainSign (extended : Bool) (c : Char) (rest : List Char) : Except Fault (Sign × List Char) :=
  match c with
  | '.' => .ok (.dot, rest)
  | '[' => readSet rest
  | '*' => .ok (.star, rest)
  | '^' => .ok (.caret, rest)
  | '$' => .ok (.dollar, rest)
  | c =>
      if !extended then .ok (.char c, rest)
      else if c = '{' then braced true rest
      else .ok ((markSign? c).getD (.char c), rest)

def signs (extended : Bool) : Nat → List Char → Except Fault (List Sign)
  | 0, _ => .ok []
  | _, [] => .ok []
  | _, ['\\'] => .error .trailingBackslash
  | fuel + 1, '\\' :: c :: rest => do
      let (sign, rest) ← escapedSign extended c rest
      .ok (sign :: (← signs extended fuel rest))
  | fuel + 1, c :: rest => do
      let (sign, rest) ← plainSign extended c rest
      .ok (sign :: (← signs extended fuel rest))

/-- An expression, the number of groups so far, and the signs behind it. -/
abbrev Reading := Except Fault (Regex × Nat × List Sign)

/-- Does the front of some signs end an expression, so that a dollar before it stands at its end? -/
def endsHere : List Sign → Bool
  | [] => true
  | .bar :: _ => true
  | .closeGroup :: _ => true
  | _ => false

/-- The counts behind an expression. -/
def repeated : Nat → Regex → List Sign → Regex × List Sign
  | 0, inner, signs => (inner, signs)
  | fuel + 1, inner, signs =>
      match signs with
      | .star :: rest => repeated fuel (.repetition inner 0 none) rest
      | .plus :: rest => repeated fuel (.repetition inner 1 none) rest
      | .maybe :: rest => repeated fuel (.repetition inner 0 (some 1)) rest
      | .count least most :: rest => repeated fuel (.repetition inner least most) rest
      | signs => (inner, signs)

mutual

def alternatives (extended : Bool) (depth count : Nat) : Nat → List Sign → Reading
  | 0, signs => .ok (.nothing, count, signs)
  | fuel + 1, signs => do
      let (first, count, rest) ← branch extended depth count true fuel signs
      match rest with
      | .bar :: rest => do
          let (second, count, rest) ← alternatives extended depth count fuel rest
          .ok (.either first second, count, rest)
      | rest => .ok (first, count, rest)
termination_by structural fuel => fuel

/-- Signs in a row. In front of an expression a caret is an edge and a star is a character in the
basic spelling. -/
def branch (extended : Bool) (depth count : Nat) (inFront : Bool) : Nat → List Sign → Reading
  | 0, signs => .ok (.nothing, count, signs)
  | fuel + 1, signs =>
      match signs with
      | [] => .ok (.nothing, count, [])
      | .bar :: _ => .ok (.nothing, count, signs)
      | .closeGroup :: rest =>
          if depth = 0 then
            if extended then behind extended depth count (.one ')') fuel rest
            else .error .closedGroup
          else .ok (.nothing, count, signs)
      | .openGroup :: rest => do
          let number := count + 1
          let (inner, count, rest) ← alternatives extended (depth + 1) number fuel rest
          match rest with
          | .closeGroup :: rest => behind extended depth count (.group number inner) fuel rest
          | _ => .error .openGroup
      | .caret :: rest =>
          if extended || inFront then do
            let (second, count, rest) ← branch extended depth count true fuel rest
            .ok (.sequence (.edge .lineStart) second, count, rest)
          else behind extended depth count (.one '^') fuel rest
      | .dollar :: rest =>
          if extended || endsHere rest then do
            let (second, count, rest) ← branch extended depth count false fuel rest
            .ok (.sequence (.edge .lineEnd) second, count, rest)
          else behind extended depth count (.one '$') fuel rest
      | .star :: rest =>
          if inFront then
            if extended then branch extended depth count true fuel rest
            else behind extended depth count (.one '*') fuel rest
          else .error .nothingToRepeat
      | .plus :: rest =>
          if extended then branch extended depth count true fuel rest
          else behind extended depth count (.one '+') fuel rest
      | .maybe :: rest =>
          if extended then branch extended depth count true fuel rest
          else behind extended depth count (.one '?') fuel rest
      | .count _ _ :: _ => .error .nothingToRepeat
      | .char c :: rest => behind extended depth count (.one c) fuel rest
      | .dot :: rest => behind extended depth count .any fuel rest
      | .set excluded items :: rest =>
          behind extended depth count (.set excluded items) fuel rest
      | .edge place :: rest => behind extended depth count (.edge place) fuel rest
      | .again number :: rest =>
          if count < number then .error .unknownGroup
          else behind extended depth count (.again number) fuel rest
termination_by structural fuel => fuel

/-- An expression with its counts, and what follows it. -/
def behind (extended : Bool) (depth count : Nat) (inner : Regex) : Nat → List Sign → Reading
  | 0, signs => .ok (inner, count, signs)
  | fuel + 1, signs => do
      let (first, rest) := repeated signs.length inner signs
      let (second, count, rest) ← branch extended depth count false fuel rest
      .ok (.sequence first second, count, rest)
termination_by structural fuel => fuel

end

/-- The expression that a text is, and how many groups it has. -/
def read (extended : Bool) (text : List Char) : Except Fault (Regex × Nat) := do
  let signs ← signs extended (text.length + 1) text
  let (found, count, _) ← alternatives extended 0 0 (4 * signs.length + 4) signs
  .ok (found, count)

/-- An expression for a text as it is. -/
def ofText (text : List Char) : Regex :=
  text.foldr (fun c rest => .sequence (.one c) rest) .nothing

end Regex

end Concord.Text
