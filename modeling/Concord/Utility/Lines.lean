import Concord.Text.Kinds
import Concord.Utility.Basic

/-!
Programs that print the lines of files: all of them or some, changed, counted or put in order.
-/

namespace Concord.Utility

open Work

/-! ### Whole files -/

/-- A character as it is shown where those that cannot be seen are. -/
def visible (c : Char) : List Char :=
  let low (n : Nat) : List Char :=
    if n < 32 then ['^', Char.ofNat (n + 64)]
    else if n = 127 then ['^', '?']
    else [Char.ofNat n]
  if c = '\n' || c = '\t' then [c]
  else if c.toNat < 128 then low c.toNat
  else 'M' :: '-' :: low (c.toNat - 128)

structure CatStyle where
  numbered : Bool
  filled : Bool
  squeezed : Bool
  ends : Bool
  tabs : Bool
  shown : Bool

def CatStyle.plain (style : CatStyle) : Bool :=
  !(style.numbered || style.filled || style.squeezed || style.ends || style.tabs || style.shown)

def CatStyle.line (style : CatStyle) (line : List Char) : List Char :=
  line.flatMap fun c =>
    if c = '\t' && style.tabs then ['^', 'I']
    else if c = '\n' && style.ends then ['$', '\n']
    else if style.shown then visible c
    else [c]

/-- Lines in a style, from a number on, and the next number. -/
def CatStyle.lines (style : CatStyle) : Nat → Bool → List (List Char) → List Char × Nat
  | number, _, [] => ([], number)
  | number, afterEmpty, line :: rest =>
      let empty := line = ['\n']
      if empty && afterEmpty && style.squeezed then style.lines number true rest
      else
        let counted := style.numbered && !(style.filled && empty)
        let front := if counted then rightIn 6 (naturalText number) ++ ['\t'] else []
        let (text, next) := style.lines (if counted then number + 1 else number) empty rest
        (front ++ style.line line ++ text, next)

def catFrom (style : CatStyle) : Nat → List (List Char) → Work Unit
  | _, [] => pure ()
  | number, name :: rest => do
      match ← contentOr 1 name with
      | some content => do
          if style.plain then do
            if content.isEmpty then pure () else printNow content
            catFrom style number rest
          else do
            let (text, next) := style.lines number false (lines content)
            printNow text
            catFrom style next rest
      | none => catFrom style number rest

/-- The files that are named, or the input if none are. -/
def orInput (names : List (List Char)) : List (List Char) :=
  if names.isEmpty then [['-']] else names

def cat : Work Nat := do
  let (given, names) ← options
    { letters := ['A', 'b', 'e', 'E', 'n', 's', 't', 'T', 'u', 'v'].map (·, false)
      names := [("show-all", 'A'), ("number-nonblank", 'b'), ("show-ends", 'E'), ("number", 'n'),
        ("squeeze-blank", 's'), ("show-tabs", 'T'), ("show-nonprinting", 'v')] }
  let any (letters : List Char) : Bool := letters.any (has given)
  catFrom
    { numbered := any ['n', 'b'], filled := any ['b'], squeezed := any ['s']
      ends := any ['E', 'e', 'A'], tabs := any ['T', 't', 'A'], shown := any ['v', 'e', 't', 'A'] }
    1 (orInput names)
  pure 0

def tac : Work Nat := do
  let (_, names) ← options { letters := [] }
  for name in orInput names do
    match ← readFile name with
    | .ok content => print (lines content).reverse.flatten
    | .error problem =>
        fault 1 ("failed to open ".toList ++ quote name ++ " for reading: ".toList ++
          reason problem)
  pure 0

def rev : Work Nat := do
  let (_, names) ← options { letters := [] }
  for name in orInput names do
    match ← readFile name with
    | .ok content =>
        for line in lines content do
          print ((bare line).reverse ++ line.drop (bare line).length)
    | .error problem => fault 1 ("cannot open ".toList ++ name ++ ": ".toList ++ reason problem)
  pure 0

def tee : Work Nat := do
  let (given, names) ← options
    { letters := [('a', false), ('i', false), ('p', false)], names := [("append", 'a')] }
  let mut places : List String := []
  for name in names do
    let path ← pathOf name
    match ← onFiles fun files =>
        files.writeWith path fun pieces => if has given 'a' then pieces else [] with
    | .ok () => places := places ++ [path]
    | .error problem => fault 1 (name ++ ": ".toList ++ reason problem)
  let content ← readInput
  printNow content
  for path in places do
    let _ ← onFiles fun files =>
      files.writeWith path fun pieces => pieces ++ [Text.Octets.toBytes content]
  pure 0

/-! ### First and last lines -/

/-- How much of a file is meant: units from the front, units from the end, or all but so many. -/
inductive Extent where
  | first (count : Nat)
  | allButLast (count : Nat)
  | last (count : Nat)
  | from (count : Nat)

def Extent.take {α : Type} (extent : Extent) (units : List α) : List α :=
  match extent with
  | first count => units.take count
  | allButLast count => units.take (units.length - count)
  | last count => units.drop (units.length - count)
  | .from count => units.drop (count - 1)

def Extent.part (extent : Extent) (bytes : Bool) (content : List Char) : List Char :=
  if bytes then extent.take content else (extent.take (lines content)).flatten

/-- Is a part as much as was asked for, so that no more is read? -/
def Extent.isFull (extent : Extent) (bytes : Bool) (part : List Char) : Bool :=
  match extent with
  | first count => count ≤ (if bytes then part.length else part.count '\n')
  | _ => false

def multiplier? (unit : List Char) : Option Nat :=
  match String.ofList unit with
  | "" => some 1
  | "b" => some 512
  | "k" => some 1024
  | "K" => some 1024
  | "kB" => some 1000
  | "M" => some (1024 * 1024)
  | "MB" => some 1000000
  | _ => none

def amount? (text : List Char) : Option Nat := do
  let digits := text.takeWhile Char.isDigit
  let value ← natural? digits
  let factor ← multiplier? (text.drop digits.length)
  pure (factor * value)

def unitName (bytes : Bool) : String :=
  if bytes then "bytes" else "lines"

def headExtent (bytes : Bool) (text : List Char) : Work Extent := do
  let (extent, digits) : (Nat → Extent) × List Char :=
    match text with
    | '-' :: rest => (.allButLast, rest)
    | '+' :: rest => (.first, rest)
    | rest => (.first, rest)
  match amount? digits with
  | some count => pure (extent count)
  | none => fail 1 (("invalid number of " ++ unitName bytes ++ ": ").toList ++ quote digits)

def tailExtent (bytes : Bool) (text : List Char) : Work Extent := do
  let (extent, digits) : (Nat → Extent) × List Char :=
    match text with
    | '+' :: rest => (.from, rest)
    | '-' :: rest => (.last, rest)
    | rest => (.last, rest)
  match amount? digits with
  | some count => pure (extent count)
  | none => fail 1 (("invalid number of " ++ unitName bytes ++ ": ").toList ++ quote text)

/-- A number of lines right behind a hyphen, or behind a plus sign, is an option of its own. -/
def spelled (arguments : List (List Char)) : List (List Char) :=
  match arguments with
  | ('-' :: c :: more) :: rest =>
      if c.isDigit && more.all Char.isDigit then ['-', 'n'] :: (c :: more) :: rest
      else arguments
  | arguments => arguments

def heading (name : List Char) : List Char :=
  "==> ".toList ++ (if name = ['-'] then "standard input".toList else name) ++ " <==\n".toList

/-- Prints parts of files, each under its name if that is wanted. -/
def parts (extent : Extent) (bytes named : Bool) : Bool → List (List Char) → Work Unit
  | _, [] => pure ()
  | follows, name :: rest => do
      let intro := if named then (if follows then ['\n'] else []) ++ heading name else []
      if name = ['-'] then do
        let part ← readPart fun content =>
          let part := extent.part bytes content
          (part, extent.isFull bytes part)
        print (intro ++ part)
        parts extent bytes named true rest
      else
        match ← readFile name with
        | .ok content => do
            print (intro ++ extent.part bytes content)
            parts extent bytes named true rest
        | .error .isDirectory => do
            print intro
            fault 1 ("error reading ".toList ++ quote name ++ ": Is a directory".toList)
            parts extent bytes named true rest
        | .error problem => do
            fault 1 ("cannot open ".toList ++ quote name ++ " for reading: ".toList ++
              reason problem)
            parts extent bytes named follows rest

def someOf (standard : Extent) (extentOf : Bool → List Char → Work Extent) : Work Nat := do
  modify fun state => { state with
    task := { state.task with arguments := spelled state.task.arguments } }
  let (given, names) ← options
    { letters := [('n', true), ('c', true), ('q', false), ('v', false), ('f', false), ('F', false)]
      names := [("lines", 'n'), ("bytes", 'c'), ("quiet", 'q'), ("silent", 'q'),
        ("verbose", 'v')] }
  let measures := given.filter fun option => option.1 = 'n' || option.1 = 'c'
  let extents ← measures.mapM fun option => extentOf (option.1 = 'c') option.2
  let bytes := measures.getLast?.any fun option => option.1 = 'c'
  let named := has given 'v' || (1 < names.length && !has given 'q')
  parts (extents.getLast?.getD standard) bytes named false (orInput names)
  pure 0

def head : Work Nat :=
  someOf (.first 10) headExtent

def tail : Work Nat :=
  someOf (.last 10) tailExtent

/-! ### Counting -/

structure Counts where
  lines : Nat := 0
  words : Nat := 0
  bytes : Nat := 0
  longest : Nat := 0

def isSpace (c : Char) : Bool :=
  Text.isOfKind "space" c

def wordsOf (text : List Char) : List (List Char) :=
  let step (c : Char) (found : List (List Char) × Bool) : List (List Char) × Bool :=
    if isSpace c then (found.1, false)
    else
      match found with
      | (word :: more, true) => ((c :: word) :: more, true)
      | (words, _) => ([c] :: words, true)
  (text.foldr step ([], false)).1

def Counts.of (text : List Char) : Counts where
  lines := text.count '\n'
  words := (wordsOf text).length
  bytes := text.length
  longest := (Utility.lines text).foldl (fun most line => max most (bare line).length) 0

def Counts.add (a b : Counts) : Counts :=
  ⟨a.lines + b.lines, a.words + b.words, a.bytes + b.bytes, max a.longest b.longest⟩

/-- The counts that are asked for, in their order. -/
def Counts.chosen (counts : Counts) (wanted : List Char) : List Nat :=
  (if wanted.contains 'l' then [counts.lines] else []) ++
    (if wanted.contains 'w' then [counts.words] else []) ++
    (if wanted.contains 'm' then [counts.bytes] else []) ++
    (if wanted.contains 'c' then [counts.bytes] else []) ++
    (if wanted.contains 'L' then [counts.longest] else [])

def countsLine (width : Nat) (wanted : List Char) (counts : Counts) (name : List Char) :
    List Char :=
  let numbers := (counts.chosen wanted).map fun n => rightIn width (naturalText n)
  (numbers.intersperse [' ']).flatten ++ (if name.isEmpty then [] else ' ' :: name)

/-- The width of counts: that of the size of all files together, and no less than seven where a size
is not known beforehand. -/
def countsWidth (single : Bool) (sizes : List (Option Nat)) : Nat :=
  if single then 1
  else
    let total := (sizes.filterMap id).foldr (· + ·) 0
    let least := if sizes.any Option.isNone then 7 else 1
    max least (naturalText total).length

def wc : Work Nat := do
  let (given, names) ← options
    { letters := ['l', 'w', 'c', 'm', 'L'].map (·, false)
      names := [("lines", 'l'), ("words", 'w'), ("bytes", 'c'), ("chars", 'm'),
        ("max-line-length", 'L')] }
  let letters := given.map Prod.fst
  let wanted := if letters.isEmpty then ['l', 'w', 'c'] else letters
  let state ← get
  let size (name : List Char) : Work (Option (Option Nat)) := do
    if name = ['-'] then
      pure (some (if state.task.fromFile then some state.unread.length else none))
    else
      let path ← pathOf name
      match state.files.find path with
      | .ok (_, .file pieces) => pure (some (some pieces.flatten.length))
      | .ok _ => pure (some none)
      | .error _ => pure none
  let sizes ← (orInput names).mapM size
  let single := names.length ≤ 1 && (({} : Counts).chosen wanted).length = 1
  let width := countsWidth single (sizes.filterMap id)
  let mut total : Counts := {}
  for name in orInput names do
    match ← readFile name with
    | .ok content =>
        let counts := Counts.of content
        total := total.add counts
        printLine (countsLine width wanted counts (if names.isEmpty then [] else name))
    | .error .isDirectory =>
        fault 1 (name ++ ": Is a directory".toList)
        printLine (countsLine width wanted {} name)
    | .error problem => fault 1 (name ++ ": ".toList ++ reason problem)
  if 1 < names.length then printLine (countsLine width wanted total "total".toList)
  pure 0

/-! ### Neighbours -/

def upper (text : List Char) : List Char :=
  text.map Char.toUpper

/-- What of a line is compared: the part behind some fields and characters, up to a width. -/
def comparedPart (fields chars : Nat) (width : Option Nat) (line : List Char) : List Char :=
  let dropField (text : List Char) : List Char :=
    (text.dropWhile fun c => c = ' ' || c = '\t').dropWhile fun c => c ≠ ' ' && c ≠ '\t'
  let rest := ((List.replicate fields ()).foldl (fun text _ => dropField text) line).drop chars
  match width with
  | some width => rest.take width
  | none => rest

/-- Lines in groups of neighbours with the same key. -/
def groups (key : List Char → List Char) (lines : List (List Char)) : List (List (List Char)) :=
  let step (line : List Char) (found : List (List (List Char))) : List (List (List Char)) :=
    match found with
    | (first :: group) :: more =>
        if key line = key first then (line :: first :: group) :: more
        else [line] :: (first :: group) :: more
    | found => [line] :: found
  lines.foldr step []

def uniq : Work Nat := do
  let (given, names) ← options
    { letters := [('c', false), ('d', false), ('D', false), ('u', false), ('i', false),
        ('f', true), ('s', true), ('w', true), ('z', false)]
      names := [("count", 'c'), ("repeated", 'd'), ("unique", 'u'), ("ignore-case", 'i'),
        ("skip-fields", 'f'), ("skip-chars", 's'), ("check-chars", 'w'), ("all-repeated", 'D')] }
  let number (letter : Char) : Nat := ((value? given letter).bind natural?).getD 0
  let key (line : List Char) : List Char :=
    let part := comparedPart (number 'f') (number 's') ((value? given 'w').bind natural?) line
    if has given 'i' then upper part else part
  match names with
  | _ :: _ :: extra :: _ => misuse 1 ("extra operand ".toList ++ quote extra)
  | names => do
      match ← contentOr 1 (names.headD ['-']) with
      | none => pure 1
      | some content => do
          let mut text : List Char := []
          for group in groups key ((lines content).map bare) do
            let count := group.length
            let wanted :=
              if has given 'd' || has given 'D' then 1 < count && !has given 'u'
              else !has given 'u' || count = 1
            if wanted then
              let front :=
                if has given 'c' then rightIn 7 (naturalText count) ++ [' '] else []
              let shown := if has given 'D' then group else group.take 1
              text := text ++ shown.flatMap fun line => front ++ line ++ ['\n']
          match names with
          | [_, output] => do
              let path ← pathOf output
              match ← onFiles (·.write path (Text.Octets.toBytes text)) with
              | .ok () => pure 0
              | .error problem => fail 1 (output ++ ": ".toList ++ reason problem)
          | _ => do
              print text
              pure 0

/-! ### Numbers before lines -/

def nl : Work Nat := do
  let (given, names) ← options
    { letters := [('b', true), ('w', true), ('s', true), ('v', true), ('i', true), ('n', true),
        ('h', true), ('f', true), ('p', false)] }
  let number (letter : Char) (standard : Nat) : Nat :=
    ((value? given letter).bind natural?).getD standard
  let width := number 'w' 6
  let between := (value? given 's').getD ['\t']
  let mut next := number 'v' 1
  for name in orInput names do
    match ← contentOr 1 name with
    | none => pure ()
    | some content =>
        for line in (lines content).map bare do
          if value? given 'b' = some ['a'] || (value? given 'b' ≠ some ['n'] && line ≠ []) then
            let digits := naturalText next
            let shown :=
              match (value? given 'n').map String.ofList with
              | some "ln" => digits ++ List.replicate (width - digits.length) ' '
              | some "rz" => List.replicate (width - digits.length) '0' ++ digits
              | _ => rightIn width digits
            printLine (shown ++ between ++ line)
            next := next + number 'i' 1
          else printLine (List.replicate (width + between.length) ' ' ++ line)
  pure 0

/-! ### Parts of lines -/

/-- Ranges of numbers from one on; a range may have no end. -/
abbrev Ranges := List (Nat × Option Nat)

def inRanges (ranges : Ranges) (n : Nat) : Bool :=
  ranges.any fun (first, last?) => first ≤ n && last?.all (n ≤ ·)

def splitOn (mark : Char) (text : List Char) : List (List Char) :=
  let step (c : Char) (found : List (List Char)) : List (List Char) :=
    if c = mark then [] :: found
    else
      match found with
      | piece :: more => (c :: piece) :: more
      | [] => [[c]]
  text.foldr step [[]]

inductive RangeFault where
  | zero
  | bad (text : List Char)
  | decreasing
  | endless

def range? (text : List Char) : Except RangeFault (Nat × Option Nat) :=
  let number (digits : List Char) : Except RangeFault Nat :=
    match natural? digits with
    | some 0 => .error .zero
    | some n => .ok n
    | none => .error (.bad text)
  let first := text.takeWhile (· ≠ '-')
  match text.drop first.length with
  | [] => do
      let n ← number first
      .ok (n, some n)
  | _ :: last =>
      if first.isEmpty && last.isEmpty then .error .endless
      else do
        let low ← if first.isEmpty then pure 1 else number first
        if last.isEmpty then .ok (low, none)
        else do
          let high ← number last
          if high < low then .error .decreasing else .ok (low, some high)

def ranges (fields : Bool) (text : List Char) : Work Ranges := do
  let normal := text.map fun c => if c = ' ' || c = '\t' then ',' else c
  match (splitOn ',' normal).mapM range? with
  | .ok found => pure found
  | .error .zero =>
      misuse 1 ((if fields then "fields are numbered from 1"
        else "byte/character positions are numbered from 1").toList)
  | .error (.bad text) =>
      misuse 1 ((if fields then "invalid field value " else
        "invalid byte/character position ").toList ++ quote text)
  | .error .decreasing => misuse 1 "invalid decreasing range".toList
  | .error .endless => misuse 1 "invalid range with no endpoint: -".toList

/-- The items that are in some ranges, or those that are not. -/
def chosen {α : Type} (ranges : Ranges) (complement : Bool) (items : List α) : List α :=
  (items.zipIdx 1).filterMap fun (item, n) =>
    if inRanges ranges n != complement then some item else none

def cut : Work Nat := do
  let (given, names) ← options
    { letters := [('b', true), ('c', true), ('f', true), ('d', true), ('s', false), ('n', false),
        ('C', false), ('O', true), ('z', false)]
      names := [("bytes", 'b'), ("characters", 'c'), ("fields", 'f'), ("delimiter", 'd'),
        ("only-delimited", 's'), ("complement", 'C'), ("output-delimiter", 'O')] }
  let lists := given.filter fun option => option.1 ∈ ['b', 'c', 'f']
  match lists with
  | [] => misuse 1 "you must specify a list of bytes, characters, or fields".toList
  | _ :: _ :: _ => misuse 1 "only one list may be specified".toList
  | [(kind, list)] => do
      let fields := kind = 'f'
      let delimiter := (value? given 'd').getD ['\t']
      if !fields && has given 'd' then
        misuse 1 "an input delimiter may be specified only when operating on fields".toList
      else if 1 < delimiter.length then
        misuse 1 "the delimiter must be a single character".toList
      else do
        let ranges ← ranges fields list
        let complement := has given 'C'
        let mark := delimiter.headD '\x00'
        let between := (value? given 'O').getD [mark]
        for name in orInput names do
          match ← contentOr 1 name with
          | none => pure ()
          | some content =>
              for line in (lines content).map bare do
                if !fields then printLine (chosen ranges complement line)
                else if !line.contains mark then
                  if has given 's' then pure () else printLine line
                else
                  let found := chosen ranges complement (splitOn mark line)
                  printLine ((found.intersperse between).flatten)
        pure 0

/-- Lines side by side; a file that has ended gives empty ones. -/
def sideBySide (marks : List Char) : Nat → List (List (List Char)) → List (List Char)
  | 0, _ => []
  | fuel + 1, columns =>
      if columns.all List.isEmpty then []
      else
        let firsts := columns.map fun column => column.headD []
        joinedBy marks firsts :: sideBySide marks fuel (columns.map (·.drop 1))
where
  joinedBy (marks : List Char) (items : List (List Char)) : List Char :=
    (items.zipIdx.map fun (item, index) =>
      if index + 1 = items.length then item
      else item ++ (marks[index % (max 1 marks.length)]?).toList).flatten

def paste : Work Nat := do
  let (given, names) ← options
    { letters := [('d', true), ('s', false), ('z', false)]
      names := [("delimiters", 'd'), ("serial", 's')] }
  let marks := (value? given 'd').getD ['\t']
  let marks := (marksOf marks)
  let mut columns : List (List (List Char)) := []
  for name in orInput names do
    match ← contentOr 1 name with
    | some content => columns := columns ++ [(lines content).map bare]
    | none => pure ()
  if has given 's' then
    for column in columns do printLine (sideBySide.joinedBy marks column)
  else
    let longest := columns.foldl (fun most column => max most column.length) 0
    for line in sideBySide marks (longest + 1) columns do printLine line
  pure 0
where
  marksOf : List Char → List Char
    | '\\' :: 'n' :: rest => '\n' :: marksOf rest
    | '\\' :: 't' :: rest => '\t' :: marksOf rest
    | '\\' :: '\\' :: rest => '\\' :: marksOf rest
    | c :: rest => c :: marksOf rest
    | [] => []

def fold : Work Nat := do
  let (given, names) ← options
    { letters := [('w', true), ('s', false), ('b', false)], names := [("width", 'w')] }
  match natural? ((value? given 'w').getD "80".toList) with
  | none =>
      fail 1 ("invalid number of columns: ".toList ++ quote ((value? given 'w').getD []))
  | some width => do
      for name in orInput names do
        match ← contentOr 1 name with
        | none => pure ()
        | some content =>
            for line in lines content do
              let text := bare line
              let cut := folded (has given 's') (max 1 width) (text.length + 1) text
              print ((cut.intersperse ['\n']).flatten ++ line.drop text.length)
      pure 0
where
  folded (atBlanks : Bool) (width : Nat) : Nat → List Char → List (List Char)
    | 0, _ => []
    | fuel + 1, text =>
        if text.length ≤ width then [text]
        else
          let front := text.take width
          let kept := (front.reverse.dropWhile fun c => c ≠ ' ' && c ≠ '\t').reverse
          let front := if atBlanks && !kept.isEmpty then kept else front
          front :: folded atBlanks width fuel (text.drop front.length)

def expand : Work Nat := do
  let (given, names) ← options
    { letters := [('t', true), ('i', false)], names := [("tabs", 't')] }
  let width := max 1 (((value? given 't').bind natural?).getD 8)
  for name in orInput names do
    match ← contentOr 1 name with
    | none => pure ()
    | some content =>
        for line in lines content do
          let step (shown : List Char) (c : Char) : List Char :=
            if c = '\t' then List.replicate (width - shown.length % width) ' ' ++ shown
            else c :: shown
          print (line.foldl step []).reverse
  pure 0

/-! ### Two files -/

/-- Lines of two files in order, with the column of each. -/
def merged : Nat → List (List Char) → List (List Char) → List (Nat × List Char)
  | 0, _, _ => []
  | _, [], right => right.map (2, ·)
  | _, left, [] => left.map (1, ·)
  | fuel + 1, a :: left, b :: right =>
      if a = b then (3, a) :: merged fuel left right
      else if a < b then (1, a) :: merged fuel left (b :: right)
      else (2, b) :: merged fuel (a :: left) right

def comm : Work Nat := do
  let (given, names) ← options { letters := ['1', '2', '3'].map (·, false) }
  match names with
  | [] => misuse 1 "missing operand".toList
  | [one] => misuse 1 ("missing operand after ".toList ++ quote one)
  | first :: second :: _ => do
      match ← contentOr 1 first, ← contentOr 1 second with
      | some a, some b => do
          let left := (lines a).map bare
          let right := (lines b).map bare
          for (column, line) in merged (left.length + right.length + 1) left right do
            let name := Char.ofNat (48 + column)
            if !has given name then
              let before := ['1', '2', '3'].take (column - 1)
              print (List.replicate (before.filter (!has given ·)).length '\t')
              printLine line
          pure 0
      | _, _ => pure 1

end Concord.Utility
