import Concord.Shell.Syntax
import Concord.Text.Search

/-!
Reading words: quoting, parameters, and commands and sums inside words. A backslash before the end
of a line joins the line to the next one everywhere but between single quotes. What is read inside a
word as a command is left to other readers.
-/

namespace Concord.Shell

/-- Why a text is no command, and the line on which that is seen. -/
structure Mistake where
  line : Nat
  message : String
  deriving DecidableEq, Repr

/-- A here-document whose body is still to come. -/
structure Awaited where
  number : Nat
  delimiter : List Char
  verbatim : Bool
  tabsDropped : Bool
  deriving DecidableEq, Repr

inductive Token where
  | endOfInput
  | newline
  | semicolon
  | ampersand
  | and
  | or
  | pipe
  | leftParenthesis
  | rightParenthesis
  | endOfArm
  | redirection (stream : Option Nat) (arrow : List Char)
  | word (content : Word)
  | keyword (name : List Char)

/-- A text that is being read. The last token may be read once more; here-documents are read at the
end of the line. Aliases stand in `expanding` with what is left to read behind them. -/
structure Reader where
  input : List Char
  line : Nat := 1
  last : Token := .endOfInput
  again : Bool := false
  literal : Bool := false
  awaited : List Awaited := []
  documents : List (Nat × Word) := []
  nextDocument : Nat := 0
  aliases : List (List Char × List Char) := []
  expanding : List (List Char × Nat) := []

abbrev Read := StateT Reader (Except Mistake)

namespace Reader

def fail {α : Type} (message : String) : Read α := fun reader =>
  .error ⟨reader.line, message⟩

/-- Drops line ends behind backslashes, and counts them. -/
def joined (line : Nat) : List Char → Nat × List Char
  | '\\' :: '\n' :: rest => joined (line + 1) rest
  | input => (line, input)

/-- The next character. -/
def peek : Read (Option Char) := fun reader =>
  let (line, input) := joined reader.line reader.input
  .ok (input.head?, { reader with line, input })

/-- Goes on behind the next character. -/
def skip : Read Unit := modify fun reader =>
  match reader.input with
  | '\n' :: input => { reader with input, line := reader.line + 1 }
  | _ :: input => { reader with input }
  | [] => reader

def takeWhile (wanted : Char → Bool) : Nat → Read (List Char)
  | 0 => pure []
  | count + 1 => do
      match ← peek with
      | some c => if wanted c then do skip; (c :: ·) <$> takeWhile wanted count else pure []
      | none => pure []

def rest : Read (List Char) := Reader.input <$> get

/-- As many characters of a kind as there are. -/
def span (wanted : Char → Bool) : Read (List Char) := do
  takeWhile wanted (← rest).length

/-- Reads something else in between. -/
def within {α : Type} (input : List Char) (line : Nat) (read : Read α) : Read α := do
  let outer ← get
  set { outer with input, line, again := false, awaited := [], expanding := [] }
  let found ← read
  modify fun inner => { outer with
    documents := inner.documents, nextDocument := inner.nextDocument }
  pure found

end Reader

/-- Readers of the commands inside words: up to a closing parenthesis, and up to the end. -/
structure Nested where
  parenthesised : Read (Option Command)
  whole : Read (Option Command)

namespace Words

open Reader

/-- Joins texts that stand side by side. -/
def merge : Word → Word
  | .text a p :: rest =>
      match merge rest with
      | .text b q :: more =>
          if p = q then .text (a ++ b) p :: more else .text a p :: .text b q :: more
      | more => .text a p :: more
  | piece :: rest => piece :: merge rest
  | [] => []

/-- Characters that end a word where they stand unquoted. -/
def endsWord (c : Char) : Bool :=
  c ∈ ['\n', ' ', '\t', '<', '>', '(', ')', ';', '&', '|']

/-- Parameters with one character that is no part of a name. -/
def isSpecial (c : Char) : Bool :=
  c.isDigit || c ∈ ['!', '@', '*', '#', '$', '?', '-']

/-- What a quoted part ends with. Inside braces, quotes only keep a brace from ending it. -/
inductive Ending where
  | quote
  | brace (kept : Bool)
  | document
  deriving DecidableEq, Repr

/-- Does a backslash between double quotes quote a character? -/
def Ending.quotes (ending : Ending) (c : Char) : Bool :=
  c = '\\' || c = '\x60' || c = '$' ||
    (c = '"' && ending ≠ .document) ||
    (c = '}' && (ending = .brace true || ending = .brace false))

/-- A character behind a backslash outside quotes. -/
def escaped : Read Word := do
  skip
  match (← rest).head? with
  | none => pure [.text ['\\'] true]
  | some c => do skip; pure [.text [c] true]

/-- A character behind a backslash between double quotes. -/
def quotedEscape (ending : Ending) : Read Word := do
  skip
  match (← rest).head? with
  | none => pure [.text ['\\'] true]
  | some c => do
      skip
      pure [.text (if ending.quotes c then [c] else ['\\', c]) true]

/-- What stands between single quotes. -/
def single : Read Word := do
  skip
  let reader ← get
  let (content, behind?) := Text.cut '\'' reader.input
  let line := reader.line + content.count '\n'
  set { reader with line, input := behind?.getD [] }
  match behind? with
  | some _ => pure [.quotes, .text content true]
  | none => fail "Unterminated quoted string"

/-- The text up to a closing backquote, in which backslashes quote what they quote between double
quotes, and the line behind it. -/
def backquoteText? (quoted : Bool) (line : Nat) : List Char → Option (List Char × Nat × List Char)
  | [] => none
  | '\x60' :: rest => some ([], line, rest)
  | '\\' :: '\n' :: rest => backquoteText? quoted (line + 1) rest
  | '\\' :: c :: rest =>
      let taken := if c = '\\' || c = '\x60' || c = '$' || (quoted && c = '"') then [c]
        else ['\\', c]
      (backquoteText? quoted line rest).map fun (text, found) => (taken ++ text, found)
  | c :: rest =>
      let next := if c = '\n' then line + 1 else line
      (backquoteText? quoted next rest).map fun (text, found) => (c :: text, found)

def backquoted (nested : Nested) (quoted : Bool) : Read Word := do
  skip
  let reader ← get
  match backquoteText? quoted reader.line reader.input with
  | none => do
      set { reader with line := reader.line + reader.input.count '\n', input := [] }
      fail "EOF in backquote substitution"
  | some (text, line, input) => do
      set { reader with line, input }
      let body ← within text 1 nested.whole
      pure [.output body quoted]

/-- How a value is changed, as the characters behind the name in braces say. -/
inductive Operator where
  | none
  | ignored
  | substitute (kind : Substitute) (orEmpty : Bool)
  | trim (kind : Trim)
  | unknown

def substitute? (c : Option Char) : Option Substitute :=
  match c with
  | some '-' => some .fallback
  | some '=' => some .assign
  | some '?' => some .complain
  | some '+' => some .alternative
  | _ => Option.none

def trimOperator (mark : Char) : Read Operator := do
  skip
  if (← peek) = some mark then do skip; pure (.trim ⟨mark = '%', true⟩)
  else pure (.trim ⟨mark = '%', false⟩)

def operator : Read Operator := do
  let orEmpty : Bool := (← peek) = some ':'
  if orEmpty then skip
  let c ← peek
  match substitute? c with
  | some kind => do skip; pure (.substitute kind orEmpty)
  | Option.none =>
      match orEmpty, c with
      | true, some '}' => do skip; pure .ignored
      | false, some '}' => do skip; pure .none
      | false, some '%' => trimOperator '%'
      | false, some '#' => trimOperator '#'
      | _, _ => do
          modify fun reader => { reader with input := reader.input.drop 1 }
          pure .unknown

/-- The name of a parameter in braces, and whether its length is meant. A sharp is a parameter
too. -/
def subject : Read (Option (List Char × Bool)) := do
  match ← peek with
  | Option.none => pure Option.none
  | some c =>
      if isNameStart c then do pure (some (← span isNameChar, false))
      else if c.isDigit then do pure (some (← span Char.isDigit, false))
      else if c = '#' then do
        skip
        match ← rest with
        | d :: e :: _ =>
            if isNameStart d then do pure (some (← span isNameChar, true))
            else if d.isDigit then do pure (some (← span Char.isDigit, true))
            else if d ≠ '}' && e = '}' && isSpecial d then do skip; pure (some ([d], true))
            else pure (some (['#'], false))
        | _ => pure (some (['#'], false))
      else if isSpecial c then do skip; pure (some ([c], false))
      else pure Option.none

variable (nested : Nested)

mutual

/-- What stands outside quotes, up to the end of a word or to a closing brace. -/
def plain (braces : Bool) : Nat → Read Word
  | 0 => pure []
  | fuel + 1 => do
      match ← peek with
      | none => if braces then fail "Missing '\x7d'" else pure []
      | some c =>
          if braces && c = '}' then do skip; pure []
          else if !braces && endsWord c then pure []
          else do
            let part ←
              match c with
              | '\\' => escaped
              | '\'' => single
              | '"' => double fuel
              | '\x60' => backquoted nested false
              | '$' => dollar false fuel
              | c => do skip; pure [.text [c] false]
            pure (part ++ (← plain braces fuel))

/-- What stands between double quotes. All parameters by themselves make no field if there are
none. -/
def double : Nat → Read Word
  | 0 => pure []
  | fuel + 1 => do
      skip
      let parts ← inQuotes .quote fuel
      match parts with
      | [.parameter ['@'] .value true] => pure parts
      | _ => pure (.quotes :: parts)

def inQuotes (ending : Ending) : Nat → Read Word
  | 0 => pure []
  | fuel + 1 => do
      match ← peek with
      | none =>
          if ending = .document then pure [] else fail "Unterminated quoted string"
      | some '\\' => do pure ((← quotedEscape ending) ++ (← inQuotes ending fuel))
      | some '\x60' => do pure ((← backquoted nested true) ++ (← inQuotes ending fuel))
      | some '$' => do pure ((← dollar true fuel) ++ (← inQuotes ending fuel))
      | some c => do
          skip
          match ending, c with
          | .quote, '"' => pure []
          | .brace kept, '"' => inQuotes (.brace (!kept)) fuel
          | .brace false, '}' => pure []
          | ending, c => (.text [c] true :: ·) <$> inQuotes ending fuel

/-- What a dollar sign begins. -/
def dollar (quoted : Bool) : Nat → Read Word
  | 0 => pure []
  | fuel + 1 => do
      skip
      let reader ← get
      match ← peek with
      | none => pure [.text ['$'] quoted]
      | some c =>
          if reader.literal then pure [.text ['$'] quoted]
          else if c = '(' then do
            skip
            if (← peek) = some '(' then do
              skip
              pure [.sum (merge (← inSum 0 fuel))]
            else do
              let outer ← get
              set { outer with awaited := [], again := false }
              let body ← nested.parenthesised
              modify fun inner => { inner with awaited := outer.awaited, again := false }
              pure [.output body quoted]
          else if c = '{' then do skip; inBraces quoted fuel
          else if isNameStart c then do pure [.parameter (← span isNameChar) .value quoted]
          else if isSpecial c then do skip; pure [.parameter [c] .value quoted]
          else pure [.text ['$'] quoted]

def inBraces (quoted : Bool) : Nat → Read Word
  | 0 => pure []
  | fuel + 1 => do
      let found ← subject
      let word : Read Word := merge <$>
        if quoted then inQuotes (.brace false) fuel else plain true fuel
      match found with
      | Option.none => do
          let _ ← word
          pure [.parameter [] .unknown quoted]
      | some (name, true) => do
          if (← peek) = some '}' then do
            skip
            pure [.parameter name .length quoted]
          else do
            let _ ← word
            pure [.parameter name .unknown quoted]
      | some (name, false) => do
          match ← operator with
          | .none => pure [.parameter name .value quoted]
          | .ignored => do pure (.parameter name .value quoted :: (← word))
          | .substitute kind orEmpty => do
              pure [.parameter name (.substitute kind orEmpty (← word)) quoted]
          | .trim kind => do
              pure [.parameter name (.trim kind (merge (← plain true fuel))) quoted]
          | .unknown => do
              let _ ← word
              pure [.parameter name .unknown quoted]

/-- A sum ends with two parentheses that close no other ones. -/
def inSum (depth : Nat) : Nat → Read Word
  | 0 => pure []
  | fuel + 1 => do
      match ← peek with
      | none => fail "Missing '))'"
      | some '\\' => do pure ((← quotedEscape .quote) ++ (← inSum depth fuel))
      | some '\x60' => do pure ((← backquoted nested true) ++ (← inSum depth fuel))
      | some '$' => do pure ((← dollar true fuel) ++ (← inSum depth fuel))
      | some '(' => do skip; (.text ['('] true :: ·) <$> inSum (depth + 1) fuel
      | some ')' => do
          skip
          if depth = 0 && (← peek) = some ')' then do skip; pure []
          else (.text [')'] true :: ·) <$> inSum (depth - 1) fuel
      | some c => do skip; (.text [c] true :: ·) <$> inSum depth fuel

end

/-- Nothing in a word nests deeper than the rest of the text is long. -/
def fuel : Read Nat := do
  pure (8 * (← rest).length + 8)

def word : Read Word := do
  merge <$> plain nested false (← fuel)

/-! ### Here-documents -/

/-- The text that a word stands for when it tells how a document ends, and whether any of it is
quoted. -/
def delimiter : Word → List Char × Bool
  | [] => ([], false)
  | .text content quoted :: rest =>
      let (text, found) := delimiter rest
      (content ++ text, quoted || found)
  | .quotes :: rest => ((delimiter rest).1, true)
  | _ :: rest => delimiter rest

/-- Does a line end with a backslash that quotes its end? -/
def continued (line : List Char) : Bool :=
  (line.reverse.takeWhile (· = '\\')).length % 2 = 1

/-- The body of a document in the next lines, how many lines were read, and the lines behind them. A
line that goes on with the next one does not end the document. -/
def body (document : Awaited) (joins : Bool) : List (List Char) → List Char × Nat × List (List Char)
  | [] => ([], 0, [])
  | line :: rest =>
      let line := if document.tabsDropped && !joins then line.dropWhile (· = '\t') else line
      if !joins && line = document.delimiter then ([], 1, rest)
      else
        let joins := !document.verbatim && continued line
        let (text, count, behind) := body document joins rest
        let ending := if rest.isEmpty then [] else ['\n']
        (line ++ ending ++ text, count + 1, behind)

def document (awaited : Awaited) : Read Unit := do
  let reader ← get
  let (text, count, behind) := body awaited false (Text.split '\n' reader.input)
  set { reader with line := reader.line + count, input := (behind.intersperse ['\n']).flatten }
  let content ←
    if awaited.verbatim then pure [.text text true]
    else do
      let fuel := 8 * text.length + 8
      within text reader.line (merge <$> inQuotes nested .document fuel)
  modify fun reader =>
    { reader with documents := (awaited.number, content) :: reader.documents }

/-- Reads the documents that were announced on the line that has ended. -/
def documents : List Awaited → Read Unit
  | [] => pure ()
  | awaited :: rest => do
      document nested awaited
      documents rest

def awaitedDocuments : Read Unit := do
  let reader ← get
  set { reader with awaited := [] }
  documents nested reader.awaited

end Words

end Concord.Shell
