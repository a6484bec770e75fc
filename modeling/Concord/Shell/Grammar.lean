import Concord.Shell.Words

/-!
Reading commands, one complete line at a time, so that a line is carried out before the next one is
read. A mistake is reported with the token that was not expected, and what was expected if only one
thing was.
-/

namespace Concord.Shell

def keywords : List String :=
  ["!", "case", "do", "done", "elif", "else", "esac", "fi", "for", "if", "in", "then", "until",
    "while", "\x7b", "\x7d"]

/-- Commands of the shell that are not regular: a function cannot take their names. -/
def specialNames : List String :=
  [".", ":", "break", "continue", "eval", "exec", "exit", "export", "local", "readonly", "return",
    "set", "shift", "times", "trap", "unset"]

namespace Token

def name : Token → String
  | endOfInput => "end of file"
  | newline => "newline"
  | semicolon => "\";\""
  | ampersand => "\"&\""
  | and => "\"&&\""
  | or => "\"||\""
  | pipe => "\"|\""
  | leftParenthesis => "\"(\""
  | rightParenthesis => "\")\""
  | endOfArm => "\";;\""
  | redirection _ _ => "redirection"
  | word _ => "word"
  | keyword name => "\"" ++ String.ofList name ++ "\""

def isKeyword (token : Token) (name : String) : Bool :=
  match token with
  | keyword found => found = name.toList
  | _ => false

/-- Tokens before which a list of commands ends. -/
def endsList : Token → Bool
  | endOfInput => true
  | rightParenthesis => true
  | endOfArm => true
  | keyword name =>
      String.ofList name ∈ ["do", "done", "elif", "else", "esac", "fi", "then", "\x7d"]
  | _ => false

def isNewline : Token → Bool
  | newline => true
  | _ => false

/-- The word that a token is where any word will do. -/
def asWord : Token → Word
  | word content => content
  | keyword name => [.text name false]
  | _ => []

end Token

/-- What is looked for in the next token: line ends are passed over, and words may be keywords or
aliases. -/
structure Check where
  newlines : Bool := false
  keywords : Bool := false
  aliases : Bool := false
  deriving DecidableEq, Repr

namespace Check

def none : Check := {}

def all : Check := ⟨true, true, true⟩

end Check

/-- Where a list of commands stands: on a line that ends it, inside another command, or where it may
be empty. -/
inductive Setting where
  | line
  | inside
  | optional
  deriving DecidableEq, Repr

namespace Grammar

open Reader

variable (nested : Nested)

/-! ### Tokens -/

/-- Drops blanks and comments. -/
def blanks : Nat → Read Unit
  | 0 => pure ()
  | fuel + 1 => do
      match ← peek with
      | some ' ' => do skip; blanks fuel
      | some '\t' => do skip; blanks fuel
      | some '#' => do
          modify fun reader => { reader with input := reader.input.dropWhile (· ≠ '\n') }
          blanks fuel
      | _ => pure ()

/-- One character more of a token, if it is there. -/
def twice {α : Type} (c : Char) (found : α) (otherwise : α) : Read α := do
  if (← peek) = some c then do skip; pure found else pure otherwise

/-- The rest of an arrow. -/
def arrow (first : Char) : Read (List Char) := do
  skip
  match first, ← peek with
  | '>', some '>' => do skip; pure ['>', '>']
  | '>', some '|' => do skip; pure ['>', '|']
  | '>', some '&' => do skip; pure ['>', '&']
  | '<', some '&' => do skip; pure ['<', '&']
  | '<', some '>' => do skip; pure ['<', '>']
  | '<', some '<' => do
      skip
      twice '-' ['<', '<', '-'] ['<', '<']
  | first, _ => pure [first]

/-- The stream that is named right before an arrow, if a word can be one. -/
def stream? : Word → Option (Option Nat)
  | [] => some none
  | [.text [c] false] => if c.isDigit then some (some (c.toNat - 48)) else none
  | _ => none

def wordOrArrow : Read Token := do
  let word ← Words.word nested
  match ← peek, stream? word with
  | some '<', some stream => do pure (.redirection stream (← arrow '<'))
  | some '>', some stream => do pure (.redirection stream (← arrow '>'))
  | _, _ => pure (.word word)

def scan : Read Token := do
  blanks (← rest).length
  match ← peek with
  | none => pure .endOfInput
  | some '\n' => do skip; pure .newline
  | some '&' => do skip; twice '&' .and .ampersand
  | some '|' => do skip; twice '|' .or .pipe
  | some ';' => do skip; twice ';' .endOfArm .semicolon
  | some '(' => do skip; pure .leftParenthesis
  | some ')' => do skip; pure .rightParenthesis
  | some _ => wordOrArrow nested

/-- The text of an alias, unless it is being read at the moment. -/
def alias? (reader : Reader) (name : List Char) : Option (List Char) :=
  let inUse := reader.expanding.any fun found =>
    found.1 = name && found.2 < reader.input.length
  if inUse then none else reader.aliases.lookup name

/-- Has the end of an alias been passed that ends with a blank? -/
def passedAlias (before after : Reader) : Bool :=
  before.expanding.any fun (name, behind) =>
    behind < before.input.length && after.input.length < behind &&
      ((before.aliases.lookup name).bind List.getLast?).any fun c => c = ' ' || c = '\t'

def token (check : Check) : Nat → Read Token
  | 0 => pure .endOfInput
  | fuel + 1 => do
      let reader ← get
      set { reader with again := false }
      let found ← if reader.again then pure reader.last else scan nested
      let check := { check with aliases := check.aliases || passedAlias reader (← get) }
      if check.newlines && found.isNewline then do
        Words.awaitedDocuments nested
        token check fuel
      else
        let keep (token : Token) : Read Token := do
          modify fun reader => { reader with last := token }
          pure token
        match found with
        | .word content =>
            match plainText? content with
            | none => keep found
            | some name =>
                if check.keywords && String.ofList name ∈ keywords then keep (.keyword name)
                else do
                  let reader ← get
                  match if check.aliases then alias? reader name else none with
                  | some text => do
                      set { reader with
                        input := text ++ reader.input
                        expanding := (name, reader.input.length) :: reader.expanding }
                      token check fuel
                  | none => keep found
        | _ => keep found

def next (check : Check) : Read Token := do
  let reader ← get
  token nested check (reader.input.length + 2 * reader.aliases.length + 8)

def unread : Read Unit :=
  modify fun reader => { reader with again := true }

/-- Fails on the last token. -/
def unexpected {α : Type} (expected : Option String) : Read α := do
  let reader ← get
  let expectation :=
    match expected with
    | some name => " (expecting " ++ name ++ ")"
    | none => ""
  fail (reader.last.name ++ " unexpected" ++ expectation)

def expectKeyword (check : Check) (name : String) : Read Unit := do
  let found ← next nested check
  if found.isKeyword name then pure () else unexpected (some (Token.keyword name.toList).name)

/-! ### Redirections -/

/-- The word behind an arrow. -/
def target : Read Word := do
  match ← next nested .none with
  | .word content => pure content
  | _ => unexpected none

def mode? (arrow : List Char) : Option Mode :=
  match arrow with
  | ['>'] => some .write
  | ['>', '>'] => some .append
  | ['>', '|'] => some .clobber
  | ['<'] => some .read
  | ['<', '>'] => some .readWrite
  | _ => none

def redirection (stream : Option Nat) (arrow : List Char) : Read Redirection := do
  let stream := stream.getD (if arrow.head? = some '<' then 0 else 1)
  match mode? arrow, arrow with
  | some mode, _ => do pure (.file stream mode (← target nested))
  | none, [_, '&'] => do pure (.duplicate stream (← target nested))
  | none, arrow => do
      modify fun reader => { reader with literal := true }
      let word ← target nested
      modify fun reader => { reader with literal := false }
      let (delimiter, verbatim) := Words.delimiter word
      let number := (← get).nextDocument
      let awaited : Awaited := ⟨number, delimiter, verbatim, arrow.length = 3⟩
      modify fun reader => { reader with
        nextDocument := number + 1
        awaited := reader.awaited ++ [awaited] }
      pure (.document stream number)

/-- The redirections behind a compound command. -/
def redirections (check : Check) : Nat → Read (List Redirection)
  | 0 => pure []
  | fuel + 1 => do
      match ← next nested check with
      | .redirection stream arrow => do
          let first ← redirection nested stream arrow
          pure (first :: (← redirections .none fuel))
      | _ => do unread; pure []

/-! ### Commands -/

/-- What a simple command is made of so far. -/
structure Parts where
  assignments : List (List Char × Word) := []
  words : List Word := []
  redirections : List Redirection := []

/-- The name of the function whose definition begins here, if one does. -/
def Parts.functionName? (parts : Parts) : Option Word :=
  match parts.words with
  | [name] => if parts.assignments.isEmpty && parts.redirections.isEmpty then some name else none
  | _ => none

def Parts.command (parts : Parts) (line : Nat) : Command :=
  .simple line parts.assignments parts.words parts.redirections

def functionName (word : Word) : Read (List Char) :=
  match plainText? word with
  | some name =>
      if isName name && String.ofList name ∉ specialNames then pure name
      else fail "Bad function name"
  | none => fail "Bad function name"

def words : Nat → Read (List Word)
  | 0 => pure []
  | fuel + 1 => do
      match ← next nested .none with
      | .word content => (content :: ·) <$> words fuel
      | _ => pure []

/-- Patterns between bars. -/
def patterns : Nat → Token → Read (List Word)
  | 0, _ => pure []
  | fuel + 1, first => do
      match ← next nested .none with
      | .pipe => do
          let second ← next nested .none
          (first.asWord :: ·) <$> patterns fuel second
      | .rightParenthesis => pure [first.asWord]
      | _ => unexpected (some Token.rightParenthesis.name)

def followedBy (first : Option Command) (second : Command) : Command :=
  match first with
  | some first => .sequence first second
  | none => second

/-- All parameters, each in a field of its own. -/
def everyParameter : Word :=
  [.parameter ['@'] .value true]

/-- What a compound command does is not empty, or what follows it would not have been read. -/
def filled (body : Option Command) : Command :=
  body.getD (.simple 0 [] [] [])

mutual

def list (setting : Setting) : Nat → Read (Option Command)
  | 0 => pure none
  | fuel + 1 => do
      let first ← next nested ⟨setting ≠ .line, true, true⟩
      match first with
      | .newline => do Words.awaitedDocuments nested; pure none
      | .endOfInput => do Words.awaitedDocuments nested; unread; pure none
      | first => do
          unread
          if setting = .optional && first.endsList then pure none
          else listFrom setting none fuel

/-- Goes on with a list, the next token of which is known. -/
def listFrom (setting : Setting) (before : Option Command) : Nat → Read (Option Command)
  | 0 => pure before
  | fuel + 1 => do
      let command ← andOr fuel
      match ← next nested .none with
      | .endOfInput => do
          Words.awaitedDocuments nested
          unread
          pure (some (followedBy before command))
      | .newline => do unread; listBehind setting (followedBy before command) fuel
      | .semicolon => listBehind setting (followedBy before command) fuel
      | .ampersand => listBehind setting (followedBy before (.background command)) fuel
      | _ => do
          if setting = .line then unexpected none
          else do
            unread
            pure (some (followedBy before command))

def listBehind (setting : Setting) (before : Command) : Nat → Read (Option Command)
  | 0 => pure (some before)
  | fuel + 1 => do
      let first ← next nested ⟨setting ≠ .line, true, true⟩
      match first with
      | .newline => do Words.awaitedDocuments nested; pure (some before)
      | .endOfInput => do Words.awaitedDocuments nested; unread; pure (some before)
      | first => do
          unread
          if setting ≠ .line && first.endsList then pure (some before)
          else listFrom setting (some before) fuel

def andOr : Nat → Read Command
  | 0 => unexpected none
  | fuel + 1 => do
      let first ← pipeline .none fuel
      andOrFrom first fuel

def andOrFrom (first : Command) : Nat → Read Command
  | 0 => pure first
  | fuel + 1 => do
      match ← next nested .none with
      | .and => do
          let second ← pipeline .all fuel
          andOrFrom (.both first second) fuel
      | .or => do
          let second ← pipeline .all fuel
          andOrFrom (.either first second) fuel
      | _ => do unread; pure first

def pipeline (check : Check) : Nat → Read Command
  | 0 => unexpected none
  | fuel + 1 => do
      let first ← next nested check
      if first.isKeyword "!" then do
        let stages ← stages ⟨false, true, true⟩ fuel
        pure (.negation stages)
      else do
        unread
        stages .none fuel

def stages (check : Check) : Nat → Read Command
  | 0 => unexpected none
  | fuel + 1 => do
      let first ← command check fuel
      match ← moreStages fuel with
      | [] => pure first
      | rest => pure (.pipeline (first :: rest))

def moreStages : Nat → Read (List Command)
  | 0 => pure []
  | fuel + 1 => do
      match ← next nested .none with
      | .pipe => do
          let stage ← command .all fuel
          (stage :: ·) <$> moreStages fuel
      | _ => do unread; pure []

def command (check : Check) : Nat → Read Command
  | 0 => unexpected none
  | fuel + 1 => do
      let line := (← get).line
      match ← next nested check with
      | .word _ => do
          unread
          simple (← get).line {} true fuel
      | .redirection _ _ => do
          unread
          simple (← get).line {} true fuel
      | .leftParenthesis => do
          let body ← list .inside fuel
          match ← next nested .none with
          | .rightParenthesis => do
              pure (.subshell line (filled body)
                (← redirections nested ⟨false, true, true⟩ fuel))
          | _ => unexpected (some Token.rightParenthesis.name)
      | .keyword name => do
          let body ← compound line (String.ofList name) fuel
          match ← redirections nested ⟨false, true, true⟩ fuel with
          | [] => pure body
          | redirections => pure (.redirected line body redirections)
      | _ => unexpected none

/-- A command that begins with a keyword. -/
def compound (line : Nat) (name : String) : Nat → Read Command
  | 0 => unexpected none
  | fuel + 1 => do
      match name with
      | "if" => do
          let found ← choice fuel
          expectKeyword nested .none "fi"
          pure found
      | "while" => loop true fuel
      | "until" => loop false fuel
      | "for" => each line fuel
      | "case" => do
          let subject ←
            match ← next nested .none with
            | .word content => pure content
            | _ => unexpected (some "word")
          expectKeyword nested .all "in"
          pure (.selection line subject (← arms fuel))
      | "\x7b" => do
          let body ← list .inside fuel
          expectKeyword nested .none "\x7d"
          pure (filled body)
      | _ => unexpected none

def choice : Nat → Read Command
  | 0 => unexpected none
  | fuel + 1 => do
      let test ← list .inside fuel
      expectKeyword nested .none "then"
      let yes ← list .inside fuel
      let found ← next nested .none
      if found.isKeyword "elif" then do
        pure (.choice (filled test) (filled yes) (some (← choice fuel)))
      else if found.isKeyword "else" then do
        pure (.choice (filled test) (filled yes) (some (filled (← list .inside fuel))))
      else do
        unread
        pure (.choice (filled test) (filled yes) none)

def loop (expected : Bool) : Nat → Read Command
  | 0 => unexpected none
  | fuel + 1 => do
      let test ← list .inside fuel
      expectKeyword nested .none "do"
      let body ← list .inside fuel
      expectKeyword nested .none "done"
      pure (.loop expected (filled test) (filled body))

def each (line : Nat) : Nat → Read Command
  | 0 => unexpected none
  | fuel + 1 => do
      let name ←
        match ← next nested .none with
        | .word content =>
            match plainText? content with
            | some name => if isName name then pure name else fail "Bad for loop variable"
            | none => fail "Bad for loop variable"
        | _ => fail "Bad for loop variable"
      let found ← next nested .all
      let words ←
        if found.isKeyword "in" then do
          let words ← words nested fuel
          match (← get).last with
          | .newline => pure words
          | .semicolon => pure words
          | _ => unexpected none
        else do
          match found with
          | .semicolon => pure ()
          | _ => unread
          pure [everyParameter]
      expectKeyword nested .all "do"
      let body ← list .inside fuel
      expectKeyword nested .none "done"
      pure (.each line name words (filled body))

def arms : Nat → Read (List Arm)
  | 0 => unexpected none
  | fuel + 1 => do
      let first ← next nested ⟨true, true, false⟩
      if first.isKeyword "esac" then pure []
      else do
        let first ←
          match first with
          | .leftParenthesis => next nested .none
          | first => pure first
        let patterns ← patterns nested fuel first
        let body ← list .optional fuel
        let found ← next nested ⟨true, true, false⟩
        if found.isKeyword "esac" then pure [.mk patterns body]
        else
          match found with
          | .endOfArm => (.mk patterns body :: ·) <$> arms fuel
          | _ => unexpected (some Token.endOfArm.name)

/-- Goes on with a simple command. Words in front may be aliases and assignments. -/
def simple (line : Nat) (parts : Parts) (inFront : Bool) : Nat → Read Command
  | 0 => unexpected none
  | fuel + 1 => do
      match ← next nested ⟨false, false, inFront⟩ with
      | .word content =>
          match if inFront then assignment? content else none with
          | some assignment =>
              simple line { parts with assignments := parts.assignments ++ [assignment] } true fuel
          | none => simple line { parts with words := parts.words ++ [content] } false fuel
      | .redirection stream arrow => do
          let found ← redirection nested stream arrow
          simple line { parts with redirections := parts.redirections ++ [found] } inFront fuel
      | .leftParenthesis => do
          match parts.functionName? with
          | some word => do
              match ← next nested .none with
              | .rightParenthesis => do
                  let name ← functionName word
                  let start := (← get).line
                  pure (.definition start name (← command .all fuel))
              | _ => unexpected (some Token.rightParenthesis.name)
          | none => do unread; pure (parts.command line)
      | _ => do unread; pure (parts.command line)

end

/-! ### Whole lines -/

/-- Commands inside words are nested as deeply as there is fuel. -/
def inner : Nat → Nested
  | 0 => ⟨pure none, pure none⟩
  | depth + 1 =>
      let body (setting : Setting) : Read (Option Command) := do
        list (inner depth) setting (8 * (← rest).length + 64)
      { parenthesised := do
          let found ← body .optional
          match ← next (inner depth) .none with
          | .rightParenthesis => pure found
          | _ => unexpected (some Token.rightParenthesis.name)
        whole := body .optional }

/-- The commands on the next line, if there are any; `none` at the end of the text. -/
def line : Read (Option (Option Command)) := do
  let reader ← get
  set { reader with again := false, awaited := [] }
  let nested := inner (reader.input.length + 1)
  let found ← list nested .line (8 * reader.input.length + 64)
  match found, (← get).last with
  | none, .endOfInput => pure none
  | found, _ => pure (some found)

end Grammar

end Concord.Shell
