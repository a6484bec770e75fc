/-!
The command language: words in pieces that are expanded one after the other, redirections, and
commands made of commands.
-/

namespace Concord.Shell

/-- What another word does for a parameter: it stands in for one without a value, is given to it as
its value, tells what is wrong with it, or stands in for one that has a value. -/
inductive Substitute where
  | fallback
  | assign
  | complain
  | alternative
  deriving DecidableEq, Repr

/-- The end of a value from which a pattern is cut off, and whether as much as possible is. -/
structure Trim where
  behind : Bool
  longest : Bool
  deriving DecidableEq, Repr

/-- How a redirection opens a file. -/
inductive Mode where
  | read
  | write
  | clobber
  | append
  | readWrite
  deriving DecidableEq, Repr

mutual

/-- A part of a word. What is quoted is neither split into fields nor read as a pattern. A pair of
quotes makes a field even if there is nothing between them. -/
inductive Piece where
  | text (content : List Char) (quoted : Bool)
  | quotes
  | parameter (name : List Char) (use : Use) (quoted : Bool)
  | output (body : Option Command) (quoted : Bool)
  | sum (expression : List Piece)

/-- What is made of the value of a parameter. -/
inductive Use where
  | value
  | length
  | substitute (kind : Substitute) (orEmpty : Bool) (word : List Piece)
  | trim (kind : Trim) (pattern : List Piece)
  | unknown

/-- The body of a here-document comes later than the command, and is found by its number. -/
inductive Redirection where
  | file (stream : Nat) (mode : Mode) (name : List Piece)
  | duplicate (stream : Nat) (source : List Piece)
  | document (stream : Nat) (number : Nat)

inductive Command where
  | simple (line : Nat) (assignments : List (List Char × List Piece)) (words : List (List Piece))
      (redirections : List Redirection)
  | sequence (first second : Command)
  | both (first second : Command)
  | either (first second : Command)
  | background (body : Command)
  | pipeline (stages : List Command)
  | negation (body : Command)
  | redirected (line : Nat) (body : Command) (redirections : List Redirection)
  | subshell (line : Nat) (body : Command) (redirections : List Redirection)
  | choice (test yes : Command) (no : Option Command)
  | loop (expected : Bool) (test body : Command)
  | each (line : Nat) (name : List Char) (words : List (List Piece)) (body : Command)
  | selection (line : Nat) (subject : List Piece) (arms : List Arm)
  | definition (line : Nat) (name : List Char) (body : Command)

/-- Patterns of a selection, and what is done if one of them fits. -/
inductive Arm where
  | mk (patterns : List (List Piece)) (body : Option Command)

end

abbrev Word := List Piece

/-- The characters of names: letters, digits and the underscore. -/
def isNameChar (c : Char) : Bool :=
  c.isAlphanum || c = '_'

def isNameStart (c : Char) : Bool :=
  c.isAlpha || c = '_'

def isName : List Char → Bool
  | [] => false
  | c :: rest => isNameStart c && rest.all isNameChar

/-- A name before an equals sign, with the rest of the word behind the sign. -/
def assignment? : Word → Option (List Char × Word)
  | .text content false :: rest =>
      let name := content.takeWhile isNameChar
      match content.drop name.length with
      | '=' :: value => if isName name then some (name, .text value false :: rest) else none
      | _ => none
  | _ => none

/-- The text of a word that is nothing but unquoted text. -/
def plainText? : Word → Option (List Char)
  | [.text content false] => some content
  | _ => none

end Concord.Shell
