import Concord.Shell.Arithmetic
import Concord.Shell.Session

/-!
Conditions: comparisons of texts and numbers, and questions about files. Which word is an operator
depends on the words behind it, so an operator that stands in the place of an operand is one.
-/

namespace Concord.Shell

namespace Condition

inductive Operator where
  | unary (name : String)
  | binary (name : String)
  | not
  | and
  | or
  | opening
  | closing
  deriving DecidableEq, Repr

def unaryNames : List String :=
  ["-r", "-w", "-x", "-e", "-f", "-d", "-c", "-b", "-p", "-u", "-g", "-k", "-s", "-t", "-z", "-n",
    "-h", "-O", "-G", "-L", "-S"]

def binaryNames : List String :=
  ["=", "!=", "<", ">", "-eq", "-ne", "-ge", "-gt", "-le", "-lt", "-nt", "-ot", "-ef"]

def operator? (word : List Char) : Option Operator :=
  let name := String.ofList word
  match name with
  | "!" => some .not
  | "-a" => some .and
  | "-o" => some .or
  | "(" => some .opening
  | ")" => some .closing
  | _ =>
      if name ∈ unaryNames then some (.unary name)
      else if name ∈ binaryNames then some (.binary name)
      else none

def isBinary (word : List Char) : Bool :=
  match operator? word with
  | some (.binary _) => true
  | _ => false

inductive Lexeme where
  | ending
  | operand
  | operator (operator : Operator)
  deriving DecidableEq, Repr

/-- Is a word with these words behind it an operand, although it could be an operator on one? -/
def standsAlone : List (List Char) → Bool
  | [] => true
  | [_] => false
  | next :: _ => isBinary next

/-- What the first of some words is. -/
def lexeme : List (List Char) → Lexeme
  | [] => .ending
  | word :: rest =>
      match operator? word with
      | some (.unary name) => if standsAlone rest then .operand else .operator (.unary name)
      | some .opening => if rest.isEmpty then .operand else .operator .opening
      | some operator => .operator operator
      | none => .operand

/-- What conditions are asked about. -/
structure Place where
  files : Files
  directory : String
  executables : List Concord.Place

def entry? (place : Place) (path : List Char) : Option (Concord.Place × Entry) :=
  if path.isEmpty then none
  else (place.files.find (Files.join place.directory (Text.Octets.asString path))).toOption

def isExecutable (place : Place) (path : List Char) : Bool :=
  match entry? place path with
  | some (_, .directory) => true
  | some (_, .program) => true
  | some (found, .file _) => place.executables.contains found
  | _ => false

def aboutFile (place : Place) (name : String) (path : List Char) : Bool :=
  match name, entry? place path with
  | "-d", some (_, .directory) => true
  | "-d", _ => false
  | "-f", some (_, .file _) => true
  | "-f", some (_, .program) => true
  | "-f", _ => false
  | "-s", some (_, .file pieces) => !pieces.flatten.isEmpty
  | "-s", some (_, .directory) => true
  | "-s", some (_, .program) => true
  | "-s", _ => false
  | "-c", some (_, .sink) => true
  | "-x", _ => isExecutable place path
  | "-e", found => found.isSome
  | "-r", found => found.isSome
  | "-w", found => found.isSome
  | "-O", found => found.isSome
  | "-G", found => found.isSome
  | _, _ => false

/-- What is asked of one operand. No stream leads to a terminal. -/
def unary (place : Place) (name : String) (operand : List Char) : Except String Bool :=
  match name with
  | "-z" => .ok operand.isEmpty
  | "-n" => .ok (!operand.isEmpty)
  | "-t" =>
      match Arithmetic.integer? operand with
      | some _ => .ok false
      | none => .error ("Illegal number: " ++ String.ofList operand)
  | name => .ok (aboutFile place name operand)

def integer (word : List Char) : Except String Int :=
  let trimmed := word.dropWhile Arithmetic.isSpace
  let signless :=
    match trimmed with
    | '-' :: rest => rest
    | '+' :: rest => rest
    | rest => rest
  let found := signless.takeWhile Char.isDigit
  let behind := signless.drop found.length
  if found.isEmpty || !behind.all Arithmetic.isSpace then
    .error ("Illegal number: " ++ String.ofList word)
  else
    let value : Int := Arithmetic.numeralValue 10 found
    .ok (if trimmed.head? = some '-' then -value else value)

def binary (place : Place) (name : String) (left right : List Char) : Except String Bool :=
  let numbers (holds : Int → Int → Bool) : Except String Bool := do
    .ok (holds (← integer left) (← integer right))
  match name with
  | "=" => .ok (left == right)
  | "!=" => .ok (left != right)
  | "<" => .ok (decide (left < right))
  | ">" => .ok (decide (right < left))
  | "-eq" => numbers (· == ·)
  | "-ne" => numbers (· != ·)
  | "-ge" => numbers fun a b => decide (b ≤ a)
  | "-gt" => numbers fun a b => decide (b < a)
  | "-le" => numbers fun a b => decide (a ≤ b)
  | "-lt" => numbers fun a b => decide (a < b)
  | "-ef" =>
      match entry? place left, entry? place right with
      | some (a, _), some (b, _) => .ok (a == b)
      | _, _ => .ok false
  | "-nt" => .ok false
  | _ => .ok (( entry? place left).isNone && ( entry? place right).isSome)

/-- Whether a condition holds, and the words from its last one on. -/
abbrev Answer := Except String (Bool × List (List Char))

variable (place : Place)

mutual

def disjunction (first : Lexeme) : Nat → List (List Char) → Answer
  | 0, words => .ok (false, words)
  | fuel + 1, words => do
      let (left, words) ← conjunction first fuel words
      if lexeme (words.drop 1) = .operator .or then
        let behind := words.drop 2
        let (right, words) ← disjunction (lexeme behind) fuel behind
        .ok (left || right, words)
      else .ok (left, words)

def conjunction (first : Lexeme) : Nat → List (List Char) → Answer
  | 0, words => .ok (false, words)
  | fuel + 1, words => do
      let (left, words) ← negation first fuel words
      if lexeme (words.drop 1) = .operator .and then
        let behind := words.drop 2
        let (right, words) ← conjunction (lexeme behind) fuel behind
        .ok (left && right, words)
      else .ok (left, words)

def negation (first : Lexeme) : Nat → List (List Char) → Answer
  | 0, words => .ok (false, words)
  | fuel + 1, words =>
      if first = .operator .not then do
        let next := lexeme (words.drop 1)
        let behind := if next = .ending then words else words.drop 1
        let (found, words) ← negation next fuel behind
        .ok (!found, words)
      else primary first fuel words

def primary (first : Lexeme) : Nat → List (List Char) → Answer
  | 0, words => .ok (false, words)
  | fuel + 1, words =>
      match first with
      | .ending => .ok (false, words)
      | .operator .opening => do
          let behind := words.drop 1
          let next := lexeme behind
          if next = .operator .closing then .ok (false, behind)
          else
            let (found, words) ← disjunction next fuel behind
            let closing := words.drop 1
            if lexeme closing = .operator .closing then .ok (found, closing)
            else .error "closing paren expected"
      | .operator (.unary name) => do
          match words.drop 1 with
          | [] => .error (name ++ ": argument expected")
          | operand :: rest => do .ok (← unary place name operand, operand :: rest)
      | _ =>
          match words with
          | left :: operator :: behind =>
              match lexeme (operator :: behind), behind with
              | .operator (.binary name), right :: rest => do
                  .ok (← binary place name left right, right :: rest)
              | .operator (.binary name), [] => .error (name ++ ": argument expected")
              | _, _ => .ok (!left.isEmpty, words)
          | left :: rest => .ok (!left.isEmpty, left :: rest)
          | [] => .ok (false, [])

end

/-- Evaluates words from the left; what they do not use up is no condition. -/
def evaluate (first : Lexeme) (words : List (List Char)) : Except String Bool := do
  let (found, left) ← disjunction place first (4 * words.length + 8) words
  match left with
  | word :: _ :: _ =>
      if word.isEmpty then .error "unexpected operator"
      else .error (String.ofList word ++ ": unexpected operator")
  | _ => .ok found

/-- Does a condition hold? The number of words decides how the first ones are read. -/
def holds : Nat → List (List Char) → Except String Bool
  | 0, _ => .ok false
  | _, [] => .ok false
  | fuel + 1, words =>
      let whole := evaluate place (lexeme words) words
      let grouped : Except String Bool :=
        if words.head? = some ['('] && words.getLast? = some [')'] then
          let inner := (words.drop 1).dropLast
          evaluate place (lexeme inner) inner
        else if words.head? = some ['!'] then (!·) <$> holds fuel (words.drop 1)
        else whole
      match words with
      | [_, operator, _] => if isBinary operator then evaluate place .operand words else grouped
      | [_, _, _, _] => grouped
      | _ => whole

end Condition

end Concord.Shell
