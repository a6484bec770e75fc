import Concord.Table
import Concord.Text.Integer
import Concord.Text.Search

/-!
Command-line arguments. An option is `--name value` or `--name=value`; an option that is given only
once keeps its value until the next argument is known, so an unknown argument is reported before a
bad value in front of it. What is not given is taken from the environment.
-/

namespace Concord.Arguments

inductive Kind where
  | flag
  | text
  | path
  | natural (bits : Nat)
  | choice (values : List String)
  deriving DecidableEq, Repr

/-- An option. `many` lets it be repeated, `splits` cuts its values at commas, `hyphens` takes the
next argument whatever it looks like. -/
structure Parameter where
  name : String
  kind : Kind
  variableName : Option String := none
  many : Bool := false
  splits : Bool := false
  hyphens : Bool := false
  required : Bool := false
  deriving DecidableEq, Repr

inductive Fault where
  | unknownArgument
  | invalidValue
  | valueValidation
  | argumentConflict
  | tooManyValues
  | missingArgument
  | displayHelp
  deriving DecidableEq, Repr

def Fault.name : Fault → String
  | unknownArgument => "UnknownArgument"
  | invalidValue => "InvalidValue"
  | valueValidation => "ValueValidation"
  | argumentConflict => "ArgumentConflict"
  | tooManyValues => "TooManyValues"
  | missingArgument => "MissingRequiredArgument"
  | displayHelp => "DisplayHelp"

/-- A natural number of so many bits. Up to 32 bits it is read as a signed number first, so that a
zero may have a minus sign. -/
def natural? (bits : Nat) (value : String) : Option Nat :=
  if bits ≤ 32 then
    ((Text.integer? 64 value).filter fun (n : Int) => 0 ≤ n ∧ n < Nat.pow 2 bits).map Int.toNat
  else Text.natural? bits value

/-- What is wrong with a value, if anything. -/
def Kind.check (kind : Kind) (value : String) : Except Fault Unit :=
  match kind with
  | .flag => if value = "true" ∨ value = "false" then .ok () else .error .invalidValue
  | .text => .ok ()
  | .path => if value = "" then .error .invalidValue else .ok ()
  | .natural bits =>
      if (natural? bits value).isSome then .ok () else .error .valueValidation
  | .choice values => if values.contains value then .ok () else .error .invalidValue

/-- The values that were given by option name, and an option whose value is still open. -/
structure Reading where
  given : Table (List String) := .empty
  pending : Option (Parameter × Option String) := none

def Parameter.values (parameter : Parameter) (text : String) : List String :=
  if parameter.splits then (Text.split ',' text.toList).map String.ofList else [text]

namespace Reading

def accept (reading : Reading) (parameter : Parameter) (text : String) :
    Except Fault Reading := do
  let old := (reading.given.get? parameter.name).getD []
  if !parameter.many && (reading.given.get? parameter.name).isSome then .error .argumentConflict
  let values := parameter.values text
  for value in values do parameter.kind.check value
  .ok { reading with given := reading.given.insert parameter.name (old ++ values) }

/-- Takes the value of the open option. -/
def settle (reading : Reading) : Except Fault Reading :=
  match reading.pending with
  | none => .ok reading
  | some (_, none) => .error .invalidValue
  | some (parameter, some value) => { reading with pending := none }.accept parameter value

/-- The option that takes the next argument as its value. -/
def waiting? (reading : Reading) : Option Parameter :=
  match reading.pending with
  | some (parameter, none) => some parameter
  | _ => none

/-- An argument that begins with two hyphens. A value behind a flag is reported before anything that
is wrong with the open option. -/
def long (parameters : List Parameter) (reading : Reading) (text : List Char) :
    Except Fault Reading := do
  let (name, value) := Text.cut '=' text
  let name := String.ofList name
  let attached := value.map String.ofList
  match parameters.find? (·.name == name), attached with
  | some parameter, some value =>
      if parameter.kind = .flag then .error .tooManyValues
      else (← reading.settle).accept parameter value
  | some parameter, none =>
      let settled ← reading.settle
      if parameter.kind = .flag then settled.accept parameter "true"
      else .ok { settled with pending := some (parameter, none) }
  | none, some _ => .error (if name = "help" then .tooManyValues else .unknownArgument)
  | none, none =>
      if name = "help" then do
        let _ ← reading.settle
        .error .displayHelp
      else .error .unknownArgument

/-- An argument that begins with one hyphen. -/
def short (reading : Reading) (text : List Char) : Except Fault Reading := do
  if text.head? = some 'h' then
    let _ ← reading.settle
    .error .displayHelp
  else .error .unknownArgument

end Reading

/-- Reads options up to the first argument that is none, and gives what follows from there, with
whether it stands behind a double hyphen. -/
def options (parameters : List Parameter) (reading : Reading) :
    List String → Except Fault (Reading × Bool × List String)
  | [] => do .ok (← reading.settle, false, [])
  | argument :: rest =>
      match reading.waiting?, argument.toList with
      | some parameter, text =>
          let take : Reading := { reading with pending := some (parameter, some argument) }
          if parameter.hyphens then options parameters take rest
          else
            match text with
            | ['-', '-'] => .error (if rest = [] then .invalidValue else .unknownArgument)
            | '-' :: '-' :: name => do options parameters (← reading.long parameters name) rest
            | '-' :: letter :: letters => do
                options parameters (← reading.short (letter :: letters)) rest
            | _ => options parameters take rest
      | none, ['-', '-'] => do
          if rest = [] then .ok (← reading.settle, true, []) else .ok (reading, true, rest)
      | none, '-' :: '-' :: name => do options parameters (← reading.long parameters name) rest
      | none, '-' :: letter :: letters => do
          options parameters (← reading.short (letter :: letters)) rest
      | none, _ => .ok (reading, false, argument :: rest)

/-- Adds what the environment tells of options that were not given. -/
def fromEnvironment (environment : Table String) (reading : Reading) :
    List Parameter → Except Fault Reading
  | [] => .ok reading
  | parameter :: rest => do
      let found := parameter.variableName.bind environment.get?
      match reading.given.get? parameter.name, found with
      | none, some value =>
          fromEnvironment environment (← reading.accept parameter value) rest
      | _, _ => fromEnvironment environment reading rest

/-- An option that has to be there is missing. -/
def lacking (parameters : List Parameter) (given : Table (List String)) : Bool :=
  parameters.any fun parameter => parameter.required && (given.get? parameter.name).isNone

/-- Operands of a command: as many as are wanted, and no options but help. -/
def operands (wanted : Nat) (behind : Bool) (found : List String) :
    List String → Except Fault (List String)
  | [] => if found.length = wanted then .ok found else .error .missingArgument
  | argument :: rest =>
      let take : Except Fault (List String) :=
        if found.length = wanted then .error .unknownArgument
        else if argument = "" then .error .invalidValue
        else operands wanted behind (found ++ [argument]) rest
      if behind then take
      else
        match argument.toList with
        | ['-', '-'] => operands wanted true found rest
        | ['-', '-', 'h', 'e', 'l', 'p'] => .error .displayHelp
        | '-' :: '-' :: 'h' :: 'e' :: 'l' :: 'p' :: '=' :: _ => .error .tooManyValues
        | '-' :: 'h' :: _ => .error .displayHelp
        | '-' :: _ :: _ => .error .unknownArgument
        | _ => take

/-- A program's options and commands, each command with its number of operands. -/
structure Grammar where
  parameters : List Parameter
  commands : List (String × Nat) := []

/-- The values given by option name, and the command with its operands if one was given. -/
structure Parsed where
  given : Table (List String)
  command : Option (String × List String)

/-- Help on a command, or on help itself, may be asked for by name where there are commands. -/
def Grammar.help (grammar : Grammar) (topics : List String) : Fault :=
  match topics with
  | [] => .displayHelp
  | [topic] =>
      if topic = "help" ∨ (grammar.commands.lookup topic).isSome then .displayHelp
      else .unknownArgument
  | _ => .unknownArgument

/-- The command that the arguments after the options name. -/
def Grammar.command (grammar : Grammar) (behind : Bool) :
    List String → Except Fault (Option (String × List String))
  | [] => .ok none
  | name :: rest =>
      match behind, grammar.commands.lookup name with
      | false, some wanted => do .ok (some (name, ← operands wanted false [] rest))
      | false, none =>
          if name = "help" ∧ grammar.commands ≠ [] then .error (grammar.help rest)
          else .error .unknownArgument
      | true, _ => .error .unknownArgument

def Grammar.parse (grammar : Grammar) (environment : Table String) (arguments : List String) :
    Except Fault Parsed := do
  let (reading, behind, rest) ← options grammar.parameters {} arguments
  let command ← grammar.command behind rest
  let settled ← reading.settle
  let full ← fromEnvironment environment settled grammar.parameters
  if lacking grammar.parameters full.given then .error .missingArgument
  .ok ⟨full.given, command⟩

namespace Parsed

variable (parsed : Parsed)

def texts (name : String) : List String :=
  (parsed.given.get? name).getD []

def text? (name : String) : Option String :=
  (parsed.texts name).head?

def text (name default : String) : String :=
  (parsed.text? name).getD default

/-- A value of so many bits. -/
def natural? (bits : Nat) (name : String) : Option Nat :=
  (parsed.text? name).bind (Arguments.natural? bits)

def natural (bits : Nat) (name : String) (default : Nat) : Nat :=
  (parsed.natural? bits name).getD default

def flag (name : String) : Bool :=
  parsed.text? name == some "true"

end Parsed

end Concord.Arguments
