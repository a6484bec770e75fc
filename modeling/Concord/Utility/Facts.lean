import Concord.Shell.Condition
import Concord.Shell.Format
import Concord.Utility.Lines

/-!
Programs that tell something about the machine, the user or the time, and programs that only repeat
what they are told.
-/

namespace Concord.Utility

open Work

/-! ### Words -/

/-- The character with a number in hexadecimal digits. -/
def hexadecimalChar? (digits : List Char) : Option Char :=
  let value (c : Char) : Option Nat :=
    if c.isDigit then some (c.toNat - 48)
    else if 'a' ≤ c && c ≤ 'f' then some (c.toNat - 87)
    else if 'A' ≤ c && c ≤ 'F' then some (c.toNat - 55)
    else none
  match digits.mapM value with
  | some [] => none
  | some values => some (Char.ofNat (values.foldl (fun n digit => 16 * n + digit) 0))
  | none => none

/-- A text with its backslashes resolved, and whether printing goes on behind it. -/
def unescaped : Nat → List Char → List Char × Bool
  | 0, _ => ([], true)
  | _, [] => ([], true)
  | _, '\\' :: 'c' :: _ => ([], false)
  | fuel + 1, '\\' :: 'x' :: rest =>
      let digits := (rest.take 2).takeWhile fun c => (hexadecimalChar? [c]).isSome
      let c? := hexadecimalChar? digits
      let (text, goesOn) := unescaped fuel (rest.drop digits.length)
      (match c? with
        | some c => (c :: text, goesOn)
        | none => ('\\' :: 'x' :: text, goesOn))
  | fuel + 1, '\\' :: '0' :: rest =>
      let (c, behind) := Shell.Format.octal 3 rest
      let (text, goesOn) := unescaped fuel behind
      (c :: text, goesOn)
  | fuel + 1, '\\' :: rest =>
      let (c, behind) := Shell.Format.escape rest
      let (text, goesOn) := unescaped fuel behind
      (c :: text, goesOn)
  | fuel + 1, c :: rest =>
      let (text, goesOn) := unescaped fuel rest
      (c :: text, goesOn)

def echoOption (word : List Char) : Bool :=
  match word with
  | '-' :: letters => !letters.isEmpty && letters.all fun c => ['n', 'e', 'E'].contains c
  | _ => false

def echo : Work Nat := do
  let words ← arguments
  let given := words.takeWhile echoOption
  let text := [' '].intercalate (words.drop given.length)
  let letters := given.flatten
  let resolves : Bool := (letters.filter fun c => c = 'e' || c = 'E').getLast? = some 'e'
  let (text, goesOn) := if resolves then unescaped (text.length + 1) text else (text, true)
  print (if letters.contains 'n' || !goesOn then text else text ++ ['\n'])
  pure 0

def printf : Work Nat := do
  match ← arguments with
  | [] => misuse 1 "missing operand".toList
  | format :: words => do
      let printed := Shell.Format.printf format words
      print printed.output
      for message in printed.messages do
        fault 1 message
      match printed.fault with
      | some message => fail 1 message
      | none => pure 0

def condition (words : List (List Char)) : Work Nat := do
  let state ← get
  let place : Shell.Condition.Place := ⟨state.files, state.task.directory, state.executables⟩
  match Shell.Condition.holds place (words.length + 1) words with
  | .ok found => pure (if found then 0 else 1)
  | .error message => fail 2 message.toList

def test : Work Nat := do
  condition (← arguments)

def bracket : Work Nat := do
  let words ← arguments
  if words.getLast? = some [']'] then condition words.dropLast
  else fail 2 "missing ']'".toList

/-- Prints a line again and again until nobody takes any more. -/
def yes : Work Nat := do
  let words ← arguments
  let line := (if words.isEmpty then ['y'] else [' '].intercalate words) ++ ['\n']
  printNow (List.replicate (200000 / line.length + 1) line).flatten
  pure 0

/-- A program that waits, when it cannot tell for how long. -/
def sleep : Work Nat := do
  match ← arguments with
  | [] => misuse 1 "missing operand".toList
  | word :: _ => misuse 1 ("invalid time interval ".toList ++ quote word)

/-! ### Who and where -/

def printenv : Work Nat := do
  let (given, names) ← options { letters := [('0', false)], names := [("null", '0')], status := 2 }
  let finish := if has given '0' then '\x00' else '\n'
  let environment := (← get).task.environment
  if names.isEmpty then do
    for (name, value) in environment do
      print (name ++ '=' :: value ++ [finish])
    pure 0
  else do
    for name in names do
      match environment.lookup name with
      | some value => print (value ++ [finish])
      | none => modify fun state => { state with status := 1 }
    pure 0

def pwd : Work Nat := do
  printLine (Text.Octets.ofString (← get).task.directory)
  pure 0

def whoami : Work Nat := do
  printLine "root".toList
  pure 0

def id : Work Nat := do
  let (given, _) ← options
    { letters := ['a', 'g', 'G', 'n', 'r', 'u', 'z', 'Z'].map (·, false)
      names := [("user", 'u'), ("group", 'g'), ("groups", 'G'), ("name", 'n'), ("real", 'r')] }
  let single := has given 'u' || has given 'g' || has given 'G'
  printLine
    (if !single then "uid=0(root) gid=0(root) groups=0(root)".toList
    else if has given 'n' then "root".toList
    else ['0'])
  pure 0

/-- Parts of the name of the machine, in the order in which they are told. -/
def machineParts : List (Char × String) :=
  [('s', "Linux"), ('n', "localhost"), ('r', "6.1.0"), ('v', "#1 SMP"), ('m', "x86_64"),
    ('p', "x86_64"), ('i', "x86_64"), ('o', "GNU/Linux")]

def uname : Work Nat := do
  let (given, _) ← options
    { letters := ('a', false) :: machineParts.map fun part => (part.1, false)
      names := [("all", 'a'), ("kernel-name", 's'), ("nodename", 'n'), ("kernel-release", 'r'),
        ("kernel-version", 'v'), ("machine", 'm'), ("processor", 'p'), ("hardware-platform", 'i'),
        ("operating-system", 'o')] }
  let wanted := machineParts.filter fun (letter, _) =>
    has given letter || has given 'a' || (given.isEmpty && letter = 's')
  printLine ([' '].intercalate (wanted.map fun part => part.2.toList))
  pure 0

def arch : Work Nat := do
  printLine "x86_64".toList
  pure 0

def hostname : Work Nat := do
  printLine "localhost".toList
  pure 0

def nproc : Work Nat := do
  printLine ['1']
  pure 0

def tty : Work Nat := do
  let (given, _) ← options
    { letters := [('s', false)], names := [("silent", 's'), ("quiet", 's')], status := 2 }
  if has given 's' then pure () else printLine "not a tty".toList
  pure 1

def logname : Work Nat :=
  fail 1 "no login name".toList

/-- Where programs are found. -/
def which : Work Nat := do
  let (given, names) ← options { letters := [('a', false), ('s', false)], status := 2 }
  let state ← get
  let path := (state.task.environment.lookup "PATH".toList).getD []
  let places (name : List Char) : List (List Char) :=
    if name.contains '/' then [name]
    else (splitOn ':' path).map fun directory => directory ++ '/' :: name
  let runs (candidate : List Char) : Bool :=
    match state.files.find (Files.join state.task.directory (Text.Octets.asString candidate)) with
    | .ok (_, .program) => true
    | .ok (place, .file _) => state.executables.contains place
    | _ => false
  for name in names do
    let found := (places name).filter runs
    if found.isEmpty then modify fun state => { state with status := 1 }
    else if has given 's' then pure ()
    else
      for place in (if has given 'a' then found else found.take 1) do
        printLine place
  pure (if names.isEmpty then 1 else 0)

/-- There is no process that could be found. -/
def pgrep : Work Nat := do
  let words ← arguments
  if words.all fun word => word.head? = some '-' then do
    let name := (← get).task.name
    complain "no matching criteria specified".toList
    complainPlain ("Try \x60".toList ++ name ++ " --help' for more information.".toList)
    pure 2
  else pure 1

def killall : Work Nat := do
  let words ← arguments
  for word in words.filter fun word => word.head? ≠ some '-' do
    complainPlain (word ++ ": no process found".toList)
  pure 1

/-! ### The time -/

/-- A day as year, month and day of the month. The year begins with March here, so that a leap day
is the last one of it. -/
def civil (days : Nat) : Nat × Nat × Nat :=
  let shifted := days + 719468
  let era := shifted / 146097
  let inEra := shifted % 146097
  let yearOfEra := (inEra - inEra / 1460 + inEra / 36524 - inEra / 146096) / 365
  let dayOfYear := inEra - (365 * yearOfEra + yearOfEra / 4 - yearOfEra / 100)
  let part := (5 * dayOfYear + 2) / 153
  let month := if part < 10 then part + 3 else part - 9
  let year := yearOfEra + era * 400 + (if month ≤ 2 then 1 else 0)
  (year, month, dayOfYear - (153 * part + 2) / 5 + 1)

def zeroed (width n : Nat) : List Char :=
  let digits := naturalText n
  List.replicate (width - digits.length) '0' ++ digits

def dayNames : List String :=
  ["Thursday", "Friday", "Saturday", "Sunday", "Monday", "Tuesday", "Wednesday"]

def monthNames : List String :=
  ["January", "February", "March", "April", "May", "June", "July", "August", "September",
    "October", "November", "December"]

/-- A part of a time, counted in seconds from the beginning of 1970. -/
def timePart (seconds : Nat) (letter : Char) : List Char :=
  let days := seconds / 86400
  let (year, month, day) := civil days
  let hour := seconds / 3600 % 24
  let minute := seconds / 60 % 60
  let second := seconds % 60
  let dayName := (dayNames.getD (days % 7) "").toList
  let monthName := (monthNames.getD (month - 1) "").toList
  let date := zeroed 4 year ++ '-' :: zeroed 2 month ++ '-' :: zeroed 2 day
  let clock := zeroed 2 hour ++ ':' :: zeroed 2 minute ++ ':' :: zeroed 2 second
  match letter with
  | 'Y' => zeroed 4 year
  | 'y' => zeroed 2 (year % 100)
  | 'm' => zeroed 2 month
  | 'd' => zeroed 2 day
  | 'e' => rightIn 2 (naturalText day)
  | 'H' => zeroed 2 hour
  | 'I' => zeroed 2 ((hour + 11) % 12 + 1)
  | 'M' => zeroed 2 minute
  | 'S' => zeroed 2 second
  | 'p' => if hour < 12 then ['A', 'M'] else ['P', 'M']
  | 's' => naturalText seconds
  | 'N' => zeroed 9 0
  | 'F' => date
  | 'T' => clock
  | 'R' => clock.take 5
  | 'D' => zeroed 2 month ++ '/' :: zeroed 2 day ++ '/' :: zeroed 2 (year % 100)
  | 'a' => dayName.take 3
  | 'A' => dayName
  | 'b' => monthName.take 3
  | 'h' => monthName.take 3
  | 'B' => monthName
  | 'u' => naturalText ((days + 3) % 7 + 1)
  | 'w' => naturalText ((days + 4) % 7)
  | 'Z' => "UTC".toList
  | 'z' => "+0000".toList
  | 'n' => ['\n']
  | 't' => ['\t']
  | '%' => ['%']
  | c => ['%', c]

def timeText (seconds : Nat) : List Char → List Char
  | '%' :: '-' :: c :: rest =>
      let part := timePart seconds c
      let bare := part.dropWhile (· = '0')
      (if bare.isEmpty then part.drop (part.length - 1) else bare) ++ timeText seconds rest
  | '%' :: c :: rest => timePart seconds c ++ timeText seconds rest
  | c :: rest => c :: timeText seconds rest
  | [] => []

/-- Tells a time; without a clock, the one that it is given. -/
def date : Work Nat := do
  let (given, operands) ← options
    { letters := [('u', false), ('d', true), ('R', false), ('r', true), ('s', true)]
      optional := ['I']
      names := [("utc", 'u'), ("universal", 'u'), ("date", 'd'), ("iso-8601", 'I'),
        ("rfc-email", 'R')] }
  let seconds ← (do
    match value? given 'd' with
    | some ('@' :: digits) =>
        match natural? digits with
        | some seconds => pure seconds
        | none => fail 1 ("invalid date ".toList ++ quote ('@' :: digits))
    | _ => pure 0)
  match operands with
  | ('+' :: format) :: _ => printLine (timeText seconds format)
  | [] => printLine (timeText seconds
      (if has given 'I' then "%F".toList
      else if has given 'R' then "%a, %d %b %Y %T %z".toList
      else "%a %b %e %T %Z %Y".toList))
  | word :: _ => fail 1 ("invalid date ".toList ++ quote word)
  pure 0

end Concord.Utility
