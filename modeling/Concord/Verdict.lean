import Concord.Json.Decode

/-!
Verdicts: what comparing two backends call by call has shown.
-/

namespace Concord

inductive Check where
  | errorCorrelation
  | storage
  | returnValue
  | memory
  | gas
  deriving DecidableEq, Repr

namespace Check

def all : List Check :=
  [errorCorrelation, storage, returnValue, memory, gas]

def name : Check → String
  | errorCorrelation => "Error_Correlation"
  | storage => "Storage"
  | returnValue => "Return_Value"
  | memory => "Memory"
  | gas => "Gas"

def ofName? (text : String) : Option Check :=
  all.find? (·.name == text)

end Check

/-- A difference, with both sides as they were. -/
structure Discrepancy where
  detail : String
  reference : Json
  candidate : Json

inductive CheckOutcome where
  | pass
  | discrepancy (found : Discrepancy)

namespace CheckOutcome

def isPass : CheckOutcome → Bool
  | pass => true
  | discrepancy _ => false

def discrepancyDecoder : Decoder CheckOutcome :=
  .record "Discrepancy" ["detail", "reference", "candidate"] fun r =>
    (fun detail reference candidate => discrepancy ⟨detail, reference, candidate⟩)
      <$> r.required "detail" .text
      <*> r.required "reference" .json
      <*> r.required "candidate" .json

def variant (name : String) : Option (Decoder CheckOutcome) :=
  if name = "pass" then some (.bare pass)
  else if name = "discrepancy" then some discrepancyDecoder
  else none

def decoder : Decoder CheckOutcome :=
  .tagged "status" variant

def encode : CheckOutcome → Json
  | pass => .obj [("status", .str "pass")]
  | discrepancy found =>
      .obj [
        ("status", .str "discrepancy"),
        ("detail", .str found.detail),
        ("reference", found.reference),
        ("candidate", found.candidate)]

end CheckOutcome

/-- The checks that were made, each with its outcome. -/
structure Checks where
  errorCorrelation : Option CheckOutcome := none
  storage : Option CheckOutcome := none
  returnValue : Option CheckOutcome := none
  memory : Option CheckOutcome := none
  gas : Option CheckOutcome := none

namespace Checks

def get? (checks : Checks) : Check → Option CheckOutcome
  | .errorCorrelation => checks.errorCorrelation
  | .storage => checks.storage
  | .returnValue => checks.returnValue
  | .memory => checks.memory
  | .gas => checks.gas

def set (checks : Checks) (check : Check) (outcome : CheckOutcome) : Checks :=
  match check with
  | .errorCorrelation => { checks with errorCorrelation := some outcome }
  | .storage => { checks with storage := some outcome }
  | .returnValue => { checks with returnValue := some outcome }
  | .memory => { checks with memory := some outcome }
  | .gas => { checks with gas := some outcome }

/-- The checks made, in the order in which they are written. -/
def entries (checks : Checks) : List (Check × CheckOutcome) :=
  Check.all.filterMap fun check => (checks.get? check).map (check, ·)

def allPass (checks : Checks) : Bool :=
  checks.entries.all (·.2.isPass)

/-- Of a check named twice the last outcome counts. -/
def decoder : Decoder Checks := fun allowance raw =>
  (·.foldl (fun checks entry => checks.set entry.1 entry.2) {})
    <$> Decoder.entries Check.ofName? CheckOutcome.decoder allowance raw

def encode (checks : Checks) : Json :=
  .obj (checks.entries.map fun entry => (entry.1.name, entry.2.encode))

end Checks

/-- The checks on one call, the reference backend against another one. -/
structure Verdict where
  constructorIndex : Nat
  function : String
  inputIndex : Nat
  reference : String
  candidate : String
  checks : Checks

namespace Verdict

def hasDiscrepancy (verdict : Verdict) : Bool :=
  !verdict.checks.allPass

def decoder : Decoder Verdict :=
  .record "CallVerdict"
      ["constructor_index", "function", "input_index", "reference", "candidate", "checks"] fun r =>
    mk <$> r.required "constructor_index" .word64
      <*> r.required "function" .text
      <*> r.required "input_index" .word64
      <*> r.required "reference" .text
      <*> r.required "candidate" .text
      <*> r.required "checks" Checks.decoder

def encode (verdict : Verdict) : Json :=
  .obj [
    ("constructor_index", .nat verdict.constructorIndex),
    ("function", .str verdict.function),
    ("input_index", .nat verdict.inputIndex),
    ("reference", .str verdict.reference),
    ("candidate", .str verdict.candidate),
    ("checks", verdict.checks.encode)]

end Verdict

/-- The comparison of one candidate over its backends. -/
structure Verification where
  generation : String
  backends : List String
  verdicts : List Verdict
  loggedToFile : Bool

namespace Verification

def hasDiscrepancy (verification : Verification) : Bool :=
  verification.verdicts.any Verdict.hasDiscrepancy

def discrepancies (verification : Verification) : List Verdict :=
  verification.verdicts.filter Verdict.hasDiscrepancy

def decoder : Decoder Verification :=
  .record "VerificationResult" ["generation_id", "backends", "verdicts", "logged_to_file"] fun r =>
    mk <$> r.required "generation_id" .text
      <*> r.required "backends" (.list .text)
      <*> r.required "verdicts" (.list Verdict.decoder)
      <*> r.withDefault "logged_to_file" .flag false

def encode (verification : Verification) : Json :=
  .obj [
    ("generation_id", .str verification.generation),
    ("backends", .list .str verification.backends),
    ("verdicts", .list Verdict.encode verification.verdicts),
    ("logged_to_file", .bool verification.loggedToFile)]

end Verification

end Concord
