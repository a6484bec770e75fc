import Concord.Text.Lowercase
import Concord.Text.Search
import Concord.Outcome
import Concord.Verdict

/-!
Comparing what two backends made of the same calls. Where either side failed, whether the errors
correlate is the only check, so an error message is never compared with a computed value.
-/

namespace Concord

/-- What counts as a difference. Two errors correlate if their messages contain the same marker, or
are the same where `identicalErrors` allows it; `memory` and `gas` ask for further checks. -/
structure Comparison where
  markers : List String := ["This is an unhandled"]
  identicalErrors : Bool := false
  memory : Bool := false
  gas : Bool := false
  deriving Repr

/-- One function of one deployment. -/
structure Site where
  constructorIndex : Nat
  function : String
  deriving DecidableEq, Repr

namespace Site

def before (a b : Site) : Bool :=
  a.constructorIndex < b.constructorIndex ||
    (a.constructorIndex == b.constructorIndex && a.function < b.function)

/-- Puts a site at its place among sites in order, once. -/
def insert (site : Site) : List Site → List Site
  | [] => [site]
  | head :: rest =>
      if site = head then head :: rest
      else if site.before head then site :: head :: rest
      else head :: insert site rest

end Site

def FunctionCalls.site (calls : FunctionCalls) : Site :=
  ⟨calls.constructorIndex, calls.function⟩

namespace RunResult

/-- The outcomes at a site; of calls that repeat a site the last count. -/
def outcomesAt (run : RunResult) (site : Site) : List Outcome :=
  match run.calls.reverse.find? (·.site == site) with
  | some calls => calls.outcomes
  | none => []

end RunResult

namespace Comparison

/-- The wider vocabulary of failure. -/
def broadMarkers : List String :=
  ["out of gas", "revert", "assert", "overflow", "underflow", "division by zero", "modulo by zero",
    "out of bounds", "index out of range", "invalid opcode", "stack too deep"]

/-- The first marker in a message, ignoring case. -/
def markerIn (rule : Comparison) (message : String) : Option String :=
  rule.markers.find? fun marker => Text.contains (Text.lowercase message) (Text.lowercase marker)

def differ (detail : String) (reference candidate : Json) : CheckOutcome :=
  .discrepancy ⟨detail, reference.sorted, candidate.sorted⟩

def unlessEqual (equal : Bool) (detail : String) (reference candidate : Json) : CheckOutcome :=
  if equal then .pass else differ detail reference candidate

/-- Do two error messages stand for the same failure? -/
def correlated (rule : Comparison) (ours theirs : String) : Bool :=
  (rule.identicalErrors && ours == theirs) ||
    ((rule.markerIn ours).isSome && rule.markerIn ours == rule.markerIn theirs)

def uncorrelated (rule : Comparison) (ours theirs : String) : String :=
  "errors do not correlate: " ++ (rule.markerIn ours).getD "unrecognised" ++ " against " ++
    (rule.markerIn theirs).getD "unrecognised"

def storage (a b : Success) : CheckOutcome :=
  unlessEqual (a.state.same b.state) "storage differs" a.state.encode b.state.encode

/-- The value of a return text; a text that is no JSON stands for itself. -/
def returned (text : String) : Json :=
  (Json.read text).getD (.str text)

def returnValue (a b : Success) : CheckOutcome :=
  let (x, y) := (returned a.returnValue, returned b.returnValue)
  unlessEqual (x.same y) "return values differ" x y

def memoryImage (a b : Success) : CheckOutcome :=
  unlessEqual (a.memory == b.memory) "memory differs" (.option .str a.memory)
    (.option .str b.memory)

def gasUsed (a b : Success) : CheckOutcome :=
  unlessEqual (a.gasUsed == b.gasUsed) "gas consumption differs" (.option .nat a.gasUsed)
    (.option .nat b.gasUsed)

def successes (rule : Comparison) (a b : Success) : Checks where
  storage := some (storage a b)
  returnValue := some (returnValue a b)
  memory := if rule.memory then some (memoryImage a b) else none
  gas := if rule.gas then some (gasUsed a b) else none

/-- The checks on the outcomes of one call on both sides. -/
def compare (rule : Comparison) (reference candidate : Outcome) : Checks :=
  match reference, candidate with
  | .success a, .success b => rule.successes a b
  | a, b =>
      let verdict :=
        match a.errorMessage, b.errorMessage with
        | some ours, some theirs =>
            unlessEqual (rule.correlated ours theirs) (rule.uncorrelated ours theirs) a.encode
              b.encode
        | _, _ =>
            differ ("asymmetric failure: " ++ a.kind ++ " against " ++ b.kind) a.encode b.encode
      { errorCorrelation := some verdict }

/-- The checks on one call that may be missing on a side. -/
def compareAt (rule : Comparison) : Option Outcome → Option Outcome → Checks
  | some a, some b => rule.compare a b
  | a, b =>
      { errorCorrelation := some (differ "outcome missing on one backend"
          (.option Outcome.encode a) (.option Outcome.encode b)) }

/-- Every site of two runs, in order. -/
def sites (reference candidate : RunResult) : List Site :=
  (reference.calls ++ candidate.calls).foldl (fun sites calls => calls.site.insert sites) []

def verdictsAt (rule : Comparison) (reference candidate : RunResult) (site : Site) :
    List Verdict :=
  let (ours, theirs) := (reference.outcomesAt site, candidate.outcomesAt site)
  (List.range (max ours.length theirs.length)).map fun index =>
    ⟨site.constructorIndex, site.function, index, reference.backend, candidate.backend,
      rule.compareAt ours[index]? theirs[index]?⟩

def compareRuns (rule : Comparison) (reference candidate : RunResult) : List Verdict :=
  (sites reference candidate).flatMap (rule.verdictsAt reference candidate)

/-- The result of a candidate on a backend; of several the last. -/
def resultOf? (generation : String) (results : List RunResult) (backend : String) :
    Option RunResult :=
  results.reverse.find? fun result => result.generation == generation && result.backend == backend

/-- Compares every other backend with the first one, once all of them have a result. -/
def verification? (rule : Comparison) (generation : String) (results : List RunResult)
    (backends : List String) : Option Verification := do
  let found ← backends.mapM (resultOf? generation results)
  let verdicts :=
    match found with
    | [] => []
    | reference :: candidates => candidates.flatMap (rule.compareRuns reference)
  some ⟨generation, backends, verdicts, false⟩

end Comparison

end Concord
