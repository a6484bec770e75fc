import Mathlib
import Concord.Executor
import Concord.Generation
import Concord.Proofs.Json.Restored
import Concord.Proofs.Legible
import Concord.Proofs.Queue.Tags
import Concord.Proofs.Store.Candidates
import Concord.Queue
import Concord.Totals

/-!
# Every record survives its encoding

Whatever record is written, reading its text gives that record, as long as the document is not too
deep and has no numbers but integers in range. Of the values that others put into a record only the
fields of objects have to be in order, as they are wherever values are read.
-/

namespace Concord

/-! ### Payloads in order -/

def Outcome.Ordered (outcome : Outcome) : Prop :=
  ∀ slot ∈ outcome.slots, slot.value.Ordered

def FunctionCalls.Ordered (calls : FunctionCalls) : Prop :=
  ∀ outcome ∈ calls.outcomes, outcome.Ordered

def CheckOutcome.Ordered (outcome : CheckOutcome) : Prop :=
  ∀ side ∈ outcome.sides, side.Ordered

def Verdict.Ordered (verdict : Verdict) : Prop :=
  ∀ side ∈ verdict.checks.sides, side.Ordered

structure Generation.Ordered (generation : Generation) : Prop where
  functionInputs : ∀ entry ∈ generation.functionInputs.entries, ∀ arguments ∈ entry.2,
    ∀ argument ∈ arguments, argument.Ordered
  constructorInputs : ∀ arguments ∈ generation.constructorInputs,
    ∀ argument ∈ arguments, argument.Ordered

/-- Every count is one of 64 bits with a sign. -/
structure Movement.InRange (movement : Movement) : Prop where
  generated : -2 ^ 63 ≤ movement.generated ∧ movement.generated < 2 ^ 63
  compilerErrors : -2 ^ 63 ≤ movement.compilerErrors ∧ movement.compilerErrors < 2 ^ 63
  runs : ∀ entry ∈ movement.runs.entries, -2 ^ 63 ≤ entry.2 ∧ entry.2 < 2 ^ 63
  verified : -2 ^ 63 ≤ movement.verified ∧ movement.verified < 2 ^ 63

/-! ### The records -/

section Records

open Decoder

theorem Json.arr_eq_list : arr = list id :=
  funext fun items => congrArg arr (List.map_id items).symm

theorem Generation.argumentLists_restores : argumentLists.Restores (.list .arr) fun sets =>
    ∀ arguments ∈ sets, ∀ argument ∈ arguments, argument.Ordered := by
  rw [Json.arr_eq_list]
  exact json_restores.list.list

theorem Generation.restores : decoder.Restores encode Ordered := by
  rintro ⟨id, source, backendSources, functionInputs, constructorInputs, compileError⟩ hordered
    allowance hfits
  refine record_restores (by simp) hfits fun inner hfields => ?_
  simp only [List.forall_mem_cons] at hfields
  obtain ⟨-, -, hsources, hfunctions, hconstructors, herror, -⟩ := hfields
  replace hsources := text_restores.table _ (fun _ _ => trivial) inner hsources
  replace hfunctions := argumentLists_restores.table _ hordered.functionInputs inner hfunctions
  replace hconstructors := argumentLists_restores _ hordered.constructorInputs inner hconstructors
  replace herror := text_restores.option written_str_ne_null _ (fun _ _ => trivial) inner herror
  simp [List.lookup_cons, hsources, hfunctions, hconstructors, herror]

theorem Job.restores : decoder.Restores encode fun _ => True := by
  rintro ⟨generation, backend⟩ _ allowance hfits
  refine record_restores (by simp) hfits fun inner _ => ?_
  simp [List.lookup_cons]

theorem Slot.restores : decoder.Restores encode fun slot => slot.value.Ordered := by
  rintro ⟨slot, value⟩ hordered allowance hfits
  refine record_restores (by simp) hfits fun inner hfields => ?_
  simp only [List.forall_mem_cons] at hfields
  have hvalue := hfields.2.1.value?_eq_some hordered
  simp [List.lookup_cons, hvalue]

theorem Snapshot.restores :
    decoder.Restores encode fun snapshot => ∀ slot ∈ snapshot.slots, slot.value.Ordered := by
  rintro ⟨slots⟩ hordered allowance hfits
  have hslots : Decoder.list Slot.decoder allowance (Json.list Slot.encode slots).written =
      .ok slots := Slot.restores.list slots hordered allowance hfits
  rw [decoder, encode, hslots]
  rfl

theorem Success.restores : decoder.Restores (fun observed => .obj observed.fields) fun observed =>
    (Outcome.success observed).Ordered := by
  rintro ⟨state, memory, gasUsed, returnValue⟩ hordered allowance hfits
  refine record_restores (by simp [fields]) hfits fun inner hfields => ?_
  simp only [fields, List.forall_mem_cons] at hfields
  obtain ⟨hstate, hmemory, hgas, -⟩ := hfields
  replace hstate := Snapshot.restores state hordered inner hstate
  replace hmemory := text_restores.option written_str_ne_null _ (fun _ _ => trivial) inner hmemory
  replace hgas := word64_restores.option written_nat_ne_null _ (fun _ _ => trivial) inner hgas
  simp [fields, List.lookup_cons, hstate, hmemory, hgas]

theorem Outcome.errorDecoder_restores {title message : String} {make : String → Outcome}
    {allowance : Nat} (hfits : (Json.obj [("message", .str message)]).Fits allowance) :
    errorDecoder title make allowance (Json.obj [("message", .str message)]).written =
      .ok (make message) := by
  refine record_restores (by simp) hfits fun inner _ => ?_
  simp

theorem Outcome.restores : decoder.Restores encode Ordered := by
  intro outcome hordered allowance hfits
  cases outcome with
  | success observed =>
      refine tagged_restores (by simp [Success.fields]) rfl hfits fun hcontent => ?_
      rw [Success.restores observed hordered allowance hcontent]
      rfl
  | deployError message =>
      exact tagged_restores (by simp) rfl hfits fun hcontent => errorDecoder_restores hcontent
  | runtimeError message =>
      exact tagged_restores (by simp) rfl hfits fun hcontent => errorDecoder_restores hcontent

theorem FunctionCalls.restores : decoder.Restores encode Ordered := by
  rintro ⟨constructorIndex, function, outcomes⟩ hordered allowance hfits
  refine record_restores (by simp) hfits fun inner hfields => ?_
  simp only [List.forall_mem_cons] at hfields
  obtain ⟨hindex, -, houtcomes, -⟩ := hfields
  replace hindex := word64_restores constructorIndex trivial inner hindex
  replace houtcomes := Outcome.restores.list outcomes hordered inner houtcomes
  simp [List.lookup_cons, hindex, houtcomes]

theorem RunResult.restores :
    decoder.Restores encode fun result => ∀ calls ∈ result.calls, calls.Ordered := by
  rintro ⟨generation, backend, calls, isHandled⟩ hordered allowance hfits
  refine record_restores (by simp) hfits fun inner hfields => ?_
  simp only [List.forall_mem_cons] at hfields
  have hcalls := FunctionCalls.restores.list calls hordered inner hfields.2.2.1
  simp [List.lookup_cons, hcalls]

theorem CheckOutcome.restores : decoder.Restores encode Ordered := by
  intro outcome hordered allowance hfits
  cases outcome with
  | pass => exact tagged_restores (by simp) rfl hfits fun _ => rfl
  | discrepancy found =>
      obtain ⟨detail, reference, candidate⟩ := found
      refine tagged_restores (by simp) rfl hfits fun hcontent => ?_
      refine record_restores (by simp) hcontent fun inner hfields => ?_
      simp only [List.forall_mem_cons] at hfields
      obtain ⟨-, hreference, hcandidate, -⟩ := hfields
      replace hreference := hreference.value?_eq_some (hordered _ (List.mem_pair.2 (.inl rfl)))
      replace hcandidate := hcandidate.value?_eq_some (hordered _ (List.mem_pair.2 (.inr rfl)))
      simp [List.lookup_cons, hreference, hcandidate]

theorem Checks.restores :
    decoder.Restores encode fun checks => ∀ side ∈ checks.sides, side.Ordered := by
  intro checks hordered allowance hfits
  obtain ⟨inner, rfl, hfields⟩ := hfits.exists_fields
  rw [List.forall_mem_map] at hfields
  rw [decoder_encode_eq_ok_iff]
  intro check outcome hget
  exact CheckOutcome.restores outcome (forall_sides_iff.1 hordered check outcome hget) inner
    (hfields (check, outcome) (mem_entries.2 hget))

theorem Verdict.restores : decoder.Restores encode Ordered := by
  rintro ⟨constructorIndex, function, inputIndex, reference, candidate, checks⟩ hordered allowance
    hfits
  refine record_restores (by simp) hfits fun inner hfields => ?_
  simp only [List.forall_mem_cons] at hfields
  obtain ⟨hconstructor, -, hinput, -, -, hchecks, -⟩ := hfields
  replace hconstructor := word64_restores constructorIndex trivial inner hconstructor
  replace hinput := word64_restores inputIndex trivial inner hinput
  replace hchecks := Checks.restores checks hordered inner hchecks
  simp [List.lookup_cons, hconstructor, hinput, hchecks]

theorem Verification.restores :
    decoder.Restores encode fun verification => ∀ verdict ∈ verification.verdicts,
      verdict.Ordered := by
  rintro ⟨generation, backends, verdicts, loggedToFile⟩ hordered allowance hfits
  refine record_restores (by simp) hfits fun inner hfields => ?_
  simp only [List.forall_mem_cons] at hfields
  obtain ⟨-, hbackends, hverdicts, -⟩ := hfields
  replace hbackends := text_restores.list backends (fun _ _ => trivial) inner hbackends
  replace hverdicts := Verdict.restores.list verdicts hordered inner hverdicts
  simp [List.lookup_cons, hbackends, hverdicts]

theorem Totals.restores : decoder.Restores encode fun _ => True := by
  rintro ⟨generated, compilerErrors, runs, verified⟩ _ allowance hfits
  refine record_restores (by simp) hfits fun inner hfields => ?_
  simp only [List.forall_mem_cons] at hfields
  obtain ⟨hgenerated, herrors, hruns, hverified, -⟩ := hfields
  replace hgenerated := word64_restores generated trivial inner hgenerated
  replace herrors := word64_restores compilerErrors trivial inner herrors
  replace hruns := word64_restores.table runs (fun _ _ => trivial) inner hruns
  replace hverified := word64_restores verified trivial inner hverified
  simp [List.lookup_cons, hgenerated, herrors, hruns, hverified]

theorem Movement.restores : decoder.Restores encode InRange := by
  rintro ⟨generated, compilerErrors, runs, verified⟩ hrange allowance hfits
  refine record_restores (by simp) hfits fun inner hfields => ?_
  simp only [List.forall_mem_cons] at hfields
  obtain ⟨hgenerated, herrors, hruns, hverified, -⟩ := hfields
  replace hgenerated := signed64_restores generated hrange.generated inner hgenerated
  replace herrors := signed64_restores compilerErrors hrange.compilerErrors inner herrors
  replace hruns := signed64_restores.table runs hrange.runs inner hruns
  replace hverified := signed64_restores verified hrange.verified inner hverified
  simp [List.lookup_cons, hgenerated, herrors, hruns, hverified]

theorem Export.restores : decoder.Restores encode fun _ => True := by
  rintro ⟨name, inputs⟩ _ allowance hfits
  refine record_restores (by simp) hfits fun inner hfields => ?_
  simp only [List.forall_mem_cons] at hfields
  have hinputs := text_restores.list inputs (fun _ _ => trivial) inner hfields.2.1
  simp [List.lookup_cons, hinputs]

theorem Trace.restores : decoder.Restores encode fun trace => trace.returnValue.Ordered := by
  rintro ⟨returnValue, gasUsed, memory⟩ hordered allowance hfits
  refine record_restores (by simp) hfits fun inner hfields => ?_
  simp only [List.forall_mem_cons] at hfields
  obtain ⟨hvalue, hgas, hmemory, -⟩ := hfields
  replace hvalue := hvalue.value?_eq_some hordered
  replace hgas := word64_restores.option written_nat_ne_null _ (fun _ _ => trivial) inner hgas
  replace hmemory := byte_restores.list.option written_list_ne_null _ (fun _ _ _ _ => trivial)
    inner hmemory
  simp [List.lookup_cons, hvalue, hgas, hmemory]

end Records

/-! ### All kinds of records -/

/-- What is written as a document: by the nodes, by backends, and by what watches them. -/
inductive RecordKind where
  | generation
  | job
  | slot
  | snapshot
  | success
  | outcome
  | functionCalls
  | runResult
  | checkOutcome
  | verdict
  | verification
  | totals
  | movement
  | function
  | trace

namespace RecordKind

def Value : RecordKind → Type
  | generation => Generation
  | job => Job
  | slot => Slot
  | snapshot => Snapshot
  | success => Success
  | outcome => Outcome
  | functionCalls => FunctionCalls
  | runResult => RunResult
  | checkOutcome => CheckOutcome
  | verdict => Verdict
  | verification => Verification
  | totals => Totals
  | movement => Movement
  | function => Export
  | trace => Trace

def encode : (kind : RecordKind) → kind.Value → Json
  | generation => Generation.encode
  | job => Job.encode
  | slot => Slot.encode
  | snapshot => Snapshot.encode
  | success => fun observed => .obj (Success.fields observed)
  | outcome => Outcome.encode
  | functionCalls => FunctionCalls.encode
  | runResult => RunResult.encode
  | checkOutcome => CheckOutcome.encode
  | verdict => Verdict.encode
  | verification => Verification.encode
  | totals => Totals.encode
  | movement => Movement.encode
  | function => Export.encode
  | trace => Trace.encode

def decoder : (kind : RecordKind) → Decoder kind.Value
  | generation => Generation.decoder
  | job => Job.decoder
  | slot => Slot.decoder
  | snapshot => Snapshot.decoder
  | success => Success.decoder
  | outcome => Outcome.decoder
  | functionCalls => FunctionCalls.decoder
  | runResult => RunResult.decoder
  | checkOutcome => CheckOutcome.decoder
  | verdict => Verdict.decoder
  | verification => Verification.decoder
  | totals => Totals.decoder
  | movement => Movement.decoder
  | function => Export.decoder
  | trace => Trace.decoder

/-- The fields of every object in a payload are in order, and the counts of a movement have 64 bits;
all other records are written as they are. -/
def Proper : (kind : RecordKind) → kind.Value → Prop
  | generation => Generation.Ordered
  | job => fun _ => True
  | slot => fun slot : Slot => slot.value.Ordered
  | snapshot => fun snapshot : Snapshot => ∀ slot ∈ snapshot.slots, slot.value.Ordered
  | success => fun observed : Success => (Outcome.success observed).Ordered
  | outcome => Outcome.Ordered
  | functionCalls => FunctionCalls.Ordered
  | runResult => fun result : RunResult => ∀ calls ∈ result.calls, calls.Ordered
  | checkOutcome => CheckOutcome.Ordered
  | verdict => Verdict.Ordered
  | verification => fun verification : Verification => ∀ verdict ∈ verification.verdicts,
      verdict.Ordered
  | totals => fun _ => True
  | movement => Movement.InRange
  | function => fun _ => True
  | trace => fun trace : Trace => trace.returnValue.Ordered

theorem restores (kind : RecordKind) : kind.decoder.Restores kind.encode kind.Proper := by
  cases kind with
  | generation => exact Generation.restores
  | job => exact Job.restores
  | slot => exact Slot.restores
  | snapshot => exact Snapshot.restores
  | success => exact Success.restores
  | outcome => exact Outcome.restores
  | functionCalls => exact FunctionCalls.restores
  | runResult => exact RunResult.restores
  | checkOutcome => exact CheckOutcome.restores
  | verdict => exact Verdict.restores
  | verification => exact Verification.restores
  | totals => exact Totals.restores
  | movement => exact Movement.restores
  | function => exact Export.restores
  | trace => exact Trace.restores

end RecordKind

/-! ### What is published and what is inserted -/

/-- Whoever receives the message of a published job is given that job. -/
theorem Queue.job?_of_received {before later : List Step} {name other : String} {job : Job}
    {delivery : Delivery} {next : Queue}
    (hreceive : (((after before).publish name job).performAll later).receive other =
      (some delivery, next))
    (hheld : ∃ message ∈ next.messages, message.leasedAs delivery.tag = true ∧
      message.number = (after before).published) : delivery.job? = some job := by
  obtain ⟨message, hmem, hleased, hnumber⟩ := hheld
  have hpublished : (after before).published = (publications before).length :=
    (accounted_after before).published
  have hsteps : ((after before).publish name job).performAll later =
      after (before ++ .publish name job.encode.text :: later) := by
    rw [after_append_cons]
    rfl
  rw [hsteps] at hreceive
  have hdelivered := publication_of_received _ hreceive hmem hleased
  have hpublications : publications (before ++ .publish name job.encode.text :: later) =
      publications before ++ (name, job.encode.text) :: publications later :=
    List.filterMap_append
  rw [hnumber, hpublished, hpublications, List.getElem?_append_right le_rfl, Nat.sub_self,
    List.getElem?_cons_zero] at hdelivered
  obtain ⟨-, hbody⟩ := Prod.mk.inj (Option.some.inj hdelivered)
  rw [Delivery.job?, ← hbody, Job.read?_encode]

/-- A candidate is loaded as it was inserted, whatever is written later. -/
theorem Store.loadGeneration_of_inserted {store later : Store} {generation : Generation}
    (hordered : generation.Ordered) (hplain : generation.encode.Plain)
    (h : store.insertGeneration generation = .ok ((), later)) (operations : List Operation) :
    (later.performAll operations).loadGeneration generation.id = .ok (some generation) := by
  obtain ⟨kept, hkept, hdocument⟩ :=
    exists_generation?_performAll (generation?_insertGeneration h) operations
  rw [loadGeneration_eq_ok_iff, hkept]
  refine ⟨generation, ?_, rfl⟩
  rw [hdocument]
  exact Generation.restores.read? hordered hplain

/-- **Every record survives its encoding.** The text of a record is read as that record; so a job is
received as it was published, however often it is delivered, and a candidate is loaded as it was
inserted, whatever is written later. -/
theorem records_restored :
    (∀ (kind : RecordKind) (value : kind.Value), kind.Proper value → (kind.encode value).Plain →
      kind.decoder.read? (kind.encode value).text = some value) ∧
    (∀ (before later : List Queue.Step) (name other : String) (job : Job) (delivery : Delivery)
      (next : Queue),
      (((Queue.after before).publish name job).performAll later).receive other =
        (some delivery, next) →
      (∃ message ∈ next.messages, message.leasedAs delivery.tag = true ∧
        message.number = (Queue.after before).published) →
      delivery.job? = some job) ∧
    ∀ (store later : Store) (generation : Generation) (operations : List Store.Operation),
      generation.Ordered → generation.encode.Plain →
      store.insertGeneration generation = .ok ((), later) →
      (later.performAll operations).loadGeneration generation.id = .ok (some generation) :=
  ⟨fun kind _ hproper hplain => kind.restores.read? hproper hplain,
    fun _ _ _ _ _ _ _ hreceive hheld => Queue.job?_of_received hreceive hheld,
    fun _ _ _ operations hordered hplain h =>
      Store.loadGeneration_of_inserted hordered hplain h operations⟩

namespace Samples

/-- Escapes, the outermost integers, and containers inside one another. -/
def payload : Json :=
  .obj [("", .arr [.int (-2 ^ 63), .nat (2 ^ 64 - 1)]), ("\n\"", .obj [("\u2603", .null)])]

def difference : Verification where
  generation := "g"
  backends := ["ivy", "boa"]
  verdicts := [⟨0, "f", 2, "ivy", "boa",
    { storage := some (.discrepancy ⟨"1 of 2", payload, .arr [payload, .null]⟩)
      gas := some .pass }⟩]
  loggedToFile := true

def candidate : Generation where
  id := "g"
  source := "f()"
  backendSources := Table.empty.insert "boa" "f(\t)"
  functionInputs := Table.empty.insert "f" [[payload, .str "\u0001"], []]
  constructorInputs := [[], [payload]]
  compileError := some ""

def job : Job := ⟨"g", "boa"⟩

/-- A message that came before the job is held by someone else. -/
def waiting : Queue :=
  ((Queue.after [.publish "boa" "g"]).publish "boa" job).performAll [.receive "boa"]

def delivery : Delivery := ⟨⟨1⟩, "boa", job.encode.text, 1⟩

theorem ordered_payload : payload.Ordered := by
  refine ⟨List.pairwise_pair.2 (by decide), ⟨trivial, trivial, trivial⟩, ⟨?_, trivial, trivial⟩,
    trivial⟩
  exact List.pairwise_singleton _ _

theorem ordered_difference : RecordKind.verification.Proper difference := by
  intro verdict hverdict side hside
  rw [List.mem_singleton.1 hverdict] at hside
  rcases List.mem_pair.1 hside with rfl | rfl
  · exact ordered_payload
  · exact ⟨ordered_payload, trivial, trivial⟩

theorem ordered_candidate : candidate.Ordered := by
  refine ⟨?_, ?_⟩
  · intro entry hentry
    rw [List.mem_singleton.1 hentry]
    simp only [List.forall_mem_cons]
    exact ⟨⟨ordered_payload, trivial, by simp⟩, by simp, by simp⟩
  · simp only [candidate, List.forall_mem_cons]
    exact ⟨by simp, ⟨ordered_payload, by simp⟩, by simp⟩

/-- A difference between values comes back, so does a job from behind another message, and so does a
candidate that was marked. -/
theorem samples_restored :
    Verification.decoder.read? difference.encode.text = some difference ∧
      (waiting.receive "boa" = (some delivery, (waiting.receive "boa").2) ∧
        delivery.job? = some job) ∧
      ∃ later, Store.insertGeneration {} candidate = .ok ((), later) ∧
        (later.performAll [.markEnqueued "g"]).loadGeneration "g" = .ok (some candidate) := by
  have hreceive : waiting.receive "boa" = (some delivery, (waiting.receive "boa").2) := by
    decide +kernel
  have hheld : ∃ message ∈ (waiting.receive "boa").2.messages,
      message.leasedAs delivery.tag = true ∧
        message.number = (Queue.after [.publish "boa" "g"]).published := by
    decide +kernel
  refine ⟨?_, ⟨hreceive, ?_⟩, _, rfl, ?_⟩
  · exact records_restored.1 .verification difference ordered_difference (by decide)
  · exact records_restored.2.1 [.publish "boa" "g"] [.receive "boa"] "boa" "boa" job delivery _
      hreceive hheld
  · exact records_restored.2.2 {} _ candidate [.markEnqueued "g"] ordered_candidate (by decide) rfl

end Samples

end Concord
