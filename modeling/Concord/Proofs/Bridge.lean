import Mathlib
import Concord.Bridge
import Concord.Execution
import Concord.Proofs.Json.Yields

/-!
# Runs over the bridge

Whatever the program of a backend prints, the values that come over the bridge were read from a
line. So they are regular, and so is what is kept of them in the result of a run.
-/

namespace Concord

/-! ### What a result keeps of values -/

namespace Outcome

/-- The slots that are kept of a call. -/
def slots : Outcome → List Slot
  | success observed => observed.state.slots
  | _ => []

def gasUsed : Outcome → Option Nat
  | success observed => observed.gasUsed
  | _ => none

/-- What is kept of the call is as if it had been read. -/
structure Regular (outcome : Outcome) : Prop where
  slots : ∀ slot ∈ outcome.slots, slot.value.Regular
  gasUsed : ∀ gas, outcome.gasUsed = some gas → gas < 2 ^ 64

theorem regular_of_failed {outcome : Outcome} (hslots : outcome.slots = [])
    (hgas : outcome.gasUsed = none) : outcome.Regular := by
  refine ⟨?_, ?_⟩
  · rw [hslots]
    rintro slot ⟨⟩
  · rw [hgas]
    rintro gas ⟨⟩

end Outcome

/-- What is kept of every call is as if it had been read. -/
def RunResult.Regular (result : RunResult) : Prop :=
  ∀ calls ∈ result.calls, ∀ outcome ∈ calls.outcomes, outcome.Regular

/-- Whatever the executor answers is as if it had been read. -/
structure Executor.Regular {σ : Type} (executor : Executor σ) : Prop where
  gasUsed : ∀ handle function args state trace,
    (executor.call handle function args state).1 = .ok trace →
      ∀ gas, trace.gasUsed = some gas → gas < 2 ^ 64
  slots : ∀ handle state slots, (executor.dumpState handle state).1 = .ok slots →
    ∀ slot ∈ slots, slot.value.Regular

/-! ### Runs -/

namespace Execution

variable {σ α β : Type} {executor : Executor σ}

/-- What holds of whatever a step gives holds of all that a chain of steps gives. -/
theorem forall_mapM {f : α → StateM σ β} {property : β → Prop}
    (h : ∀ item state, property (f item state).1) (items : List α) (state : σ) :
    ∀ value ∈ ((items.mapM f) state).1, property value := by
  induction items generalizing state with
  | nil => rintro value ⟨⟩
  | cons item items ih =>
      rw [List.mapM_cons]
      change ∀ value ∈ (f item state).1 :: ((items.mapM f) (f item state).2).1, property value
      rw [List.forall_mem_cons]
      exact ⟨h item state, ih _⟩

theorem regular_invoke (hexecutor : executor.Regular) (config : RunConfig)
    (handle function : String) (args : List Json) (state : σ) :
    (invoke executor config handle function args state).1.Regular := by
  have hgas := hexecutor.gasUsed handle function args state
  unfold invoke
  simp only [bind, StateT.bind]
  cases hcall : executor.call handle function args state with
  | mk answer next =>
      rw [hcall] at hgas
      cases answer with
      | error fault => exact Outcome.regular_of_failed rfl rfl
      | ok trace =>
          have hslots := hexecutor.slots handle next
          dsimp only
          cases hdump : executor.dumpState handle next with
          | mk dumped last =>
              rw [hdump] at hslots
              simp only [StateT.bind, hdump]
              cases dumped with
              | error fault => exact Outcome.regular_of_failed rfl rfl
              | ok slots =>
                  refine ⟨fun slot hslot => ?_, hgas trace rfl⟩
                  exact hslots slots rfl slot (List.mem_of_mem_take hslot)

theorem regular_callFunction (hexecutor : executor.Regular) (config : RunConfig) (handle : String)
    (exports : Except Executor.Fault (List Export)) (constructorIndex : Nat)
    (function : String × List (List Json)) (state : σ) :
    ∀ outcome ∈ (callFunction executor config handle exports constructorIndex function
      state).1.outcomes, outcome.Regular := by
  refine forall_mapM (fun args state => ?_) (selected config function.2) state
  cases exports with
  | error fault => exact Outcome.regular_of_failed rfl rfl
  | ok exports =>
      dsimp only
      split
      · exact regular_invoke hexecutor config handle function.1 args state
      · exact Outcome.regular_of_failed rfl rfl

theorem regular_deployment (hexecutor : executor.Regular) (config : RunConfig)
    (generation : Generation) (constructorIndex : Nat) (args : List Json) (state : σ) :
    ∀ calls ∈ (deployment executor config generation constructorIndex args state).1,
      ∀ outcome ∈ calls.outcomes, outcome.Regular := by
  unfold deployment
  simp only [bind, StateT.bind]
  cases executor.deploy (generation.sourceFor config.backend) args state with
  | mk answer next =>
      cases answer with
      | error fault =>
          intro calls hcalls outcome houtcome
          obtain ⟨function, -, rfl⟩ := List.mem_map.1 hcalls
          obtain ⟨input, -, rfl⟩ := List.mem_map.1 houtcome
          exact Outcome.regular_of_failed rfl rfl
      | ok handle =>
          exact forall_mapM (fun function state => regular_callFunction hexecutor config handle _
            constructorIndex function state) _ _

theorem regular_deployments (hexecutor : executor.Regular) (config : RunConfig)
    (generation : Generation) (constructorIndex : Nat) (sets : List (List Json)) (state : σ) :
    ∀ calls ∈ (deployments executor config generation constructorIndex sets state).1,
      ∀ outcome ∈ calls.outcomes, outcome.Regular := by
  induction sets generalizing constructorIndex state with
  | nil => rintro calls ⟨⟩
  | cons args rest ih =>
      intro calls hcalls
      rcases List.mem_append.1 hcalls with hcalls | hcalls
      · exact regular_deployment hexecutor config generation constructorIndex args state calls hcalls
      · exact ih _ _ calls hcalls

end Execution

/-- A run keeps regular values if its executor answers with such. -/
theorem Generation.regular_execute {σ : Type} {executor : Executor σ}
    (hexecutor : executor.Regular) (generation : Generation) (config : RunConfig) (state : σ) :
    (generation.execute executor config state).1.Regular :=
  Execution.regular_deployments hexecutor config generation 0 generation.constructorSets state

/-! ### The bridge -/

theorem Slot.decoder_yields : Slot.decoder.Yields fun slot => slot.value.Regular := by
  refine Decoder.yields_record fun opened hopened slot hslot => ?_
  simp only [Reading.gives_seq, Reading.gives_map] at hslot
  obtain ⟨_, value, ⟨name, -, rfl⟩, hvalue, rfl⟩ := hslot
  exact Decoder.json_yields.of_required hopened hvalue

namespace Bridge

theorem reply_yields :
    reply.Yields fun found => ∀ value, found.2.1 = some value → value.Regular := by
  refine Decoder.yields_record fun opened hopened found hfound => ?_
  simp only [Reading.gives_seq, Reading.gives_map] at hfound
  obtain ⟨_, error, ⟨_, ok, ⟨id, -, rfl⟩, hok, rfl⟩, -, rfl⟩ := hfound
  intro value hvalue
  exact Decoder.json_yields.of_optional hopened hok hvalue

theorem callReply_yields :
    callReply.Yields fun found => ∀ gas, found.gasUsed = some gas → gas < 2 ^ 64 := by
  refine Decoder.yields_record fun opened hopened found hfound => ?_
  simp only [Reading.gives_seq, Reading.gives_map] at hfound
  obtain ⟨_, memory, ⟨_, gasUsed, ⟨returned, -, rfl⟩, hgas, rfl⟩, -, rfl⟩ := hfound
  intro gas hused
  exact Decoder.word64_yields.of_optional hopened hgas hused

theorem regular_of_answerIn? {id : Nat} {text : String} {value : Json}
    (h : answerIn? id text = some (.ok value)) : value.Regular := by
  unfold answerIn? at h
  split at h
  · next found ok error hread =>
      split at h
      · split at h
        · cases h
        · cases h
          cases ok with
          | none => exact .of_plain trivial rfl
          | some value => exact reply_yields.of_read? hread value rfl
      · cases h
  · cases h

/-- The answer to a request stands in one of the lines. -/
theorem exists_answerIn?_of_await {id : Nat} {lines unread : List Line} {answer : Answer}
    (h : await id lines = .answered answer unread) : ∃ text, answerIn? id text = some answer := by
  induction lines with
  | nil => cases h
  | cons line lines ih =>
      rw [await] at h
      split at h
      · cases h
      · next text _ =>
          split at h
          · next found hfound =>
              cases h
              exact ⟨text, hfound⟩
          · exact ih h

theorem regular_of_exchange {request : Request} {bridge next : Bridge} {value : Json}
    (h : exchange request bridge = (.ok (.ok value), next)) : value.Regular := by
  unfold exchange at h
  dsimp only at h
  split at h
  · cases h
  · split at h
    · cases h
    · split at h
      · next hawait =>
          cases h
          obtain ⟨text, htext⟩ := exists_answerIn?_of_await hawait
          exact regular_of_answerIn? htext
      · cases h
      · cases h

/-- What a request gives has what its decoder yields. -/
theorem ask_yields {α : Type} {decode : Decoder α} {property : α → Prop}
    (hdecode : decode.Yields property) (fault : String → Executor.Fault) (request : Request)
    (bridge : Bridge) {found : α} (h : (ask fault decode request bridge).1 = .ok found) :
    property found := by
  unfold ask at h
  simp only [bind, StateT.bind] at h
  cases hexchange : exchange request bridge with
  | mk answer next =>
      rw [hexchange] at h
      cases answer with
      | error fault => cases h
      | ok answer =>
          dsimp only at h
          unfold payload at h
          cases answer with
          | error message => cases h
          | ok value =>
              have hvalue := regular_of_exchange hexchange
              dsimp only at h
              split at h
              · next found hfound =>
                  cases h
                  exact hdecode.of_take hvalue.inRange hfound
              · cases h

theorem gasUsed_trace {reply : CallReply} {trace : Trace} (h : reply.trace = .ok trace) :
    trace.gasUsed = reply.gasUsed := by
  unfold CallReply.trace at h
  split at h
  · cases h
    rfl
  · split at h
    · cases h
      rfl
    · cases h

/-- **Whatever the program of a backend prints, the answers of the bridge are regular.** -/
theorem regular_executor : executor.Regular where
  gasUsed handle function args bridge trace h gas hgas := by
    cases hreply : ask .runtime callReply (.call handle function args) bridge with
    | mk answer next =>
        have hcall : (executor.call handle function args bridge).1 =
            answer.bind CallReply.trace := by
          simp only [executor, bind, StateT.bind, hreply]
          rfl
        rw [hcall] at h
        cases answer with
        | error fault => cases h
        | ok reply =>
            have hyields := ask_yields callReply_yields .runtime _ bridge (congrArg Prod.fst hreply)
            exact hyields gas ((gasUsed_trace h).symm.trans hgas)
  slots handle bridge slots h :=
    ask_yields Slot.decoder_yields.list .runtime (.dumpState handle) bridge h

end Bridge

end Concord
