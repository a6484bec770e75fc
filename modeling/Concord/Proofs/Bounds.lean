import Mathlib
import Concord.Proofs.Execution
import Concord.Proofs.Pairings

/-!
# How much is kept of the state and the memory

A run that keeps less is a run that keeps more, cut down afterwards: the executor is asked the same
and answers the same. As cutting keeps equal what was equal, a verification over smaller bounds
makes the same checks and finds no difference that larger bounds do not show.
-/

namespace Concord

/-! ### Cutting down what was observed -/

theorem Text.Hex.take_flatMap_pair (bytes : List UInt8) (limit : Nat) :
    (bytes.flatMap pair).take (2 * limit) = (bytes.take limit).flatMap pair := by
  induction bytes generalizing limit with
  | nil => simp
  | cons byte bytes ih =>
      cases limit with
      | zero => simp
      | succ limit =>
          rw [List.flatMap_cons, List.take_succ_cons, List.flatMap_cons, ← ih limit]
          rfl

/-- What is left of an observation that keeps so many slots and so many bytes of memory. -/
def Success.cut (slots bytes : Nat) (observed : Success) : Success :=
  { observed with
    state := Snapshot.bounded observed.state.slots slots
    memory := observed.memory.map fun digits => String.ofList (digits.toList.take (2 * bytes)) }

def Outcome.cut (slots bytes : Nat) : Outcome → Outcome
  | .success observed => .success (observed.cut slots bytes)
  | outcome => outcome

def RunConfig.bounded (config : RunConfig) (slots bytes : Nat) : RunConfig :=
  { config with snapshotSlots := slots, memoryBytes := bytes }

/-! ### Running with smaller bounds -/

namespace Execution

variable {σ α β γ δ : Type}

/-- The steps go through the same states, and their answers are related. -/
def InStep (related : α → β → Prop) (first : StateM σ α) (second : StateM σ β) : Prop :=
  ∀ state, related (first state).1 (second state).1 ∧ (first state).2 = (second state).2

theorem InStep.refl (step : StateM σ α) : InStep Eq step step :=
  fun _ => ⟨rfl, rfl⟩

theorem InStep.pure {related : α → β → Prop} {a : α} {b : β} (h : related a b) :
    InStep related (Pure.pure a : StateM σ α) (Pure.pure b) :=
  fun _ => ⟨h, rfl⟩

theorem InStep.bind {middle : α → β → Prop} {related : γ → δ → Prop} {first : StateM σ α}
    {second : StateM σ β} {next : α → StateM σ γ} {later : β → StateM σ δ}
    (hfirst : InStep middle first second)
    (hnext : ∀ a b, middle a b → InStep related (next a) (later b)) :
    InStep related (first >>= next) (second >>= later) := by
  intro state
  obtain ⟨hanswer, hstate⟩ := hfirst state
  have hlater : (second >>= later) state = later (second state).1 (first state).2 := by
    rw [hstate]
    rfl
  rw [hlater]
  exact hnext _ _ hanswer (first state).2

/-- Related item by item, where the answers of one side come of those of the other. -/
theorem InStep.mapM {f : β → α} {first : γ → StateM σ α} {second : γ → StateM σ β}
    (h : ∀ item, InStep (fun a b => a = f b) (first item) (second item)) (items : List γ) :
    InStep (fun as bs => as = bs.map f) (items.mapM first) (items.mapM second) := by
  induction items with
  | nil => exact .pure rfl
  | cons item items ih =>
      rw [List.mapM_cons, List.mapM_cons]
      refine (h item).bind ?_
      rintro _ b rfl
      refine ih.bind ?_
      rintro _ bs rfl
      exact .pure rfl

section Cut

variable {slots bytes less fewer : Nat} (hslots : less ≤ slots) (hbytes : fewer ≤ bytes)

include hslots hbytes

theorem observed_bounded (config : RunConfig) (trace : Trace) (dump : List Slot) :
    observed (config.bounded less fewer) trace dump =
      (observed (config.bounded slots bytes) trace dump).cut less fewer := by
  have hdigits : ∀ memory : List UInt8, Text.Hex.encode (memory.take fewer) =
      String.ofList ((Text.Hex.encode (memory.take bytes)).toList.take (2 * fewer)) := by
    intro memory
    rw [Text.Hex.encode, Text.Hex.encode, String.toList_ofList, Text.Hex.take_flatMap_pair,
      List.take_take, min_eq_left hbytes]
  have hstate : Snapshot.bounded dump less =
      Snapshot.bounded (Snapshot.bounded dump slots).slots less := by
    unfold Snapshot.bounded
    rw [List.take_take, min_eq_left hslots]
  simp only [observed, Success.cut, RunConfig.bounded, Option.map_map, Function.comp_def, hdigits,
    ← hstate]

variable (executor : Executor σ) (config : RunConfig)

theorem invoke_bounded (handle function : String) (args : List Json) :
    InStep (fun narrow wide => narrow = Outcome.cut less fewer wide)
      (invoke executor (config.bounded less fewer) handle function args)
      (invoke executor (config.bounded slots bytes) handle function args) := by
  unfold invoke
  refine (InStep.refl _).bind ?_
  rintro (fault | trace) _ rfl
  · exact .pure rfl
  · refine (InStep.refl _).bind ?_
    rintro (fault | dump) _ rfl
    · exact .pure rfl
    · exact .pure (congrArg Outcome.success (observed_bounded hslots hbytes config trace dump))

theorem callFunction_bounded (handle : String) (exports : Except Executor.Fault (List Export))
    (constructorIndex : Nat) (function : String × List (List Json)) :
    InStep (fun narrow wide => narrow = wide.mapOutcomes (Outcome.cut less fewer))
      (callFunction executor (config.bounded less fewer) handle exports constructorIndex function)
      (callFunction executor (config.bounded slots bytes) handle exports constructorIndex
        function) := by
  obtain ⟨name, inputs⟩ := function
  unfold callFunction
  refine (InStep.mapM (f := Outcome.cut less fewer) (fun args => ?_) _).bind ?_
  · cases exports with
    | error fault => exact .pure rfl
    | ok exports =>
        by_cases hfound : exports.any (·.name == name) = true
        · simp only [if_pos hfound]
          exact invoke_bounded hslots hbytes executor config handle name args
        · simp only [if_neg hfound]
          exact .pure rfl
  · rintro _ outcomes rfl
    exact .pure rfl

theorem deployment_bounded (generation : Generation) (constructorIndex : Nat) (args : List Json) :
    InStep
      (fun narrow wide => narrow = wide.map (FunctionCalls.mapOutcomes (Outcome.cut less fewer)))
      (deployment executor (config.bounded less fewer) generation constructorIndex args)
      (deployment executor (config.bounded slots bytes) generation constructorIndex args) := by
  unfold deployment
  refine (InStep.refl _).bind ?_
  rintro (fault | handle) _ rfl
  · -- nothing was observed, so there is nothing to cut
    apply InStep.pure
    simp only [undeployed, List.map_map, Function.comp_def, FunctionCalls.mapOutcomes]
    rfl
  · refine (InStep.refl _).bind ?_
    rintro exports _ rfl
    exact .mapM (callFunction_bounded hslots hbytes executor config handle exports
      constructorIndex) _

theorem deployments_bounded (generation : Generation) (constructorIndex : Nat)
    (sets : List (List Json)) :
    InStep
      (fun narrow wide => narrow = wide.map (FunctionCalls.mapOutcomes (Outcome.cut less fewer)))
      (deployments executor (config.bounded less fewer) generation constructorIndex sets)
      (deployments executor (config.bounded slots bytes) generation constructorIndex sets) := by
  induction sets generalizing constructorIndex with
  | nil => exact .pure rfl
  | cons args rest ih =>
      unfold deployments
      refine (deployment_bounded hslots hbytes executor config generation constructorIndex
        args).bind ?_
      rintro _ calls rfl
      refine (ih (constructorIndex + 1)).bind ?_
      rintro _ more rfl
      exact .pure (List.map_append ..).symm

/-- **Keeping less is keeping more and cutting it down.** The executor is left in the same state. -/
theorem execute_bounded (generation : Generation) :
    InStep (fun narrow wide => narrow = wide.mapOutcomes (Outcome.cut less fewer))
      (generation.execute executor (config.bounded less fewer))
      (generation.execute executor (config.bounded slots bytes)) := by
  unfold Generation.execute
  refine (deployments_bounded hslots hbytes executor config generation 0 _).bind ?_
  rintro _ calls rfl
  refine (InStep.refl _).bind ?_
  rintro answer _ rfl
  exact .pure rfl

end Cut

end Execution

/-! ### Comparing what was cut down -/

theorem Snapshot.sameSlots_take {as bs : List Slot} (h : sameSlots as bs = true) (limit : Nat) :
    sameSlots (as.take limit) (bs.take limit) = true := by
  induction as generalizing bs limit with
  | nil =>
      cases bs with
      | nil => simp [sameSlots]
      | cons b bs => cases h
  | cons a as ih =>
      cases bs with
      | nil => cases h
      | cons b bs =>
          cases limit with
          | zero => rfl
          | succ limit =>
              rw [sameSlots, Bool.and_eq_true] at h
              rw [List.take_succ_cons, List.take_succ_cons, sameSlots, h.1, ih h.2, Bool.and_self]

namespace Comparison

variable (rule : Comparison) (slots bytes : Nat)

theorem eased_successes_cut (a b : Success) :
    (rule.successes a b).Eased (rule.successes (a.cut slots bytes) (b.cut slots bytes)) := by
  constructor
  · intro check
    cases check with
    | memory => cases hmemory : rule.memory <;> simp [successes, Checks.get?, hmemory]
    | gas => cases hgas : rule.gas <;> simp [successes, Checks.get?, hgas]
    | _ => rfl
  · intro check hpass
    cases check with
    | errorCorrelation => cases hpass
    | storage =>
        have hsame := unlessEqual_eq_pass_iff.1 (Option.some.inj hpass)
        exact congrArg some (unlessEqual_eq_pass_iff.2 (Snapshot.sameSlots_take hsame slots))
    | returnValue => exact hpass
    | memory =>
        obtain ⟨hmemory, hpass⟩ := Option.ite_none_right_eq_some.1 hpass
        have hsame := eq_of_beq (unlessEqual_eq_pass_iff.1 (Option.some.inj hpass))
        refine Option.ite_none_right_eq_some.2 ⟨hmemory, congrArg some ?_⟩
        apply unlessEqual_eq_pass_iff.2
        rw [Success.cut, Success.cut, hsame, beq_self_eq_true]
    | gas => exact hpass

theorem eased_compare_cut (a b : Outcome) :
    (rule.compare a b).Eased (rule.compare (a.cut slots bytes) (b.cut slots bytes)) := by
  cases a <;> cases b
  case success.success a b => exact rule.eased_successes_cut slots bytes a b
  case success.deployError | success.runtimeError | deployError.success | runtimeError.success =>
    exact Checks.eased_errorCorrelation nofun
  all_goals exact Checks.eased_errorCorrelation id

theorem eased_compareAt_cut (a b : Option Outcome) :
    (rule.compareAt a b).Eased
      (rule.compareAt (a.map (Outcome.cut slots bytes)) (b.map (Outcome.cut slots bytes))) := by
  cases a <;> cases b
  case some.some a b => exact rule.eased_compare_cut slots bytes a b
  all_goals exact Checks.eased_errorCorrelation nofun

end Comparison

/-- **Smaller bounds hide differences and show no new ones.** Two backends run a candidate, keeping
up to `slots` slots and `bytes` bytes of memory, or less of both. Both times the same calls are
judged, in the same order and by the same checks, and what passes with the larger bounds passes with
the smaller ones. -/
theorem Generation.eased_of_smaller_bounds {σ τ : Type} (generation : Generation)
    (rule : Comparison) (executor : Executor σ) (other : Executor τ) (ours theirs : RunConfig)
    {slots bytes less fewer : Nat} (hslots : less ≤ slots) (hbytes : fewer ≤ bytes) (state : σ)
    (otherState : τ) :
    let verification? (slots bytes : Nat) := rule.verification? generation.id
      [(generation.execute executor (ours.bounded slots bytes) state).1,
        (generation.execute other (theirs.bounded slots bytes) otherState).1]
      [ours.backend, theirs.backend]
    ∃ wide narrow, verification? slots bytes = some wide ∧
      verification? less fewer = some narrow ∧ wide.Eased narrow := by
  intro verification?
  have hours := (Execution.execute_bounded hslots hbytes executor ours generation state).1
  have htheirs := (Execution.execute_bounded hslots hbytes other theirs generation otherState).1
  have hid : (generation.execute other (theirs.bounded slots bytes) otherState).1.generation =
      (generation.execute executor (ours.bounded slots bytes) state).1.generation := rfl
  obtain ⟨wide, hwide⟩ := rule.verification?_of_two hid
  have hrelated : Option.Rel Verification.Eased (verification? slots bytes)
      (verification? less fewer) := by
    dsimp only [verification?]
    rw [hours, htheirs]
    apply Comparison.related_verification?
    intro _ _ pairing _
    exact rule.eased_compareAt_cut less fewer pairing.ours pairing.theirs
  rw [show verification? slots bytes = some wide from hwide] at hrelated
  cases hnarrow : verification? less fewer with
  | none =>
      rw [hnarrow] at hrelated
      cases hrelated
  | some narrow =>
      rw [hnarrow] at hrelated
      cases hrelated with
      | some heased => exact ⟨wide, narrow, hwide, rfl, heased⟩

/-- A backend that answers every call with the same dump and memory. -/
def showing (dump : List Slot) (memory : List UInt8) : Executor Unit where
  deploy _ _ := pure (.ok "")
  manifest _ := pure (.ok [⟨"f", []⟩])
  call _ _ _ := pure (.ok ⟨.null, none, some memory⟩)
  dumpState _ := pure (.ok dump)
  reset := pure (.ok ())

/-- Two backends differ in their second slot and in their second byte. -/
theorem eased_of_smaller_bounds_of_late_difference :
    let generation : Generation := ⟨"g", "", .empty, .ofList [("f", [[]])], [], none⟩
    let ivy := showing [⟨"0", .null⟩, ⟨"1", .nat 2⟩] [0xA0, 0xB1]
    let boa := showing [⟨"0", .null⟩, ⟨"1", .nat 3⟩] [0xA0, 0xC2]
    let verification? (slots bytes : Nat) := Comparison.verification? { memory := true } "g"
      [(generation.execute ivy (RunConfig.bounded { backend := "ivy" } slots bytes) ()).1,
        (generation.execute boa (RunConfig.bounded { backend := "boa" } slots bytes) ()).1]
      ["ivy", "boa"]
    ∃ wide narrow, verification? 2 2 = some wide ∧ verification? 1 1 = some narrow ∧
      wide.Eased narrow ∧ wide.hasDiscrepancy = true ∧ narrow.hasDiscrepancy = false := by
  intro generation ivy boa verification?
  obtain ⟨wide, narrow, hwide, hnarrow, heased⟩ :=
    generation.eased_of_smaller_bounds { memory := true } ivy boa { backend := "ivy" }
      { backend := "boa" } (show 1 ≤ 2 by decide) (show 1 ≤ 2 by decide) () ()
  have hdiffer : (verification? 2 2).map (·.hasDiscrepancy) = some true := by decide +kernel
  have hsame : (verification? 1 1).map (·.hasDiscrepancy) = some false := by decide +kernel
  refine ⟨wide, narrow, hwide, hnarrow, heased, ?_, ?_⟩
  · rw [show verification? 2 2 = some wide from hwide] at hdiffer
    exact Option.some.inj hdiffer
  · rw [show verification? 1 1 = some narrow from hnarrow] at hsame
    exact Option.some.inj hsame

end Concord
