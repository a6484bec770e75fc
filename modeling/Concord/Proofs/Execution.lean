import Mathlib
import Concord.Comparison
import Concord.Execution

/-!
# Every run has the same shape

Whatever an executor answers, running a candidate gives the same functions at the same deployments,
each with one outcome for every input that is used. So runs differ in their outcomes only.
-/

namespace Concord

/-- How many of `count` inputs are used. -/
def capped (cap : Option Nat) (count : Nat) : Nat :=
  match cap with
  | some limit => min limit count
  | none => count

namespace Generation

/-- What one deployment of a candidate calls, and how often. -/
def deploymentShape (generation : Generation) (cap : Option Nat) (constructorIndex : Nat) :
    List (Site × Nat) :=
  generation.functionInputs.entries.map fun function =>
    (⟨constructorIndex, function.1⟩, capped cap function.2.length)

/-- The sites of a candidate, deployment by deployment, and how often each is called. -/
def shape (generation : Generation) (cap : Option Nat) : List (Site × Nat) :=
  (List.range generation.constructorSets.length).flatMap (generation.deploymentShape cap)

/-- A site and the number of an input. -/
def places (generation : Generation) (cap : Option Nat) : List (Site × Nat) :=
  (generation.shape cap).flatMap fun entry => (List.range entry.2).map (entry.1, ·)

/-- Each deployment calls each function with the inputs that are used of it. -/
theorem length_places (generation : Generation) (cap : Option Nat) :
    (generation.places cap).length = generation.constructorSets.length *
      (generation.functionInputs.entries.map fun function => capped cap function.2.length).sum := by
  have hdeployment : ∀ constructorIndex,
      ((generation.deploymentShape cap constructorIndex).map (·.2)).sum =
        (generation.functionInputs.entries.map fun function =>
          capped cap function.2.length).sum := by
    intro constructorIndex
    rw [deploymentShape, List.map_map]
    rfl
  have hcounts : (generation.places cap).length = ((generation.shape cap).map (·.2)).sum := by
    rw [places, List.length_flatMap]
    simp only [List.length_map, List.length_range]
  rw [hcounts, shape, List.map_flatMap, List.flatMap, List.sum_flatten, List.map_map]
  simp [Function.comp_def, hdeployment]

end Generation

namespace FunctionCalls

/-- Where the calls were made, and how many. -/
def extent (calls : FunctionCalls) : Site × Nat :=
  (calls.site, calls.outcomes.length)

end FunctionCalls

namespace RunResult

def shape (result : RunResult) : List (Site × Nat) :=
  result.calls.map FunctionCalls.extent

end RunResult

namespace Execution

variable {σ α β γ : Type}

/-- What the state has no part in is the same for all items that come of a chain of steps. -/
theorem map_mapM {f : α → StateM σ β} {view : β → γ} {expected : α → γ}
    (h : ∀ item state, view (f item state).1 = expected item) (items : List α) (state : σ) :
    ((items.mapM f) state).1.map view = items.map expected := by
  induction items generalizing state with
  | nil => rfl
  | cons item items ih =>
      rw [List.mapM_cons]
      exact congrArg₂ List.cons (h item state) (ih _)

theorem length_mapM (f : α → StateM σ β) (items : List α) (state : σ) :
    ((items.mapM f) state).1.length = items.length := by
  induction items generalizing state with
  | nil => rfl
  | cons item items ih =>
      rw [List.mapM_cons]
      exact congrArg (· + 1) (ih _)

theorem length_selected (config : RunConfig) (inputs : List (List Json)) :
    (selected config inputs).length = capped config.inputsPerFunction inputs.length := by
  unfold selected capped
  cases config.inputsPerFunction with
  | none => rfl
  | some limit => exact List.length_take

theorem extent_callFunction (executor : Executor σ) (config : RunConfig) (handle : String)
    (exports : Except Executor.Fault (List Export)) (constructorIndex : Nat)
    (function : String × List (List Json)) (state : σ) :
    (callFunction executor config handle exports constructorIndex function state).1.extent =
      (⟨constructorIndex, function.1⟩, capped config.inputsPerFunction function.2.length) := by
  rw [← length_selected]
  exact congrArg (Prod.mk _) (length_mapM _ (selected config function.2) state)

theorem extent_undeployed (config : RunConfig) (fault : Executor.Fault) (constructorIndex : Nat)
    (function : String × List (List Json)) :
    (undeployed config fault constructorIndex function).extent =
      (⟨constructorIndex, function.1⟩, capped config.inputsPerFunction function.2.length) := by
  rw [← length_selected]
  exact congrArg (Prod.mk _) (List.length_map _)

/-- A deployment that fails has the shape of one that does not. -/
theorem extents_deployment (executor : Executor σ) (config : RunConfig) (generation : Generation)
    (constructorIndex : Nat) (args : List Json) (state : σ) :
    (deployment executor config generation constructorIndex args state).1.map
        FunctionCalls.extent =
      generation.deploymentShape config.inputsPerFunction constructorIndex := by
  have hcases : ∀ (answer : Except Executor.Fault String) (next : σ),
      executor.deploy (generation.sourceFor config.backend) args state = (answer, next) →
        (deployment executor config generation constructorIndex args state).1.map
            FunctionCalls.extent =
          generation.deploymentShape config.inputsPerFunction constructorIndex := by
    intro answer next hdeploy
    unfold deployment
    simp only [bind, StateT.bind, hdeploy]
    cases answer with
    | error fault =>
        change (generation.functionInputs.entries.map _).map _ = _
        rw [List.map_map]
        exact List.map_congr_left fun function _ =>
          extent_undeployed config fault constructorIndex function
    | ok handle =>
        exact map_mapM (fun function state => extent_callFunction executor config handle _
          constructorIndex function state) _ _
  exact hcases _ _ rfl

theorem extents_deployments (executor : Executor σ) (config : RunConfig) (generation : Generation)
    (constructorIndex : Nat) (sets : List (List Json)) (state : σ) :
    (deployments executor config generation constructorIndex sets state).1.map
        FunctionCalls.extent =
      (List.range' constructorIndex sets.length).flatMap
        (generation.deploymentShape config.inputsPerFunction) := by
  induction sets generalizing constructorIndex state with
  | nil => rfl
  | cons args rest ih =>
      rw [List.length_cons, List.range'_succ, List.flatMap_cons,
        ← extents_deployment executor config generation constructorIndex args state, ← ih,
        ← List.map_append]
      rfl

end Execution

/-- **The shape of a run depends on the candidate only**, and on how many inputs are used. -/
theorem Generation.shape_execute {σ : Type} (generation : Generation) (executor : Executor σ)
    (config : RunConfig) (state : σ) :
    (generation.execute executor config state).1.shape =
      generation.shape config.inputsPerFunction := by
  rw [Generation.shape, List.range_eq_range']
  exact Execution.extents_deployments executor config generation 0 generation.constructorSets state

end Concord
