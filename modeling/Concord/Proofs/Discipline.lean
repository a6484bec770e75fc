import Mathlib
import Concord.Execution

/-!
# What a run asks of its executor

Whatever the executor answers, and whichever of its operations fail, a run deploys with each list of
constructor arguments in turn, asks a deployment for its exports, calls what is exported on that
deployment, and dumps the state right behind each call that succeeds. A reset comes last. Each
outcome tells what became of its own call.
-/

namespace Concord

namespace Executor

/-- One use of an executor, with its answer. -/
inductive Exchange where
  | deploy (source : String) (args : List Json) (answer : Except Fault String)
  | manifest (handle : String) (answer : Except Fault (List Export))
  | call (handle function : String) (args : List Json) (answer : Except Fault Trace)
  | dumpState (handle : String) (answer : Except Fault (List Slot))
  | reset (answer : Except Fault Unit)

namespace Exchange

def use : Exchange → Use
  | deploy source args _ => .deploy source args
  | manifest handle _ => .manifest handle
  | call handle function args _ => .call handle function args
  | dumpState handle _ => .dumpState handle
  | reset _ => .reset

/-- In this state the executor gives that answer. -/
def Made {σ : Type} (executor : Executor σ) (state next : σ) : Exchange → Prop
  | deploy source args answer => executor.deploy source args state = (answer, next)
  | manifest handle answer => executor.manifest handle state = (answer, next)
  | call handle function args answer => executor.call handle function args state = (answer, next)
  | dumpState handle answer => executor.dumpState handle state = (answer, next)
  | reset answer => executor.reset state = (answer, next)

end Exchange

/-- The executor gives these answers one after the other. -/
def Plays {σ : Type} (executor : Executor σ) (state : σ) : List Exchange → σ → Prop
  | [], last => state = last
  | exchange :: log, last =>
      ∃ next, exchange.Made executor state next ∧ Plays executor next log last

theorem Plays.append {σ : Type} {executor : Executor σ} {state middle last : σ}
    {log more : List Exchange} (h : executor.Plays state log middle)
    (hmore : executor.Plays middle more last) : executor.Plays state (log ++ more) last := by
  induction log generalizing state with
  | nil =>
      cases h
      exact hmore
  | cons exchange log ih =>
      obtain ⟨next, hmade, hrest⟩ := h
      exact ⟨next, hmade, ih hrest⟩

end Executor

namespace Execution

open Executor (Exchange Use)

/-! ### What is asked, and what comes of it -/

/-- The items are gone through in order. -/
inductive InTurn {α β : Type} (each : α → List Exchange → β → Prop) :
    List α → List Exchange → List β → Prop
  | nil : InTurn each [] [] []
  | cons {item : α} {items : List α} {first rest : List Exchange} {value : β} {values : List β}
      (hfirst : each item first value) (hrest : InTurn each items rest values) :
      InTurn each (item :: items) (first ++ rest) (value :: values)

section Grammar

variable (generation : Generation) (config : RunConfig)

/-- A call, and a dump right behind it if it succeeds. -/
inductive Called (handle function : String) (args : List Json) : List Exchange → Outcome → Prop
  | refused (fault : Executor.Fault) :
      Called handle function args [.call handle function args (.error fault)]
        (.runtimeError fault.message)
  | undumped (trace : Trace) (fault : Executor.Fault) :
      Called handle function args
        [.call handle function args (.ok trace), .dumpState handle (.error fault)]
        (.runtimeError fault.message)
  | observed (trace : Trace) (slots : List Slot) :
      Called handle function args
        [.call handle function args (.ok trace), .dumpState handle (.ok slots)]
        (.success (observed config trace slots))

/-- A function is called if it is known to be exported. -/
inductive Tried (handle function : String) :
    Except Executor.Fault (List Export) → List Json → List Exchange → Outcome → Prop
  | unlisted (fault : Executor.Fault) (args : List Json) :
      Tried handle function (.error fault) args [] (.runtimeError fault.message)
  | missing {exports : List Export} (hmissing : ∀ found ∈ exports, found.name ≠ function)
      (args : List Json) :
      Tried handle function (.ok exports) args []
        (.runtimeError ("function " ++ function ++ " is not exported"))
  | called {exports : List Export} (hfound : ∃ found ∈ exports, found.name = function)
      {args : List Json} {log : List Exchange} {outcome : Outcome}
      (hcalled : Called config handle function args log outcome) :
      Tried handle function (.ok exports) args log outcome

/-- A function is tried with each list of arguments that is used. -/
structure Served (handle : String) (exports : Except Executor.Fault (List Export))
    (constructorIndex : Nat) (function : String × List (List Json)) (log : List Exchange)
    (calls : FunctionCalls) : Prop where
  constructorIndex_eq : calls.constructorIndex = constructorIndex
  function_eq : calls.function = function.1
  outcomes : InTurn (Tried config handle function.1 exports) (selected config function.2) log
    calls.outcomes

/-- One deployment, numbered, and all that is done with it. -/
inductive Deployed : List Json × Nat → List Exchange → List FunctionCalls → Prop
  | refused (args : List Json) (constructorIndex : Nat) (fault : Executor.Fault) :
      Deployed (args, constructorIndex)
        [.deploy (generation.sourceFor config.backend) args (.error fault)]
        (generation.functionInputs.entries.map (undeployed config fault constructorIndex))
  | accepted (args : List Json) {constructorIndex : Nat} {handle : String}
      {exports : Except Executor.Fault (List Export)} {log : List Exchange}
      {calls : List FunctionCalls}
      (hcalls : InTurn (Served config handle exports constructorIndex)
        generation.functionInputs.entries log calls) :
      Deployed (args, constructorIndex)
        (.deploy (generation.sourceFor config.backend) args (.ok handle) ::
          .manifest handle exports :: log)
        calls

/-- A run goes through the lists of constructor arguments, and ends with its only reset. -/
inductive Disciplined : List Exchange → RunResult → Prop
  | mk {log : List Exchange} {calls : List (List FunctionCalls)}
      (hcalls : InTurn (Deployed generation config) generation.constructorSets.zipIdx log calls)
      (answer : Except Executor.Fault Unit) :
      Disciplined (log ++ [.reset answer])
        ⟨generation.id, config.backend, calls.flatten, false⟩

end Grammar

/-! ### Steps on an executor -/

variable {σ α β : Type} {executor : Executor σ}

/-- Whatever the state, what the step asks of the executor, as it is noted, is allowed together with
what the step gives; noting it changes nothing else. -/
def Performs (executor : Executor σ) (allowed : List Exchange → α → Prop) (step : StateM σ α)
    (noted : StateM (σ × List Use) α) : Prop :=
  ∀ state uses, ∃ log, executor.Plays state log (step state).2 ∧
    noted (state, uses) = ((step state).1, (step state).2, uses ++ log.map Exchange.use) ∧
    allowed log (step state).1

namespace Performs

variable {allowed : List Exchange → α → Prop} {step : StateM σ α}
  {noted : StateM (σ × List Use) α}

theorem imp (h : Performs executor allowed step noted) {weaker : List Exchange → α → Prop}
    (himp : ∀ log value, allowed log value → weaker log value) :
    Performs executor weaker step noted := by
  intro state uses
  obtain ⟨log, hplays, hnoted, hallowed⟩ := h state uses
  exact ⟨log, hplays, hnoted, himp log _ hallowed⟩

theorem pure {value : α} (h : allowed [] value) :
    Performs executor allowed (pure value) (pure value) := by
  intro state uses
  refine ⟨[], rfl, ?_, h⟩
  rw [List.map_nil, List.append_nil]
  rfl

theorem bind {result : List Exchange → β → Prop} {next : α → StateM σ β}
    {notedNext : α → StateM (σ × List Use) β} (h : Performs executor allowed step noted)
    (hnext : ∀ log value, allowed log value →
      Performs executor (fun more => result (log ++ more)) (next value) (notedNext value)) :
    Performs executor result (step >>= next) (noted >>= notedNext) := by
  intro state uses
  obtain ⟨log, hplays, hnoted, hallowed⟩ := h state uses
  obtain ⟨more, hmore, hnotedMore, hresult⟩ :=
    hnext log _ hallowed (step state).2 (uses ++ log.map Exchange.use)
  refine ⟨log ++ more, hplays.append hmore, ?_, hresult⟩
  calc (noted >>= notedNext) (state, uses)
      = notedNext (noted (state, uses)).1 (noted (state, uses)).2 := rfl
    _ = notedNext (step state).1 ((step state).2, uses ++ log.map Exchange.use) := by rw [hnoted]
    _ = ((next (step state).1 (step state).2).1, (next (step state).1 (step state).2).2,
          uses ++ log.map Exchange.use ++ more.map Exchange.use) := hnotedMore
    _ = _ := by rw [List.map_append, List.append_assoc]; rfl

theorem mapM (each : α → List Exchange → β → Prop) {f : α → StateM σ β}
    {notedF : α → StateM (σ × List Use) β}
    (h : ∀ item, Performs executor (each item) (f item) (notedF item)) (items : List α) :
    Performs executor (InTurn each items) (items.mapM f) (items.mapM notedF) := by
  induction items with
  | nil => exact pure .nil
  | cons item items ih =>
      rw [List.mapM_cons, List.mapM_cons]
      refine (h item).bind fun first value hfirst => ih.bind fun rest values hrest => ?_
      apply pure
      rw [List.append_nil]
      exact .cons hfirst hrest

/-- One use of the executor. -/
theorem noting (made : α → Exchange) {use : Use} (huse : ∀ answer, (made answer).use = use)
    (hmade : ∀ state, (made (step state).1).Made executor state (step state).2) :
    Performs executor (fun log answer => log = [made answer]) step
      (Executor.noting use step) := by
  intro state uses
  refine ⟨[made (step state).1], ⟨_, hmade state, rfl⟩, ?_, rfl⟩
  rw [List.map_singleton, huse]
  rfl

end Performs

/-! ### A run -/

variable (executor) (generation : Generation) (config : RunConfig)

theorem performs_invoke (handle function : String) (args : List Json) :
    Performs executor (Called config handle function args)
      (invoke executor config handle function args)
      (invoke executor.noted config handle function args) := by
  unfold invoke
  refine (Performs.noting (.call handle function args) (fun _ => rfl) fun _ => rfl).bind ?_
  rintro _ (fault | trace) rfl
  · exact Performs.pure (.refused fault)
  · refine (Performs.noting (.dumpState handle) (fun _ => rfl) fun _ => rfl).bind ?_
    rintro _ (fault | slots) rfl
    · exact Performs.pure (.undumped trace fault)
    · exact Performs.pure (.observed trace slots)

theorem performs_callFunction (handle : String) (exports : Except Executor.Fault (List Export))
    (constructorIndex : Nat) (function : String × List (List Json)) :
    Performs executor (Served config handle exports constructorIndex function)
      (callFunction executor config handle exports constructorIndex function)
      (callFunction executor.noted config handle exports constructorIndex function) := by
  obtain ⟨name, inputs⟩ := function
  unfold callFunction
  refine (Performs.mapM (Tried config handle name exports) ?_ _).bind ?_
  · intro args
    cases exports with
    | error fault => exact Performs.pure (.unlisted fault args)
    | ok exports =>
        by_cases hfound : exports.any (·.name == name) = true
        · simp only [if_pos hfound]
          refine (performs_invoke executor config handle name args).imp fun log outcome h => ?_
          exact .called (by simpa using hfound) h
        · simp only [if_neg hfound]
          exact Performs.pure (.missing (by simpa using hfound) args)
  · intro log outcomes houtcomes
    apply Performs.pure
    rw [List.append_nil]
    exact ⟨rfl, rfl, houtcomes⟩

theorem performs_deployment (args : List Json) (constructorIndex : Nat) :
    Performs executor (Deployed generation config (args, constructorIndex))
      (deployment executor config generation constructorIndex args)
      (deployment executor.noted config generation constructorIndex args) := by
  unfold deployment
  refine (Performs.noting (.deploy _ args) (fun _ => rfl) fun _ => rfl).bind ?_
  rintro _ (fault | handle) rfl
  · exact Performs.pure (.refused args constructorIndex fault)
  · refine (Performs.noting (.manifest handle) (fun _ => rfl) fun _ => rfl).bind ?_
    rintro _ exports rfl
    refine (Performs.mapM _
      (performs_callFunction executor config handle exports constructorIndex) _).imp ?_
    exact fun log calls hcalls => .accepted args hcalls

theorem performs_deployments (sets : List (List Json)) (constructorIndex : Nat) :
    Performs executor
      (fun log calls => ∃ each, InTurn (Deployed generation config) (sets.zipIdx constructorIndex)
        log each ∧ calls = each.flatten)
      (deployments executor config generation constructorIndex sets)
      (deployments executor.noted config generation constructorIndex sets) := by
  induction sets generalizing constructorIndex with
  | nil => exact Performs.pure ⟨[], .nil, rfl⟩
  | cons args sets ih =>
      unfold deployments
      refine (performs_deployment executor generation config args constructorIndex).bind ?_
      intro first calls hfirst
      refine (ih (constructorIndex + 1)).bind ?_
      rintro rest _ ⟨each, hrest, rfl⟩
      apply Performs.pure
      rw [List.append_nil]
      exact ⟨calls :: each, .cons hfirst hrest, rfl⟩

theorem performs_execute :
    Performs executor (Disciplined generation config) (generation.execute executor config)
      (generation.execute executor.noted config) := by
  unfold Generation.execute
  refine (performs_deployments executor generation config generation.constructorSets 0).bind ?_
  rintro log _ ⟨calls, hcalls, rfl⟩
  refine (Performs.noting .reset (fun _ => rfl) fun _ => rfl).bind ?_
  rintro _ answer rfl
  exact Performs.pure (.mk hcalls answer)

end Execution

/-- **A run asks what it has to ask, and nothing else**, in one order that depends on the answers
only; and each outcome is what the answers to its own call make it. -/
theorem Generation.disciplined_of_execute {σ : Type} (generation : Generation) (config : RunConfig)
    (executor : Executor σ) (state : σ) :
    let (result, last) := generation.execute executor config state
    ∃ log, executor.Plays state log last ∧
      generation.execute executor.noted config (state, []) =
        (result, last, log.map Executor.Exchange.use) ∧
      Execution.Disciplined generation config log result :=
  Execution.performs_execute executor generation config state []

end Concord
