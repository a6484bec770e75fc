import Mathlib
import Concord.Proofs.Discipline

/-!
# The stages of a run

A run records one outcome after the other. Each outcome has a stage of its own, the exchanges that
were made for it between the state that they found and the state that they left. What is asked
between two stages is neither a call nor a dump, so a call is that of the outcome at its place.
-/

namespace Concord

def RunResult.outcomes (result : RunResult) : List Outcome :=
  result.calls.flatMap (·.outcomes)

namespace Executor

variable {σ : Type} {executor : Executor σ} {state last : σ} {log more : List Exchange}

def Exchange.idle : Exchange → Bool
  | .call _ _ _ _ | .dumpState _ _ => false
  | .deploy _ _ _ | .manifest _ _ | .reset _ => true

def Exchange.isCall : Exchange → Bool
  | .call _ _ _ _ => true
  | .deploy _ _ _ | .manifest _ _ | .dumpState _ _ | .reset _ => false

theorem Plays.split (h : executor.Plays state (log ++ more) last) :
    ∃ middle, executor.Plays state log middle ∧ executor.Plays middle more last := by
  induction log generalizing state with
  | nil => exact ⟨state, rfl, h⟩
  | cons exchange log ih =>
      obtain ⟨next, hmade, hrest⟩ := h
      obtain ⟨middle, hlog, hmore⟩ := ih hrest
      exact ⟨middle, ⟨next, hmade, hlog⟩, hmore⟩

end Executor

namespace Execution

open Executor (Exchange)

/-- What was done for one outcome. -/
structure Stage (σ : Type) where
  before : σ
  log : List Exchange
  after : σ
  outcome : Outcome

/-- The stages that a log is made of, with what is asked between them. -/
inductive Course {σ : Type} (executor : Executor σ) :
    σ → List (Stage σ) → List Exchange → σ → Prop
  | done (state : σ) : Course executor state [] [] state
  | idle {exchange : Exchange} {state next last : σ} {stages : List (Stage σ)}
      {log : List Exchange} (hidle : exchange.idle = true)
      (hmade : exchange.Made executor state next) (hrest : Course executor next stages log last) :
      Course executor state stages (exchange :: log) last
  | stage {stage : Stage σ} {last : σ} {stages : List (Stage σ)} {log : List Exchange}
      (hplays : executor.Plays stage.before stage.log stage.after)
      (hrest : Course executor stage.after stages log last) :
      Course executor stage.before (stage :: stages) (stage.log ++ log) last

/-- Nothing was asked for the outcome, or it is what became of a call. -/
def Stage.Fits {σ : Type} (config : RunConfig) (stage : Stage σ) : Prop :=
  stage.log = [] ∨
    ∃ handle function args, Called config handle function args stage.log stage.outcome

section Courses

variable {σ α β : Type} {executor : Executor σ} {state middle last : σ}
  {stages moreStages : List (Stage σ)} {log more : List Exchange}

theorem Course.append (h : Course executor state stages log middle)
    (hmore : Course executor middle moreStages more last) :
    Course executor state (stages ++ moreStages) (log ++ more) last := by
  induction h with
  | done state => exact hmore
  | idle hidle hmade _ ih => exact .idle hidle hmade (ih hmore)
  | stage hplays _ ih =>
      rw [List.append_assoc]
      exact .stage hplays (ih hmore)

theorem Course.split {front back : List (Stage σ)} {stage : Stage σ}
    (h : Course executor state (front ++ stage :: back) log last) :
    ∃ earlier rest, log = earlier ++ stage.log ++ rest ∧
      Course executor state front earlier stage.before ∧
      executor.Plays stage.before stage.log stage.after ∧
      Course executor stage.after back rest last := by
  generalize hstages : front ++ stage :: back = stages at h
  induction h generalizing front with
  | done state => cases front <;> cases hstages
  | @idle exchange _ _ _ _ _ hidle hmade _ ih =>
      obtain ⟨earlier, rest, rfl, hfront, hback⟩ := ih hstages
      exact ⟨exchange :: earlier, rest, rfl, .idle hidle hmade hfront, hback⟩
  | @stage first _ _ log hplays hrest ih =>
      cases front with
      | nil =>
          obtain ⟨rfl, rfl⟩ := List.cons.inj hstages
          exact ⟨[], log, rfl, .done _, hplays, hrest⟩
      | cons other front =>
          obtain ⟨rfl, htail⟩ := List.cons.inj hstages
          obtain ⟨earlier, rest, rfl, hfront, hback⟩ := ih htail
          refine ⟨other.log ++ earlier, rest, ?_, .stage hplays hfront, hback⟩
          simp only [List.append_assoc]

/-! ### Calls and the stages they are in -/

variable {config : RunConfig} {stage : Stage σ} {exchange : Exchange} {handle function : String}
  {args : List Json}

theorem Course.countP_isCall (h : Course executor state stages log last)
    (hfits : ∀ stage ∈ stages, stage.Fits config) :
    log.countP Exchange.isCall = stages.countP fun stage => !stage.log.isEmpty := by
  induction h with
  | done state => rfl
  | @idle exchange _ _ _ _ _ hidle _ _ ih =>
      rw [List.countP_cons_of_neg, ih hfits]
      cases exchange with
      | call | dumpState => cases hidle
      | deploy | manifest | reset => exact Bool.false_ne_true
  | @stage stage _ _ _ _ _ ih =>
      obtain ⟨hfirst, hrest⟩ := List.forall_mem_cons.1 hfits
      rw [List.countP_append, List.countP_cons, ih hrest, Nat.add_comm]
      rcases hfirst with hnil | ⟨handle, function, args, hcalled⟩
      · rw [hnil]
        rfl
      · generalize stage.log = calls, stage.outcome = outcome at hcalled
        cases hcalled <;> rfl

/-- Where there is a call for every outcome, each of them is what became of one. -/
theorem Course.called (h : Course executor state stages log last)
    (hfits : ∀ stage ∈ stages, stage.Fits config)
    (hcalls : log.countP Exchange.isCall = stages.length) :
    ∀ stage ∈ stages,
      ∃ handle function args, Called config handle function args stage.log stage.outcome := by
  intro stage hstage
  rw [h.countP_isCall hfits, List.countP_eq_length] at hcalls
  refine (hfits stage hstage).resolve_left fun hnil => ?_
  have hinhabited := hcalls stage hstage
  rw [hnil] at hinhabited
  cases hinhabited

/-- A stage with a call begins at its call, so what is asked before it is passed. -/
theorem Course.pass (h : Course executor state (stage :: stages) (exchange :: log) last)
    (hcalled : Called config handle function args stage.log stage.outcome)
    (hidle : exchange.idle = true) :
    ∃ next, exchange.Made executor state next ∧ Course executor next (stage :: stages) log last := by
  generalize hasked : exchange :: log = asked at h
  cases h with
  | idle _ hmade hrest =>
      obtain ⟨rfl, rfl⟩ := List.cons.inj hasked
      exact ⟨_, hmade, hrest⟩
  | stage =>
      generalize stage.log = calls, stage.outcome = outcome at hcalled hasked
      cases hcalled <;> cases hasked <;> cases hidle

theorem Course.enter (asked : List Exchange)
    (h : Course executor state (stage :: stages) (asked ++ exchange :: log) last)
    (hcalled : Called config handle function args stage.log stage.outcome)
    (hasked : asked.all Exchange.idle = true) (hcall : exchange.idle = false) :
    executor.Plays state asked stage.before ∧ ∃ dumps rest, stage.log = exchange :: dumps ∧
      log = dumps ++ rest ∧ Course executor stage.after stages rest last := by
  induction asked generalizing state with
  | nil =>
      rw [List.nil_append] at h
      generalize hlog : exchange :: log = calls at h
      cases h with
      | idle hidle =>
          obtain ⟨rfl, rfl⟩ := List.cons.inj hlog
          rw [hcall] at hidle
          cases hidle
      | @stage _ _ _ rest _ hrest =>
          have hinhabited : stage.log ≠ [] := by
            rintro hnil
            rw [hnil] at hcalled
            cases hcalled
          obtain ⟨first, dumps, hstage⟩ := List.exists_cons_of_ne_nil hinhabited
          rw [hstage, List.cons_append] at hlog
          obtain ⟨rfl, rfl⟩ := List.cons.inj hlog
          exact ⟨rfl, dumps, rest, hstage, rfl, hrest⟩
  | cons first asked ih =>
      obtain ⟨hfirst, hothers⟩ := Bool.and_eq_true_iff.1 hasked
      obtain ⟨next, hmade, hnext⟩ := h.pass hcalled hfirst
      obtain ⟨hplays, hentered⟩ := ih hnext hothers
      exact ⟨⟨next, hmade, hplays⟩, hentered⟩

end Courses

/-! ### Logs in stages -/

section Staged

variable {σ α β : Type} {executor : Executor σ} {config : RunConfig} {log more : List Exchange}
  {outcomes moreOutcomes : List Outcome}

/-- However the executor plays the log, there is one stage for each outcome. -/
def Staged (executor : Executor σ) (config : RunConfig) (log : List Exchange)
    (outcomes : List Outcome) : Prop :=
  ∀ state last, executor.Plays state log last → ∃ stages,
    Course executor state stages log last ∧ stages.map Stage.outcome = outcomes ∧
      ∀ stage ∈ stages, stage.Fits config

theorem Staged.append (h : Staged executor config log outcomes)
    (hmore : Staged executor config more moreOutcomes) :
    Staged executor config (log ++ more) (outcomes ++ moreOutcomes) := by
  intro state last hplays
  obtain ⟨middle, hlog, hrest⟩ := hplays.split
  obtain ⟨stages, hcourse, rfl, hfits⟩ := h state middle hlog
  obtain ⟨rest, hcourse', rfl, hfits'⟩ := hmore middle last hrest
  exact ⟨stages ++ rest, hcourse.append hcourse', List.map_append,
    List.forall_mem_append.2 ⟨hfits, hfits'⟩⟩

theorem staged_idle (exchange : Exchange) (hidle : exchange.idle = true) :
    Staged executor config [exchange] [] := by
  rintro state last ⟨next, hmade, rfl⟩
  exact ⟨[], .idle hidle hmade (.done next), rfl, nofun⟩

theorem staged_nil (outcomes : List Outcome) : Staged executor config [] outcomes := by
  rintro state last rfl
  induction outcomes with
  | nil => exact ⟨[], .done state, rfl, nofun⟩
  | cons outcome outcomes ih =>
      obtain ⟨stages, hcourse, rfl, hfits⟩ := ih
      let stage : Stage σ := ⟨state, [], state, outcome⟩
      have hplays : executor.Plays stage.before stage.log stage.after := rfl
      exact ⟨stage :: stages, .stage hplays hcourse, rfl,
        List.forall_mem_cons.2 ⟨.inl rfl, hfits⟩⟩

theorem staged_called {handle function : String} {args : List Json} {outcome : Outcome}
    (h : Called config handle function args log outcome) :
    Staged executor config log [outcome] := by
  intro state last hplays
  let stage : Stage σ := ⟨state, log, last, outcome⟩
  have hcourse : Course executor stage.before [stage] (stage.log ++ []) last :=
    .stage hplays (.done last)
  rw [List.append_nil] at hcourse
  exact ⟨[stage], hcourse, rfl, List.forall_mem_singleton.2 (.inr ⟨handle, function, args, h⟩)⟩

theorem staged_inTurn {each : α → List Exchange → β → Prop} {view : β → List Outcome}
    {items : List α} {values : List β} (h : InTurn each items log values)
    (heach : ∀ item log value, each item log value → Staged executor config log (view value)) :
    Staged executor config log (values.flatMap view) := by
  induction h with
  | nil => exact staged_nil []
  | cons hfirst _ ih => exact (heach _ _ _ hfirst).append ih

theorem staged_tried {handle function : String} {exports : Except Executor.Fault (List Export)}
    {args : List Json} {outcome : Outcome}
    (h : Tried config handle function exports args log outcome) :
    Staged executor config log [outcome] := by
  cases h with
  | unlisted fault => exact staged_nil _
  | missing hmissing => exact staged_nil _
  | called hfound hcalled => exact staged_called hcalled

theorem staged_served {handle : String} {exports : Except Executor.Fault (List Export)}
    {constructorIndex : Nat} {function : String × List (List Json)} {calls : FunctionCalls}
    (h : Served config handle exports constructorIndex function log calls) :
    Staged executor config log calls.outcomes := by
  have hturn : Staged executor config log (calls.outcomes.flatMap fun outcome => [outcome]) :=
    staged_inTurn h.outcomes fun _ _ _ => staged_tried
  rwa [List.flatMap_singleton'] at hturn

theorem staged_deployed {generation : Generation} {numbered : List Json × Nat}
    {calls : List FunctionCalls} (h : Deployed generation config numbered log calls) :
    Staged executor config log (calls.flatMap (·.outcomes)) := by
  cases h with
  | refused args constructorIndex fault =>
      exact (staged_idle (.deploy _ args (.error fault)) rfl).append (staged_nil _)
  | @accepted args _ handle exports _ _ hcalls =>
      have hserved : Staged executor config _ (calls.flatMap (·.outcomes)) :=
        staged_inTurn hcalls fun _ _ _ => staged_served
      have hmanifest := (staged_idle (.manifest handle exports) rfl).append hserved
      exact (staged_idle (.deploy _ args (.ok handle)) rfl).append hmanifest

theorem staged_of_disciplined {generation : Generation} {result : RunResult}
    (h : Disciplined generation config log result) :
    Staged executor config log result.outcomes := by
  cases h with
  | @mk log calls hcalls answer =>
      have hdeployed : Staged executor config log (calls.flatMap (·.flatMap (·.outcomes))) :=
        staged_inTurn hcalls fun _ _ _ => staged_deployed
      have hreset := hdeployed.append (staged_idle (.reset answer) rfl)
      rw [List.append_nil] at hreset
      rw [RunResult.outcomes, List.flatten_eq_flatMap, List.flatMap_assoc]
      exact hreset

end Staged

end Execution

end Concord
