import Mathlib
import Concord.Pipeline
import Concord.Proofs.Retry
import Concord.Proofs.Store.Histories

/-!
# What an access leaves behind

An access that fails leaves the store as it was, however often it is tried; one that goes through
has done its operation once, on the store as it was.
-/

namespace Concord

namespace Pipeline

variable {α ε : Type}

theorem store_nextFate (access : Access) (pipeline : Pipeline) :
    (nextFate access pipeline).2.store = pipeline.store := by
  unfold nextFate
  split <;> rfl

theorem fate_apply (access : Access) (pipeline : Pipeline) :
    fate access pipeline =
      (if (nextFate access pipeline).1 = .pass && access.writes &&
          (nextFate access pipeline).2.readOnly then .fail Database.readOnlyWrite
        else (nextFate access pipeline).1, (nextFate access pipeline).2) := by
  have hpure : ∀ (refused : Bool) (taken : Fate) (later : Pipeline),
      (if refused then pure (.fail Database.readOnlyWrite) else pure taken : StateM Pipeline Fate)
        later = (if refused then .fail Database.readOnlyWrite else taken, later) := by
    intro refused taken later
    cases refused <;> rfl
  exact hpure _ _ _

theorem store_fate (access : Access) (pipeline : Pipeline) :
    (fate access pipeline).2.store = pipeline.store := by
  rw [fate_apply]
  exact store_nextFate access pipeline

/-- The store after an answer: the operation was done where there is a value, and nothing where
there is an error. -/
def Settled (operation : Store → Except Store.Fault (α × Store)) (pipeline : Pipeline) :
    Except ε α × Pipeline → Prop
  | (.ok value, later) => operation pipeline.store = .ok (value, later.store)
  | (.error _, later) => later.store = pipeline.store

/-- An operation on the store, on the pipeline that an access finds. -/
def operate (operation : Store → Except Store.Fault (α × Store)) (pipeline : Pipeline) :
    Except Store.Fault α × Pipeline :=
  match operation pipeline.store with
  | .ok (value, store) => (.ok value, { pipeline with store })
  | .error fault => (.error fault, pipeline)

/-- A look that finds something leaves the store as it is. -/
theorem readable_eq_ok_iff {view : Store → Except Store.Fault α} {store later : Store}
    {value : α} :
    readable view store = .ok (value, later) ↔ view store = .ok value ∧ later = store := by
  unfold readable
  cases view store with
  | error fault => simp
  | ok found => simp [eq_comm]

theorem onStore_apply (access : Access) (operation : Store → Except Store.Fault (α × Store))
    (pipeline : Pipeline) :
    onStore access operation pipeline =
      match fate access pipeline with
      | (.fail fault, later) => (.error (.database fault), later)
      | (_, later) => operate operation later := by
  cases h : fate access pipeline with
  | mk fate later =>
      unfold onStore
      simp only [bind, StateT.bind, h]
      cases fate <;> rfl

theorem operate_settled (operation : Store → Except Store.Fault (α × Store)) (pipeline : Pipeline) :
    Settled operation pipeline (operate operation pipeline) := by
  unfold operate
  cases h : operation pipeline.store with
  | error fault => exact rfl
  | ok result => exact h

theorem Settled.of_store {operation : Store → Except Store.Fault (α × Store)}
    {pipeline later : Pipeline} {result : Except ε α × Pipeline}
    (h : later.store = pipeline.store) (hsettled : Settled operation later result) :
    Settled operation pipeline result := by
  obtain ⟨answer, last⟩ := result
  cases answer with
  | ok value =>
      change operation pipeline.store = _
      rw [← h]
      exact hsettled
  | error error => exact Eq.trans hsettled h

theorem onStore_settled (access : Access)
    (operation : Store → Except Store.Fault (α × Store)) (pipeline : Pipeline) :
    Settled operation pipeline (onStore access operation pipeline) := by
  have hstore := store_fate access pipeline
  rw [onStore_apply]
  cases h : fate access pipeline with
  | mk fate later =>
      rw [h] at hstore
      cases fate with
      | fail fault => exact hstore
      | pass => exact (operate_settled operation later).of_store hstore
      | stop => exact (operate_settled operation later).of_store hstore

/-- The store after an answer to an operation that cannot go wrong: it was done where there is a
value, and nothing was where there is an error. -/
def Changed (change : Store → Store) (pipeline : Pipeline) : Except ε α × Pipeline → Prop
  | (.ok _, later) => later.store = change pipeline.store
  | (.error _, later) => later.store = pipeline.store

theorem onStore_changed (access : Access) (value : Store → α × Store) (pipeline : Pipeline) :
    Changed (fun store => (value store).2) pipeline
      (onStore access (fun store => .ok (value store)) pipeline) := by
  have hsettled := onStore_settled access (fun store => .ok (value store)) pipeline
  cases h : onStore access (fun store => .ok (value store)) pipeline with
  | mk answer later =>
      rw [h] at hsettled
      cases answer with
      | ok found => exact (congrArg Prod.snd (Except.ok.inj hsettled)).symm
      | error fault => exact hsettled

theorem store_onStore_ok {value : Store → α × Store} (access : Access) (pipeline : Pipeline) :
    (onStore access (fun store => .ok (value store)) pipeline).2.store = pipeline.store ∨
      (onStore access (fun store => .ok (value store)) pipeline).2.store =
        (value pipeline.store).2 := by
  have hchanged := onStore_changed access value pipeline
  cases h : onStore access (fun store => .ok (value store)) pipeline with
  | mk answer later =>
      rw [h] at hchanged
      cases answer with
      | ok found => exact Or.inr hchanged
      | error fault => exact Or.inl hchanged

/-- An access that is allowed goes through where nothing else is in store for it. -/
theorem onStore_of_no_fates {access : Access} {pipeline : Pipeline}
    (operation : Store → Except Store.Fault (α × Store))
    (hallowed : (access.writes && pipeline.readOnly) = false)
    (hfates : pipeline.fates.get? access.name = none) :
    onStore access operation pipeline = operate operation pipeline := by
  have hnext : nextFate access pipeline = (.pass, pipeline) := by
    unfold nextFate
    rw [hfates]
  rw [onStore_apply, fate_apply, hnext, Bool.and_assoc, hallowed, Bool.and_false]
  rfl

/-- Every access goes through. -/
structure Undisturbed (pipeline : Pipeline) : Prop where
  writable : pipeline.readOnly = false
  fates : ∀ access : Access, pipeline.fates.get? access.name = none

theorem Undisturbed.withStore {pipeline : Pipeline} (h : pipeline.Undisturbed) (store : Store) :
    Undisturbed { pipeline with store } :=
  ⟨h.writable, h.fates⟩

theorem Undisturbed.onStore {pipeline : Pipeline} (h : pipeline.Undisturbed) (access : Access)
    (operation : Store → Except Store.Fault (α × Store)) :
    onStore access operation pipeline = operate operation pipeline :=
  onStore_of_no_fates operation (by rw [h.writable, Bool.and_false]) (h.fates access)

end Pipeline

/-! ### Attempts -/

/-- The first step that fails ends an attempt, whatever it is made on. -/
theorem Attempt.bind_apply {σ α β : Type} (first : ExceptT Failure (StateM σ) α)
    (next : α → ExceptT Failure (StateM σ) β) (state : σ) :
    (first >>= next).run state =
      match first.run state with
      | (.ok value, later) => (next value).run later
      | (.error failure, later) => (.error failure, later) := by
  cases h : first.run state with
  | mk answer later =>
      have hfirst : first state = (answer, later) := h
      simp only [bind, ExceptT.bind, ExceptT.run, ExceptT.mk, StateT.bind, hfirst]
      cases answer <;> rfl

namespace Context

section Trying

variable {σ τ ε α : Type} [Transient ε] {attempt : StateM σ (Except ε α)}
  {related : σ → σ → Prop} {alike : σ → τ → Prop} {other : StateM τ (Except ε α)}
  {context : Context} {cause : RetryError ε → Cause} {task operation : String} {state later : σ}

theorem trying_apply (context : Context) (operation : String) (attempt : StateM σ (Except ε α))
    (state : σ) :
    (context.trying operation attempt).run state =
      ((context.retry.tryAll pause operation attempt state).1.mapError (⟨none, .noDelay ·⟩),
        (context.retry.tryAll pause operation attempt state).2) := by
  unfold trying
  simp only [ExceptT.run, ExceptT.mk, bind, StateT.bind]
  rcases context.retry.tryAll pause operation attempt state with ⟨fault | answer, later⟩ <;> rfl

/-- What failed attempts keep, trying keeps up to the attempt that succeeds. -/
theorem trying_ended (htrans : ∀ a b c, related a b → related b c → related a c)
    (hrefl : ∀ state, related state state)
    (hfail : ∀ state error next, attempt state = (.error error, next) → related state next)
    (context : Context) (operation : String) (state : σ) :
    RetryPolicy.Ended related attempt state ((context.trying operation attempt).run state) := by
  have hended : RetryPolicy.Ended related attempt state
      (context.retry.tryAll pause operation attempt state) :=
    RetryPolicy.attemptsWith_ended htrans hrefl hfail fun _ => hrefl
  rw [trying_apply]
  generalize context.retry.tryAll pause operation attempt state = result at hended
  rcases result with ⟨fault | (error | value), later⟩ <;> exact hended

/-- Trying gives the same on states that are alike, if each attempt does. -/
theorem trying_same (hattempt : ∀ state mirror, alike state mirror →
      RetryPolicy.Same alike (attempt state) (other mirror))
    (context : Context) (operation : String) {mirror : τ} (h : alike state mirror) :
    RetryPolicy.Same alike ((context.trying operation attempt).run state)
      ((context.trying operation other).run mirror) := by
  obtain ⟨hanswer, hlater⟩ : RetryPolicy.Same alike
      (context.retry.tryAll pause operation attempt state)
      (context.retry.tryAll pause operation other mirror) :=
    RetryPolicy.attemptsWith_same hattempt (fun _ _ _ => id) h
  rw [trying_apply, trying_apply]
  exact ⟨congrArg (Except.mapError _) hanswer, hlater⟩

/-- A node breaks off only under a policy that runs out of delays. -/
theorem of_trying_error {failure : Failure}
    (h : (context.trying operation attempt).run state = (.error failure, later)) :
    ¬ context.retry.Lasting ∧ ∃ fault, failure.cause = .noDelay fault := by
  rw [trying_apply] at h
  cases hanswer : (context.retry.tryAll pause operation attempt state).1 with
  | ok answer =>
      rw [hanswer] at h
      cases h
  | error fault =>
      rw [hanswer] at h
      cases h
      exact ⟨fun hlasting => hlasting.tryAll_ne_error fault hanswer, fault, rfl⟩

theorem trying_of_ok {value : α} (h : attempt state = (.ok value, later)) :
    (context.trying operation attempt).run state = (.ok (.ok value), later) := by
  rw [trying_apply, RetryPolicy.tryAll, RetryPolicy.attemptsWith_apply, h]
  rfl

/-- What fails for good is tried once. -/
theorem trying_of_lasting {error : ε} (h : attempt state = (.error error, later))
    (hlasting : Transient.transient error = false) :
    (context.trying operation attempt).run state =
      (.ok (.error (.permanent operation error)), later) := by
  rw [trying_apply, RetryPolicy.tryAll, RetryPolicy.attemptsWith_apply, h]
  simp only [hlasting]
  rfl

theorem need_apply (context : Context) (cause : RetryError ε → Cause) (task operation : String)
    (attempt : StateM σ (Except ε α)) (state : σ) :
    (context.need cause task operation attempt).run state =
      (((context.trying operation attempt).run state).1.bind
          (·.mapError (⟨some task, cause ·⟩)),
        ((context.trying operation attempt).run state).2) := by
  unfold need
  rw [Attempt.bind_apply]
  rcases (context.trying operation attempt).run state with ⟨failure | (error | value), later⟩ <;>
    rfl

/-- A relation leads from the start to the attempt that gave a value, or to the end where a task
failed. -/
def Reached (related : σ → σ → Prop) (attempt : StateM σ (Except ε α)) (start : σ) :
    Except Failure α × σ → Prop
  | (.ok value, last) => ∃ state, related start state ∧ attempt state = (.ok value, last)
  | (.error _, last) => related start last

theorem need_reached (htrans : ∀ a b c, related a b → related b c → related a c)
    (hrefl : ∀ state, related state state)
    (hfail : ∀ state error next, attempt state = (.error error, next) → related state next)
    (context : Context) (cause : RetryError ε → Cause) (task operation : String) (state : σ) :
    Reached related attempt state ((context.need cause task operation attempt).run state) := by
  have hended := trying_ended htrans hrefl hfail context operation state
  rw [need_apply]
  generalize (context.trying operation attempt).run state = result at hended
  rcases result with ⟨failure | (error | value), later⟩ <;> exact hended

theorem need_same (hattempt : ∀ state mirror, alike state mirror →
      RetryPolicy.Same alike (attempt state) (other mirror))
    (context : Context) (cause : RetryError ε → Cause) (task operation : String) {mirror : τ}
    (h : alike state mirror) :
    RetryPolicy.Same alike ((context.need cause task operation attempt).run state)
      ((context.need cause task operation other).run mirror) := by
  obtain ⟨hanswer, hlater⟩ := trying_same hattempt context operation h
  rw [need_apply, need_apply]
  exact ⟨congrArg (Except.bind · _) hanswer, hlater⟩

theorem need_of_ok {value : α} (h : attempt state = (.ok value, later)) :
    (context.need cause task operation attempt).run state = (.ok value, later) := by
  rw [need_apply, trying_of_ok h]
  rfl

theorem need_of_lasting {error : ε} (h : attempt state = (.error error, later))
    (hlasting : Transient.transient error = false) :
    (context.need cause task operation attempt).run state =
      (.error ⟨some task, cause (.permanent operation error)⟩, later) := by
  rw [need_apply, trying_of_lasting h hlasting]
  rfl

end Trying

/-- However often it is tried, an operation is done once or not at all. -/
theorem needStore_settled {α : Type} (context : Context) (task operation : String) (access : Access)
    (change : Store → Except Store.Fault (α × Store)) (pipeline : Pipeline) :
    Pipeline.Settled change pipeline
      ((context.needStore task operation (Pipeline.onStore access change)).run pipeline) := by
  have htrans : ∀ a b c : Pipeline, b.store = a.store → c.store = b.store → c.store = a.store :=
    fun _ _ _ hfirst hnext => hnext.trans hfirst
  have hfail : ∀ (state : Pipeline) error next,
      Pipeline.onStore access change state = (.error error, next) → next.store = state.store := by
    intro state error next hattempt
    have hsettled := Pipeline.onStore_settled access change state
    rwa [hattempt] at hsettled
  have hreached := need_reached htrans (fun _ => rfl) hfail context .storeRetries task operation
    pipeline
  unfold needStore
  rcases h : (context.need .storeRetries task operation (Pipeline.onStore access change)).run
    pipeline with ⟨failure | value, later⟩ <;> rw [h] at hreached
  · exact hreached
  · obtain ⟨state, hstate, hattempt⟩ := hreached
    have hsettled := Pipeline.onStore_settled access change state
    rw [hattempt] at hsettled
    exact hsettled.of_store hstate

/-- Where accesses go through, an operation is done by the first attempt. -/
theorem needStore_of_undisturbed {α : Type} {pipeline : Pipeline} (context : Context)
    (task operation : String) (access : Access) (change : Store → Except Store.Fault (α × Store))
    {value : α} {store : Store} (h : pipeline.Undisturbed)
    (hchange : change pipeline.store = .ok (value, store)) :
    (context.needStore task operation (Pipeline.onStore access change)).run pipeline =
      (.ok value, { pipeline with store }) := by
  have hattempt : Pipeline.onStore access change pipeline =
      (.ok value, { pipeline with store }) := by
    rw [h.onStore, Pipeline.operate, hchange]
  exact need_of_ok hattempt

/-- An operation that fails for good fails at the first attempt. -/
theorem needStore_of_lasting {α : Type} {pipeline : Pipeline} (context : Context)
    (task operation : String) (access : Access) (change : Store → Except Store.Fault (α × Store))
    {fault : Store.Fault} (h : pipeline.Undisturbed)
    (hchange : change pipeline.store = .error fault)
    (hlasting : Transient.transient fault = false) :
    (context.needStore task operation (Pipeline.onStore access change)).run pipeline =
      (.error ⟨some task, .storeRetries (.permanent operation fault)⟩, pipeline) := by
  have hattempt : Pipeline.onStore access change pipeline = (.error fault, pipeline) := by
    rw [h.onStore, Pipeline.operate, hchange]
  exact need_of_lasting hattempt hlasting

end Context

end Concord
