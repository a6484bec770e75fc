import Mathlib
import Concord.Dispatcher
import Concord.Proofs.Shared

/-!
# Dispatchers while candidates come in

Before each access of a dispatcher, attempts that failed included, others may insert candidates.
What they and the dispatcher do is kept in order, and it tells what is stored and what is queued.
Where nobody inserts anything, a dispatcher does what it does alone.
-/

namespace Concord

/-- What is done to a pipeline while candidates come in and are handed on. -/
inductive Act where
  | inserted (generation : Generation)
  | published (queue : String) (job : Job)
  | marked (id : String)

def Act.move : Act → Move
  | inserted generation => .store (.insertGeneration generation)
  | published queue job => .queue (.publish queue job.encode.text)
  | marked id => .store (.markEnqueued id)

/-- The pipeline that these acts make of an empty one. -/
def replay (acts : List Act) : Pipeline :=
  ({} : Pipeline).moveAll (acts.map Act.move)

theorem replay_append (before rest : List Act) :
    replay (before ++ rest) = (replay before).moveAll (rest.map Act.move) := by
  rw [replay, List.map_append, Pipeline.moveAll_append]
  rfl

theorem replay_concat (before : List Act) (act : Act) :
    replay (before ++ [act]) = (replay before).move act.move :=
  replay_append before [act]

/-- The pipeline of a dispatcher, what others insert before each access to come, which is nothing
where the list ends, and all that was done. -/
structure Desk where
  pipeline : Pipeline := {}
  turns : List (List Generation) := []
  acts : List Act := []

namespace Desk

def insert (desk : Desk) (generation : Generation) : Desk :=
  { desk with
    pipeline := desk.pipeline.move (Act.inserted generation).move
    acts := desk.acts ++ [.inserted generation] }

def turn (desk : Desk) : Desk :=
  match desk.turns with
  | [] => desk
  | generations :: rest => generations.foldl insert { desk with turns := rest }

/-- An access, with what it did if it goes through. -/
def access {ε α : Type} (did : α → List Act) (attempt : StateM Pipeline (Except ε α)) :
    StateM Desk (Except ε α) := fun desk =>
  match attempt desk.turn.pipeline with
  | (.ok value, pipeline) =>
      (.ok value, { desk.turn with pipeline, acts := desk.turn.acts ++ did value })
  | (.error error, pipeline) => (.error error, { desk.turn with pipeline })

abbrev Work (α : Type) := ExceptT Failure (StateM Desk) α

def need {ε α : Type} [Transient ε] (context : Context) (cause : RetryError ε → Cause)
    (task operation : String) (did : α → List Act) (attempt : StateM Pipeline (Except ε α)) :
    Work α :=
  context.need cause task operation (access did attempt)

def publishJobs (context : Context) (id : String) : List String → Work Unit
  | [] => pure ()
  | backend :: rest => do
      need context .queueRetries "job queue unavailable" "publish job"
        (fun _ => [.published backend ⟨id, backend⟩]) (Pipeline.publish backend ⟨id, backend⟩)
      publishJobs context id rest

def markEnqueued (context : Context) (id : String) : Work Bool :=
  need context .storeRetries "document store unavailable" "mark enqueued"
    (fun flipped => if flipped then [.marked id] else []) (Pipeline.markEnqueued id)

def dispatch (context : Context) (id : String) : Work Bool := do
  let found ← need context .storeRetries "document store unavailable" "load generation"
    (fun _ => []) (Pipeline.loadGeneration id)
  match found with
  | none => pure false
  | some generation =>
      if generation.compileError.isNone then publishJobs context id context.backends
      markEnqueued context id

def dispatchAll (context : Context) : List String → Work Nat
  | [] => pure 0
  | id :: rest => do
      let marked ← dispatch context id
      let more ← dispatchAll context rest
      pure ((if marked then 1 else 0) + more)

def dispatchOnce (context : Context) (batch : Nat) : Work Nat := do
  let ids ← need context .storeRetries "document store unavailable" "poll new generations"
    (fun _ => []) (Pipeline.unqueuedGenerations batch)
  dispatchAll context ids

variable {α β ε : Type}

/-! ### Alone -/

section Alone

theorem turn_of_alone {desk : Desk} (h : desk.turns = []) : desk.turn = desk := by
  unfold turn
  rw [h]

/-- Where nobody inserts anything, a step does what another one does on the pipeline alone. -/
def Mirrors (work : Work α) (plain : Attempt α) : Prop :=
  ∀ desk : Desk, desk.turns = [] → ∃ acts,
    work.run desk =
      ((plain.run desk.pipeline).1, { desk with pipeline := (plain.run desk.pipeline).2, acts })

theorem Mirrors.bind {first : Work α} {next : α → Work β} {plain : Attempt α}
    {plainNext : α → Attempt β} (hfirst : Mirrors first plain)
    (hnext : ∀ value, Mirrors (next value) (plainNext value)) :
    Mirrors (first >>= next) (plain >>= plainNext) := by
  intro desk halone
  obtain ⟨acts, hrun⟩ := hfirst desk halone
  rw [Attempt.bind_apply, Attempt.bind_apply, hrun]
  cases hplain : plain.run desk.pipeline with
  | mk answer pipeline =>
      cases answer with
      | error failure => exact ⟨acts, rfl⟩
      | ok value => exact hnext value { desk with pipeline, acts } halone

theorem Mirrors.pure (value : α) : Mirrors (Pure.pure value : Work α) (Pure.pure value) :=
  fun desk _ => ⟨desk.acts, rfl⟩

theorem mirrors_need [Transient ε] (context : Context) (cause : RetryError ε → Cause)
    (task operation : String) (did : α → List Act) (attempt : StateM Pipeline (Except ε α)) :
    Mirrors (need context cause task operation did attempt)
      (context.need cause task operation attempt) := by
  intro desk halone
  let alike (pipeline : Pipeline) (mirror : Desk) : Prop :=
    ∃ acts, mirror = { desk with pipeline, acts }
  have hattempt : ∀ pipeline mirror, alike pipeline mirror →
      RetryPolicy.Same alike (attempt pipeline) (access did attempt mirror) := by
    rintro pipeline mirror ⟨acts, rfl⟩
    have hturn : ({ desk with pipeline, acts } : Desk).turn = { desk with pipeline, acts } :=
      turn_of_alone halone
    rw [access, hturn]
    cases attempt pipeline with
    | mk answer later => cases answer <;> exact ⟨rfl, _, rfl⟩
  obtain ⟨hanswer, acts, hlater⟩ := Context.need_same hattempt context cause task operation
    (⟨desk.acts, rfl⟩ : alike desk.pipeline desk)
  exact ⟨acts, Prod.ext hanswer hlater⟩

theorem mirrors_publishJobs (context : Context) (id : String) (backends : List String) :
    Mirrors (publishJobs context id backends) (Dispatcher.publishJobs context id backends) := by
  induction backends with
  | nil => exact Mirrors.pure ()
  | cons backend rest ih => exact (mirrors_need context _ _ _ _ _).bind fun _ => ih

theorem mirrors_dispatch (context : Context) (id : String) :
    Mirrors (dispatch context id) (Dispatcher.dispatch context id) := by
  unfold dispatch Dispatcher.dispatch
  refine (mirrors_need context _ _ _ _ _).bind fun found => ?_
  cases found with
  | none => exact Mirrors.pure false
  | some generation =>
      dsimp only
      split
      · refine (mirrors_publishJobs context id context.backends).bind fun _ => ?_
        exact mirrors_need context _ _ _ _ _
      · exact mirrors_need context _ _ _ _ _

theorem mirrors_dispatchAll (context : Context) (ids : List String) :
    Mirrors (dispatchAll context ids) (Dispatcher.dispatchAll context ids) := by
  induction ids with
  | nil => exact Mirrors.pure 0
  | cons id rest ih =>
      refine (mirrors_dispatch context id).bind fun marked => ?_
      exact ih.bind fun more => Mirrors.pure _

/-- **Alone.** Where nobody inserts anything, a batch is handed on as by a dispatcher alone. -/
theorem mirrors_dispatchOnce (context : Context) (batch : Nat) :
    Mirrors (dispatchOnce context batch) (Dispatcher.dispatchOnce context batch) :=
  (mirrors_need context _ _ _ _ _).bind fun ids => mirrors_dispatchAll context ids

end Alone

/-! ### Where work leads -/

section Leads

variable {before failed : List Act → Prop} {desk : Desk} {start : List Act}

/-- The acts tell what is stored and what is queued, they have come after `start`, and this holds of
them. -/
structure At (start : List Act) (holds : List Act → Prop) (desk : Desk) : Prop where
  contents : desk.pipeline.contents = (replay desk.acts).contents
  grown : start <+: desk.acts
  holds : holds desk.acts

theorem At.of_imp {holds : List Act → Prop} (h : At start before desk)
    (himp : ∀ acts, before acts → holds acts) : At start holds desk :=
  ⟨h.contents, h.grown, himp desk.acts h.holds⟩

/-- Others who insert candidates do no harm. -/
def Stable (holds : List Act → Prop) : Prop :=
  ∀ acts generation, holds acts → holds (acts ++ [.inserted generation])

theorem At.insert (hstable : Stable before) (h : At start before desk) (generation : Generation) :
    At start before (desk.insert generation) := by
  refine ⟨?_, h.grown.trans (List.prefix_append _ _), hstable desk.acts generation h.holds⟩
  obtain ⟨hstore, hqueue⟩ := Prod.mk.inj h.contents
  rw [Desk.insert, replay_concat]
  exact Prod.ext (congrArg (Store.perform · (.insertGeneration generation)) hstore) hqueue

theorem At.turn (hstable : Stable before) (h : At start before desk) :
    At start before desk.turn := by
  have hall : ∀ (generations : List Generation) (desk : Desk), At start before desk →
      At start before (generations.foldl Desk.insert desk) := by
    intro generations
    induction generations with
    | nil => exact fun desk hdesk => hdesk
    | cons generation rest ih => exact fun desk hdesk => ih _ (hdesk.insert hstable generation)
  unfold Desk.turn
  split
  · exact h
  · exact hall _ _ ⟨h.contents, h.grown, h.holds⟩

def Led (start : List Act) (after : α → List Act → Prop) (failed : List Act → Prop) :
    Except Failure α × Desk → Prop
  | (.ok value, later) => At start (after value) later
  | (.error _, later) => At start failed later

/-- From where `before` holds, work leads to where `after` holds if it succeeds, and to where
`failed` holds if it does not. -/
def Leads (before : List Act → Prop) (work : Work α) (after : α → List Act → Prop)
    (failed : List Act → Prop) : Prop :=
  ∀ start desk, At start before desk → Led start after failed (work.run desk)

theorem Leads.bind {first : Work α} {next : α → Work β} {middle : α → List Act → Prop}
    {after : β → List Act → Prop} (hfirst : Leads before first middle failed)
    (hnext : ∀ value, Leads (middle value) (next value) after failed) :
    Leads before (first >>= next) after failed := by
  intro start desk hbefore
  have hmiddle := hfirst start desk hbefore
  rw [Attempt.bind_apply]
  cases h : first.run desk with
  | mk answer later =>
      rw [h] at hmiddle
      cases answer with
      | error failure => exact hmiddle
      | ok value => exact hnext value start later hmiddle

theorem Leads.pure {after : α → List Act → Prop} {value : α}
    (h : ∀ acts, before acts → after value acts) :
    Leads before (Pure.pure value : Work α) after failed :=
  fun _ _ hbefore => hbefore.of_imp h

theorem Leads.of_imp {given : List Act → Prop} {work : Work α} {after : α → List Act → Prop}
    (h : Leads before work after failed) (hgiven : ∀ acts, given acts → before acts) :
    Leads given work after failed :=
  fun start desk hstarted => h start desk (hstarted.of_imp hgiven)

/-- However often an access is tried, it is done once, after others inserted candidates, or it is
not done. -/
theorem leads_need [Transient ε] {context : Context} {cause : RetryError ε → Cause}
    {task operation : String} {did : α → List Act} {attempt : StateM Pipeline (Except ε α)}
    {effect : Store × Queue → α → Store × Queue → Prop} {after : α → List Act → Prop}
    (hanswered : ∀ pipeline, Pipeline.Answered effect pipeline (attempt pipeline))
    (hstable : Stable before)
    (hdone : ∀ acts value contents, before acts → effect (replay acts).contents value contents →
      contents = (replay (acts ++ did value)).contents ∧ after value (acts ++ did value))
    (hfailed : ∀ acts, before acts → failed acts) :
    Leads before (need context cause task operation did attempt) after failed := by
  intro start desk hbefore
  -- a failed attempt lets others insert candidates, and does nothing else
  have hfail : ∀ (state : Desk) error next, access did attempt state = (.error error, next) →
      At start before state → At start before next := by
    intro state error next haccess hstate
    have hturn := hstate.turn hstable
    have hanswer := hanswered state.turn.pipeline
    unfold access at haccess
    cases hattempt : attempt state.turn.pipeline with
    | mk answer pipeline =>
        rw [hattempt] at haccess hanswer
        cases answer with
        | ok value => cases haccess
        | error fault =>
            cases haccess
            exact ⟨Eq.trans hanswer hturn.contents, hturn.grown, hturn.holds⟩
  let keeps (state later : Desk) : Prop := At start before state → At start before later
  have htrans : ∀ a b c, keeps a b → keeps b c → keeps a c :=
    fun _ _ _ hfirst hnext h => hnext (hfirst h)
  have hreached := Context.need_reached htrans (fun _ => id) hfail context cause task operation desk
  unfold need
  rcases hrun : (context.need cause task operation (access did attempt)).run desk with
    ⟨failure | value, later⟩ <;> rw [hrun] at hreached
  · exact (hreached hbefore).of_imp hfailed
  · obtain ⟨state, hstate, haccess⟩ := hreached
    have hturn := (hstate hbefore).turn hstable
    have hanswer := hanswered state.turn.pipeline
    unfold access at haccess
    cases hattempt : attempt state.turn.pipeline with
    | mk answer pipeline =>
        rw [hattempt] at haccess hanswer
        cases answer with
        | error fault => cases haccess
        | ok found =>
            cases haccess
            have heffect : effect (replay state.turn.acts).contents value pipeline.contents := by
              rw [← hturn.contents]
              exact hanswer
            obtain ⟨hcontents, hafter⟩ := hdone _ _ _ hturn.holds heffect
            exact ⟨hcontents, hturn.grown.trans (List.prefix_append _ _), hafter⟩

end Leads

end Desk

end Concord
