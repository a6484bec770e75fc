import Mathlib
import Concord.Proofs.Monitor.Ledger
import Concord.Proofs.Monitor.Sparing
import Concord.Proofs.Pipeline

/-!
# Evidence is neither lost nor doubled

A monitor writes about a finding before it marks it, and it asks for what has no mark. Whatever
others do to the store in between and whatever fails, everything marked has a note, and where no
mark fails it has no more than one.
-/

namespace Concord

theorem Pipeline.setMark_changed (finding : Finding) (id : String) (pipeline : Pipeline) :
    Changed (·.perform (Store.mark finding id)) pipeline (setMark finding id pipeline) := by
  cases finding with
  | crash => exact onStore_changed .markCrashLogged (·.markCrashLogged id) pipeline
  | discrepancy =>
      exact onStore_changed .markDiscrepancyLogged (·.markDiscrepancyLogged id) pipeline

namespace Busy

variable {root : String} {markers : List String} {start : Files}
  {pending : Option (Finding × String)} {fact : Store → Prop} {monitor : Monitor} {busy : Busy}
  {α : Type}

/-- Others do not make it false. -/
def Stable (fact : Store → Prop) : Prop :=
  ∀ store (operation : Store.Operation), operation.Unmarking → fact store →
    fact (store.perform operation)

/-- Between two steps of a monitor: what is known of the monitor, of the store, and of the turns of
the others, and the accounts, now and whenever someone had a look. -/
structure Stands (root : String) (markers : List String) (start : Files)
    (pending : Option (Finding × String)) (fact : Store → Prop) (monitor : Monitor) (busy : Busy) :
    Prop extends Monitor.Keeps root markers monitor busy.host.disk where
  unmarking : ∀ operations ∈ busy.turns, ∀ operation ∈ operations, operation.Unmarking
  accounts : Exact root markers start pending busy.moment
  seen : ∀ moment ∈ busy.seen, Faithful root markers start moment
  fact : fact busy.store

/-- No note is pending. -/
abbrev Rests (root : String) (markers : List String) (start : Files) : Monitor → Busy → Prop :=
  Stands root markers start none fun _ => True

/-- Nor is there one where a step fails. -/
def Fails (root : String) (markers : List String) (start : Files) (_ : Failure) :
    Monitor → Busy → Prop :=
  Rests root markers start

namespace Stands

theorem fails (h : Stands root markers start none fact monitor busy) (failure : Failure) :
    Fails root markers start failure monitor busy :=
  { h with fact := trivial }

theorem imp (h : Stands root markers start pending fact monitor busy) {other : Store → Prop}
    (himp : ∀ store, fact store → other store) :
    Stands root markers start pending other monitor busy :=
  { h with fact := himp _ h.fact }

theorem look (h : Stands root markers start pending fact monitor busy) :
    Stands root markers start pending fact monitor busy.look := by
  refine { h with seen := fun moment hmoment => ?_ }
  rcases List.mem_append.1 hmoment with hold | hnew
  · exact h.seen moment hold
  · exact List.mem_singleton.1 hnew ▸ h.accounts.faithful_moment

theorem disturb (h : Stands root markers start pending fact monitor busy) (hstable : Stable fact)
    {operation : Store.Operation} (hunmarking : operation.Unmarking) :
    Stands root markers start pending fact monitor (busy.disturb operation) := by
  apply look
  exact { h with
    accounts := h.accounts.perform hunmarking
    fact := hstable _ operation hunmarking h.fact }

theorem disturbAll (h : Stands root markers start pending fact monitor busy) (hstable : Stable fact)
    {operations : List Store.Operation}
    (hunmarking : ∀ operation ∈ operations, operation.Unmarking) :
    Stands root markers start pending fact monitor (busy.disturbAll operations) := by
  have hall : ∀ busy : Busy, Stands root markers start pending fact monitor busy →
      Stands root markers start pending fact monitor (operations.foldl Busy.disturb busy) := by
    induction operations with
    | nil => exact fun _ => id
    | cons operation rest ih =>
        obtain ⟨hfirst, hrest⟩ := List.forall_mem_cons.1 hunmarking
        exact fun busy hbusy => ih hrest _ (hbusy.disturb hstable hfirst)
  exact hall _ h.look

theorem turn (h : Stands root markers start pending fact monitor busy) (hstable : Stable fact) :
    Stands root markers start pending fact monitor busy.turn := by
  unfold Busy.turn
  cases hturns : busy.turns with
  | nil => exact h.look
  | cons operations rest =>
      have hunmarking := h.unmarking
      rw [hturns] at hunmarking
      obtain ⟨hfirst, hrest⟩ := List.forall_mem_cons.1 hunmarking
      have hnext : Stands root markers start pending fact monitor { busy with turns := rest } :=
        { h with unmarking := hrest }
      exact hnext.disturbAll hstable hfirst

theorem onPipeline (h : Stands root markers start pending fact monitor busy) {pipeline : Pipeline}
    {ledger : Ledger} {next : Option (Finding × String)} {after : Store → Prop}
    (haccounts : Exact root markers start next ⟨pipeline.store, busy.host.disk.files, ledger⟩)
    (hafter : after pipeline.store) :
    Stands root markers start next after monitor
      { busy with host.pipeline := pipeline, ledger } :=
  { h with accounts := haccounts, fact := hafter }

end Stands

/-! ### Steps -/

/-- A query leaves the store as it is, and so do the others in what matters. -/
theorem leads_asking {task : Option String} {access : Access}
    {operation : Store → Except Store.Fault (α × Store)} (after : α → Store → Prop)
    (hstable : Stable fact)
    (hread : ∀ store value later, (∃ operations, store = .after operations) → fact store →
      operation store = .ok (value, later) → later = store ∧ after value store) :
    Monitor.Leads (Stands root markers start none fact)
      (asking task (Pipeline.onStore access operation))
      (fun value => Stands root markers start none (after value)) (Fails root markers start) := by
  intro monitor busy hbusy
  have hturn := hbusy.turn hstable
  have hsettled := Pipeline.onStore_settled access operation busy.turn.host.pipeline
  rw [asking_apply]
  cases h : Pipeline.onStore access operation busy.turn.host.pipeline with
  | mk answer pipeline =>
      rw [h] at hsettled
      cases answer with
      | ok value =>
          obtain ⟨hsame, hafter⟩ := hread _ value pipeline.store hturn.accounts.reached hturn.fact
            hsettled
          rw [← hsame] at hafter
          refine hturn.onPipeline ?_ hafter
          rw [hsame]
          exact hturn.accounts
      | error fault =>
          have haccounts : Exact root markers start none
              ⟨pipeline.store, busy.turn.host.disk.files, busy.turn.ledger⟩ := by
            rw [show pipeline.store = busy.turn.host.pipeline.store from hsettled]
            exact hturn.accounts
          exact (hturn.onPipeline haccounts trivial : Rests _ _ _ _ _)

/-- What leaves the store and the evidence alone leaves the accounts alone. -/
theorem leads_own {step : Monitor.Attempt α} (h : Monitor.Spares root markers step) :
    Monitor.Leads (Stands root markers start none fact) (own step)
      (fun _ => Stands root markers start none fact) (Fails root markers start) := by
  intro monitor busy hbusy
  have hcalm := h busy.host monitor busy.host
    { hbusy with pipeline := rfl, same := Evidence.Same.refl _ _ }
  have hstands : ∀ (next : Monitor) (later : Host), Monitor.Calm root markers busy.host next later →
      Stands root markers start none fact next { busy with host := later } := by
    intro next later hlater
    have haccounts : Exact root markers start none ⟨later.pipeline.store, later.disk.files,
        busy.ledger⟩ := by
      rw [hlater.pipeline]
      exact hbusy.accounts.same hlater.same
    have hfact : fact later.pipeline.store := by
      rw [hlater.pipeline]
      exact hbusy.fact
    exact { hlater.toKeeps with
      unmarking := hbusy.unmarking
      accounts := haccounts
      seen := hbusy.seen
      fact := hfact }
  rw [own_apply]
  cases hrun : (step.run.run monitor).run busy.host with
  | mk answer later =>
      obtain ⟨answer, next⟩ := answer
      rw [hrun] at hcalm
      cases answer with
      | ok value => exact hstands next later hcalm
      | error failure => exact (hstands next later hcalm).fails failure

/-- A note that could not be written is none. -/
theorem leads_write (task : Option String) (note : Note)
    (hrightful : ∀ store, fact store → note.Rightful markers store)
    (hopen : ∀ store, fact store → store.Finds markers note.finding note.generation ∧
      store.marked note.finding note.generation = false) (evidence : Evidence)
    (hroot : evidence.root = root) (hsequence : evidence.sequence = note.sequence) :
    Monitor.Leads (Stands root markers start none fact)
      (own (Monitor.writing task (Disk.append (evidence.fileOf note.finding) note.text)))
      (fun _ monitor busy => Stands root markers start (some (note.finding, note.generation)) fact
        monitor { busy with ledger.notes := busy.ledger.notes ++ [note] })
      (Fails root markers start) := by
  intro monitor busy hbusy
  have hcareful : ∀ disk, (Disk.append (evidence.fileOf note.finding) note.text busy.host.disk).2 =
      disk → monitor.supervisor.Careful root disk := by
    rintro disk rfl
    exact hbusy.careful.touches
      (.single (.write hroot (evidence.fileOf_mem_paths note.finding) _ _))
  rw [own_apply, Monitor.writing_apply]
  cases hwrite : Disk.append (evidence.fileOf note.finding) note.text busy.host.disk with
  | mk answer disk =>
      have hlater := hcareful disk (congrArg Prod.snd hwrite)
      cases answer with
      | ok value =>
          have hwritten := Disk.written?_append_ok hwrite
          rw [Evidence.resolve_fileOf, hroot, hsequence] at hwritten
          obtain ⟨hfinds, hunmarked⟩ := hopen busy.store hbusy.fact
          exact { hbusy with
            careful := hlater
            accounts := hbusy.accounts.note hwritten (hrightful _ hbusy.fact) hfinds hunmarked }
      | error fault =>
          have hfiles := Disk.files_append_error hwrite
          refine { hbusy with careful := hlater, accounts := ?_, fact := trivial }
          change Exact root markers start none ⟨busy.store, disk.files, busy.ledger⟩
          rw [hfiles]
          exact hbusy.accounts

theorem leads_enter (note : Note) :
    Monitor.Leads
      (fun monitor busy => Stands root markers start pending fact monitor
        { busy with ledger.notes := busy.ledger.notes ++ [note] })
      (enter note) (fun _ => Stands root markers start pending fact) (Fails root markers start) :=
  fun _ _ h => h

theorem leads_marking {finding : Finding} {id : String} {rest : Store → Prop}
    (hstable : Stable fact)
    (hrest : ∀ store, fact store → rest (store.perform (Store.mark finding id))) :
    Monitor.Leads (Stands root markers start (some (finding, id)) fact) (marking finding id)
      (fun _ => Stands root markers start none rest) (Fails root markers start) := by
  intro monitor busy hbusy
  have hturn := hbusy.turn hstable
  have hchanged := Pipeline.setMark_changed finding id busy.turn.host.pipeline
  rw [marking_apply, asking_apply]
  cases h : Pipeline.setMark finding id busy.turn.host.pipeline with
  | mk answer pipeline =>
      rw [h] at hchanged
      cases answer with
      | ok value =>
          refine hturn.onPipeline ?_ ?_
          · rw [show pipeline.store = _ from hchanged]
            exact hturn.accounts.mark
          · rw [show pipeline.store = _ from hchanged]
            exact hrest _ hturn.fact
      | error fault =>
          have haccounts : Exact root markers start none ⟨pipeline.store, busy.turn.host.disk.files,
              { busy.turn.ledger with slips := busy.turn.ledger.slips ++ [(finding, id)] }⟩ := by
            rw [show pipeline.store = _ from hchanged]
            exact hturn.accounts.slip
          exact (hturn.onPipeline haccounts trivial : Rests _ _ _ _ _)

/-! ### Going through what is left to report -/

/-- Whoever writes to the store, it stays true. -/
def Lasting (frame : Store → Prop) : Prop :=
  ∀ store (operation : Store.Operation), frame store → frame (store.perform operation)

/-- Findings are gone through one by one. What is left of them has no mark, and there is reason for
each. -/
structure Reporting (markers : List String) (begun : Store) (frame : Store → Prop)
    (finding : Finding) (key : α → String) (grounds : α → Store → Prop) (items : List α)
    (store : Store) : Prop where
  frame : frame store
  todo : Store.Todo markers begun store finding (items.map key)
  grounds : ∀ item ∈ items, grounds item store

variable {begun : Store} {frame : Store → Prop} {finding : Finding} {key : α → String}
  {grounds : α → Store → Prop} {item : α} {items : List α}

theorem stable_reporting (hframe : Lasting frame) (hgrounds : ∀ item, Lasting (grounds item)) :
    Stable (Reporting markers begun frame finding key grounds items) := by
  intro store operation hunmarking h
  refine ⟨hframe store operation h.frame, h.todo.perform hunmarking, fun item hitem => ?_⟩
  exact hgrounds item store operation (h.grounds item hitem)

theorem Reporting.mark (hframe : Lasting frame) (hgrounds : ∀ item, Lasting (grounds item))
    {store : Store}
    (h : Reporting markers begun frame finding key grounds (item :: items) store) :
    Reporting markers begun frame finding key grounds items
      (store.perform (Store.mark finding (key item))) := by
  refine ⟨hframe store _ h.frame, h.todo.perform_mark, fun other hother => ?_⟩
  exact hgrounds other store _ (h.grounds other (List.mem_cons_of_mem _ hother))

/-- One finding is written about and marked, and the others are left. -/
theorem leads_log (hframe : Lasting frame) (hgrounds : ∀ item, Lasting (grounds item))
    (task : String) {text : Monitor → String}
    (hrightful : ∀ store (monitor : Monitor) sequence, grounds item store →
      (Note.mk finding (key item) sequence (text monitor)).Rightful markers store) :
    Monitor.Leads
      (Stands root markers start none
        (Reporting markers begun frame finding key grounds (item :: items)))
      (log task finding (key item) text)
      (fun _ => Stands root markers start none
        (Reporting markers begun frame finding key grounds items))
      (Fails root markers start) := by
  refine Monitor.Leads.bind Monitor.Leads.get fun found => ?_
  rintro monitor busy ⟨rfl, hbusy⟩
  have hopen : ∀ store, Reporting markers begun frame finding key grounds (item :: items) store →
      store.Finds markers finding (key item) ∧ store.marked finding (key item) = false :=
    fun store h => h.todo.unmarked _ List.mem_cons_self
  have hgood : ∀ store, Reporting markers begun frame finding key grounds (item :: items) store →
      (Note.mk finding (key item) found.evidence.sequence (text found)).Rightful markers store :=
    fun store h => hrightful store found _ (h.grounds item List.mem_cons_self)
  refine (leads_write (some task) ⟨finding, key item, found.evidence.sequence, text found⟩ hgood
    hopen found.evidence hbusy.rooted rfl).bind (fun _ => ?_) found busy hbusy
  refine (leads_enter _).bind fun _ => ?_
  exact leads_marking (stable_reporting hframe hgrounds) fun store h => h.mark hframe hgrounds

/-! ### Crashes and discrepancies -/

theorem Lasting.stable (h : Lasting frame) : Stable frame :=
  fun store operation _ => h store operation

theorem lasting_grown : Lasting (Store.Grown markers begun) :=
  fun _ operation h => h.perform operation

def Done (markers : List String) (begun : Store) (finding : Finding) (store : Store) : Prop :=
  ∀ id, begun.Finds markers finding id → store.marked finding id = true

theorem Reporting.done {store : Store}
    (h : Reporting markers begun frame finding key grounds [] store) :
    Done markers begun finding store :=
  fun id hfinds => (h.todo.rest id hfinds).resolve_right List.not_mem_nil

abbrev CrashesLeft (markers : List String) (begun : Store) : List Store.Crash → Store → Prop :=
  Reporting markers begun (Store.Grown markers begun) .crash (·.generation)
    fun crash store => store.Reports markers crash

/-- The crashes of a store are done with. -/
def CrashesDone (markers : List String) (begun store : Store) : Prop :=
  Store.Grown markers begun store ∧ Done markers begun .crash store

theorem lasting_crashesDone : Lasting (CrashesDone markers begun) := by
  rintro store operation ⟨hgrown, hdone⟩
  refine ⟨hgrown.perform operation, fun id hfinds => ?_⟩
  exact Store.marked_perform (hgrown .crash id hfinds) (hdone id hfinds)

/-- The discrepancies that are left to report once the crashes are. -/
abbrev DiscrepanciesLeft (markers : List String) (begun : Store) :
    List Verification → Store → Prop :=
  Reporting markers begun (CrashesDone markers begun) .discrepancy (·.generation)
    fun verification store => store.Shows verification

theorem readable_eq_ok {view : Store → Except Store.Fault α} {store later : Store} {value : α}
    (h : Pipeline.readable view store = .ok (value, later)) :
    later = store ∧ view store = .ok value := by
  unfold Pipeline.readable at h
  cases hview : view store with
  | error fault =>
      rw [hview] at h
      cases h
  | ok found =>
      rw [hview] at h
      obtain ⟨rfl, rfl⟩ := Prod.mk.inj (Except.ok.inj h)
      exact ⟨rfl, rfl⟩

theorem leads_unloggedCrashes :
    Monitor.Leads (Stands root markers start none (Store.Grown markers begun))
      (asking none (Pipeline.unloggedCrashes markers))
      (fun crashes => Stands root markers start none (CrashesLeft markers begun crashes))
      (Fails root markers start) := by
  refine leads_asking _ lasting_grown.stable ?_
  rintro store crashes later ⟨operations, hstore⟩ hgrown hok
  obtain ⟨rfl, hview⟩ := readable_eq_ok hok
  unfold Store.crashesWithin at hview
  split at hview
  · cases hview
  · obtain rfl := Except.ok.inj hview
    exact ⟨rfl, hgrown, Store.todo_unloggedCrashes hstore hgrown,
      fun crash hcrash => Store.reports_of_mem_unloggedCrashes hcrash⟩

theorem leads_logCrash (crash : Store.Crash) (rest : List Store.Crash) :
    Monitor.Leads (Stands root markers start none (CrashesLeft markers begun (crash :: rest)))
      (logCrash crash) (fun _ => Stands root markers start none (CrashesLeft markers begun rest))
      (Fails root markers start) := by
  apply leads_log lasting_grown
  · exact fun crash store operation h => h.perform operation
  · exact fun store monitor _ hreports => ⟨monitor, crash, hreports, rfl, rfl⟩

theorem leads_logCrashes :
    Monitor.Leads (Stands root markers start none (Store.Grown markers begun)) logCrashes
      (fun _ => Stands root markers start none (CrashesDone markers begun))
      (Fails root markers start) := by
  refine Monitor.Leads.bind Monitor.Leads.get fun found => ?_
  rintro monitor busy ⟨rfl, hbusy⟩
  rw [hbusy.lookout]
  refine leads_unloggedCrashes.bind (fun crashes => ?_) found busy hbusy
  refine (Monitor.Leads.forM (fun crashes => Stands root markers start none
    (CrashesLeft markers begun crashes)) leads_logCrash crashes).bind fun _ => ?_
  exact Monitor.Leads.pure fun _ _ h => h.imp fun _ hleft => ⟨hleft.frame, hleft.done⟩

theorem leads_unloggedDiscrepancies :
    Monitor.Leads (Stands root markers start none (CrashesDone markers begun))
      (asking none Pipeline.unloggedDiscrepancies)
      (fun found => Stands root markers start none (DiscrepanciesLeft markers begun found))
      (Fails root markers start) := by
  refine leads_asking _ lasting_crashesDone.stable ?_
  rintro store found later ⟨operations, hstore⟩ hcrashes hok
  obtain ⟨rfl, hview⟩ := readable_eq_ok hok
  exact ⟨rfl, hcrashes, Store.todo_unloggedDiscrepancies hstore hview hcrashes.1,
    fun verification hmem => Store.shows_of_mem_unloggedDiscrepancies hstore hview hmem⟩

theorem leads_logDiscrepancy (verification : Verification) (rest : List Verification) :
    Monitor.Leads
      (Stands root markers start none (DiscrepanciesLeft markers begun (verification :: rest)))
      (logDiscrepancy verification)
      (fun _ => Stands root markers start none (DiscrepanciesLeft markers begun rest))
      (Fails root markers start) := by
  have hgrounds : ∀ verification : Verification, Lasting fun store => store.Shows verification :=
    fun verification store operation h => h.perform operation
  refine Monitor.Leads.bind (leads_asking _ (stable_reporting lasting_crashesDone hgrounds)
    fun store generation later _ hleft hok => ⟨(readable_eq_ok hok).1, hleft⟩) fun generation => ?_
  exact leads_log lasting_crashesDone hgrounds _
    fun store monitor _ hshows => ⟨monitor, verification, generation, hshows, rfl, rfl⟩

theorem leads_logDiscrepancies :
    Monitor.Leads (Stands root markers start none (CrashesDone markers begun)) logDiscrepancies
      (fun _ => Stands root markers start none fun store =>
        Store.Grown markers begun store ∧ ∀ finding, Done markers begun finding store)
      (Fails root markers start) := by
  refine leads_unloggedDiscrepancies.bind fun found => ?_
  refine (Monitor.Leads.forM (fun found => Stands root markers start none
    (DiscrepanciesLeft markers begun found)) leads_logDiscrepancy found).bind fun _ => ?_
  refine Monitor.Leads.pure fun _ _ h => h.imp fun _ hleft => ⟨hleft.frame.1, fun finding => ?_⟩
  cases finding with
  | crash => exact hleft.frame.2
  | discrepancy => exact hleft.done

/-! ### Cycles -/

theorem leads_cover :
    Monitor.Leads
      (Stands root markers start none fun store =>
        Store.Grown markers begun store ∧ ∀ finding, Done markers begun finding store)
      (cover begun) (fun _ => Rests root markers start)
      (Fails root markers start) := by
  intro monitor busy h
  obtain ⟨hgrown, hdone⟩ := h.fact
  exact { h with
    accounts := h.accounts.cover hgrown fun finding id hfinds => hdone finding id hfinds
    fact := trivial }

theorem leads_attemptCycle (begun : Store) :
    Monitor.Leads (Stands root markers start none (Store.Grown markers begun)) (attemptCycle begun)
      (fun _ => Rests root markers start) (Fails root markers start) := by
  refine (leads_own Monitor.spares_wake).bind fun _ => ?_
  refine Monitor.Leads.bind (Monitor.Leads.look fun monitor _ => ⟨monitor, rfl⟩) fun monitor => ?_
  refine Monitor.Leads.bind (leads_asking (fun _ => Store.Grown markers begun)
    lasting_grown.stable fun store current later _ hgrown hok => ?_) fun current => ?_
  · exact ⟨(congrArg Prod.snd (Except.ok.inj hok)).symm, hgrown⟩
  refine (leads_own (Monitor.spares_logMetrics _ _)).bind fun _ => ?_
  refine leads_logCrashes.bind fun crashesLogged => ?_
  refine leads_logDiscrepancies.bind fun discrepanciesLogged => ?_
  refine leads_cover.bind fun _ => leads_own ?_
  refine (Monitor.spares_evaluate _).bind fun _ => ?_
  exact (Monitor.spares_close _ _ _).bind fun _ => Monitor.Spares.pure _

structure Round.Unmarking (round : Round) : Prop where
  before : ∀ operation ∈ round.before, operation.Unmarking
  turns : ∀ operations ∈ round.turns, ∀ operation ∈ operations, operation.Unmarking

namespace Torn

def crashed (id : String) : Generation :=
  ⟨id, "", .empty, .empty, [], some "This is an unhandled exception"⟩

def first : Monitor where
  context := ⟨[], .standard⟩
  config := { results := "/r" }
  supervisor := .noting [] fun _ => []
  evidence := ⟨"/r", 1⟩

/-- The third write is refused, which is that of the second crash. -/
def host : Host where
  disk.files := ⟨[(["r"], .directory), (["r", "bench"], .directory), (["r", "crashes"], .directory),
    (["r", "storage-diff"], .directory)]⟩
  disk.refusals := [none, none, some (.refused "full")]

/-- A third crash comes in while the first one is marked. -/
def rounds : List Round :=
  [⟨[.insertGeneration (crashed "a"), .insertGeneration (crashed "b")],
      [[], [], [.insertGeneration (crashed "c")]]⟩, ⟨[], []⟩]

end Torn

end Busy

end Concord
