import Mathlib
import Concord.Proofs.Monitor.Renewal
import Concord.Proofs.Pipeline
import Concord.Proofs.Store.Counts

/-!
# Movements add up

What a cycle reports as moved is the difference to the totals of the cycle before, or all of them if
there was none since the monitor started or failed. A cycle changes nothing that is counted, and
others only make counts grow, so no movement is negative and none is lost or counted twice.
-/

namespace Concord

/-! ### Accesses that leave the counters -/

namespace Pipeline

variable {α : Type}

theorem sameCounts_onStore (access : Access)
    {operation : Store → Except Store.Fault (α × Store)}
    (h : ∀ store value later, operation store = .ok (value, later) → store.SameCounts later)
    (pipeline : Pipeline) :
    pipeline.store.SameCounts (onStore access operation pipeline).2.store := by
  have hsettled := onStore_settled access operation pipeline
  cases hrun : onStore access operation pipeline with
  | mk answer later =>
      rw [hrun] at hsettled
      cases answer with
      | ok value => exact h _ _ _ hsettled
      | error fault =>
          change later.store = pipeline.store at hsettled
          rw [hsettled]
          exact .refl _

theorem sameCounts_readable (access : Access) (view : Store → Except Store.Fault α)
    (pipeline : Pipeline) :
    pipeline.store.SameCounts (onStore access (readable view) pipeline).2.store := by
  refine sameCounts_onStore access (fun store value later h => ?_) pipeline
  obtain ⟨-, rfl⟩ := readable_eq_ok_iff.1 h
  exact .refl _

theorem sameCounts_change (access : Access) {value : Store → α × Store}
    (h : ∀ store : Store, store.SameCounts (value store).2) (pipeline : Pipeline) :
    pipeline.store.SameCounts
      (onStore access (fun store => .ok (value store)) pipeline).2.store := by
  refine sameCounts_onStore access (fun store found later hvalue => ?_) pipeline
  have hlater : (value store).2 = later := congrArg Prod.snd (Except.ok.inj hvalue)
  exact hlater ▸ h store

end Pipeline

namespace Monitor

variable {α β : Type}

/-- The monitor has its context, and nothing that the store counts has changed. -/
structure Tallied (context : Context) (start : Store) (monitor : Monitor) (host : Host) :
    Prop where
  sameContext : monitor.context = context
  sameCounts : start.SameCounts host.pipeline.store

/-- A step that changes nothing that is counted, also where it fails. -/
def Tallies (α : Type) (step : Attempt α) : Prop :=
  ∀ context start, Leads (Tallied context start) step (fun _ => Tallied context start)
    fun _ => Tallied context start

namespace Tallies

theorem pure (value : α) : Tallies α (Pure.pure value) :=
  fun _ _ => Leads.pure fun _ _ => id

theorem bind {first : Attempt α} {next : α → Attempt β} (hfirst : Tallies α first)
    (hnext : ∀ value, Tallies β (next value)) : Tallies β (first >>= next) :=
  fun context start => (hfirst context start).bind fun value => hnext value context start

theorem get {next : Monitor → Attempt α} (h : ∀ monitor, Tallies α (next monitor)) :
    Tallies α (MonadState.get >>= next) := by
  refine fun context start => Leads.bind Leads.get fun found => ?_
  rintro monitor host ⟨rfl, htallied⟩
  exact h found context start found host htallied

theorem modify {change : Monitor → Monitor}
    (h : ∀ monitor, (change monitor).context = monitor.context) :
    Tallies Unit (modify change) := by
  refine fun context start => Leads.modify _ fun monitor host htallied => ?_
  exact ⟨(h monitor).trans htallied.sameContext, htallied.sameCounts⟩

theorem forM {items : List β} {step : β → Attempt Unit} (h : ∀ item, Tallies Unit (step item)) :
    Tallies Unit (items.forM step) := by
  induction items with
  | nil => exact pure ()
  | cons item rest ih => exact (h item).bind fun _ => ih

end Tallies

theorem tallies_writing (task : Option String) (step : StateM Disk (Except Files.Fault Unit)) :
    Tallies Unit (writing task step) := by
  intro context start
  apply leads_writing
  · exact fun monitor host disk htallied _ => ⟨htallied.sameContext, htallied.sameCounts⟩
  · exact fun monitor host disk fault htallied _ => ⟨htallied.sameContext, htallied.sameCounts⟩

theorem tallies_asking (task : Option String) {step : StateM Pipeline (Except Store.Fault α)}
    (h : ∀ pipeline : Pipeline, pipeline.store.SameCounts (step pipeline).2.store) :
    Tallies α (asking task step) := by
  intro context start
  have hstep : ∀ {monitor : Monitor} {host : Host} {answer pipeline},
      Tallied context start monitor host → step host.pipeline = (answer, pipeline) →
        Tallied context start monitor { host with pipeline } := by
    intro monitor host answer pipeline htallied hrun
    have hcounts := h host.pipeline
    rw [hrun] at hcounts
    exact ⟨htallied.sameContext, htallied.sameCounts.trans hcounts⟩
  apply leads_asking
  · exact fun monitor host value pipeline htallied hrun => hstep htallied hrun
  · exact fun monitor host fault pipeline htallied hrun => hstep htallied hrun

theorem tallies_restart (kind : Restart) : Tallies Unit (restart kind) := by
  intro context start monitor host htallied
  rw [restart_apply]
  generalize monitor.supervisor.carryOut kind monitor.evidence.metadata host.disk = answer
  obtain ⟨⟨answer, supervisor⟩, disk⟩ := answer
  cases answer <;> exact ⟨htallied.sameContext, htallied.sameCounts⟩

theorem tallies_reset (sequence : Nat) : Tallies Unit (reset sequence) := by
  intro context start monitor host htallied
  obtain ⟨answer, step, hrun, -⟩ := exists_reset sequence monitor host
  rw [hrun]
  cases answer <;> exact ⟨htallied.sameContext, htallied.sameCounts⟩

theorem tallies_noteEvent (event : String) : Tallies Unit (noteEvent event) :=
  Tallies.get fun _ => tallies_writing none _

theorem law_tallies : Law Tallies where
  pure := Tallies.pure
  bind := Tallies.bind
  get := Tallies.get
  mild hmild := Tallies.modify hmild.context
  noteEvent := tallies_noteEvent
  restart := tallies_restart

theorem tallies_logMetrics (current : Totals) (delta : Movement) :
    Tallies Unit (logMetrics current delta) := by
  refine Tallies.get fun monitor => ?_
  refine Tallies.bind (fun context start => Leads.look fun _ host => ⟨host, rfl⟩) fun host => ?_
  exact tallies_writing _ _

theorem tallies_logCrashes : Tallies Nat logCrashes := by
  refine Tallies.get fun monitor => ?_
  refine (tallies_asking none (Pipeline.sameCounts_readable _ _)).bind fun crashes => ?_
  refine (Tallies.forM fun crash => ?_).bind fun _ => Tallies.pure _
  refine Tallies.get fun monitor => ?_
  refine (tallies_writing _ _).bind fun _ => ?_
  exact (tallies_asking none (Pipeline.sameCounts_change _
    (Store.sameCounts_markCrashLogged · crash.generation))).bind fun _ => Tallies.pure _

theorem tallies_logDiscrepancies : Tallies Nat logDiscrepancies := by
  refine (tallies_asking none (Pipeline.sameCounts_readable _ _)).bind fun found => ?_
  refine (Tallies.forM fun verification => ?_).bind fun _ => Tallies.pure _
  refine (tallies_asking none (Pipeline.sameCounts_readable _ _)).bind fun generation => ?_
  refine Tallies.get fun monitor => ?_
  refine (tallies_writing _ _).bind fun _ => ?_
  exact (tallies_asking none (Pipeline.sameCounts_change _
    (Store.sameCounts_markDiscrepancyLogged · verification.generation))).bind fun _ =>
      Tallies.pure _

theorem tallies_close (sequence : Nat) (current : Totals) (action : Action) :
    Tallies Unit (close sequence current action) := by
  cases action with
  | grace | healthy | restarted => exact Tallies.modify fun _ => rfl
  | fullRestart =>
      refine Tallies.bind (Tallies.modify fun _ => rfl) fun _ => ?_
      exact (tallies_reset _).bind fun _ => Tallies.modify fun _ => rfl

/-- The counters are those of the start. -/
theorem leads_counters (context : Context) (start : Store) (backends : List String) :
    Leads (Tallied context start)
      (asking (some "failed to read counters") (Pipeline.counters backends))
      (fun current monitor host => current = start.counters backends ∧
        Tallied context start monitor host)
      fun _ => Tallied context start := by
  have hstep : ∀ {host : Host} {answer pipeline},
      Pipeline.counters backends host.pipeline = (answer, pipeline) →
        Pipeline.Settled (Pipeline.look (·.counters backends)) host.pipeline
          (answer, pipeline) := by
    intro host answer pipeline hrun
    rw [← hrun]
    exact Pipeline.onStore_settled .counters _ host.pipeline
  apply leads_asking
  · intro monitor host value pipeline htallied hrun
    obtain ⟨rfl, hstore⟩ := Prod.mk.inj (Except.ok.inj (hstep hrun))
    refine ⟨htallied.sameCounts.counters backends, htallied.sameContext, ?_⟩
    rw [← hstore]
    exact htallied.sameCounts
  · intro monitor host fault pipeline htallied hrun
    have hstore : pipeline.store = host.pipeline.store := hstep hrun
    refine ⟨htallied.sameContext, ?_⟩
    rw [hstore]
    exact htallied.sameCounts

theorem leads_judgement_tallied (context : Context) (start : Store) :
    Leads (Tallied context start) judgement
      (fun report monitor host => report.current = start.counters context.backends ∧
        Tallied context start monitor host)
      fun _ => Tallied context start := by
  have htallies : ∀ {α : Type} {step : Attempt α}, Tallies α step →
      Leads (Tallied context start) step (fun _ => Tallied context start)
        fun _ => Tallied context start := fun h => h context start
  refine (htallies (law_tallies.mild mild_wake)).bind fun _ => ?_
  refine Leads.bind Leads.get fun found => ?_
  rintro monitor host ⟨rfl, htallied⟩
  rw [htallied.sameContext]
  refine (leads_counters context start context.backends).bind (fun current => ?_) found host
    htallied
  rintro monitor host ⟨rfl, htallied⟩
  refine (htallies (tallies_logMetrics _ _)).bind (fun _ => ?_) monitor host htallied
  refine (htallies tallies_logCrashes).bind fun crashesLogged => ?_
  refine (htallies tallies_logDiscrepancies).bind fun discrepanciesLogged => ?_
  refine (htallies (law_tallies.evaluate _)).bind fun action => ?_
  exact Leads.pure fun _ _ hlast => ⟨rfl, hlast⟩

/-- **A cycle changes nothing that is counted**, whether it completes or fails. -/
theorem tallied_of_cycle {monitor next : Monitor} {host later : Host} {outcome : Outcome}
    (h : (cycle.run monitor).run host = ((outcome, next), later)) :
    Tallied monitor.context host.pipeline.store next later ∧
      ∀ report, outcome = .completed report →
        report.current = host.pipeline.store.counters monitor.context.backends := by
  have hattempt : Leads (Tallied monitor.context host.pipeline.store) attemptCycle
      (fun report found current =>
        report.current = host.pipeline.store.counters monitor.context.backends ∧
          Tallied monitor.context host.pipeline.store found current)
      fun _ => Tallied monitor.context host.pipeline.store := by
    rw [attemptCycle_eq]
    refine (leads_judgement_tallied _ _).bind fun report => ?_
    rintro found current ⟨hcurrent, htallied⟩
    exact Leads.bind (tallies_close _ _ _ _ _) (fun _ => Leads.pure fun _ _ hlast =>
      ⟨hcurrent, hlast⟩) found current htallied
  have hfirst := hattempt monitor host ⟨rfl, .refl _⟩
  rw [cycle_apply] at h
  cases hrun : (attemptCycle.run.run monitor).run host with
  | mk answer last =>
      rw [hrun] at hfirst h
      obtain ⟨answer, changed⟩ := answer
      cases answer with
      | ok report =>
          cases h
          refine ⟨hfirst.2, ?_⟩
          rintro _ ⟨⟩
          exact hfirst.1
      | error failure =>
          dsimp only at h
          rw [recover_apply] at h
          -- the failure is noted on the disk, which the store is no part of
          have hreset := tallies_reset (changed.evidence.sequence + 1) monitor.context
            host.pipeline.store changed { last with disk := (Disk.append changed.evidence.metadata
              ("monitor_event:error\nerror_message:" ++ failure.message ++ "\n") last.disk).2 }
            ⟨hfirst.sameContext, hfirst.sameCounts⟩
          cases hlast : ((reset (changed.evidence.sequence + 1)).run.run changed).run
              { last with disk := (Disk.append changed.evidence.metadata
                ("monitor_event:error\nerror_message:" ++ failure.message ++ "\n")
                last.disk).2 } with
          | mk answer final =>
              rw [hlast] at hreset h
              obtain ⟨answer, renewed⟩ := answer
              cases h
              refine ⟨?_, by rintro _ ⟨⟩⟩
              cases answer with
              | ok value => exact hreset
              | error fault => exact hreset

/-! ### What a completed cycle remembers -/

theorem baseline_of_completed {monitor next : Monitor} {host later : Host} {report : Report}
    (h : (cycle.run monitor).run host = ((.completed report, next), later)) :
    next.baseline = some report.current := by
  obtain ⟨-, -, hconcluded⟩ := reported_of_cycle h
  cases hconcluded with
  | grace hphase haction hat =>
      obtain ⟨supervisor, rfl, -⟩ := hat
      rfl
  | judged hphase hfull haction hat =>
      obtain ⟨supervisor, rfl, -⟩ := hat
      rfl
  | restarted hphase hfull haction hat =>
      obtain ⟨seed, supervisor, rfl, -⟩ := hat
      rfl

/-! ### Reports in a row -/

/-- No count has gone down, and no backend was dropped. -/
structure Grown (previous now : Totals) : Prop where
  counts : ∀ measure, previous.count measure ≤ now.count measure
  listed : ∀ backend, now.runs.get? backend = none → previous.runs.get? backend = none

/-- Each report tells what moved since the totals before it. -/
def Succeed : Totals → List Report → Prop
  | _, [] => True
  | previous, report :: rest =>
      report.delta = report.current.since previous ∧ Grown previous report.current ∧
        Succeed report.current rest

theorem grown_zero (totals : Totals) : Grown .zero totals where
  counts measure := by
    rw [Totals.count_zero]
    exact Nat.zero_le _
  listed _ _ := rfl

/-- The last totals there are. -/
def totalsAfter (previous : Totals) (reports : List Report) : Totals :=
  (reports.getLast?.map (·.current)).getD previous

theorem totalsAfter_cons (previous : Totals) (report : Report) (rest : List Report) :
    totalsAfter previous (report :: rest) = totalsAfter report.current rest := by
  unfold totalsAfter
  rw [List.getLast?_cons]
  cases rest.getLast? <;> rfl

/-- Where the last totals are within bounds, so are those before. -/
theorem bounded_of_succeed {previous : Totals} {reports : List Report} {measure : Measure}
    {limit : Nat} (h : Succeed previous reports)
    (hbound : (totalsAfter previous reports).count measure < limit) :
    previous.count measure < limit := by
  induction reports generalizing previous with
  | nil => exact hbound
  | cons report rest ih =>
      obtain ⟨-, hgrown, hrest⟩ := h
      rw [totalsAfter_cons] at hbound
      exact (hgrown.counts measure).trans_lt (ih hrest hbound)

/-- What the reports tell of a measure adds up, and was never negative. -/
theorem moved_of_succeed {previous : Totals} {reports : List Report}
    (h : Succeed previous reports) {measure : Measure}
    (hbound : (totalsAfter previous reports).count measure < 2 ^ 63) :
    (reports.map (·.delta.count measure)).sum =
        ((totalsAfter previous reports).count measure : Int) - previous.count measure ∧
      ∀ report ∈ reports, 0 ≤ report.delta.count measure := by
  induction reports generalizing previous with
  | nil => exact ⟨(Int.sub_self _).symm, fun report hreport => absurd hreport List.not_mem_nil⟩
  | cons report rest ih =>
      have hprevious := bounded_of_succeed h hbound
      rw [totalsAfter_cons] at hbound ⊢
      obtain ⟨hdelta, hgrown, hrest⟩ := h
      obtain ⟨hsum, hnonneg⟩ := ih hrest hbound
      have hmoved : report.delta.count measure =
          (report.current.count measure : Int) - previous.count measure := by
        rw [hdelta, Totals.count_since hgrown.listed, Totals.moved_of_lt
          (bounded_of_succeed hrest hbound) hprevious]
      refine ⟨?_, fun other hother => ?_⟩
      · rw [List.map_cons, List.sum_cons, hmoved, hsum]
        omega
      · rcases List.mem_cons.1 hother with rfl | hother
        · rw [hmoved]
          have hle := hgrown.counts measure
          omega
        · exact hnonneg other hother

/-! ### Runs -/

namespace Call

def report? (call : Call) : Option Report :=
  match call.outcome with
  | .completed report => some report
  | .failed _ => none

/-- Between two cycles others write to the store, while anything else may happen to the host. -/
def Continues (call next : Call) : Prop :=
  ∃ operations, next.host.pipeline.store = call.later.pipeline.store.performAll operations

end Call

def reports (calls : List Call) : List Report :=
  calls.filterMap Call.report?

section Runs

variable {monitor : Monitor} {host : Host} {hosts : List Host} {backends : List String}

theorem sound_of_sameCounts {store later : Store} (h : store.SameCounts later)
    (hsound : store.Sound) : later.Sound :=
  ⟨h.runs ▸ hsound.runs_nodup, h.runs ▸ hsound.runs_written⟩

theorem sound_performAll {store : Store} (h : store.Sound) (operations : List Store.Operation) :
    (store.performAll operations).Sound := by
  induction operations generalizing store with
  | nil => exact h
  | cons operation operations ih => exact ih (Store.sound_perform h operation)

/-- The counters that the next cycle finds have only grown. -/
theorem grown_of_sameCounts {store later : Store} (h : store.SameCounts later)
    (hsound : store.Sound) (operations : List Store.Operation) (backends : List String) :
    Grown (store.counters backends) ((later.performAll operations).counters backends) where
  counts measure := by
    rw [← h.counters backends]
    exact (sound_of_sameCounts h hsound).count_performAll_le operations backends measure
  listed backend := by
    rw [Store.get?_runs_counters, Store.get?_runs_counters]
    split
    · rintro ⟨⟩
    · exact fun _ => rfl

/-- What holds of each cycle of a run in which others only write to the store. -/
structure Counted (context : Context) (call : Call) : Prop where
  sameContext : call.monitor.context = context
  sound : call.host.pipeline.store.Sound
  current : ∀ report, call.outcome = .completed report →
    report.current = call.host.pipeline.store.counters context.backends

theorem exists_operations_of_isChain {next : Host} {call : Call}
    (hchain : (call :: calls monitor hosts).IsChain Call.Continues) (hnext : next ∈ hosts.head?) :
    ∃ operations, next.pipeline.store = call.later.pipeline.store.performAll operations := by
  cases hosts with
  | nil => cases hnext
  | cons found rest =>
      obtain rfl := Option.some.inj hnext
      exact (List.isChain_cons_cons.1 hchain).1

theorem counted_calls (hsound : ∀ host ∈ hosts.head?, host.pipeline.store.Sound)
    (hchain : (calls monitor hosts).IsChain Call.Continues) :
    ∀ call ∈ calls monitor hosts, Counted monitor.context call := by
  induction hosts generalizing monitor with
  | nil =>
      intro call hcall
      cases hcall
  | cons host rest ih =>
      obtain ⟨htallied, hcurrent⟩ := tallied_of_cycle (run_call monitor host)
      have hfirst : host.pipeline.store.Sound := hsound host rfl
      intro found hfound
      rcases List.mem_cons.1 hfound with rfl | hfound
      · exact ⟨rfl, hfirst, hcurrent⟩
      · rw [← htallied.sameContext]
        refine ih (fun next hnext => ?_) (List.IsChain.tail hchain) found hfound
        obtain ⟨operations, hstore⟩ := exists_operations_of_isChain hchain hnext
        rw [hstore]
        exact sound_performAll (sound_of_sameCounts htallied.sameCounts hfirst) operations

/-- Cycles that complete in a row report in a row. -/
theorem succeed_of_calls {stretch rest : List Call}
    (hgrown : ∀ host ∈ hosts.head?, host.pipeline.store.Sound ∧
      Grown (monitor.baseline.getD .zero)
        (host.pipeline.store.counters monitor.context.backends))
    (hchain : (calls monitor hosts).IsChain Call.Continues)
    (hcalls : calls monitor hosts = stretch ++ rest)
    (hcompleted : ∀ call ∈ stretch, call.completes) :
    Succeed (monitor.baseline.getD .zero) (reports stretch) := by
  induction stretch generalizing monitor hosts with
  | nil => exact trivial
  | cons first stretch ih =>
      cases hosts with
      | nil => cases hcalls
      | cons host hosts =>
          obtain ⟨rfl, htail⟩ := List.cons.inj hcalls
          obtain ⟨hfirst, hothers⟩ := List.forall_mem_cons.1 hcompleted
          obtain ⟨report, hreport⟩ : ∃ report, (call monitor host).outcome = .completed report := by
            unfold Call.completes at hfirst
            split at hfirst
            · next report hreport => exact ⟨report, hreport⟩
            · cases hfirst
          have hruns := run_call monitor host
          obtain ⟨htallied, hcurrent⟩ := tallied_of_cycle hruns
          replace hcurrent := hcurrent report hreport
          rw [hreport] at hruns
          obtain ⟨hsound, hlater⟩ := hgrown host rfl
          have hreports : reports (call monitor host :: stretch) = report :: reports stretch := by
            refine List.filterMap_cons_some ?_
            unfold Call.report?
            rw [hreport]
          rw [hreports]
          refine ⟨(reported_of_cycle hruns).delta, hcurrent ▸ hlater, ?_⟩
          have hbaseline : (call monitor host).next.baseline.getD .zero = report.current := by
            rw [baseline_of_completed hruns, Option.getD_some]
          rw [← hbaseline]
          refine ih (fun next hnext => ?_) (List.IsChain.tail hchain) htail hothers
          obtain ⟨operations, hstore⟩ := exists_operations_of_isChain hchain hnext
          rw [hstore, hbaseline, hcurrent, htallied.sameContext]
          exact ⟨sound_performAll (sound_of_sameCounts htallied.sameCounts hsound) operations,
            grown_of_sameCounts htallied.sameCounts hsound operations _⟩

/-- The monitor that some cycles leave. -/
def nextAfter (monitor : Monitor) (earlier : List Call) : Monitor :=
  (earlier.getLast?.map Call.next).getD monitor

theorem exists_calls_of_append {before rest : List Call}
    (h : calls monitor hosts = before ++ rest) :
    ∃ left, rest = calls (nextAfter monitor before) left := by
  induction before generalizing monitor hosts with
  | nil => exact ⟨hosts, h.symm⟩
  | cons first before ih =>
      cases hosts with
      | nil => cases h
      | cons host hosts =>
          obtain ⟨rfl, htail⟩ := List.cons.inj h
          obtain ⟨left, hleft⟩ := ih htail
          refine ⟨left, hleft.trans ?_⟩
          unfold nextAfter
          rw [List.getLast?_cons]
          cases before.getLast? <;> rfl

theorem call_of_mem {found : Call} (h : found ∈ calls monitor hosts) :
    call found.monitor found.host = found := by
  induction hosts generalizing monitor with
  | nil => cases h
  | cons host hosts ih =>
      rcases List.mem_cons.1 h with rfl | h
      · rfl
      · exact ih h

/-- A cycle that failed leaves no baseline. -/
theorem baseline_nextAfter {before rest : List Call} (hnew : monitor.baseline = none)
    (hcalls : calls monitor hosts = before ++ rest)
    (hbegins : ∀ call, before.getLast? = some call → call.Failed) :
    (nextAfter monitor before).baseline = none := by
  unfold nextAfter
  cases hfailed : before.getLast? with
  | none => exact hnew
  | some failed =>
      obtain ⟨message, hmessage⟩ := hbegins failed hfailed
      have hmem : failed ∈ calls monitor hosts :=
        hcalls ▸ List.mem_append_left _ (List.mem_of_getLast? hfailed)
      have hruns := run_call failed.monitor failed.host
      rw [call_of_mem hmem, hmessage] at hruns
      exact (clean_of_failed hruns).2

/-- **Movements add up.** Since the monitor started or last failed, what the cycles reported as moved
adds up to the totals that the last of them reported, also across full restarts; nothing was ever
negative; and the totals are those of the store, for the backends that are configured. -/
theorem movements_of_start {context : Context} {config : MonitorConfig} {supervisor : Supervisor}
    {later : Host} {first : Monitor}
    (h : (start context config supervisor).run host = (.ok first, later))
    (hsound : ∀ host ∈ hosts.head?, host.pipeline.store.Sound)
    (hchain : (calls first hosts).IsChain Call.Continues) {before stretch rest : List Call}
    (hcalls : calls first hosts = before ++ (stretch ++ rest))
    (hbegins : ∀ call, before.getLast? = some call → call.Failed)
    (hcompleted : ∀ call ∈ stretch, call.completes) {last : Report}
    (hlast : (reports stretch).getLast? = some last) (hbound : last.current.within (2 ^ 63)) :
    (∀ measure, ((reports stretch).map (·.delta.count measure)).sum =
        (last.current.count measure : Int)) ∧
      (∀ report ∈ reports stretch, ∀ measure, 0 ≤ report.delta.count measure) ∧
      ∀ call ∈ stretch, ∀ report, call.outcome = .completed report →
        report.current = call.host.pipeline.store.counters context.backends := by
  have hcounted := counted_calls hsound hchain
  obtain ⟨hcontext, hnew⟩ : first.context = context ∧ first.baseline = none := by
    obtain ⟨sequence, seed, rfl⟩ := eq_of_start h
    exact ⟨rfl, rfl⟩
  rw [hcontext] at hcounted
  have hforgot := baseline_nextAfter hnew hcalls hbegins
  obtain ⟨left, hleft⟩ := exists_calls_of_append hcalls
  rw [hcalls] at hcounted hchain
  have hgrown : ∀ host ∈ left.head?, host.pipeline.store.Sound ∧
      Grown ((nextAfter first before).baseline.getD .zero)
        (host.pipeline.store.counters (nextAfter first before).context.backends) := by
    intro host hhost
    rw [hforgot]
    refine ⟨?_, grown_zero _⟩
    cases left with
    | nil => cases hhost
    | cons found left =>
        obtain rfl := Option.some.inj hhost
        refine (hcounted (call (nextAfter first before) found) ?_).sound
        rw [hleft]
        exact List.mem_append_right _ List.mem_cons_self
  have hsucceed := succeed_of_calls hgrown (hleft ▸ hchain.right_of_append) hleft.symm hcompleted
  rw [hforgot, Option.getD_none] at hsucceed
  have hafter : totalsAfter .zero (reports stretch) = last.current := by
    rw [totalsAfter, hlast]
    rfl
  have hbounded : ∀ measure, (totalsAfter .zero (reports stretch)).count measure < 2 ^ 63 := by
    rw [hafter]
    exact Totals.count_lt_of_within hbound
  have hmoved := fun measure => moved_of_succeed hsucceed (hbounded measure)
  refine ⟨fun measure => ?_, fun report hreport measure => (hmoved measure).2 report hreport, ?_⟩
  · rw [(hmoved measure).1, hafter, Totals.count_zero]
    exact Int.sub_zero _
  · intro call hcall report hreport
    exact (hcounted call (List.mem_append_right _ (List.mem_append_left _ hcall))).current report
      hreport

end Runs

namespace Turnover

def config : MonitorConfig where
  results := "/r"
  restartThreshold := 1

def started : Except Failure Monitor × Host :=
  (start ⟨["ivy"], .standard⟩ config (.noting [] fun _ => [])).run {}

def first : Monitor :=
  started.1.toOption.getD ⟨⟨[], .standard⟩, config, .noting [] fun _ => [], ⟨"/r", 0⟩, .initializing,
    none, none, 0, 0, 0, 0⟩

/-- What others make of a host between two cycles. -/
def written (host : Host) (operations : List Store.Operation) : Host :=
  { host with pipeline.store := host.pipeline.store.performAll operations }

def candidate (id : String) : Store.Operation :=
  .insertGeneration ⟨id, "", .empty, .empty, [], none⟩

/-- The first cycle cannot read the counters. -/
def refusing : Host :=
  { written started.2 [candidate "g"] with
    pipeline.fates := Table.empty.insert Access.counters.name [.fail (.io "disk I/O error")] }

def afterRefusal : Call :=
  call first refusing

/-- A new candidate comes in before each cycle, but no result before the last one. -/
def grace : Call :=
  call afterRefusal.next (written afterRefusal.later [candidate "h"])

def restarted : Call :=
  call grace.next (written grace.later [candidate "i"])

def last : Call :=
  call restarted.next (written restarted.later [.upsertRun ⟨"g", "ivy", [], false⟩])

def hosts : List Host :=
  [refusing, grace.host, restarted.host, last.host]

theorem calls_eq : calls first hosts = [afterRefusal] ++ ([grace, restarted, last] ++ []) :=
  rfl

theorem started_eq :
    (start ⟨["ivy"], .standard⟩ config (.noting [] fun _ => [])).run {} =
      (.ok first, started.2) := by
  have hok : started.1.isOk = true := by decide +kernel
  exact Mishap.eq_of_isOk hok _

theorem continues_written (call : Call) (operations : List Store.Operation) :
    call.Continues (Monitor.call call.next (written call.later operations)) :=
  ⟨operations, rfl⟩

theorem isChain_calls : (calls first hosts).IsChain Call.Continues := by
  rw [calls_eq]
  refine .cons_cons (continues_written afterRefusal _) ?_
  refine .cons_cons (continues_written grace _) ?_
  exact .cons_cons (continues_written restarted _) (.singleton last)

theorem sound_refusing : refusing.pipeline.store.Sound := by
  have hstore : refusing.pipeline.store = Store.after [candidate "g"] := by decide +kernel
  rw [hstore]
  exact Store.sound_after [candidate "g"]

theorem failed_afterRefusal : afterRefusal.Failed := by
  have hincomplete : afterRefusal.completes = false := by decide +kernel
  unfold Call.completes at hincomplete
  split at hincomplete
  · cases hincomplete
  · next message hmessage => exact ⟨message, hmessage⟩

theorem sound_head : ∀ host ∈ hosts.head?, host.pipeline.store.Sound := by
  intro host hhost
  have hhead : hosts.head? = some refusing := rfl
  rw [hhead, Option.mem_some] at hhost
  exact hhost ▸ sound_refusing

theorem failed_before : ∀ call, [afterRefusal].getLast? = some call → call.Failed := by
  intro call hcall
  rw [List.getLast?_singleton, Option.some_inj] at hcall
  exact hcall ▸ failed_afterRefusal

/-- What came in before the monitor failed counts again, and what came in before everything was
restarted counts once. -/
theorem movements_across_restart :
    ∃ report, (reports [grace, restarted, last]).getLast? = some report ∧
      ((∀ measure, ((reports [grace, restarted, last]).map (·.delta.count measure)).sum =
          (report.current.count measure : Int)) ∧
        (∀ report ∈ reports [grace, restarted, last], ∀ measure, 0 ≤ report.delta.count measure) ∧
        ∀ call ∈ [grace, restarted, last], ∀ report, call.outcome = .completed report →
          report.current = call.host.pipeline.store.counters ["ivy"]) ∧
      (reports [grace, restarted, last]).map (fun report =>
        (report.action, report.delta.generated, report.delta.runsFor "ivy")) =
          [(.grace, 2, 0), (.fullRestart, 1, 0), (.grace, 0, 1)] := by
  have hwithin : (reports [grace, restarted, last]).getLast?.map
      (·.current.within (2 ^ 63)) = some true := by decide +kernel
  obtain ⟨report, hreport, hbound⟩ := Option.map_eq_some_iff.1 hwithin
  have hcompleted : ∀ call ∈ [grace, restarted, last], call.completes := by decide +kernel
  have hmoved := movements_of_start started_eq sound_head isChain_calls calls_eq failed_before
    hcompleted hreport hbound
  exact ⟨report, hreport, hmoved, by decide +kernel⟩

end Turnover

end Monitor

end Concord
