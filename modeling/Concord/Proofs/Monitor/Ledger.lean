import Mathlib
import Concord.Proofs.Monitor.Busy

/-!
# The accounts of a monitor

For every finding, the notes about it are as many as the marks that could not be set, and one more
if it is marked. Between a note and its mark there is one more again.
-/

namespace Concord

/-! ### Where notes are -/

def Finding.place (root : String) (sequence : Nat) : Finding → Place
  | crash => Evidence.crashPlace root sequence
  | discrepancy => Evidence.discrepancyPlace root sequence

theorem Finding.place_inj {root : String} {a b : Nat} {finding other : Finding} :
    finding.place root a = other.place root b ↔ finding = other ∧ a = b := by
  cases finding <;> cases other
  · exact Evidence.crashPlace_inj.trans (and_iff_right rfl).symm
  · exact iff_of_false (Evidence.crashPlace_ne_discrepancyPlace root a b) fun h => nomatch h.1
  · exact iff_of_false (Evidence.crashPlace_ne_discrepancyPlace root b a).symm fun h => nomatch h.1
  · exact Evidence.discrepancyPlace_inj.trans (and_iff_right rfl).symm

namespace Evidence

theorem resolve_fileOf (evidence : Evidence) (finding : Finding) :
    Files.resolve (evidence.fileOf finding) = finding.place evidence.root evidence.sequence := by
  cases finding <;> rfl

theorem fileOf_mem_paths (evidence : Evidence) (finding : Finding) :
    evidence.fileOf finding ∈ evidence.paths := by
  cases finding <;> simp [fileOf, paths]

theorem Same.written? {root : String} {files later : Files} (h : Same root files later)
    (finding : Finding) (sequence : Nat) :
    later.written? (finding.place root sequence) =
      files.written? (finding.place root sequence) := by
  cases finding
  · exact (h sequence).1
  · exact (h sequence).2

end Evidence

/-! ### What notes tell -/

/-- The store bears the note out. -/
def Note.Rightful (markers : List String) (store : Store) (note : Note) : Prop :=
  match note.finding with
  | .crash => ∃ (monitor : Monitor) (crash : Store.Crash), store.Reports markers crash ∧
      crash.generation = note.generation ∧ note.text = monitor.crashEntry crash
  | .discrepancy => ∃ (monitor : Monitor) (verification : Verification)
      (generation : Option Generation), store.Shows verification ∧
      verification.generation = note.generation ∧
      note.text = monitor.discrepancyEntry verification generation

theorem Note.Rightful.perform {markers : List String} {store : Store} {note : Note}
    (h : note.Rightful markers store) (operation : Store.Operation) :
    note.Rightful markers (store.perform operation) := by
  unfold Rightful at h ⊢
  split at h
  · obtain ⟨monitor, crash, hreports, htext⟩ := h
    exact ⟨monitor, crash, hreports.perform operation, htext⟩
  · obtain ⟨monitor, verification, generation, hshows, htext⟩ := h
    exact ⟨monitor, verification, generation, hshows.perform operation, htext⟩

namespace Ledger

/-- How many notes there are about a finding, over all files. -/
def count (ledger : Ledger) (finding : Finding) (id : String) : Nat :=
  ledger.notes.countP fun note => note.finding == finding && note.generation == id

/-- What was written to a file, note by note. -/
def pieces (ledger : Ledger) (finding : Finding) (sequence : Nat) : List (List UInt8) :=
  (ledger.notes.filter fun note => note.finding == finding && note.sequence == sequence).map
    fun note => Text.Utf8.encode note.text

variable (ledger : Ledger) (note : Note) (finding : Finding)

theorem count_note (id : String) :
    count { ledger with notes := ledger.notes ++ [note] } finding id =
      ledger.count finding id +
        if note.finding = finding ∧ note.generation = id then 1 else 0 := by
  unfold count
  rw [List.countP_append, List.countP_singleton]
  simp

theorem pieces_note (sequence : Nat) :
    pieces { ledger with notes := ledger.notes ++ [note] } finding sequence =
      if finding = note.finding ∧ sequence = note.sequence then
        ledger.pieces finding sequence ++ [Text.Utf8.encode note.text]
      else ledger.pieces finding sequence := by
  unfold pieces
  rw [List.filter_append, List.map_append]
  split
  · next h => simp [h]
  · next h =>
      have hskip : (note.finding == finding && note.sequence == sequence) = false := by
        refine Bool.eq_false_iff.2 fun hboth => h ?_
        obtain ⟨hfinding, hsequence⟩ := Bool.and_eq_true_iff.1 hboth
        exact ⟨(beq_iff_eq.1 hfinding).symm, (beq_iff_eq.1 hsequence).symm⟩
      simp [hskip]

end Ledger

/-! ### The accounts -/

/-- The evidence at one moment. What was in the files at the start is there still. -/
structure Faithful (root : String) (markers : List String) (start : Files) (moment : Moment) :
    Prop where
  /-- The files have the notes, in order, and nothing else but what they had. -/
  files : ∀ finding sequence, moment.files.written? (finding.place root sequence) =
    (start.written? (finding.place root sequence)).map (· ++ moment.ledger.pieces finding sequence)
  /-- What is marked has a note. -/
  noted : ∀ finding id, moment.store.marked finding id = true →
    ∃ note ∈ moment.ledger.notes, note.finding = finding ∧ note.generation = id
  /-- Every note is about a crash or a discrepancy that is in the store. -/
  rightful : ∀ note ∈ moment.ledger.notes, note.Rightful markers moment.store
  /-- Where no mark failed, there is one note at most. -/
  once : ∀ finding id, (finding, id) ∉ moment.ledger.slips → moment.ledger.count finding id ≤ 1
  /-- What a cycle that got through with the evidence began with has just one. -/
  complete : ∀ begun ∈ moment.ledger.covered, ∀ finding id, begun.Finds markers finding id →
    (finding, id) ∉ moment.ledger.slips → moment.ledger.count finding id = 1

/-- The accounts at one moment. A note whose mark is due is pending. -/
structure Exact (root : String) (markers : List String) (start : Files)
    (pending : Option (Finding × String)) (moment : Moment) : Prop where
  reached : ∃ operations, moment.store = .after operations
  files : ∀ finding sequence, moment.files.written? (finding.place root sequence) =
    (start.written? (finding.place root sequence)).map (· ++ moment.ledger.pieces finding sequence)
  rightful : ∀ note ∈ moment.ledger.notes, note.Rightful markers moment.store
  tally : ∀ finding id, moment.ledger.count finding id =
    moment.ledger.slips.count (finding, id) + (moment.store.marked finding id).toNat +
      if pending = some (finding, id) then 1 else 0
  due : ∀ finding id, pending = some (finding, id) →
    moment.store.Finds markers finding id ∧ moment.store.marked finding id = false
  covered : ∀ begun ∈ moment.ledger.covered, ∀ finding id, begun.Finds markers finding id →
    moment.store.Finds markers finding id ∧ moment.store.marked finding id = true

namespace Exact

variable {root : String} {markers : List String} {start : Files}
  {pending : Option (Finding × String)} {store : Store} {files : Files} {ledger : Ledger}

theorem faithful_moment {moment : Moment} (h : Exact root markers start pending moment) :
    Faithful root markers start moment := by
  have hunpaid : ∀ finding id, (finding, id) ∉ moment.ledger.slips →
      moment.ledger.slips.count (finding, id) = 0 := fun _ _ => List.count_eq_zero.2
  refine ⟨h.files, fun finding id hmarked => ?_, h.rightful, fun finding id hslips => ?_,
    fun begun hbegun finding id hfinds hslips => ?_⟩
  · have hcount := h.tally finding id
    rw [hmarked, Bool.toNat_true] at hcount
    have hpos : 0 < moment.ledger.count finding id := by omega
    obtain ⟨note, hnote, hboth⟩ := List.countP_pos_iff.1 hpos
    obtain ⟨hfinding, hid⟩ := Bool.and_eq_true_iff.1 hboth
    exact ⟨note, hnote, beq_iff_eq.1 hfinding, beq_iff_eq.1 hid⟩
  · rw [h.tally, hunpaid finding id hslips]
    -- what is pending has no mark yet
    by_cases hpending : pending = some (finding, id)
    · rw [(h.due finding id hpending).2, if_pos hpending]
      exact Nat.le_refl 1
    · rw [if_neg hpending, Nat.zero_add, Nat.add_zero]
      exact Bool.toNat_le _
  · have hmarked := (h.covered begun hbegun finding id hfinds).2
    have hpending : pending ≠ some (finding, id) := fun heq => by
      rw [(h.due finding id heq).2] at hmarked
      cases hmarked
    rw [h.tally, hunpaid finding id hslips, hmarked, if_neg hpending]
    rfl

/-- Another node leaves the accounts as they are. -/
theorem perform (h : Exact root markers start pending ⟨store, files, ledger⟩)
    {operation : Store.Operation} (hunmarking : operation.Unmarking) :
    Exact root markers start pending ⟨store.perform operation, files, ledger⟩ := by
  have hsame : ∀ finding id,
      (store.perform operation).marked finding id = store.marked finding id :=
    fun finding id => Store.marked_perform_of_ne (hunmarking finding id)
  refine ⟨?_, h.files, fun note hnote => (h.rightful note hnote).perform operation,
    fun finding id => ?_, fun finding id hpending => ?_, fun begun hbegun finding id hfinds => ?_⟩
  · obtain ⟨operations, hstore⟩ := h.reached
    refine ⟨operations ++ [operation], ?_⟩
    rw [Store.after_concat, ← hstore]
  · rw [hsame]
    exact h.tally finding id
  · rw [hsame]
    exact ⟨(h.due finding id hpending).1.perform operation, (h.due finding id hpending).2⟩
  · obtain ⟨hfound, hmarked⟩ := h.covered begun hbegun finding id hfinds
    rw [hsame]
    exact ⟨hfound.perform operation, hmarked⟩

theorem same (h : Exact root markers start pending ⟨store, files, ledger⟩) {later : Files}
    (hsame : Evidence.Same root files later) :
    Exact root markers start pending ⟨store, later, ledger⟩ :=
  { h with files := fun finding sequence =>
      (hsame.written? finding sequence).trans (h.files finding sequence) }

/-- A note is written, and its mark is due. -/
theorem note (h : Exact root markers start none ⟨store, files, ledger⟩) {note : Note}
    {later : Files} (hwritten : ∀ place, later.written? place =
      if place = note.finding.place root note.sequence then
        (files.written? place).map (· ++ [Text.Utf8.encode note.text])
      else files.written? place)
    (hrightful : note.Rightful markers store)
    (hfinds : store.Finds markers note.finding note.generation)
    (hunmarked : store.marked note.finding note.generation = false) :
    Exact root markers start (some (note.finding, note.generation))
      ⟨store, later, { ledger with notes := ledger.notes ++ [note] }⟩ := by
  refine ⟨h.reached, fun finding sequence => ?_, fun other hother => ?_, fun finding id => ?_,
    fun finding id hpending => ?_, h.covered⟩
  · change later.written? _ = _
    rw [hwritten, Ledger.pieces_note]
    have hfiles := h.files finding sequence
    dsimp only at hfiles
    by_cases hhere : finding = note.finding ∧ sequence = note.sequence
    · rw [if_pos (Finding.place_inj.2 hhere), if_pos hhere, hfiles]
      cases start.written? (finding.place root sequence) with
      | none => rfl
      | some pieces => exact congrArg some (List.append_assoc _ _ _)
    · rw [if_neg (mt Finding.place_inj.1 hhere), if_neg hhere]
      exact hfiles
  · rcases List.mem_append.1 hother with hold | hnew
    · exact h.rightful other hold
    · exact List.mem_singleton.1 hnew ▸ hrightful
  · have htally := h.tally finding id
    rw [if_neg nofun] at htally
    dsimp only at htally ⊢
    rw [Ledger.count_note, htally]
    simp [Prod.ext_iff]
  · obtain ⟨rfl, rfl⟩ := Prod.mk.inj (Option.some.inj hpending)
    exact ⟨hfinds, hunmarked⟩

theorem mark {finding : Finding} {id : String}
    (h : Exact root markers start (some (finding, id)) ⟨store, files, ledger⟩) :
    Exact root markers start none ⟨store.perform (Store.mark finding id), files, ledger⟩ := by
  obtain ⟨hfinds, hunmarked⟩ := h.due finding id rfl
  have hmarked := Store.marked_perform_mark hfinds
  refine ⟨?_, h.files, fun note hnote => (h.rightful note hnote).perform _, fun other otherId => ?_,
    (fun _ _ heq => nomatch heq), fun begun hbegun other otherId hbegunFinds => ?_⟩
  · obtain ⟨operations, hstore⟩ := h.reached
    refine ⟨operations ++ [Store.mark finding id], ?_⟩
    rw [Store.after_concat, ← hstore]
  · have htally := h.tally other otherId
    dsimp only at htally ⊢ hunmarked
    by_cases heq : finding = other ∧ id = otherId
    · -- the note that was pending counts for the mark from now on
      obtain ⟨rfl, rfl⟩ := heq
      rw [hunmarked, if_pos rfl] at htally
      rw [hmarked, htally]
      rfl
    · have hne : Store.mark finding id ≠ Store.mark other otherId := mt Store.mark_inj.1 heq
      rw [if_neg fun hsome => heq (Prod.mk.inj (Option.some.inj hsome))] at htally
      rw [Store.marked_perform_of_ne hne, htally]
      rfl
  · obtain ⟨hfound, hset⟩ := h.covered begun hbegun other otherId hbegunFinds
    exact ⟨hfound.perform _, Store.marked_perform hfound hset⟩

theorem slip {finding : Finding} {id : String}
    (h : Exact root markers start (some (finding, id)) ⟨store, files, ledger⟩) :
    Exact root markers start none
      ⟨store, files, { ledger with slips := ledger.slips ++ [(finding, id)] }⟩ := by
  refine ⟨h.reached, h.files, h.rightful, fun other otherId => ?_, (fun _ _ heq => nomatch heq),
    h.covered⟩
  have htally := h.tally other otherId
  dsimp only at htally ⊢
  change ledger.count other otherId = _
  rw [htally, List.count_append, List.count_singleton]
  by_cases heq : (finding, id) = (other, otherId)
  · rw [heq, if_pos rfl, if_pos (beq_self_eq_true _), if_neg nofun]
    omega
  · rw [if_neg fun hsome => heq (Option.some.inj hsome), beq_false_of_ne heq, if_neg nofun,
      if_neg nofun]
    omega

theorem cover (h : Exact root markers start none ⟨store, files, ledger⟩) {begun : Store}
    (hgrown : Store.Grown markers begun store)
    (hmarked : ∀ finding id, begun.Finds markers finding id → store.marked finding id = true) :
    Exact root markers start none
      ⟨store, files, { ledger with covered := ledger.covered ++ [begun] }⟩ := by
  refine { h with covered := fun other hother finding id hfinds => ?_ }
  rcases List.mem_append.1 hother with hold | hnew
  · exact h.covered other hold finding id hfinds
  · obtain rfl := List.mem_singleton.1 hnew
    exact ⟨hgrown finding id hfinds, hmarked finding id hfinds⟩

end Exact

end Concord
