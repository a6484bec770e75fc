import Mathlib
import Concord.Proofs.Store.Candidates
import Concord.Proofs.Store.Readback

/-!
# What there is to report

A store holds crashes and discrepancies, each with a mark that tells whether it was reported. What
was found stays, marks are only ever set, and what a query lists are the findings without a mark,
each once.
-/

namespace Concord

/-- What a store may tell about a candidate that is worth a report. -/
inductive Finding where
  | crash
  | discrepancy
  deriving DecidableEq, Repr

/-- Does the compile error contain one of the markers? -/
def StoredGeneration.hasCrash (markers : List String) (row : StoredGeneration) : Bool :=
  row.compileError.any fun message => markers.any (Text.contains message)

namespace Store

/-! ### Verifications -/

def Operation.ticked (row : StoredVerification) : Operation → StoredVerification
  | .markDiscrepancyLogged generation => if row.generation = generation then row.log else row
  | _ => row

def recorded (store : Store) : Operation → List StoredVerification
  | .recordVerification verification =>
      if (store.recordVerification verification).1 ∧
          ¬(store.verification? verification.generation).isSome then
        [.ofVerification verification]
      else []
  | _ => []

theorem verifications_perform (store : Store) (operation : Operation) :
    (store.perform operation).verifications =
      store.verifications.map operation.ticked ++ store.recorded operation := by
  have hsame : store.verifications = store.verifications.map (fun row => row) ++ [] := by simp
  cases operation with
  | insertGeneration generation =>
      exact (runs_insertGeneration store generation).2.trans hsame
  | upsertRun result => exact (verifications_upsertRun store result).trans hsame
  | recordVerification verification =>
      unfold perform recorded
      dsimp only
      cases hflipped : (store.recordVerification verification).1 with
      | false =>
          rw [recordVerification_of_not_flipped hflipped, if_neg fun h => nomatch h.1]
          exact hsame
      | true =>
          rw [recordVerification_of_flipped hflipped]
          dsimp only
          by_cases hthere : (store.verification? verification.generation).isSome
          · rw [if_pos hthere, if_neg fun h => h.2 hthere]
            exact hsame
          · rw [if_neg hthere, if_pos ⟨rfl, hthere⟩]
            exact congrArg (· ++ _) (List.map_id _).symm
  | markDiscrepancyLogged generation =>
      refine Eq.trans (latch_eq_map _ (fun row h => if_pos (beq_iff_eq.1 h)) (fun row _ h => ?_)
        fun row h => if_neg fun heq => h (beq_iff_eq.2 heq)) (List.append_nil _).symm
      rw [← h]
  | _ => exact hsame

/-! ### Findings and their marks -/

/-- The crash of a candidate is in the store. -/
def Reports (markers : List String) (store : Store) (crash : Crash) : Prop :=
  ∃ row ∈ store.generations, row.id = crash.generation ∧ row.compileError = some crash.message ∧
    markers.any (Text.contains crash.message) = true

/-- The store has this verification, but for its flag, in the text of one with a discrepancy. -/
def Shows (store : Store) (verification : Verification) : Prop :=
  ∃ row ∈ store.verifications, row.generation = verification.generation ∧
    ∃ recorded : Verification, row.document = recorded.encode.text ∧
      recorded.hasDiscrepancy = true ∧ Verification.decoder.read? row.document =
        some { verification with loggedToFile := recorded.loggedToFile }

/-- There is such a finding about the candidate. -/
def Finds (markers : List String) (store : Store) : Finding → String → Prop
  | .crash, id => ∃ row ∈ store.generations, row.id = id ∧ row.hasCrash markers = true
  | .discrepancy, id =>
      ∃ row ∈ store.verifications, row.generation = id ∧ row.hasDiscrepancy = true

/-- Is a mark set for the candidate? -/
def marked (store : Store) : Finding → String → Bool
  | .crash, id => store.generations.any fun row => row.id == id && row.crashLogged
  | .discrepancy, id => store.verifications.any fun row => row.generation == id && row.logged

def mark : Finding → String → Operation
  | .crash, id => .markCrashLogged id
  | .discrepancy, id => .markDiscrepancyLogged id

def Operation.Unmarking (operation : Operation) : Prop :=
  ∀ finding id, operation ≠ mark finding id

theorem any_map_append {α : Type} {p : α → Bool} {change : α → α} {rows added : List α}
    (hchange : ∀ row, p (change row) = p row) (hadded : ∀ row ∈ added, p row = false) :
    (rows.map change ++ added).any p = rows.any p := by
  have hnone : added.any p = false := List.any_eq_false.2 fun row hrow => by simp [hadded row hrow]
  rw [List.any_append, hnone, Bool.or_false, List.any_map]
  exact congrArg rows.any (funext hchange)

theorem exists_mem_map_append {α : Type} {p : α → Prop} {change : α → α} {rows added : List α}
    (hchange : ∀ row, p row → p (change row)) (h : ∃ row ∈ rows, p row) :
    ∃ row ∈ rows.map change ++ added, p row := by
  obtain ⟨row, hrow, hp⟩ := h
  exact ⟨change row, List.mem_append_left _ (List.mem_map_of_mem hrow), hchange row hp⟩

section Perform

variable {markers : List String} {store : Store} (operation : Operation)

theorem Operation.generation_ticked (row : StoredVerification) :
    (operation.ticked row).generation = row.generation := by
  unfold ticked
  split <;> (try split) <;> rfl

theorem Operation.document_ticked (row : StoredVerification) :
    (operation.ticked row).document = row.document := by
  unfold ticked
  split <;> (try split) <;> rfl

theorem Operation.hasDiscrepancy_ticked (row : StoredVerification) :
    (operation.ticked row).hasDiscrepancy = row.hasDiscrepancy := by
  unfold ticked
  split <;> (try split) <;> rfl

theorem Reports.perform {crash : Crash} (h : store.Reports markers crash) :
    (store.perform operation).Reports markers crash := by
  unfold Reports
  rw [generations_perform]
  refine exists_mem_map_append (fun row hrow => ?_) h
  rwa [Operation.id_flagged, Operation.compileError_flagged]

theorem Shows.perform {verification : Verification} (h : store.Shows verification) :
    (store.perform operation).Shows verification := by
  unfold Shows
  rw [verifications_perform]
  refine exists_mem_map_append (fun row hrow => ?_) h
  rwa [Operation.generation_ticked, Operation.document_ticked]

theorem Finds.perform {finding : Finding} {id : String} (h : store.Finds markers finding id) :
    (store.perform operation).Finds markers finding id := by
  cases finding with
  | crash =>
      unfold Finds
      rw [generations_perform]
      refine exists_mem_map_append (fun row hrow => ?_) h
      unfold StoredGeneration.hasCrash at hrow ⊢
      rwa [Operation.id_flagged, Operation.compileError_flagged]
  | discrepancy =>
      unfold Finds
      rw [verifications_perform]
      refine exists_mem_map_append (fun row hrow => ?_) h
      rwa [Operation.generation_ticked, Operation.hasDiscrepancy_ticked]

variable {operation}

theorem Operation.crashLogged_flagged {id : String} (h : operation ≠ mark .crash id)
    (row : StoredGeneration) : ((operation.flagged row).id == id &&
      (operation.flagged row).crashLogged) = (row.id == id && row.crashLogged) := by
  rw [Operation.id_flagged]
  by_cases hid : row.id = id
  · have hflag : (operation.flagged row).crashLogged = row.crashLogged := by
      unfold flagged
      split
      · split <;> rfl
      · next other =>
          rw [if_neg]
          rintro rfl
          exact h (congrArg Operation.markCrashLogged hid)
      · rfl
    rw [hflag]
  · rw [beq_false_of_ne hid, Bool.false_and, Bool.false_and]

theorem Operation.logged_ticked {id : String} (h : operation ≠ mark .discrepancy id)
    (row : StoredVerification) : ((operation.ticked row).generation == id &&
      (operation.ticked row).logged) = (row.generation == id && row.logged) := by
  rw [Operation.generation_ticked]
  by_cases hid : row.generation = id
  · have hflag : (operation.ticked row).logged = row.logged := by
      unfold ticked
      split
      · next other =>
          rw [if_neg]
          rintro rfl
          exact h (congrArg Operation.markDiscrepancyLogged hid)
      · rfl
    rw [hflag]
  · rw [beq_false_of_ne hid, Bool.false_and, Bool.false_and]

theorem crashLogged_of_mem_added {row : StoredGeneration} (h : row ∈ store.added operation) :
    row.crashLogged = false := by
  cases operation with
  | insertGeneration generation =>
      unfold added at h
      dsimp only at h
      split at h
      · cases h
      · rw [List.mem_singleton.1 h]
        rfl
  | _ => cases h

theorem logged_of_mem_recorded {row : StoredVerification} (h : row ∈ store.recorded operation) :
    row.logged = false := by
  cases operation with
  | recordVerification verification =>
      unfold recorded at h
      dsimp only at h
      split at h
      · rw [List.mem_singleton.1 h]
        rfl
      · cases h
  | _ => cases h

/-- A mark is set by its own write alone. -/
theorem marked_perform_of_ne {finding : Finding} {id : String} (h : operation ≠ mark finding id) :
    (store.perform operation).marked finding id = store.marked finding id := by
  cases finding with
  | crash =>
      unfold marked
      rw [generations_perform]
      refine any_map_append (Operation.crashLogged_flagged h) fun row hrow => ?_
      rw [crashLogged_of_mem_added hrow, Bool.and_false]
  | discrepancy =>
      unfold marked
      rw [verifications_perform]
      refine any_map_append (Operation.logged_ticked h) fun row hrow => ?_
      rw [logged_of_mem_recorded hrow, Bool.and_false]

theorem marked_perform_mark {finding : Finding} {id : String} (h : store.Finds markers finding id) :
    (store.perform (mark finding id)).marked finding id = true := by
  cases finding with
  | crash =>
      obtain ⟨row, hrow, hid, -⟩ := h
      change ((store.perform (mark .crash id)).generations.any _) = true
      rw [generations_perform, List.any_append, List.any_map, Bool.or_eq_true]
      refine Or.inl (List.any_eq_true.2 ⟨row, hrow, ?_⟩)
      simp [mark, Operation.flagged, hid]
  | discrepancy =>
      obtain ⟨row, hrow, hid, -⟩ := h
      change ((store.perform (mark .discrepancy id)).verifications.any _) = true
      rw [verifications_perform, List.any_append, List.any_map, Bool.or_eq_true]
      refine Or.inl (List.any_eq_true.2 ⟨row, hrow, ?_⟩)
      simp [mark, Operation.ticked, StoredVerification.log, hid]

theorem mark_inj {finding other : Finding} {id otherId : String} :
    mark finding id = mark other otherId ↔ finding = other ∧ id = otherId := by
  cases finding <;> cases other <;> simp [mark]

theorem marked_perform {finding : Finding} {id : String} (hfinds : store.Finds markers finding id)
    (h : store.marked finding id = true) : (store.perform operation).marked finding id = true := by
  by_cases hmark : operation = mark finding id
  · rw [hmark]
    exact marked_perform_mark hfinds
  · rwa [marked_perform_of_ne hmark]

end Perform

/-! ### What is left to report -/

/-- A list of candidates to go through: each has a finding without a mark, and no finding of an
earlier store that has no mark yet is missing. -/
structure Todo (markers : List String) (begun store : Store) (finding : Finding)
    (ids : List String) : Prop where
  nodup : ids.Nodup
  unmarked : ∀ id ∈ ids, store.Finds markers finding id ∧ store.marked finding id = false
  rest : ∀ id, begun.Finds markers finding id → store.marked finding id = true ∨ id ∈ ids

/-- Everything that was found in the earlier store is found here. -/
def Grown (markers : List String) (begun store : Store) : Prop :=
  ∀ finding id, begun.Finds markers finding id → store.Finds markers finding id

section Todo

variable {markers : List String} {begun store : Store} {finding : Finding} {id : String}
  {ids : List String}

theorem Grown.perform (h : Grown markers begun store) (operation : Operation) :
    Grown markers begun (store.perform operation) :=
  fun finding id hfinds => (h finding id hfinds).perform operation

theorem Todo.perform (h : Todo markers begun store finding ids) {operation : Operation}
    (hunmarking : operation.Unmarking) :
    Todo markers begun (store.perform operation) finding ids := by
  have hsame : ∀ id, (store.perform operation).marked finding id = store.marked finding id :=
    fun id => marked_perform_of_ne (hunmarking finding id)
  refine ⟨h.nodup, fun id hid => ?_, fun id hfinds => ?_⟩
  · rw [hsame]
    exact ⟨(h.unmarked id hid).1.perform operation, (h.unmarked id hid).2⟩
  · rw [hsame]
    exact h.rest id hfinds

theorem Todo.perform_mark (h : Todo markers begun store finding (id :: ids)) :
    Todo markers begun (store.perform (mark finding id)) finding ids := by
  obtain ⟨hid, hnodup⟩ := List.nodup_cons.1 h.nodup
  have hsame : ∀ other, other ≠ id →
      (store.perform (mark finding id)).marked finding other = store.marked finding other :=
    fun other hother => marked_perform_of_ne fun heq => hother (mark_inj.1 heq).2.symm
  have hmarked : (store.perform (mark finding id)).marked finding id = true :=
    marked_perform_mark (h.unmarked id List.mem_cons_self).1
  refine ⟨hnodup, fun other hother => ?_, fun other hfinds => ?_⟩
  · obtain ⟨hfinds, hopen⟩ := h.unmarked other (List.mem_cons_of_mem _ hother)
    rw [hsame other fun heq => hid (heq ▸ hother)]
    exact ⟨hfinds.perform _, hopen⟩
  · by_cases heq : other = id
    · exact Or.inl (heq ▸ hmarked)
    · rw [hsame other heq]
      exact (h.rest other hfinds).imp_right fun hmem => List.mem_of_ne_of_mem heq hmem

end Todo

/-! ### Queries -/

/-- With one row for each key, the keys of the rows without a mark come once each, and no other row
has their mark. -/
theorem any_eq_false_of_nodup {α : Type} {key : α → String} {set : α → Bool} {rows : List α}
    {row : α} (hnodup : (rows.map key).Nodup) (hrow : row ∈ rows) (hset : set row = false) :
    (rows.any fun other => key other == key row && set other) = false := by
  refine List.any_eq_false.2 fun other hother hboth => ?_
  obtain ⟨hkey, hother'⟩ := Bool.and_eq_true_iff.1 hboth
  have hsame : other = row := List.inj_on_of_nodup_map hnodup hother hrow (beq_iff_eq.1 hkey)
  rw [hsame, hset] at hother'
  cases hother'

section Queries

variable {markers : List String} {begun store : Store}

theorem crashOf?_eq_some_iff {row : StoredGeneration} {crash : Crash} :
    crashOf? markers row = some crash ↔ row.crashLogged = false ∧ row.id = crash.generation ∧
      row.compileError = some crash.message ∧
        markers.any (Text.contains crash.message) = true := by
  obtain ⟨generation, message⟩ := crash
  unfold crashOf?
  cases hmessage : row.compileError with
  | none => simp
  | some found =>
      dsimp only
      constructor
      · intro h
        split at h
        · next hboth =>
            obtain ⟨hlogged, hmarker⟩ := Bool.and_eq_true_iff.1 hboth
            cases h
            exact ⟨(Bool.not_eq_true' _).mp hlogged, rfl, rfl, hmarker⟩
        · cases h
      · rintro ⟨hlogged, rfl, heq, hmarker⟩
        obtain rfl := Option.some.inj heq
        rw [hlogged, hmarker]
        rfl

theorem map_unloggedCrashes (markers : List String) (store : Store) :
    (store.unloggedCrashes markers).map (·.generation) =
      (store.generations.filter fun row => row.hasCrash markers && !row.crashLogged).map
        (·.id) := by
  unfold unloggedCrashes
  induction store.generations with
  | nil => rfl
  | cons row rows ih =>
      cases hcrash : crashOf? markers row with
      | none =>
          have hskip : (row.hasCrash markers && !row.crashLogged) = false := by
            refine Bool.eq_false_iff.2 fun hboth => ?_
            obtain ⟨hfound, hlogged⟩ := Bool.and_eq_true_iff.1 hboth
            unfold StoredGeneration.hasCrash at hfound
            obtain ⟨message, hmessage, hmarker⟩ := (Option.any_eq_true _ _).1 hfound
            have hsome : crashOf? markers row = some ⟨row.id, message⟩ :=
              crashOf?_eq_some_iff.2 ⟨(Bool.not_eq_true' _).mp hlogged, rfl, hmessage, hmarker⟩
            rw [hcrash] at hsome
            cases hsome
          rw [List.filterMap_cons_none hcrash, ih, List.filter_cons_of_neg (by simp [hskip])]
      | some crash =>
          obtain ⟨hlogged, hid, hmessage, hmarker⟩ := crashOf?_eq_some_iff.1 hcrash
          have hkeep : (row.hasCrash markers && !row.crashLogged) = true := by
            rw [StoredGeneration.hasCrash, hmessage, hlogged]
            simpa using hmarker
          rw [List.filterMap_cons_some hcrash, List.filter_cons_of_pos (by exact hkeep),
            List.map_cons, List.map_cons, ih, hid]

theorem reports_of_mem_unloggedCrashes {crash : Crash} (h : crash ∈ store.unloggedCrashes markers) :
    store.Reports markers crash := by
  obtain ⟨row, hrow, hcrash⟩ := List.mem_filterMap.1 h
  obtain ⟨-, hid, hmessage, hmarker⟩ := crashOf?_eq_some_iff.1 hcrash
  exact ⟨row, hrow, hid, hmessage, hmarker⟩

/-- The crashes that are listed are those that are left to report. -/
theorem todo_unloggedCrashes {operations : List Operation} (hstore : store = after operations)
    (hgrown : Grown markers begun store) :
    Todo markers begun store .crash ((store.unloggedCrashes markers).map (·.generation)) := by
  have hnodup : (store.generations.map (·.id)).Nodup := hstore ▸ nodup_generations operations
  rw [map_unloggedCrashes]
  refine ⟨hnodup.sublist (List.filter_sublist.map _), fun id hid => ?_, fun id hfinds => ?_⟩
  · obtain ⟨row, hrow, rfl⟩ := List.mem_map.1 hid
    obtain ⟨hrow, hboth⟩ := List.mem_filter.1 hrow
    obtain ⟨hcrash, hlogged⟩ := Bool.and_eq_true_iff.1 hboth
    exact ⟨⟨row, hrow, rfl, hcrash⟩,
      any_eq_false_of_nodup hnodup hrow ((Bool.not_eq_true' _).mp hlogged)⟩
  · obtain ⟨row, hrow, rfl, hcrash⟩ := hgrown .crash id hfinds
    cases hlogged : row.crashLogged with
    | true => exact Or.inl (List.any_eq_true.2 ⟨row, hrow, by simp [hlogged]⟩)
    | false =>
        refine Or.inr (List.mem_map_of_mem (List.mem_filter.2 ⟨hrow, ?_⟩))
        rw [hcrash, hlogged]
        rfl

theorem decodeVerification_key {operations : List Operation} {row : StoredVerification}
    {verification : Verification} (hrow : row ∈ (after operations).verifications)
    (h : decodeVerification row = .ok verification) :
    row.generation = verification.generation ∧
      ∃ recorded : Verification, row.document = recorded.encode.text ∧
        recorded.hasDiscrepancy = row.hasDiscrepancy ∧ Verification.decoder.read? row.document =
          some { verification with loggedToFile := recorded.loggedToFile } := by
  obtain ⟨recorded, -, hgeneration, hdocument, hdiscrepancy⟩ :=
    exists_recordVerification_of_mem hrow
  obtain ⟨read, hread, rfl⟩ := decodeVerification_eq_ok_iff.1 h
  rw [hdocument] at hread
  obtain ⟨-, hkey, -, hflag⟩ := Verification.read?_encode_eq_some_iff.1 hread
  refine ⟨hgeneration.trans hkey, recorded, hdocument, hdiscrepancy.symm, ?_⟩
  rw [hdocument, hread, hflag]

theorem map_unloggedDiscrepancies {operations : List Operation} {found : List Verification}
    (hstore : store = after operations) (h : store.unloggedDiscrepancies = .ok found) :
    found.map (·.generation) =
      (store.verifications.filter fun row => row.hasDiscrepancy && !row.logged).map
        (·.generation) := by
  subst hstore
  rw [unloggedDiscrepancies, mapM_eq_ok_iff] at h
  symm
  rw [← List.forall₂_eq_eq_eq, List.forall₂_map_left_iff, List.forall₂_map_right_iff]
  have hmem : ∀ row ∈ (after operations).verifications.filter
      fun row => row.hasDiscrepancy && !row.logged, row ∈ (after operations).verifications :=
    fun row hrow => List.mem_of_mem_filter hrow
  generalize (after operations).verifications.filter
    (fun row => row.hasDiscrepancy && !row.logged) = rows at h hmem
  induction h with
  | nil => exact .nil
  | cons hdecode _ ih =>
      obtain ⟨hrow, hrest⟩ := List.forall_mem_cons.1 hmem
      exact .cons (decodeVerification_key hrow hdecode).1 (ih hrest)

theorem shows_of_mem_unloggedDiscrepancies {operations : List Operation}
    {found : List Verification} {verification : Verification} (hstore : store = after operations)
    (h : store.unloggedDiscrepancies = .ok found) (hmem : verification ∈ found) :
    store.Shows verification := by
  subst hstore
  obtain ⟨row, hopen, hdecode⟩ := (mem_mapM_iff h).1 hmem
  obtain ⟨hrow, hboth⟩ := List.mem_filter.1 hopen
  obtain ⟨hgeneration, recorded, hdocument, hdiscrepancy, hread⟩ :=
    decodeVerification_key hrow hdecode
  exact ⟨row, hrow, hgeneration, recorded, hdocument,
    hdiscrepancy.trans (Bool.and_eq_true_iff.1 hboth).1, hread⟩

/-- The discrepancies that are listed are those that are left to report. -/
theorem todo_unloggedDiscrepancies {operations : List Operation} {found : List Verification}
    (hstore : store = after operations) (h : store.unloggedDiscrepancies = .ok found)
    (hgrown : Grown markers begun store) :
    Todo markers begun store .discrepancy (found.map (·.generation)) := by
  have hnodup : (store.verifications.map (·.generation)).Nodup :=
    hstore ▸ nodup_verifications operations
  rw [map_unloggedDiscrepancies hstore h]
  refine ⟨hnodup.sublist (List.filter_sublist.map _), fun id hid => ?_, fun id hfinds => ?_⟩
  · obtain ⟨row, hrow, rfl⟩ := List.mem_map.1 hid
    obtain ⟨hrow, hboth⟩ := List.mem_filter.1 hrow
    obtain ⟨hdiscrepancy, hlogged⟩ := Bool.and_eq_true_iff.1 hboth
    exact ⟨⟨row, hrow, rfl, hdiscrepancy⟩,
      any_eq_false_of_nodup hnodup hrow ((Bool.not_eq_true' _).mp hlogged)⟩
  · obtain ⟨row, hrow, rfl, hdiscrepancy⟩ := hgrown .discrepancy id hfinds
    cases hlogged : row.logged with
    | true => exact Or.inl (List.any_eq_true.2 ⟨row, hrow, by simp [hlogged]⟩)
    | false =>
        refine Or.inr (List.mem_map_of_mem (List.mem_filter.2 ⟨hrow, ?_⟩))
        rw [hdiscrepancy, hlogged]
        rfl

end Queries

end Store

end Concord
