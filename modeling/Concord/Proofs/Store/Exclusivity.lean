import Mathlib
import Concord.Proofs.Store.Histories
import Concord.Proofs.Verdict

/-!
# Recording a verification once

A recording wins if it closes a row. The latch is meant to let one recording of a candidate win and
to shut out all others. It does so unless a backend reports for the first time between a recording
that won and a later one: its row is open then, and the later recording closes it.
-/

namespace Concord.Store

/-- Among these writes the recording of `verification` behind `before` wins. -/
structure Won (operations : List Operation) (generation : String) (before : List Operation)
    (verification : Verification) (rest : List Operation) : Prop where
  split : operations = before ++ .recordVerification verification :: rest
  wins : Wins generation before verification

/-- What the latch promises for a candidate. -/
structure Exclusive (operations : List Operation) (generation : String) : Prop where
  /-- No two recordings win. -/
  once : ∀ {before verification rest before' verification' rest'},
    Won operations generation before verification rest →
      Won operations generation before' verification' rest' → before = before'
  /-- Whenever it is asked for, the verification has the verdicts that won. -/
  kept : ∀ {before verification middle rest},
    Won operations generation before verification (middle ++ rest) →
      ∃ read, (after (before ++ .recordVerification verification :: middle)).loadVerification
          generation = .ok (some read) ∧
        read.verdicts = verification.verdicts ∧ read.backends = verification.backends
  /-- Later recordings are refused and change nothing. -/
  closed : ∀ {before verification middle later rest},
    Won operations generation before verification
        (middle ++ .recordVerification later :: rest) →
      later.generation = generation →
        (after (before ++ .recordVerification verification :: middle)).recordVerification later =
          (false, after (before ++ .recordVerification verification :: middle))

/-- Between a recording that wins and a later one, no backend reports for the first time. -/
def NoLateBackend (operations : List Operation) (generation : String) : Prop :=
  ∀ {before verification middle later rest result},
    Won operations generation before verification
        (middle ++ .recordVerification later :: rest) →
      later.generation = generation → .upsertRun result ∈ middle →
        result.generation = generation →
          ((after before).run? generation result.backend).isSome

/-- What wins can be read back. -/
def WinsDurably (operations : List Operation) (generation : String) : Prop :=
  ∀ {before verification rest}, Won operations generation before verification rest →
    verification.Durable

variable {operations before rest : List Operation} {generation backend : String}
  {verification : Verification}

theorem after_cons_append (before : List Operation) (operation : Operation)
    (middle : List Operation) :
    after (before ++ operation :: middle) = (after (before ++ [operation])).performAll middle := by
  rw [List.append_cons, after_append]

/-- A row that has come up was reported. -/
theorem exists_upsertRun_of_run? {store : Store} {middle : List Operation}
    (h : ((store.performAll middle).run? generation backend).isSome)
    (hnone : store.run? generation backend = none) :
    ∃ result, .upsertRun result ∈ middle ∧ result.generation = generation ∧
      result.backend = backend := by
  induction middle generalizing store with
  | nil =>
      rw [performAll, List.foldl_nil, hnone] at h
      cases h
  | cons operation middle ih =>
      cases hstep : (store.perform operation).run? generation backend with
      | none =>
          obtain ⟨result, hmem, hkey⟩ := ih h hstep
          exact ⟨result, List.mem_cons_of_mem _ hmem, hkey⟩
      | some row =>
          rw [run?_perform] at hstep
          cases operation with
          | upsertRun result =>
              dsimp only at hstep
              split at hstep
              · next hkey => exact ⟨result, List.mem_cons_self, hkey⟩
              · rw [hnone] at hstep
                cases hstep
          | recordVerification verification =>
              dsimp only at hstep
              rw [hnone] at hstep
              cases hstep
          | _ =>
              rw [hnone] at hstep
              cases hstep

/-- What was reported leaves a row. -/
theorem run?_performAll_isSome_of_upsertRun {store : Store} {middle : List Operation}
    {result : RunResult} (hreport : .upsertRun result ∈ middle) :
    ((store.performAll middle).run? result.generation result.backend).isSome := by
  obtain ⟨early, late, rfl⟩ := List.append_of_mem hreport
  rw [performAll, List.foldl_append, List.foldl_cons]
  apply run?_performAll_isSome late
  rw [run?_perform]
  dsimp only
  rw [if_pos ⟨rfl, rfl⟩]
  rfl

/-- Where only one recording wins, what is kept is what it recorded. -/
theorem document_of_once
    (honce : ∀ {before' verification' rest'},
      Won operations generation before' verification' rest' → before' = before)
    {middle : List Operation} (hwon : Won operations generation before verification (middle ++ rest))
    {row : StoredVerification}
    (hrow : (after (before ++ .recordVerification verification :: middle)).verification? generation =
      some row) :
    row.document = verification.encode.text := by
  obtain ⟨first, recorded, others, hsplit, hwins, -, hdocument⟩ := exists_wins_of_verification? hrow
  have hfirst : Won operations generation first recorded (others ++ rest) := by
    refine ⟨?_, hwins⟩
    rw [hwon.split, ← List.cons_append, ← List.append_assoc, hsplit]
    simp
  obtain rfl := honce hfirst
  obtain ⟨hhead, -⟩ := List.cons.inj (List.append_cancel_left hsplit)
  obtain rfl := Operation.recordVerification.inj hhead
  rcases hdocument with rfl | rfl <;> rfl

/-! ### What exclusivity asks for -/

/-- An open row would let the later recording win. -/
theorem Exclusive.handled (h : Exclusive operations generation) {middle : List Operation}
    {later : Verification}
    (hwon : Won operations generation before verification
      (middle ++ .recordVerification later :: rest))
    (hlater : later.generation = generation) {row : StoredRun}
    (hrow : (after (before ++ .recordVerification verification :: middle)).run? generation backend =
      some row) : row.handled = true := by
  by_contra hopen
  have hflipped := recordVerification_flipped_iff.2
    ⟨row, List.mem_of_find?_eq_some hrow, (run?_eq_some_key hrow).1.trans hlater.symm,
      Bool.eq_false_iff.2 hopen⟩
  rw [h.closed hwon hlater] at hflipped
  cases hflipped

theorem Exclusive.noLateBackend (h : Exclusive operations generation) :
    NoLateBackend operations generation := by
  intro before verification middle later rest result hwon hlater hreport hgeneration
  by_contra hnone
  rw [Bool.not_eq_true, Option.isSome_eq_false_iff, Option.isNone_iff_eq_none] at hnone
  have hnew : (after (before ++ [.recordVerification verification])).run? generation
      result.backend = none := by
    rw [after_concat, run?_perform]
    dsimp only
    rw [hnone, Option.map_none]
  -- the report leaves a row, which is handled by the time of the later recording
  have hsome : ((after (before ++ .recordVerification verification :: middle)).run? generation
      result.backend).isSome := by
    rw [after_cons_append, ← hgeneration]
    exact run?_performAll_isSome_of_upsertRun hreport
  obtain ⟨row, hrow⟩ := Option.isSome_iff_exists.1 hsome
  have hhandled : row.handled = true := h.handled hwon hlater hrow
  -- so another recording won in between
  rw [List.append_cons] at hrow
  obtain ⟨between, second, others, hsplit, hwins⟩ :=
    exists_wins_of_handled hrow hhandled (fun old hold => by rw [hnew] at hold; cases hold)
  have hsecond : Won operations generation (before ++ [.recordVerification verification] ++ between)
      second (others ++ .recordVerification later :: rest) := by
    refine ⟨?_, hwins⟩
    rw [hwon.split, hsplit]
    simp
  have hlength := congrArg List.length (h.once hwon hsecond)
  simp at hlength

theorem Exclusive.winsDurably (h : Exclusive operations generation) :
    WinsDurably operations generation := by
  intro before verification rest hwon
  have hwonNil : Won operations generation before verification ([] ++ rest) := hwon
  obtain ⟨read, hload, hverdicts, hbackends⟩ := h.kept hwonNil
  rw [← Verification.exists_read?_encode_iff]
  unfold loadVerification at hload
  split at hload
  · cases hload
  · next row hrow =>
      have hdocument := document_of_once (fun hother => h.once hother hwon) hwonNil hrow
      unfold decodeVerification decode at hload
      rw [hdocument] at hload
      cases hread : Verification.decoder.read? verification.encode.text with
      | none =>
          rw [hread] at hload
          cases hload
      | some found =>
          rw [hread] at hload
          cases hload
          exact ⟨found, rfl, hverdicts, hbackends⟩

/-! ### What exclusivity follows from -/

/-- Where no backend is late, all rows of a candidate stay handled. -/
theorem NoLateBackend.not_wins (h : NoLateBackend operations generation)
    {middle : List Operation} {later : Verification}
    (hwon : Won operations generation before verification
      (middle ++ .recordVerification later :: rest))
    (hlater : later.generation = generation) :
    ((after (before ++ .recordVerification verification :: middle)).recordVerification later).1 =
      false := by
  by_contra hflipped
  rw [Bool.not_eq_false, recordVerification_flipped_iff] at hflipped
  obtain ⟨row, hrow, hrowGeneration, hopen⟩ := hflipped
  have hfound := (sound_after _).run?_of_mem hrow
  rw [hrowGeneration, hlater, after_cons_append] at hfound
  -- a row that was there at the recording is closed; one that was not belongs to a late backend
  cases hfirst : (after (before ++ [.recordVerification verification])).run? generation
      row.backend with
  | some first =>
      have hhandled := handled_of_wins hfirst hwon.wins.1
      rw [run?_performAll_of_handled middle hfirst hhandled] at hfound
      rw [Option.some.inj hfound, hopen] at hhandled
      cases hhandled
  | none =>
      obtain ⟨result, hreport, hgeneration, hbackend⟩ :=
        exists_upsertRun_of_run? (Option.isSome_of_eq_some hfound) hfirst
      have hearly := run?_perform_isSome (.recordVerification verification)
        (h hwon hlater hreport hgeneration)
      rw [← after_concat, hbackend, hfirst] at hearly
      cases hearly

theorem NoLateBackend.once (h : NoLateBackend operations generation)
    {before' : List Operation} {verification' : Verification} {rest' : List Operation}
    (hwon : Won operations generation before verification rest)
    (hwon' : Won operations generation before' verification' rest') : before = before' := by
  -- of two recordings the second one would have to win behind the first one
  have hnever : ∀ {first second others others' : List Operation} {v w : Verification},
      Won operations generation first v others → Won operations generation second w others' →
        ∀ skipped, second = first ++ skipped → skipped = [] := by
    intro first second others others' v w hfirst hsecond skipped hskipped
    cases skipped with
    | nil => rfl
    | cons operation middle =>
        have hsplit := hfirst.split.symm.trans hsecond.split
        rw [hskipped, List.append_assoc] at hsplit
        obtain ⟨rfl, rfl⟩ := List.cons.inj (List.append_cancel_left hsplit)
        have hwins := hsecond.wins.2
        rw [hskipped, h.not_wins hfirst hsecond.wins.1] at hwins
        cases hwins
  have hsplit := hwon.split.symm.trans hwon'.split
  rcases List.append_eq_append_iff.1 hsplit with ⟨skipped, hskipped, -⟩ | ⟨skipped, hskipped, -⟩
  · rw [hskipped, hnever hwon hwon' skipped hskipped, List.append_nil]
  · rw [hskipped, hnever hwon' hwon skipped hskipped, List.append_nil]

theorem NoLateBackend.kept (h : NoLateBackend operations generation)
    (hdurable : WinsDurably operations generation) {middle : List Operation}
    (hwon : Won operations generation before verification (middle ++ rest)) :
    ∃ read, (after (before ++ .recordVerification verification :: middle)).loadVerification
        generation = .ok (some read) ∧
      read.verdicts = verification.verdicts ∧ read.backends = verification.backends := by
  obtain ⟨kept, hkept⟩ := Option.isSome_iff_exists.1 (verification?_isSome_of_wins hwon.wins)
  have hstays := verification?_performAll_of_some middle hkept
  rw [← after_cons_append] at hstays
  obtain ⟨row, hrow⟩ : ∃ row, (after (before ++ .recordVerification verification ::
      middle)).verification? generation = some row := by
    rcases hstays with hstays | hstays <;> exact ⟨_, hstays⟩
  have hdocument := document_of_once (fun hother => h.once hother hwon) hwon hrow
  refine ⟨{ verification with loggedToFile := row.logged }, ?_, rfl, rfl⟩
  unfold loadVerification
  rw [hrow]
  dsimp only
  unfold decodeVerification decode
  rw [hdocument, Verification.read?_encode (hdurable hwon)]
  rfl

/-- **When the latch is exclusive.** It is so exactly if, between a recording that wins and a later
one, no backend reports for the first time, and what wins can be read back. -/
theorem exclusive_iff (operations : List Operation) (generation : String) :
    Exclusive operations generation ↔
      NoLateBackend operations generation ∧ WinsDurably operations generation := by
  constructor
  · exact fun h => ⟨h.noLateBackend, h.winsDurably⟩
  · rintro ⟨hbackends, hdurable⟩
    refine ⟨hbackends.once, hbackends.kept hdurable, fun hwon hlater => ?_⟩
    have hrefused := hbackends.not_wins hwon hlater
    exact Prod.ext hrefused (recordVerification_of_not_flipped hrefused)

/-- A backend that reports late lets a second recording win. -/
theorem not_exclusive_of_late_backend :
    ¬Exclusive [.upsertRun ⟨"g", "ivy", [], false⟩, .recordVerification ⟨"g", ["ivy"], [], false⟩,
      .upsertRun ⟨"g", "boa", [], false⟩, .recordVerification ⟨"g", ["ivy", "boa"], [], false⟩]
      "g" := by
  intro h
  have hwon : Won [.upsertRun ⟨"g", "ivy", [], false⟩,
      .recordVerification ⟨"g", ["ivy"], [], false⟩, .upsertRun ⟨"g", "boa", [], false⟩,
      .recordVerification ⟨"g", ["ivy", "boa"], [], false⟩] "g"
      [.upsertRun ⟨"g", "ivy", [], false⟩] ⟨"g", ["ivy"], [], false⟩
      ([.upsertRun ⟨"g", "boa", [], false⟩] ++
        .recordVerification ⟨"g", ["ivy", "boa"], [], false⟩ :: []) :=
    ⟨rfl, rfl, by decide⟩
  have hrefused := congrArg Prod.fst (h.closed hwon rfl)
  exact absurd hrefused (by decide)

end Concord.Store
