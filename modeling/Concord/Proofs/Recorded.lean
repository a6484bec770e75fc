import Mathlib
import Concord.Comparison
import Concord.Proofs.Comparison
import Concord.Proofs.Outcome
import Concord.Proofs.Store.Histories
import Concord.Proofs.Verdict
import Concord.Proofs.Verifier

/-!
# What is recorded and what is kept

Loading results, comparing them and recording the comparison are steps of their own. What is
recorded describes the handled results as long as no result that counts is written over in between.
-/

namespace Concord

namespace Comparison

variable {generation backend : String} {results : List RunResult} {result : RunResult}

/-- Among results of which each backend has one, the result of a backend is the one it has. -/
theorem resultOf?_eq_some_iff
    (hunique : ∀ a ∈ results, ∀ b ∈ results, a.generation = b.generation → a.backend = b.backend →
      a = b) :
    resultOf? generation results backend = some result ↔
      result ∈ results ∧ result.generation = generation ∧ result.backend = backend := by
  have hkey : ∀ {result : RunResult}, resultOf? generation results backend = some result →
      result ∈ results ∧ result.generation = generation ∧ result.backend = backend := by
    intro result h
    have hfound := List.find?_some h
    refine ⟨List.mem_reverse.1 (List.mem_of_find?_eq_some h), ?_⟩
    simpa using hfound
  constructor
  · exact hkey
  · rintro ⟨hmem, rfl, rfl⟩
    cases h : resultOf? result.generation results result.backend with
    | none =>
        have hnone := List.find?_eq_none.1 h result (List.mem_reverse.2 hmem)
        simp at hnone
    | some found =>
        obtain ⟨hfound, hgeneration, hbackend⟩ := hkey h
        rw [hunique found hfound result hmem hgeneration hbackend]

/-- Whether results are handled plays no part in what comparing them gives. -/
theorem verification?_of_closed {rule : Comparison} {backends : List String}
    {now : List RunResult} {verification : Verification}
    (hnow : ∀ backend ∈ backends, ∀ result, resultOf? generation results backend = some result →
      resultOf? generation now backend = some { result with isHandled := true })
    (h : rule.verification? generation results backends = some verification) :
    rule.verification? generation now backends = some verification := by
  unfold verification? at h ⊢
  obtain ⟨found, hfound, hverdicts⟩ := Option.bind_eq_some_iff.1 h
  have hclosed : backends.mapM (resultOf? generation now) =
      some (found.map fun result => { result with isHandled := true }) := by
    rw [mapM_eq_some_iff] at hfound ⊢
    rw [List.forall₂_map_right_iff]
    clear h hverdicts
    induction hfound with
    | nil => exact .nil
    | cons hfirst _ ih =>
        exact .cons (hnow _ List.mem_cons_self _ hfirst)
          (ih fun backend hmem => hnow backend (List.mem_cons_of_mem _ hmem))
  rw [hclosed]
  refine Eq.trans ?_ hverdicts
  cases found with
  | nil => rfl
  | cons reference candidates =>
      change some (Verification.mk _ _ ((candidates.map _).flatMap _) _) = _
      rw [List.flatMap_map]
      rfl

end Comparison

namespace Store

variable {store : Store} {generation backend : String} {results : List RunResult}
  {result : RunResult}

/-- What is read from the row of a result is a result of the same candidate and backend. -/
theorem Sound.decodeRun_key (hsound : store.Sound) {row : StoredRun} (hrow : row ∈ store.runs)
    (h : decodeRun row = .ok result) :
    result.generation = row.generation ∧ result.backend = row.backend := by
  obtain ⟨written, hkey, hdocument⟩ := hsound.runs_written row hrow
  obtain ⟨read, hread, rfl⟩ := decodeRun_eq_ok_iff.1 h
  rw [hdocument, RunResult.read?_encode_eq_some_iff] at hread
  obtain ⟨hgeneration, hbackend⟩ := Prod.mk.inj hkey
  exact ⟨hread.2.1.symm.trans hgeneration.symm, hread.2.2.1.symm.trans hbackend.symm⟩

/-- What is loaded stands in the row of its candidate and backend. -/
theorem Sound.exists_run?_of_mem_loadRuns (hsound : store.Sound)
    (hload : store.loadRuns generation = .ok results) (h : result ∈ results) :
    ∃ row, store.run? result.generation result.backend = some row ∧ decodeRun row = .ok result ∧
      result.generation = generation := by
  obtain ⟨row, hrow, hgeneration, hread⟩ := (mem_loadRuns_iff hload).1 h
  obtain ⟨hkey, hbackend⟩ := hsound.decodeRun_key hrow hread
  refine ⟨row, ?_, hread, hkey.trans hgeneration⟩
  rw [hkey, hbackend]
  exact hsound.run?_of_mem hrow

/-- Of a candidate and backend there is one loaded result. -/
theorem Sound.eq_of_mem_loadRuns (hsound : store.Sound)
    (hload : store.loadRuns generation = .ok results) {a b : RunResult} (ha : a ∈ results)
    (hb : b ∈ results) (hgeneration : a.generation = b.generation)
    (hbackend : a.backend = b.backend) : a = b := by
  obtain ⟨row, hrow, hread, -⟩ := hsound.exists_run?_of_mem_loadRuns hload ha
  obtain ⟨row', hrow', hread', -⟩ := hsound.exists_run?_of_mem_loadRuns hload hb
  rw [hgeneration, hbackend, hrow'] at hrow
  obtain rfl := Option.some.inj hrow
  exact Except.ok.inj (hread.symm.trans hread')

/-- The result that counts for a backend is the one in its row. -/
theorem Sound.resultOf?_eq_some_iff (hsound : store.Sound)
    (hload : store.loadRuns generation = .ok results) (counts : RunResult → Bool) :
    Comparison.resultOf? generation (results.filter counts) backend = some result ↔
      ∃ row, store.run? generation backend = some row ∧ decodeRun row = .ok result ∧
        counts result = true := by
  have hunique : ∀ a ∈ results.filter counts, ∀ b ∈ results.filter counts,
      a.generation = b.generation → a.backend = b.backend → a = b := by
    intro a ha b hb
    exact hsound.eq_of_mem_loadRuns hload (List.mem_of_mem_filter ha) (List.mem_of_mem_filter hb)
  rw [Comparison.resultOf?_eq_some_iff hunique, List.mem_filter]
  constructor
  · rintro ⟨⟨hresult, hcounts⟩, rfl, rfl⟩
    obtain ⟨row, hrow, hread, -⟩ := hsound.exists_run?_of_mem_loadRuns hload hresult
    exact ⟨row, hrow, hread, hcounts⟩
  · rintro ⟨row, hrow, hread, hcounts⟩
    obtain ⟨hgeneration, hbackend⟩ := run?_eq_some_key hrow
    have hrowMem := List.mem_of_find?_eq_some hrow
    obtain ⟨hkey, hresultBackend⟩ := hsound.decodeRun_key hrowMem hread
    exact ⟨⟨(mem_loadRuns_iff hload).2 ⟨row, hrowMem, hgeneration, hread⟩, hcounts⟩,
      hkey.trans hgeneration, hresultBackend.trans hbackend⟩

theorem exists_decodeRun_of_run? (hload : store.loadRuns generation = .ok results)
    {row : StoredRun} (hrow : store.run? generation backend = some row) :
    ∃ result, decodeRun row = .ok result := by
  have hmem := mem_runsOf_iff.2 ⟨List.mem_of_find?_eq_some hrow, (run?_eq_some_key hrow).1⟩
  obtain ⟨result, -, hread⟩ := exists_of_mem_mapM hload hmem
  exact ⟨result, hread⟩

theorem Sound.isSome_resultOf?_iff (hsound : store.Sound)
    (hload : store.loadRuns generation = .ok results) (counts : RunResult → Bool)
    (backend : String) :
    (Comparison.resultOf? generation (results.filter counts) backend).isSome ↔
      ∃ row result, store.run? generation backend = some row ∧ decodeRun row = .ok result ∧
        counts result = true := by
  rw [Option.isSome_iff_exists, exists_comm]
  exact exists_congr fun result => hsound.resultOf?_eq_some_iff hload counts

/-- The results can be compared exactly if each backend has a row. -/
theorem Sound.isSome_verification?_iff (hsound : store.Sound)
    (hload : store.loadRuns generation = .ok results) (rule : Comparison)
    (backends : List String) :
    (rule.verification? generation results backends).isSome ↔
      ∀ backend ∈ backends, ∃ row, store.run? generation backend = some row := by
  have hall : results = results.filter fun _ => true := by simp
  rw [Comparison.isSome_verification?_iff, hall]
  refine forall₂_congr fun backend _ => (hsound.isSome_resultOf?_iff hload _ backend).trans ?_
  constructor
  · rintro ⟨row, -, hrow, -, -⟩
    exact ⟨row, hrow⟩
  · rintro ⟨row, hrow⟩
    obtain ⟨result, hread⟩ := exists_decodeRun_of_run? hload hrow
    exact ⟨row, result, hrow, hread, rfl⟩

/-- Each of the backends that are compared has a row. -/
theorem Sound.exists_run?_of_verification? (hsound : store.Sound)
    (hload : store.loadRuns generation = .ok results) {rule : Comparison} {backends : List String}
    {verification : Verification}
    (hcompared : rule.verification? generation results backends = some verification)
    (hbackend : backend ∈ backends) : ∃ row, store.run? generation backend = some row :=
  (hsound.isSome_verification?_iff hload rule backends).1 (Option.isSome_of_eq_some hcompared)
    backend hbackend

/-! ### Histories of comparisons -/

variable {rule : Comparison} {backends : List String} {operations : List Operation}

/-- The verification compares results as they were loaded after `earlier`. -/
def Compared (rule : Comparison) (backends : List String) (earlier : List Operation)
    (verification : Verification) : Prop :=
  ∃ results, (after earlier).loadRuns verification.generation = .ok results ∧
    rule.verification? verification.generation results backends = some verification

/-- Whatever is recorded compares results that were loaded before. -/
def RecordsComparisons (rule : Comparison) (backends : List String)
    (operations : List Operation) : Prop :=
  ∀ {before verification rest},
    operations = before ++ .recordVerification verification :: rest →
      ∃ earlier middle, before = earlier ++ middle ∧ Compared rule backends earlier verification

/-- Moreover, a comparison that is kept finds the results that count as they were loaded. -/
def RecordsFreshComparisons (rule : Comparison) (backends : List String)
    (operations : List Operation) : Prop :=
  ∀ {before verification rest},
    operations = before ++ .recordVerification verification :: rest →
      ∃ earlier middle, before = earlier ++ middle ∧ Compared rule backends earlier verification ∧
        (Wins verification.generation before verification →
          (after before).verification? verification.generation = none →
            ∀ backend ∈ backends,
              ((after before).run? verification.generation backend).map (·.document) =
                ((after earlier).run? verification.generation backend).map (·.document))

/-- What is kept of a candidate is the comparison of its handled results as they are now. -/
def KeepsComparison (rule : Comparison) (backends : List String) (operations : List Operation)
    (generation : String) : Prop :=
  ∀ {row now}, (after operations).verification? generation = some row →
    (after operations).loadRuns generation = .ok now →
      ∃ verification,
        rule.verification? generation (now.filter (·.isHandled)) backends = some verification ∧
        row.document = verification.encode.text ∧
        (verification.Durable → (after operations).loadVerification generation =
          .ok (some { verification with loggedToFile := row.logged }))

/-- A row that is closed as it was loaded stays a handled result of the same calls. -/
theorem exists_closed_row {before : List Operation} {verification : Verification}
    {loaded : StoredRun} {earlier : Store} (rest : List Operation)
    (hgeneration : verification.generation = generation)
    (hloaded : earlier.run? generation backend = some loaded)
    (hsame : ((after before).run? generation backend).map (·.document) =
      (earlier.run? generation backend).map (·.document)) :
    ∃ row, (after (before ++ .recordVerification verification :: rest)).run? generation backend =
      some row ∧ row.document = loaded.document ∧ row.handled = true := by
  rw [hloaded, Option.map_some, Option.map_eq_some_iff] at hsame
  obtain ⟨found, hfound, hdocument⟩ := hsame
  have hclosed : (after (before ++ [.recordVerification verification])).run? generation backend =
      some found.close := by
    rw [after_concat, run?_perform]
    dsimp only
    rw [hfound, Option.map_some, if_pos ((run?_eq_some_key hfound).1.trans hgeneration.symm)]
  refine ⟨found.close, ?_, hdocument, rfl⟩
  rw [List.append_cons, after_append]
  exact run?_performAll_of_handled rest hclosed rfl

/-- **Fresh comparisons are kept.** If a comparison is only kept while the results that count are as
they were loaded, it describes the handled results from then on. -/
theorem keepsComparison_of_fresh (h : RecordsFreshComparisons rule backends operations)
    (generation : String) : KeepsComparison rule backends operations generation := by
  intro row now hrow hnow
  obtain ⟨before, verification, rest, hsplit, hwins, hfirst, hkept⟩ :=
    exists_wins_of_verification? hrow
  obtain ⟨earlier, middle, rfl, ⟨results, hload, hcompared⟩, hfresh⟩ := h hsplit
  obtain rfl : verification.generation = generation := hwins.1
  have hclosed : ∀ backend ∈ backends, ∀ result,
      Comparison.resultOf? verification.generation results backend = some result →
        Comparison.resultOf? verification.generation (now.filter (·.isHandled)) backend =
          some { result with isHandled := true } := by
    intro backend hbackend result hresult
    have hall : results = results.filter fun _ => true := by simp
    rw [hall, (sound_after earlier).resultOf?_eq_some_iff hload] at hresult
    obtain ⟨loaded, hloaded, hread, -⟩ := hresult
    -- the recording closed the row that was loaded, and a closed row stays
    obtain ⟨closed, hclosedRow, hdocument, hhandled⟩ :=
      exists_closed_row rest rfl hloaded (hfresh hwins hfirst backend hbackend)
    rw [← hsplit] at hclosedRow
    rw [(sound_after operations).resultOf?_eq_some_iff hnow]
    refine ⟨closed, hclosedRow, ?_, rfl⟩
    obtain ⟨read, hdecoded, rfl⟩ := decodeRun_eq_ok_iff.1 hread
    exact decodeRun_eq_ok_iff.2 ⟨read, hdocument ▸ hdecoded, by rw [hhandled]⟩
  have hdocument : row.document = verification.encode.text := by
    rcases hkept with rfl | rfl <;> rfl
  refine ⟨verification, Comparison.verification?_of_closed hclosed hcompared, hdocument, ?_⟩
  intro hdurable
  unfold loadVerification
  rw [hrow]
  dsimp only
  unfold decodeVerification decode
  rw [hdocument, Verification.read?_encode hdurable]
  rfl

/-! ### Runs with one recording -/

/-- Where one recording comes last, it is the only one to look at. -/
theorem eq_of_last_recording {writes before rest : List Operation} {last verification : Verification}
    (hwrites : ∀ recorded, .recordVerification recorded ∉ writes)
    (h : writes ++ [.recordVerification last] = before ++ .recordVerification verification :: rest) :
    writes = before ∧ last = verification := by
  rcases List.append_eq_append_iff.1 h with ⟨skipped, rfl, hrest⟩ | ⟨skipped, rfl, hrest⟩
  · cases skipped with
    | nil =>
        cases hrest
        exact ⟨(List.append_nil writes).symm, rfl⟩
    | cons operation skipped =>
        have hlength := congrArg List.length hrest
        simp at hlength
  · cases skipped with
    | nil =>
        cases hrest
        exact ⟨List.append_nil before, rfl⟩
    | cons operation skipped =>
        obtain ⟨rfl, -⟩ := List.cons.inj hrest
        exact absurd (List.mem_append_right before List.mem_cons_self) (hwrites verification)

/-- What is loaded of a row whose document is the text of a durable result. -/
theorem decodeRun_of_document {row : StoredRun} (hdurable : result.Durable)
    (hdocument : row.document = result.encode.text) :
    decodeRun row = .ok { result with isHandled := row.handled } :=
  decodeRun_eq_ok_iff.2 ⟨result, hdocument ▸ RunResult.read?_encode hdurable, rfl⟩

theorem decodeRun_of_durable (hdurable : result.Durable) (handled : Bool) :
    decodeRun ⟨result.generation, result.backend, result.encode.text, handled⟩ =
      .ok { result with isHandled := handled } :=
  decodeRun_of_document hdurable rfl

theorem durable_of_no_calls (generation backend : String) :
    RunResult.Durable ⟨generation, backend, [], false⟩ := by
  simp [RunResult.Durable]

/-- The only call gave this text back. -/
def gave (text : String) : List FunctionCalls :=
  [⟨0, "f", [.success ⟨⟨[]⟩, none, none, text⟩]⟩]

theorem durable_gave (generation backend text : String) :
    RunResult.Durable ⟨generation, backend, gave text, false⟩ := by
  intro calls hcalls
  rw [List.mem_singleton.1 hcalls]
  refine ⟨Nat.two_pow_pos 64, fun outcome houtcome observed hobserved => ?_⟩
  rw [List.mem_singleton.1 houtcome] at hobserved
  cases hobserved
  exact ⟨nofun, nofun⟩

section Redelivery

variable {ours theirs again : List FunctionCalls}

/-- The comparison of two backends by their calls. -/
def paired (ours theirs : List FunctionCalls) : Verification :=
  ⟨"g", ["ivy", "boa"],
    [⟨"g", "boa", theirs, false⟩].flatMap (Comparison.compareRuns {} ⟨"g", "ivy", ours, false⟩),
    false⟩

/-- Two backends are compared, and before the comparison is recorded one of them delivers a result
again. -/
def redelivery (ours theirs again : List FunctionCalls) : List Operation :=
  [.upsertRun ⟨"g", "ivy", ours, false⟩, .upsertRun ⟨"g", "boa", theirs, false⟩,
    .upsertRun ⟨"g", "boa", again, false⟩, .recordVerification (paired ours theirs)]

theorem compared_redelivery (hours : RunResult.Durable ⟨"g", "ivy", ours, false⟩)
    (htheirs : RunResult.Durable ⟨"g", "boa", theirs, false⟩) {before rest : List Operation}
    {verification : Verification}
    (h : redelivery ours theirs again = before ++ .recordVerification verification :: rest) :
    before = [.upsertRun ⟨"g", "ivy", ours, false⟩, .upsertRun ⟨"g", "boa", theirs, false⟩] ++
        [.upsertRun ⟨"g", "boa", again, false⟩] ∧
      verification.generation = "g" ∧
      Compared {} ["ivy", "boa"] [.upsertRun ⟨"g", "ivy", ours, false⟩,
        .upsertRun ⟨"g", "boa", theirs, false⟩] verification := by
  have hlast : [.upsertRun ⟨"g", "ivy", ours, false⟩, .upsertRun ⟨"g", "boa", theirs, false⟩,
      .upsertRun ⟨"g", "boa", again, false⟩] ++ [.recordVerification (paired ours theirs)] =
        before ++ .recordVerification verification :: rest := h
  obtain ⟨rfl, rfl⟩ := eq_of_last_recording (by simp) hlast
  have hruns : (after [.upsertRun ⟨"g", "ivy", ours, false⟩,
      .upsertRun ⟨"g", "boa", theirs, false⟩]).runsOf "g" =
        [⟨"g", "boa", (RunResult.mk "g" "boa" theirs false).encode.text, false⟩,
          ⟨"g", "ivy", (RunResult.mk "g" "ivy" ours false).encode.text, false⟩] :=
    if_neg (by decide : ¬"ivy" < "boa")
  have hload : (after [.upsertRun ⟨"g", "ivy", ours, false⟩,
      .upsertRun ⟨"g", "boa", theirs, false⟩]).loadRuns "g" =
        .ok [⟨"g", "boa", theirs, false⟩, ⟨"g", "ivy", ours, false⟩] := by
    refine mapM_eq_ok_iff.2 ?_
    rw [hruns]
    exact .cons (decodeRun_of_durable htheirs false) (.cons (decodeRun_of_durable hours false) .nil)
  exact ⟨rfl, rfl, _, hload, rfl⟩

end Redelivery

/-- A fresh comparison, which found a difference, is kept although a result was delivered twice. -/
theorem keepsComparison_of_same_redelivery :
    RecordsFreshComparisons {} ["ivy", "boa"] (redelivery (gave "1") (gave "2") (gave "2")) ∧
      KeepsComparison {} ["ivy", "boa"] (redelivery (gave "1") (gave "2") (gave "2")) "g" ∧
      (after (redelivery (gave "1") (gave "2") (gave "2"))).verification? "g" =
        some (.ofVerification (paired (gave "1") (gave "2"))) ∧
      (paired (gave "1") (gave "2")).hasDiscrepancy = true := by
  have hfresh : RecordsFreshComparisons {} ["ivy", "boa"]
      (redelivery (gave "1") (gave "2") (gave "2")) := by
    intro before verification rest hsplit
    obtain ⟨rfl, hgeneration, hcompared⟩ := compared_redelivery (durable_gave "g" "ivy" "1")
      (durable_gave "g" "boa" "2") hsplit
    refine ⟨_, _, rfl, hcompared, ?_⟩
    intro _ _ backend hbackend
    rw [hgeneration]
    rw [List.mem_cons, List.mem_singleton] at hbackend
    rcases hbackend with rfl | rfl <;> rfl
  exact ⟨hfresh, keepsComparison_of_fresh hfresh "g", rfl, by decide +kernel⟩

/-- A result that is written over between loading and recording makes what is kept wrong. -/
theorem not_keepsComparison_of_redelivery :
    ¬∀ rule backends operations, RecordsComparisons rule backends operations →
      ∀ generation, KeepsComparison rule backends operations generation := by
  intro h
  have hcomparisons : RecordsComparisons {} ["ivy", "boa"] (redelivery [] [] (gave "2")) := by
    intro before verification rest hsplit
    obtain ⟨rfl, -, hcompared⟩ := compared_redelivery (durable_of_no_calls "g" "ivy")
      (durable_of_no_calls "g" "boa") hsplit
    exact ⟨_, _, rfl, hcompared⟩
  have hnow : (after (redelivery [] [] (gave "2"))).loadRuns "g" =
      .ok [⟨"g", "boa", gave "2", true⟩, ⟨"g", "ivy", [], true⟩] :=
    mapM_eq_ok_iff.2 (.cons (decodeRun_of_durable (durable_gave "g" "boa" "2") true)
      (.cons (decodeRun_of_durable (durable_of_no_calls "g" "ivy") true) .nil))
  obtain ⟨now, hcompared, hdocument, -⟩ := h {} ["ivy", "boa"] _ hcomparisons "g" rfl hnow
  -- comparing the results as they are now gives a verdict, and none was recorded
  have hlength : now.verdicts.length = 1 := by
    have hcount : (Comparison.verification? {} "g" ([⟨"g", "boa", gave "2", true⟩,
        ⟨"g", "ivy", [], true⟩].filter (·.isHandled)) ["ivy", "boa"]).map (·.verdicts.length) =
          some 1 := rfl
    rw [hcompared] at hcount
    exact Option.some.inj hcount
  have hread : Verification.decoder.read? now.encode.text =
      some ⟨"g", ["ivy", "boa"], [], false⟩ :=
    hdocument ▸ Verification.read?_encode nofun
  have hverdicts := (Verification.read?_encode_eq_some_iff.1 hread).1
  rw [Decoder.list_written_eq_ok_iff, List.forall₂_nil_right_iff] at hverdicts
  rw [hverdicts] at hlength
  cases hlength

end Store

end Concord
