import Mathlib
import Concord.Dispatcher
import Concord.Proofs.Pipeline
import Concord.Proofs.Store.Candidates
import Concord.Proofs.Utf8
import Concord.Utility.Basic

/-!
# Loading candidates from a file

A file is loaded line by line, and what a line does depends on the store alone. So loading two files
one after the other is loading one file, and where nothing fails the records that are new are in the
store afterwards, each id once, in the order of the file.
-/

namespace Concord

/-! ### New candidates -/

namespace Store

/-- The store with further candidates behind its own. -/
def load (store : Store) (records : List Generation) : Store :=
  { store with generations := store.generations ++ records.map .ofGeneration }

/-- The first record of each id that the store does not have. -/
def newcomers (store : Store) (records : List Generation) : List Generation :=
  (records.filter fun record => (store.generation? record.id).isNone).eraseDupsBy (·.id == ·.id)

/-- The store with the records of which it does not have the ids. -/
def loadNew (store : Store) (records : List Generation) : Store :=
  store.load (store.newcomers records)

variable {store : Store} {record : Generation} {row : StoredGeneration}

theorem load_load (store : Store) (records more : List Generation) :
    (store.load records).load more = store.load (records ++ more) := by
  simp [load, List.append_assoc]

theorem generation?_load_self (store : Store) (record : Generation) (id : String) :
    (store.load [record]).generation? id =
      (store.generation? id).or (if record.id = id then some (.ofGeneration record) else none) := by
  rw [generation?, load, List.find?_append, ← generation?, List.map_singleton, List.find?_singleton]
  simp [StoredGeneration.ofGeneration]

theorem newcomers_of_known (h : store.generation? record.id = some row)
    (records : List Generation) :
    store.newcomers (record :: records) = store.newcomers records := by
  rw [newcomers, List.filter_cons_of_neg (by simp [h]), newcomers]

/-- Once a record is stored, its id is known. -/
theorem newcomers_of_new (h : store.generation? record.id = none) (records : List Generation) :
    store.newcomers (record :: records) = record :: (store.load [record]).newcomers records := by
  rw [newcomers, List.filter_cons_of_pos (by rw [h]; rfl), List.eraseDupsBy_cons,
    List.filter_filter, newcomers]
  congr 3
  funext other
  rw [generation?_load_self]
  cases store.generation? other.id with
  | some row => simp
  | none =>
      by_cases hsame : other.id = record.id
      · simp [hsame]
      · simp [hsame, Ne.symm hsame]

theorem length_newcomers_le (store : Store) (records : List Generation) :
    (store.newcomers records).length ≤ records.length := by
  induction records generalizing store with
  | nil => exact Nat.le_refl 0
  | cons record records ih =>
      cases hknown : store.generation? record.id with
      | none =>
          rw [newcomers_of_new hknown]
          exact Nat.succ_le_succ (ih _)
      | some row =>
          rw [newcomers_of_known hknown]
          exact Nat.le_succ_of_le (ih store)

theorem loadNew_of_known (h : store.generation? record.id = some row)
    (records : List Generation) : store.loadNew (record :: records) = store.loadNew records := by
  rw [loadNew, newcomers_of_known h, loadNew]

theorem loadNew_of_new (h : store.generation? record.id = none) (records : List Generation) :
    store.loadNew (record :: records) = (store.load [record]).loadNew records := by
  rw [loadNew, newcomers_of_new h, ← List.singleton_append, ← load_load, loadNew]

theorem isSome_generation?_load {id : String} (h : (store.generation? id).isSome = true)
    (records : List Generation) : ((store.load records).generation? id).isSome = true := by
  rw [generation?, load, List.find?_append, ← generation?, Option.isSome_or, h, Bool.true_or]

/-- Afterwards the store has the ids of all records. -/
theorem isSome_generation?_loadNew (store : Store) {records : List Generation}
    (hmem : record ∈ records) :
    ((store.loadNew records).generation? record.id).isSome = true := by
  induction records generalizing store with
  | nil => cases hmem
  | cons first records ih =>
      cases hknown : store.generation? first.id with
      | some row =>
          rw [loadNew_of_known hknown]
          rcases List.mem_cons.1 hmem with rfl | hmem
          · exact isSome_generation?_load (Option.isSome_of_eq_some hknown) _
          · exact ih store hmem
      | none =>
          rw [loadNew_of_new hknown]
          rcases List.mem_cons.1 hmem with rfl | hmem
          · refine isSome_generation?_load ?_ _
            rw [generation?_load_self, if_pos rfl, Option.isSome_or]
            exact Bool.or_true _
          · exact ih _ hmem

theorem newcomers_again (store : Store) (records : List Generation) :
    (store.loadNew records).newcomers records = [] := by
  have hknown : records.filter (fun record =>
      ((store.loadNew records).generation? record.id).isNone) = [] := by
    rw [List.filter_eq_nil_iff]
    intro record hmem hnone
    have hsome := store.isSome_generation?_loadNew hmem
    rw [Option.isNone_iff_eq_none.1 hnone] at hsome
    cases hsome
  rw [newcomers, hknown]
  rfl

end Store

namespace Ingest

/-! ### Lines -/

theorem splitLines_lineEnd (front rest : List UInt8) :
    splitLines (front ++ 0x0A :: rest) = splitLines (front ++ [0x0A]) ++ splitLines rest := by
  induction front with
  | nil => rfl
  | cons byte front ih =>
      rw [List.cons_append, List.cons_append, splitLines, splitLines]
      by_cases hend : byte = 0x0A
      · rw [if_pos hend, if_pos hend, ih, List.cons_append]
      · rw [if_neg hend, if_neg hend, ih]
        cases hfront : splitLines (front ++ [0x0A]) with
        | cons line more => rfl
        | nil =>
            exfalso
            cases front with
            | nil => cases hfront
            | cons byte front =>
                rw [List.cons_append, splitLines] at hfront
                split_ifs at hfront
                split at hfront <;> cases hfront

/-- Bytes without a line end stand in front of the first line. -/
theorem splitLines_append {bytes : List UInt8} (hne : bytes ≠ [])
    (h : ∀ byte ∈ bytes, byte ≠ 0x0A) (rest : List UInt8) :
    splitLines (bytes ++ rest) =
      match splitLines rest with
      | [] => [bytes]
      | line :: more => (bytes ++ line) :: more := by
  induction bytes with
  | nil => exact absurd rfl hne
  | cons byte bytes ih =>
      obtain ⟨hbyte, hbytes⟩ := List.forall_mem_cons.1 h
      rw [List.cons_append, splitLines, if_neg hbyte]
      cases bytes with
      | nil => rfl
      | cons next bytes =>
          rw [ih (List.cons_ne_nil _ _) hbytes]
          cases splitLines rest <;> rfl

theorem ne_lineEnd_of_mem_encodeChar {c : Char} (h : c ≠ '\n') :
    ∀ byte ∈ String.utf8EncodeChar c, byte ≠ 0x0A := by
  rintro byte hbyte rfl
  by_cases hvisible : Visible c
  · exact absurd (Text.Utf8.le_utf8EncodeChar hvisible _ hbyte) (by decide)
  · have hcode : c.val.toNat < 0x20 := Nat.lt_of_not_le hvisible
    unfold String.utf8EncodeChar at hbyte
    dsimp only at hbyte
    rw [if_pos (by omega), List.mem_singleton] at hbyte
    have hten := congrArg UInt8.toNat hbyte
    rw [UInt8.toNat_ofNat_of_lt' (Nat.lt_trans hcode (by decide))] at hten
    exact h (Char.ext (UInt32.toNat_inj.1 hten.symm))

theorem splitLines_flatMap (text : List Char) :
    splitLines (text.flatMap String.utf8EncodeChar) =
      (Utility.lines text).map (·.flatMap String.utf8EncodeChar) := by
  induction text with
  | nil => rfl
  | cons c text ih =>
      have hlines : Utility.lines (c :: text) = Utility.addToLines c (Utility.lines text) := rfl
      rw [List.flatMap_cons, hlines]
      by_cases hend : c = '\n'
      · rw [hend]
        exact congrArg (_ :: ·) ih
      · rw [splitLines_append String.utf8EncodeChar_ne_nil (ne_lineEnd_of_mem_encodeChar hend),
          ih]
        unfold Utility.addToLines
        cases Utility.lines text <;> simp

/-- The lines of the bytes of a text are the bytes of its lines. -/
theorem splitLines_encode (text : String) :
    splitLines (Text.Utf8.encode text) =
      ((Utility.lines text.toList).map String.ofList).map Text.Utf8.encode := by
  rw [Text.Utf8.encode_eq_flatMap, splitLines_flatMap, List.map_map]
  simp [Text.Utf8.encode_eq_flatMap]

/-! ### One file behind another -/

instance : Add Report :=
  ⟨fun first second => ⟨first.inserted + second.inserted, first.duplicates + second.duplicates,
    first.malformed + second.malformed⟩⟩

theorem Report.ext_add {first second third : Report}
    (hinserted : first.inserted + second.inserted = third.inserted)
    (hduplicates : first.duplicates + second.duplicates = third.duplicates)
    (hmalformed : first.malformed + second.malformed = third.malformed) :
    first + second = third := by
  cases third
  exact congr (congrArg₂ Report.mk hinserted hduplicates) hmalformed

theorem Report.add_empty (report : Report) : report + {} = report :=
  rfl

theorem Report.empty_add (report : Report) : {} + report = report :=
  ext_add (Nat.zero_add _) (Nat.zero_add _) (Nat.zero_add _)

theorem Report.add_assoc (first second third : Report) :
    first + second + third = first + (second + third) :=
  ext_add (Nat.add_assoc ..) (Nat.add_assoc ..) (Nat.add_assoc ..)

variable (context : Context)

/-- What has been counted before is only added to. -/
theorem insert_add (record : Generation) (before report : Report) :
    insert context record (before + report) = (before + ·) <$> insert context record report := by
  unfold insert
  rw [map_bind]
  refine bind_congr fun answer => ?_
  cases answer with
  | ok value => rfl
  | error error =>
      cases hinner : error.inner <;> simp only [hinner] <;> rfl

theorem step_add (before report : Report) (text : String) :
    step context (before + report) text = (before + ·) <$> step context report text := by
  unfold step
  cases Line.ofText text with
  | blank => rfl
  | malformed => rfl
  | generation record => exact insert_add context record before report

theorem lines_add (before report : Report) (pieces : List (List UInt8)) :
    lines context (before + report) pieces = (before + ·) <$> lines context report pieces := by
  induction pieces generalizing report with
  | nil => rfl
  | cons bytes pieces ih =>
      unfold lines
      cases Text.Utf8.decode bytes with
      | error fault => rfl
      | ok text =>
          dsimp only
          rw [step_add, bind_map_left, map_bind]
          exact bind_congr fun report => ih report

theorem lines_append (report : Report) (pieces more : List (List UInt8)) :
    lines context report (pieces ++ more) =
      lines context report pieces >>= fun report => lines context report more := by
  induction pieces generalizing report with
  | nil => rfl
  | cons bytes pieces ih =>
      rw [List.cons_append, lines, lines]
      cases Text.Utf8.decode bytes with
      | error fault => rfl
      | ok text =>
          dsimp only
          rw [bind_assoc]
          exact bind_congr fun report => ih report

/-- **Loading two files in turn is loading one behind the other.** This is so whatever the bytes are
and whatever goes wrong on the way, as long as the first file ends where a line does. -/
theorem content_append (front rest : List UInt8) :
    content context (front ++ 0x0A :: rest) = (do
      let first ← content context (front ++ [0x0A])
      let second ← content context rest
      pure (first + second)) := by
  unfold content
  rw [splitLines_lineEnd, lines_append]
  refine bind_congr fun first => ?_
  rw [bind_pure_comp, ← lines_add, Report.add_empty]

/-! ### What a file leaves behind -/

/-- The candidate on a line, if it is one. -/
def Line.record? : Line → Option Generation
  | .generation record => some record
  | _ => none

def Line.isBlank : Line → Bool
  | .blank => true
  | _ => false

def Line.isMalformed : Line → Bool
  | .malformed => true
  | _ => false

/-- What is reported of lines that are loaded into a store. -/
def tally (store : Store) (found : List Line) : Report :=
  let records := found.filterMap Line.record?
  let new := store.newcomers records
  ⟨new.length, records.length - new.length, found.countP Line.isMalformed⟩

variable {context : Context} {pipeline : Pipeline} {store : Store}

theorem filterMap_record (record : Generation) (found : List Line) :
    (Line.generation record :: found).filterMap Line.record? =
      record :: found.filterMap Line.record? :=
  rfl

theorem tally_malformed (store : Store) (found : List Line) :
    tally store (.malformed :: found) = ⟨0, 0, 1⟩ + tally store found := by
  refine (Report.ext_add (Nat.zero_add _) (Nat.zero_add _) ?_).symm
  dsimp only [tally]
  rw [List.countP_cons_of_pos (by rfl), Nat.add_comm]

theorem tally_of_known {record : Generation} {row : StoredGeneration}
    (h : store.generation? record.id = some row) (found : List Line) :
    tally store (.generation record :: found) = ⟨0, 1, 0⟩ + tally store found := by
  have hle := store.length_newcomers_le (found.filterMap Line.record?)
  have hnew := Store.newcomers_of_known h (found.filterMap Line.record?)
  rw [tally, filterMap_record, hnew]
  refine (Report.ext_add (Nat.zero_add _) ?_ (Nat.zero_add _)).symm
  dsimp only [tally]
  rw [List.length_cons]
  omega

theorem tally_of_new {record : Generation} (h : store.generation? record.id = none)
    (found : List Line) :
    tally store (.generation record :: found) = ⟨1, 0, 0⟩ + tally (store.load [record]) found := by
  have hnew := Store.newcomers_of_new h (found.filterMap Line.record?)
  rw [tally, filterMap_record, hnew]
  refine (Report.ext_add (Nat.add_comm ..) ?_ (Nat.zero_add _)).symm
  dsimp only [tally]
  rw [List.length_cons, List.length_cons]
  omega

theorem insert_of_undisturbed (h : pipeline.Undisturbed) (record : Generation) (report : Report) :
    (insert context record report).run pipeline =
      if (pipeline.store.generation? record.id).isSome then
        (.ok (report + ⟨0, 1, 0⟩), pipeline)
      else (.ok (report + ⟨1, 0, 0⟩), { pipeline with store := pipeline.store.load [record] }) := by
  unfold insert
  rw [Attempt.bind_apply]
  cases hknown : (pipeline.store.generation? record.id).isSome with
  | true =>
      have hattempt : Pipeline.insertGeneration record pipeline =
          (.error (.duplicate record.id), pipeline) := by
        rw [Pipeline.insertGeneration, h.onStore, Pipeline.operate, Store.insertGeneration,
          if_pos hknown]
      rw [Context.trying_of_lasting hattempt rfl]
      rfl
  | false =>
      have hattempt : Pipeline.insertGeneration record pipeline =
          (.ok (), { pipeline with store := pipeline.store.load [record] }) := by
        rw [Pipeline.insertGeneration, h.onStore, Pipeline.operate, Store.insertGeneration,
          if_neg (by simp [hknown])]
        rfl
      rw [Context.trying_of_ok hattempt]
      rfl

/-- **What lines do where nothing fails.** The records that are new are put behind the candidates
that are there, and nothing else changes. -/
theorem steps_of_undisturbed (h : pipeline.Undisturbed) (texts : List String) (report : Report) :
    let found := texts.map Line.ofText
    (texts.foldlM (step context) report).run pipeline = (.ok (report + tally pipeline.store found),
      { pipeline with store := pipeline.store.loadNew (found.filterMap Line.record?) }) := by
  intro found
  induction texts generalizing pipeline report with
  | nil =>
      have hstore : pipeline.store.loadNew [] = pipeline.store := by
        simp [Store.loadNew, Store.newcomers, Store.load]
      exact congrArg (Prod.mk (Except.ok report)) (by simp [found, hstore])
  | cons text texts ih =>
      rw [List.foldlM_cons, Attempt.bind_apply, step]
      dsimp only [found]
      rw [List.map_cons]
      cases hline : Line.ofText text with
      | blank => exact ih h report
      | malformed =>
          rw [tally_malformed, ← Report.add_assoc]
          exact ih h (report + ⟨0, 0, 1⟩)
      | generation record =>
          rw [filterMap_record]
          dsimp only
          rw [insert_of_undisturbed h]
          cases hknown : pipeline.store.generation? record.id with
          | some row =>
              rw [tally_of_known hknown, Store.loadNew_of_known hknown, ← Report.add_assoc]
              exact ih h (report + ⟨0, 1, 0⟩)
          | none =>
              rw [tally_of_new hknown, Store.loadNew_of_new hknown, ← Report.add_assoc]
              exact ih (h.withStore (pipeline.store.load [record])) (report + ⟨1, 0, 0⟩)

/-! ### Whole files -/

/-- What the lines of a text are, in their order. -/
def linesOf (text : String) : List Line :=
  (Utility.lines text.toList).map fun line => Line.ofText (String.ofList line)

/-- The records in a text, in the order of their lines. -/
def recordsOf (text : String) : List Generation :=
  (linesOf text).filterMap Line.record?

theorem lines_encode (texts : List String) (report : Report) :
    lines context report (texts.map Text.Utf8.encode) = texts.foldlM (step context) report := by
  induction texts generalizing report with
  | nil => rfl
  | cons text texts ih =>
      rw [List.map_cons, List.foldlM_cons, lines, Text.Utf8.decode_encode]
      exact bind_congr ih

theorem content_of_undisturbed (h : pipeline.Undisturbed) (text : String) :
    (content context (Text.Utf8.encode text)).run pipeline =
      (.ok (tally pipeline.store (linesOf text)),
        { pipeline with store := pipeline.store.loadNew (recordsOf text) }) := by
  rw [content, splitLines_encode, lines_encode, steps_of_undisturbed h, Report.empty_add,
    List.map_map]
  rfl

theorem isBlank_ofText (text : String) :
    (Line.ofText text).isBlank = decide (Text.trim text.toList = []) := by
  unfold Line.ofText
  split_ifs with hblank
  · exact (decide_eq_true hblank).symm
  · rw [decide_eq_false hblank]
    cases Generation.decoder.read? text <;> rfl

theorem length_records_add_malformed (found : List Line) :
    (found.filterMap Line.record?).length + found.countP Line.isMalformed =
      found.countP (!·.isBlank) := by
  induction found with
  | nil => rfl
  | cons line found ih =>
      rw [List.filterMap_cons, List.countP_cons, List.countP_cons, ← ih]
      cases line with
      | blank => rfl
      | malformed => rfl
      | generation record => exact Nat.add_right_comm _ 1 _

/-- Each line that is not blank is counted once. -/
theorem total_tally (store : Store) (text : String) :
    let report := tally store (linesOf text)
    report.inserted + report.duplicates + report.malformed =
      (Utility.lines text.toList).countP (Text.trim · ≠ []) := by
  calc _ = (recordsOf text).length + (linesOf text).countP Line.isMalformed :=
        congrArg (· + _) (Nat.add_sub_cancel' (store.length_newcomers_le _))
    _ = (linesOf text).countP (!·.isBlank) := length_records_add_malformed _
    _ = _ := by
        rw [linesOf, List.countP_map]
        refine List.countP_congr fun line _ => ?_
        simp [isBlank_ofText]

/-- Nothing is new the second time. -/
theorem tally_again (store : Store) (text : String) :
    let report := tally store (linesOf text)
    tally (store.loadNew (recordsOf text)) (linesOf text) =
      ⟨0, report.inserted + report.duplicates, report.malformed⟩ := by
  have hnew : (store.loadNew (recordsOf text)).newcomers (recordsOf text) = [] :=
    store.newcomers_again _
  have hle := store.length_newcomers_le (recordsOf text)
  dsimp only [tally]
  rw [← recordsOf, hnew, List.length_nil, Nat.sub_zero, Nat.add_sub_cancel' hle]

theorem loadNew_again (store : Store) (records : List Generation) :
    (store.loadNew records).loadNew records = store.loadNew records := by
  conv_lhs => rw [Store.loadNew, store.newcomers_again]
  simp [Store.load]

theorem file_of_read {files : Files} {path : String} {bytes : List UInt8}
    (h : files.read path = .ok bytes) : file context files path = content context bytes := by
  rw [file, h]

/-- **Each candidate is loaded once.** A file that is loaded into a store where nothing fails leaves
behind what was there and the first record of each new id, and accounts for all lines that are not
blank. Loading it again finds only duplicates; and if it ends with a line end, loading another one
behind it comes to the same as loading both of them as one file. -/
theorem loads_each_once (context : Context) {pipeline : Pipeline} (h : pipeline.Undisturbed)
    {files : Files} {path text : String}
    (hread : files.read path = .ok (Text.Utf8.encode text)) :
    let new := pipeline.store.newcomers (recordsOf text)
    let later := { pipeline with store := pipeline.store.load new }
    ∃ report, (file context files path).run pipeline = (.ok report, later) ∧
      report.inserted = new.length ∧
      report.inserted + report.duplicates + report.malformed =
        (Utility.lines text.toList).countP (Text.trim · ≠ []) ∧
      (file context files path).run later =
        (.ok ⟨0, report.inserted + report.duplicates, report.malformed⟩, later) ∧
      ∀ other joined more, text.toList.getLast? = some '\n' →
        files.read other = .ok (Text.Utf8.encode more) →
        files.read joined = .ok (Text.Utf8.encode (text ++ more)) →
        ∃ further last, (file context files other).run later = (.ok further, last) ∧
          (file context files joined).run pipeline = (.ok (report + further), last) := by
  intro new later
  have hlater : later.Undisturbed := h.withStore _
  refine ⟨_, (congrArg (·.run pipeline) (file_of_read hread)).trans
    (content_of_undisturbed h text), rfl, total_tally _ _, ?_, ?_⟩
  · have hstore : later.store = pipeline.store.loadNew (recordsOf text) := rfl
    rw [file_of_read hread, content_of_undisturbed hlater, hstore, loadNew_again, tally_again]
    rfl
  · intro other joined more hend hother hjoined
    obtain ⟨front, hfront⟩ := List.getLast?_eq_some_iff.1 hend
    have hbytes : Text.Utf8.encode text = front.flatMap String.utf8EncodeChar ++ [0x0A] := by
      rw [Text.Utf8.encode_eq_flatMap, hfront, List.flatMap_append]
      rfl
    have hmore : (content context _).run later = _ := content_of_undisturbed hlater more
    refine ⟨_, _, (congrArg (·.run later) (file_of_read hother)).trans hmore, ?_⟩
    rw [file_of_read hjoined, Text.Utf8.encode_append, hbytes, List.append_assoc,
      List.singleton_append, content_append, ← hbytes, Attempt.bind_apply,
      content_of_undisturbed h]
    change (content context _ >>= fun _ => pure _ : Attempt Report).run later = _
    rw [Attempt.bind_apply, hmore]
    rfl

/-- Two records of one id, a line of white space and one that is no record. -/
theorem loads_each_once_of_repeated_record :
    let context : Context := ⟨["ivy"], .standard⟩
    let text := "\x7b\"id\":\"g\",\"source\":\"\"\x7d\n \n" ++
      "nope\n\x7b\"id\":\"g\",\"source\":\"x\"\x7d\n"
    let files : Files := ⟨[(["once"], .file [Text.Utf8.encode text]),
      (["twice"], .file [Text.Utf8.encode (text ++ text)])]⟩
    ∃ later, (file context files "/once").run {} = (.ok ⟨1, 1, 1⟩, later) ∧
      (file context files "/once").run later = (.ok ⟨0, 2, 1⟩, later) ∧
      (file context files "/twice").run {} = (.ok ⟨1, 3, 2⟩, later) := by
  intro context text files
  have hundisturbed : Pipeline.Undisturbed {} := ⟨rfl, fun _ => rfl⟩
  have honce : files.read "/once" = .ok (Text.Utf8.encode text) := by decide +kernel
  have htwice : files.read "/twice" = .ok (Text.Utf8.encode (text ++ text)) := by decide +kernel
  have hend : text.toList.getLast? = some '\n' := by decide +kernel
  have htally : tally {} (linesOf text) = ⟨1, 1, 1⟩ := by decide +kernel
  obtain ⟨report, hfirst, -, -, hagain, hjoined⟩ :=
    loads_each_once context hundisturbed honce
  obtain ⟨further, last, hsecond, htwo⟩ := hjoined "/once" "/twice" text hend honce htwice
  have hreport := hfirst
  rw [file_of_read honce, content_of_undisturbed hundisturbed, htally] at hreport
  obtain rfl := Except.ok.inj (congrArg Prod.fst hreport)
  rw [hagain] at hsecond
  obtain rfl := Except.ok.inj (congrArg Prod.fst hsecond)
  obtain rfl := congrArg Prod.snd hsecond
  exact ⟨_, hfirst, hagain, htwo⟩

end Ingest

end Concord
