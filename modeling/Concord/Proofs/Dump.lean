import Mathlib
import Concord.Proofs.Files
import Concord.Proofs.Store.Candidates
import Concord.Proofs.Pipeline
import Concord.Report

/-!
# What a dump leaves in its directory

The file of a candidate is called by its id, and an id may hold slashes. What stands before the last
one of them leads on from the directory, to wherever it leads. So a dump keeps to its directory and
gives each candidate a file of its own exactly if the ids lead back to the directory and differ
behind their last slashes.
-/

namespace Concord.Report

open Files (resolve join steps)

/-! ### Where the files go -/

/-- The part of an id up to its last slash. -/
def leading (id : String) : String :=
  String.ofList (id.toList.rdropWhile (· != '/'))

/-- The part of an id behind its last slash. -/
def lastPart (id : String) : String :=
  String.ofList (id.toList.rtakeWhile (· != '/'))

/-- Where the file of a candidate is. -/
def placeOf (directory id : String) : Place :=
  resolve (dumpPath directory id)

theorem leading_append_lastPart (id : String) :
    (leading id).toList ++ (lastPart id).toList = id.toList := by
  rw [leading, lastPart, String.toList_ofList, String.toList_ofList]
  exact List.rdropWhile_append_rtakeWhile

theorem not_mem_lastPart (id : String) : '/' ∉ (lastPart id).toList := by
  rw [lastPart, String.toList_ofList]
  intro hmem
  have hother := List.mem_rtakeWhile_imp hmem
  exact absurd rfl (bne_iff_ne.1 hother)

theorem lastPart_of_not_mem {id : String} (h : '/' ∉ id.toList) :
    lastPart id = id ∧ leading id = "" := by
  have hall : ∀ c ∈ id.toList, (c != '/') = true := by
    intro c hc
    rw [bne_iff_ne]
    rintro rfl
    exact h hc
  constructor
  · rw [lastPart, List.rtakeWhile_eq_self_iff.2 hall, String.ofList_toList]
  · rw [leading, List.rdropWhile_eq_nil_iff.2 hall, String.ofList_nil]

/-- The part up to the last slash is empty or ends in that slash. -/
theorem leading_cases (id : String) :
    (leading id).toList = [] ∨ ∃ before, (leading id).toList = before ++ ['/'] := by
  rw [leading, String.toList_ofList]
  by_cases hnil : id.toList.rdropWhile (· != '/') = []
  · exact .inl hnil
  · have hlast := List.rdropWhile_last_not _ _ hnil
    rw [bne_iff_ne, not_not] at hlast
    refine .inr ⟨(id.toList.rdropWhile (· != '/')).dropLast, ?_⟩
    conv_lhs => rw [← List.dropLast_append_getLast hnil, hlast]

theorem plain_named {name : String} (h : '/' ∉ name.toList) : Files.Plain (name ++ ".json") := by
  have hlength : 5 ≤ (name ++ ".json").toList.length := by
    rw [String.toList_append, List.length_append]
    exact Nat.le_add_left 5 _
  have hne {other : String} (hshort : other.toList.length < 5) : name ++ ".json" ≠ other := by
    rintro rfl
    omega
  refine ⟨hne (by decide), hne (by decide), hne (by decide), ?_⟩
  rw [String.toList_append, List.mem_append]
  exact not_or.2 ⟨h, by decide⟩

theorem steps_named (id : String) :
    steps (id ++ ".json") = steps (leading id) ++ [lastPart id ++ ".json"] := by
  have hplain := plain_named (not_mem_lastPart id)
  have hname := Files.steps_of_not_mem hplain.1 hplain.2.2.2
  have hchars : (id ++ ".json").toList = (leading id).toList ++ (lastPart id ++ ".json").toList := by
    rw [String.toList_append, ← leading_append_lastPart, List.append_assoc, ← String.toList_append]
  rcases leading_cases id with hnil | ⟨before, hbefore⟩
  · rw [hnil, List.nil_append] at hchars
    have hempty : leading id = "" := String.toList_inj.1 (hnil.trans String.toList_empty.symm)
    rw [String.toList_inj.1 hchars, hempty, Files.steps_empty, hname]
    rfl
  · have hslash : (id ++ ".json").toList = before ++ '/' :: (lastPart id ++ ".json").toList := by
      rw [hchars, hbefore, List.append_assoc]
      rfl
    rw [Files.steps_of_slash hslash, Files.steps_of_slash hbefore, String.ofList_toList, hname,
      String.ofList_nil, Files.steps_empty, List.append_nil]

theorem head?_leading (id : String) :
    (leading id).toList.head? = some '/' ↔ id.toList.head? = some '/' := by
  have hchars := leading_append_lastPart id
  cases hleading : (leading id).toList with
  | cons c rest =>
      rw [hleading] at hchars
      rw [← hchars]
      rfl
  | nil =>
      rw [hleading, List.nil_append] at hchars
      refine iff_of_false nofun fun hhead => ?_
      rw [← hchars] at hhead
      exact not_mem_lastPart id (List.mem_of_mem_head? hhead)

theorem head?_named (id : String) :
    (id ++ ".json").toList.head? = some '/' ↔ id.toList.head? = some '/' := by
  rw [String.toList_append]
  cases id.toList with
  | nil => exact iff_of_false (by decide) nofun
  | cons c rest => exact Iff.rfl

theorem join_absolute (directory : String) {path : String} (h : path.toList.head? = some '/') :
    join directory path = path := by
  unfold join
  split
  · rfl
  · next hrelative =>
      obtain ⟨rest, hrest⟩ := List.head?_eq_some_iff.1 h
      exact absurd hrest (hrelative rest)

/-- The file of a candidate is called by the last part of the id, in the directory that the part
before leads to. -/
theorem placeOf_eq (directory id : String) :
    placeOf directory id = resolve (join directory (leading id)) ++ [lastPart id ++ ".json"] := by
  have hplain := plain_named (not_mem_lastPart id)
  have hsteps : steps (dumpPath directory id) =
      steps (join directory (leading id)) ++ [lastPart id ++ ".json"] := by
    unfold dumpPath
    by_cases habsolute : id.toList.head? = some '/'
    · rw [join_absolute directory ((head?_named id).2 habsolute),
        join_absolute directory ((head?_leading id).2 habsolute), steps_named]
    · rw [Files.steps_join_relative directory (mt (head?_named id).1 habsolute),
        Files.steps_join_relative directory (mt (head?_leading id).1 habsolute), steps_named,
        List.append_assoc]
  rw [placeOf, resolve, hsteps, List.foldl_concat, Files.onward, if_neg hplain.2.1,
    if_neg hplain.2.2.1, resolve]

/-! ### Steps that go through -/

section Steps

variable {α β : Type} {host later : Host}

theorem bind_eq_ok {first : ExceptT Failure (StateM Host) α}
    {next : α → ExceptT Failure (StateM Host) β} {value : β}
    (h : (first >>= next).run host = (.ok value, later)) :
    ∃ found middle, first.run host = (.ok found, middle) ∧
      (next found).run middle = (.ok value, later) := by
  rw [Attempt.bind_apply] at h
  cases hfirst : first.run host with
  | mk answer middle =>
      rw [hfirst] at h
      cases answer with
      | ok found => exact ⟨found, middle, rfl, h⟩
      | error failure => cases h

/-- What is asked leaves the store and the disk as they are. -/
structure Asked (host later : Host) : Prop where
  store : later.pipeline.store = host.pipeline.store
  disk : later.disk = host.disk

theorem asking_eq_ok {access : Access} {operation : Store → Except Store.Fault (α × Store)}
    {value : α} (h : (asking (Pipeline.onStore access operation)).run host = (.ok value, later)) :
    operation host.pipeline.store = .ok (value, later.pipeline.store) ∧ later.disk = host.disk := by
  have hsettled := Pipeline.onStore_settled access operation host.pipeline
  unfold asking Host.onPipeline at h
  simp only [ExceptT.run, ExceptT.mk, bind, StateT.bind] at h
  cases hanswer : Pipeline.onStore access operation host.pipeline with
  | mk answer pipeline =>
      rw [hanswer] at h hsettled
      cases answer with
      | error fault => cases h
      | ok found =>
          cases h
          exact ⟨hsettled, rfl⟩

theorem readable_eq_ok {access : Access} {view : Store → Except Store.Fault α} {value : α}
    (h : (asking (Pipeline.onStore access (Pipeline.readable view))).run host = (.ok value, later)) :
    view host.pipeline.store = .ok value ∧ Asked host later := by
  obtain ⟨hoperation, hdisk⟩ := asking_eq_ok h
  obtain ⟨hview, hstore⟩ := Pipeline.readable_eq_ok_iff.1 hoperation
  exact ⟨hview, hstore, hdisk⟩

theorem look_eq_ok {access : Access} {view : Store → α} {value : α}
    (h : (asking (Pipeline.onStore access (Pipeline.look view))).run host = (.ok value, later)) :
    view host.pipeline.store = value ∧ Asked host later := by
  obtain ⟨hoperation, hdisk⟩ := asking_eq_ok h
  obtain ⟨hview, hstore⟩ := Prod.mk.inj (Except.ok.inj hoperation)
  exact ⟨hview, hstore.symm, hdisk⟩

theorem writing_eq_ok {task : String} {step : StateM Disk (Except Files.Fault Unit)}
    (h : (writing task step).run host = (.ok (), later)) :
    step host.disk = (.ok (), later.disk) ∧ later.pipeline = host.pipeline := by
  unfold writing Host.onDisk at h
  simp only [ExceptT.run, ExceptT.mk, bind, StateT.bind] at h
  cases hanswer : step host.disk with
  | mk answer disk =>
      rw [hanswer] at h
      cases answer with
      | error fault => cases h
      | ok value =>
          cases h
          exact ⟨rfl, rfl⟩

theorem Asked.trans {middle : Host} (h : Asked host middle) (hmore : Asked middle later) :
    Asked host later :=
  ⟨hmore.store.trans h.store, hmore.disk.trans h.disk⟩

end Steps

/-! ### One candidate -/

/-- What the file of a candidate is to hold, if there is a record of it. -/
def contentOf (store : Store) (id : String) : Except Store.Fault (Option (List UInt8)) := do
  match ← store.loadGeneration id with
  | none => pure none
  | some generation => do
      let results ← store.loadRuns id
      let verification ← store.loadVerification id
      pure (some (Text.Utf8.encode
        (document id generation results verification).sorted.prettyText))

/-- Is there a record of a candidate? -/
def recorded (store : Store) (id : String) : Bool :=
  (store.generation? id).isSome

theorem recorded_of_load {store : Store} {id : String} {found : Option Generation}
    (h : store.loadGeneration id = .ok found) : recorded store id = found.isSome := by
  rw [Store.loadGeneration_eq_ok_iff] at h
  unfold recorded
  cases hrow : store.generation? id with
  | none =>
      rw [hrow] at h
      rw [h]
      rfl
  | some row =>
      rw [hrow] at h
      obtain ⟨read, -, rfl⟩ := h
      rfl

/-- What dumping one candidate does: nothing without a record of it, and else one write. -/
theorem dumpOne_eq_ok {directory id : String} {host later : Host} {written : Bool}
    (h : (dumpOne directory id).run host = (.ok written, later)) :
    later.pipeline.store = host.pipeline.store ∧ written = recorded host.pipeline.store id ∧
      if written then ∃ content, contentOf host.pipeline.store id = .ok (some content) ∧
        host.disk.files.write (dumpPath directory id) content = .ok later.disk.files
      else later.disk.files = host.disk.files := by
  unfold dumpOne at h
  obtain ⟨found, first, hfound, h⟩ := bind_eq_ok h
  obtain ⟨hload, hasked⟩ := readable_eq_ok hfound
  have hrecorded := recorded_of_load hload
  cases found with
  | none =>
      cases h
      exact ⟨hasked.store, hrecorded.symm, congrArg Disk.files hasked.disk⟩
  | some generation =>
      obtain ⟨results, second, hresults, h⟩ := bind_eq_ok h
      obtain ⟨hruns, hmore⟩ := readable_eq_ok hresults
      obtain ⟨verification, third, hverification, h⟩ := bind_eq_ok h
      obtain ⟨hverified, hlast⟩ := readable_eq_ok hverification
      obtain ⟨⟨⟩, fourth, hwriting, h⟩ := bind_eq_ok h
      obtain ⟨hwrite, hpipeline⟩ := writing_eq_ok hwriting
      cases h
      rw [hasked.store] at hruns
      rw [hmore.store, hasked.store] at hverified
      have hall := (hasked.trans hmore).trans hlast
      have hfiles := Disk.write_eq_ok hwrite
      rw [hall.disk] at hfiles
      refine ⟨(congrArg Pipeline.store hpipeline).trans hall.store, hrecorded.symm, _, ?_, hfiles⟩
      simp only [contentOf, hload, hruns, hverified, bind, Except.bind, pure, Except.pure]

/-! ### All candidates -/

/-- What comes to be at a place when some files are written one after the other. -/
def settle (directory : String) (place : Place) (files : List (String × List UInt8))
    (entry : Option Entry) : Option Entry :=
  files.foldl (fun entry file =>
    if place = placeOf directory file.1 then some (Files.rewritten (fun _ => [file.2]) entry)
    else entry) entry

/-- The files of some candidates, each with its content, are those that were written. -/
structure Dumped (directory : String) (store : Store) (ids : List String)
    (files : List (String × List UInt8)) (before later : Files) : Prop where
  ids : files.map Prod.fst = ids.filter (recorded store)
  content : ∀ file ∈ files, contentOf store file.1 = .ok (some file.2)
  settled : ∀ place, later.entry? place = settle directory place files (before.entry? place)

theorem Dumped.skip {directory id : String} {store : Store} {ids : List String}
    {files : List (String × List UInt8)} {before later : Files}
    (h : Dumped directory store ids files before later) (hnone : recorded store id = false) :
    Dumped directory store (id :: ids) files before later where
  ids := by rw [h.ids, List.filter_cons_of_neg (by rw [hnone]; exact Bool.false_ne_true)]
  content := h.content
  settled := h.settled

theorem Dumped.cons {directory id : String} {store : Store} {ids : List String}
    {files : List (String × List UInt8)} {content : List UInt8} {before middle later : Files}
    (h : Dumped directory store ids files middle later)
    (hcontent : contentOf store id = .ok (some content)) (hrecorded : recorded store id = true)
    (hwrite : before.write (dumpPath directory id) content = .ok middle) :
    Dumped directory store (id :: ids) ((id, content) :: files) before later where
  ids := by rw [List.map_cons, h.ids, List.filter_cons_of_pos hrecorded]
  content := by
    intro file hfile
    rcases List.mem_cons.1 hfile with rfl | hfile
    · exact hcontent
    · exact h.content file hfile
  settled := by
    intro place
    rw [h.settled, Files.entry?_writeWith hwrite]
    rfl

theorem dumpAll_eq_ok {directory : String} {ids : List String} {host later : Host} {count : Nat}
    (h : (dumpAll directory ids).run host = (.ok count, later)) :
    ∃ files, count = files.length ∧
      Dumped directory host.pipeline.store ids files host.disk.files later.disk.files := by
  induction ids generalizing host count with
  | nil =>
      cases h
      exact ⟨[], rfl, rfl, nofun, fun _ => rfl⟩
  | cons id ids ih =>
      obtain ⟨written, middle, hone, h⟩ := bind_eq_ok h
      obtain ⟨more, last, hall, h⟩ := bind_eq_ok h
      cases h
      obtain ⟨hstore, hrecorded, heffect⟩ := dumpOne_eq_ok hone
      obtain ⟨files, rfl, hdumped⟩ := ih hall
      rw [hstore] at hdumped
      cases written with
      | false =>
          rw [show middle.disk.files = _ from heffect] at hdumped
          exact ⟨files, Nat.zero_add _, hdumped.skip hrecorded.symm⟩
      | true =>
          obtain ⟨content, hcontent, hwrite⟩ := heffect
          exact ⟨(id, content) :: files, Nat.add_comm _ _,
            hdumped.cons hcontent hrecorded.symm hwrite⟩

/-- What a dump does: it makes directories where nothing was, and then writes the files. -/
theorem dump_eq_ok {directory : String} {host later : Host} {count : Nat}
    (h : (dump directory).run host = (.ok count, later)) :
    ∃ made files, (∀ place, Files.Grown place host.disk.files made) ∧ count = files.length ∧
      Dumped directory host.pipeline.store host.pipeline.store.verified files made
        later.disk.files := by
  obtain ⟨⟨⟩, first, hmaking, h⟩ := bind_eq_ok h
  obtain ⟨hmade, hpipeline⟩ := writing_eq_ok hmaking
  obtain ⟨ids, second, hasking, h⟩ := bind_eq_ok h
  obtain ⟨hverified, hasked⟩ := look_eq_ok hasking
  obtain ⟨files, hcount, hdumped⟩ := dumpAll_eq_ok h
  rw [hasked.store, hasked.disk, ← hverified, hpipeline] at hdumped
  refine ⟨first.disk.files, files, fun place => ?_, hcount, hdumped⟩
  have hgrown := Disk.grows_makeDirectories (Files.grows_grown place) directory host.disk
  rwa [hmade] at hgrown

/-! ### What is at a place in the end -/

section Settle

variable {directory : String} {place : Place} {files : List (String × List UInt8)}
  {entry : Option Entry}

theorem settle_of_apart (h : ∀ file ∈ files, place ≠ placeOf directory file.1) :
    settle directory place files entry = entry := by
  induction files generalizing entry with
  | nil => rfl
  | cons file files ih =>
      obtain ⟨hfile, hfiles⟩ := List.forall_mem_cons.1 h
      rw [settle, List.foldl_cons, if_neg hfile]
      exact ih hfiles

/-- Sinks and programs stay what they are when they are written to. -/
def Fixed (entry : Option Entry) : Prop :=
  entry = some .sink ∨ entry = some .program

theorem Fixed.settle (h : Fixed entry) (directory : String) (place : Place)
    (files : List (String × List UInt8)) : settle directory place files entry = entry := by
  induction files with
  | nil => rfl
  | cons file files ih =>
      have hfile : some (Files.rewritten (fun _ => [file.2]) entry) = entry := by
        rcases h with rfl | rfl <;> rfl
      rw [Report.settle, List.foldl_cons, hfile, ite_self]
      exact ih

/-- A file that is the only one at its place is there in the end. -/
theorem settle_of_mem {file : String × List UInt8} (hmem : file ∈ files)
    (hnodup : (files.map fun file => placeOf directory file.1).Nodup) :
    settle directory (placeOf directory file.1) files entry =
      some (Files.rewritten (fun _ => [file.2]) entry) := by
  induction files generalizing entry with
  | nil => cases hmem
  | cons first files ih =>
      obtain ⟨hfirst, hrest⟩ := List.nodup_cons.1 hnodup
      rcases List.mem_cons.1 hmem with rfl | hmem
      · rw [settle, List.foldl_cons, if_pos rfl]
        refine settle_of_apart fun other hother heq => hfirst ?_
        exact List.mem_map.2 ⟨other, hother, heq.symm⟩
      · have hne : placeOf directory file.1 ≠ placeOf directory first.1 := by
          intro heq
          exact hfirst (List.mem_map.2 ⟨file, hmem, heq⟩)
        rw [settle, List.foldl_cons, if_neg hne]
        exact ih hmem hrest

end Settle

/-! ### Tidy dumps -/

/-- The verified candidates that there is a record of. -/
def dumped (store : Store) : List String :=
  store.verified.filter (recorded store)

/-- A dump keeps to its directory: each candidate has a file of its own, directly in there, which
holds what is known of it, nothing changes outside but for directories that come into being where
nothing was, and as many files are counted as there are. -/
structure Tidy (directory : String) (store : Store) (before later : Files) (count : Nat) :
    Prop where
  inside : ∀ id ∈ dumped store, ∃ name, placeOf directory id = resolve directory ++ [name]
  apart : ∀ id ∈ dumped store, ∀ other ∈ dumped store,
    placeOf directory id = placeOf directory other → id = other
  written : ∀ id ∈ dumped store, ∃ content, contentOf store id = .ok (some content) ∧
    later.entry? (placeOf directory id) = some (.file [content])
  untouched : ∀ place, Files.inside (resolve directory) place = false →
    Files.Grown place before later
  counted : count = ((dumped store).map (placeOf directory)).dedup.length

/-- The ids lead back to the directory, differ behind their last slashes, and belong to no sink or
program. -/
structure Leads (directory : String) (store : Store) (before : Files) : Prop where
  back : ∀ id ∈ dumped store, resolve (join directory (leading id)) = resolve directory
  differ : ((dumped store).map lastPart).Nodup
  free : ∀ id ∈ dumped store, ¬ Fixed (before.entry? (placeOf directory id))

theorem fixed_of_grown {place : Place} {files later : Files} (h : Files.Grown place files later) :
    Fixed (later.entry? place) ↔ Fixed (files.entry? place) := by
  rcases h with heq | ⟨hnone, hdirectory⟩
  · rw [heq]
  · rw [hnone, hdirectory]
    exact iff_of_false (by rintro (⟨⟨⟩⟩ | ⟨⟨⟩⟩)) (by rintro (⟨⟨⟩⟩ | ⟨⟨⟩⟩))

theorem inside_concat (directory : Place) (name : String) :
    Files.inside directory (directory ++ [name]) = true := by
  simp [Files.inside]

theorem rewritten_of_not_fixed {entry : Option Entry} (h : ¬ Fixed entry) (content : List UInt8) :
    Files.rewritten (fun _ => [content]) entry = .file [content] := by
  match entry with
  | none => rfl
  | some (.file pieces) => rfl
  | some .directory => rfl
  | some .sink => exact absurd (.inl rfl) h
  | some .program => exact absurd (.inr rfl) h

/-- Where the ids lead back, two files are at one place exactly if the last parts agree. -/
theorem placeOf_eq_iff {directory id other : String}
    (hid : resolve (join directory (leading id)) = resolve directory)
    (hother : resolve (join directory (leading other)) = resolve directory) :
    placeOf directory id = placeOf directory other ↔ lastPart id = lastPart other := by
  rw [placeOf_eq, placeOf_eq, hid, hother]
  constructor
  · intro heq
    have hname := List.singleton_inj.1 (List.append_cancel_left heq)
    have hchars := congrArg String.toList hname
    rw [String.toList_append, String.toList_append] at hchars
    exact String.toList_inj.1 (List.append_cancel_right hchars)
  · intro heq
    rw [heq]

section Tidy

variable {directory : String} {store : Store} {before made later : Files} {count : Nat}
  {files : List (String × List UInt8)}

theorem Tidy.leads (h : Tidy directory store before later count)
    (hgrown : ∀ place, Files.Grown place before made)
    (hdumped : Dumped directory store store.verified files made later)
    (hnodup : store.verified.Nodup) : Leads directory store before := by
  have hback : ∀ id ∈ dumped store, resolve (join directory (leading id)) = resolve directory := by
    intro id hid
    obtain ⟨name, hname⟩ := h.inside id hid
    rw [placeOf_eq] at hname
    exact (List.append_inj' hname rfl).1
  refine ⟨hback, ?_, fun id hid hfixed => ?_⟩
  · refine (List.nodup_map_iff_inj_on (hnodup.filter _)).2 fun id hid other hother heq => ?_
    exact h.apart id hid other hother
      ((placeOf_eq_iff (hback id hid) (hback other hother)).2 heq)
  · -- What is fixed stays fixed, but there is a file.
    obtain ⟨content, -, hlater⟩ := h.written id hid
    have hmade := (fixed_of_grown (hgrown (placeOf directory id))).2 hfixed
    rw [hdumped.settled, hmade.settle] at hlater
    rw [hlater] at hmade
    rcases hmade with ⟨⟨⟩⟩ | ⟨⟨⟩⟩

theorem Leads.nodup_places (h : Leads directory store before)
    (hnodup : store.verified.Nodup) : ((dumped store).map (placeOf directory)).Nodup := by
  refine (List.nodup_map_iff_inj_on (hnodup.filter _)).2 fun id hid other hother heq => ?_
  refine List.inj_on_of_nodup_map h.differ hid hother ?_
  exact (placeOf_eq_iff (h.back id hid) (h.back other hother)).1 heq

theorem Leads.placeOf (h : Leads directory store before) {id : String}
    (hid : id ∈ dumped store) :
    placeOf directory id = resolve directory ++ [lastPart id ++ ".json"] := by
  rw [placeOf_eq, h.back id hid]

theorem Leads.tidy (h : Leads directory store before)
    (hgrown : ∀ place, Files.Grown place before made)
    (hdumped : Dumped directory store store.verified files made later)
    (hnodup : store.verified.Nodup) : Tidy directory store before later files.length := by
  have hids : files.map Prod.fst = dumped store := hdumped.ids
  have hplaces := h.nodup_places hnodup
  rw [← hids, List.map_map] at hplaces
  refine ⟨fun id hid => ⟨_, h.placeOf hid⟩, fun id hid other hother heq => ?_, fun id hid => ?_,
    fun place hplace => ?_, ?_⟩
  · exact List.inj_on_of_nodup_map (h.nodup_places hnodup) hid hother heq
  · -- No other file comes to this place, so the content is still there in the end.
    obtain ⟨file, hfile, rfl⟩ := List.mem_map.1 (hids ▸ hid : id ∈ files.map Prod.fst)
    have hfree : ¬ Fixed (made.entry? (Report.placeOf directory file.1)) :=
      mt (fixed_of_grown (hgrown _)).1 (h.free file.1 hid)
    refine ⟨file.2, hdumped.content file hfile, ?_⟩
    rw [hdumped.settled, settle_of_mem hfile hplaces, rewritten_of_not_fixed hfree]
  · have happart : ∀ file ∈ files, place ≠ Report.placeOf directory file.1 := by
      rintro file hfile rfl
      have hid : file.1 ∈ dumped store := hids ▸ List.mem_map_of_mem hfile
      rw [h.placeOf hid, inside_concat] at hplace
      cases hplace
    unfold Files.Grown
    rw [hdumped.settled, settle_of_apart happart]
    exact hgrown place
  · rw [(h.nodup_places hnodup).dedup, List.length_map, ← hids, List.length_map]

end Tidy

/-- Ids without slashes lead back, and differ as they are. -/
theorem leads_of_no_slashes {directory : String} {store : Store} {before : Files}
    (hslash : ∀ id ∈ dumped store, '/' ∉ id.toList) (hnodup : store.verified.Nodup)
    (hfree : ∀ id ∈ dumped store, ¬ Fixed (before.entry? (placeOf directory id))) :
    Leads directory store before where
  back := by
    intro id hid
    have hhead : "".toList.head? ≠ some '/' := by decide
    rw [(lastPart_of_not_mem (hslash id hid)).2, resolve,
      Files.steps_join_relative directory hhead, Files.steps_empty, List.append_nil, resolve]
  differ := by
    have hsame : ∀ id ∈ dumped store, lastPart id = id :=
      fun id hid => (lastPart_of_not_mem (hslash id hid)).1
    rw [List.map_congr_left hsame, List.map_id']
    exact hnodup.filter _
  free := hfree

/-- **When a dump keeps to its directory.** Every dump that succeeds gives each verified candidate
that there is a record of a file of its own in the directory, touches nothing outside and counts
the files, exactly if the ids lead back to the directory and differ behind their last slashes, and
no sink or program is in the way. -/
theorem tidy_iff {directory : String} {operations : List Store.Operation} {host later : Host}
    {count : Nat} (hstore : host.pipeline.store = Store.after operations)
    (hrun : (dump directory).run host = (.ok count, later)) :
    Tidy directory host.pipeline.store host.disk.files later.disk.files count ↔
      Leads directory host.pipeline.store host.disk.files := by
  have hnodup : host.pipeline.store.verified.Nodup := by
    rw [hstore]
    exact Store.nodup_verifications operations
  obtain ⟨made, files, hgrown, rfl, hdumped⟩ := dump_eq_ok hrun
  exact ⟨fun htidy => htidy.leads hgrown hdumped hnodup,
    fun hleads => hleads.tidy hgrown hdumped hnodup⟩

/-- A candidate that is inserted, run and verified. -/
def verifiedHistory (id : String) : List Store.Operation :=
  [.insertGeneration ⟨id, "f()", .empty, .empty, [], none⟩, .upsertRun ⟨id, "ivy", [], false⟩,
    .recordVerification ⟨id, ["ivy"], [], false⟩]

/-- A machine with an empty disk and some verified candidates. -/
def holding (ids : List String) : Host where
  pipeline := { store := Store.after (ids.flatMap verifiedHistory) }

theorem store_holding (ids : List String) :
    (holding ids).pipeline.store = Store.after (ids.flatMap verifiedHistory) :=
  rfl

theorem dump_plain_tidy : ∃ later, (dump "dump").run (holding ["g"]) = (.ok 1, later) ∧
    Tidy "dump" (holding ["g"]).pipeline.store (holding ["g"]).disk.files later.disk.files 1 := by
  have hanswer : ((dump "dump").run (holding ["g"])).1 = .ok 1 := by decide +kernel
  have hdumped : dumped (holding ["g"]).pipeline.store = ["g"] := by decide +kernel
  have hverified : (holding ["g"]).pipeline.store.verified.Nodup := by decide +kernel
  cases hrun : (dump "dump").run (holding ["g"]) with
  | mk answer later =>
      rw [hrun] at hanswer
      obtain rfl : answer = .ok 1 := hanswer
      refine ⟨later, rfl, (tidy_iff (store_holding _) hrun).2 ?_⟩
      refine leads_of_no_slashes ?_ hverified ?_
      · rw [hdumped]
        decide
      · rw [hdumped, List.forall_mem_singleton]
        rintro (⟨⟨⟩⟩ | ⟨⟨⟩⟩)

/-- The file of a candidate whose id climbs out of the directory comes to be outside of it. -/
theorem climbing_id_not_tidy : ∃ later, (dump "dump").run (holding ["../g"]) = (.ok 1, later) ∧
    ¬ Tidy "dump" (holding ["../g"]).pipeline.store (holding ["../g"]).disk.files
      later.disk.files 1 := by
  have hresult : ((dump "dump").run (holding ["../g"])).1 = .ok 1 ∧
      (((dump "dump").run (holding ["../g"])).2.disk.files.entry? ["g.json"]).any
        (· ≠ .directory) = true := by decide +kernel
  have houtside : Files.inside (resolve "dump") ["g.json"] = false := by decide
  cases hrun : (dump "dump").run (holding ["../g"]) with
  | mk answer later =>
      rw [hrun] at hresult
      obtain ⟨rfl, hfile⟩ : answer = .ok 1 ∧ _ := hresult
      refine ⟨later, rfl, fun htidy => ?_⟩
      rcases htidy.untouched ["g.json"] houtside with hsame | ⟨-, hdirectory⟩
      · rw [show later.disk.files.entry? ["g.json"] = none from hsame] at hfile
        cases hfile
      · rw [show later.disk.files.entry? ["g.json"] = _ from hdirectory] at hfile
        cases hfile

end Concord.Report
