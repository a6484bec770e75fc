import Mathlib
import Concord.Files

/-!
# What is written where

A path leads to one place, whatever is on the disk. Writing adds to what was written at that place
or replaces it, and everything else that was written stays.
-/

namespace Concord.Files

/-! ### Where paths lead -/

/-- One name further. -/
def onward (place : Place) (name : String) : Place :=
  if name = "." then place else if name = ".." then place.dropLast else place ++ [name]

/-- The place that a path leads to if there are directories all the way. -/
def resolve (path : String) : Place :=
  (steps path).foldl onward []

variable {files : Files}

theorem enter_eq_ok {place next : Place} {name : String} (h : files.enter place name = .ok next) :
    next = place ++ [name] := by
  unfold enter at h
  split at h
  · cases h
  · split at h
    · exact (Except.ok.inj h).symm
    · cases h
    · cases h

theorem walk_eq_ok {place next : Place} {names : List String}
    (h : files.walk place names = .ok next) : next = names.foldl onward place := by
  induction names generalizing place with
  | nil => exact (Except.ok.inj h).symm
  | cons name rest ih =>
      rw [List.foldl_cons]
      unfold walk at h
      by_cases hdot : name = "."
      · rw [if_pos hdot] at h
        rw [onward, if_pos hdot]
        exact ih h
      · by_cases hup : name = ".."
        · rw [if_neg hdot, if_pos hup] at h
          rw [onward, if_neg hdot, if_pos hup]
          exact ih h
        · rw [if_neg hdot, if_neg hup] at h
          cases henter : files.enter place name with
          | error fault =>
              rw [henter] at h
              cases h
          | ok entered =>
              rw [henter] at h
              rw [onward, if_neg hdot, if_neg hup, ← enter_eq_ok henter]
              exact ih h

theorem spot_eq_ok {path last : String} {ending : Ending} {found : Spot}
    (h : files.spot path last ending = .ok found) :
    found = ⟨(steps path).dropLast.foldl onward [] ++ [last], ending⟩ := by
  unfold spot at h
  cases hwalk : files.walk [] (steps path).dropLast with
  | error fault =>
      rw [hwalk] at h
      cases h
  | ok above =>
      rw [hwalk] at h
      change (if nameAtMost < last.utf8ByteSize then _ else _) = _ at h
      split at h
      · cases h
      · rw [← walk_eq_ok hwalk]
        exact (Except.ok.inj h).symm

theorem ending_eq {path last : String} (h : ending path = .name last ∨ ending path = .slash last) :
    (steps path).getLast? = some last ∧ last ≠ "." ∧ last ≠ ".." := by
  unfold ending at h
  cases hlast : (steps path).getLast? with
  | none =>
      rw [hlast] at h
      rcases h with h | h <;> cases h
  | some found =>
      rw [hlast] at h
      dsimp only at h
      split at h
      · rcases h with h | h <;> cases h
      · next hspecial =>
          obtain rfl : found = last := by
            split at h <;> rcases h with h | h <;> cases h <;> rfl
          exact ⟨rfl, not_or.1 hspecial⟩

theorem resolve_of_ending {path last : String}
    (h : ending path = .name last ∨ ending path = .slash last) :
    resolve path = (steps path).dropLast.foldl onward [] ++ [last] := by
  obtain ⟨hlast, hdot, hup⟩ := ending_eq h
  obtain ⟨above, habove⟩ := List.getLast?_eq_some_iff.1 hlast
  rw [resolve, habove, List.dropLast_concat, List.foldl_concat, onward, if_neg hdot, if_neg hup]

/-- Whatever a path ends with, it is located at the place that it leads to. -/
theorem locate_eq_ok {path : String} {found : Spot} (h : files.locate path = .ok found) :
    found.place = resolve path := by
  unfold locate at h
  split at h
  · cases h
  split at h
  · cases h
  split at h
  · cases h
  split at h
  · next last hending =>
      obtain rfl := spot_eq_ok h
      exact (resolve_of_ending (.inl hending)).symm
  · next last hending =>
      obtain rfl := spot_eq_ok h
      exact (resolve_of_ending (.inr hending)).symm
  · next hending =>
      cases hwalk : files.walk [] (steps path) with
      | error fault =>
          rw [hwalk] at h
          cases h
      | ok place =>
          rw [hwalk] at h
          obtain rfl := Except.ok.inj h
          exact walk_eq_ok hwalk

theorem find_eq_ok {path : String} {place : Place} {entry : Entry}
    (h : files.find path = .ok (place, entry)) :
    place = resolve path ∧ files.entry? place = some entry := by
  unfold find at h
  cases hlocate : files.locate path with
  | error fault =>
      rw [hlocate] at h
      cases h
  | ok found =>
      rw [hlocate] at h
      simp only [bind, Except.bind] at h
      rw [← locate_eq_ok hlocate]
      split at h
      · cases h
      · next hentry =>
          obtain ⟨rfl, rfl⟩ := Prod.mk.inj (Except.ok.inj h)
          exact ⟨rfl, hentry⟩
      · cases h
      · next hentry _ =>
          obtain ⟨rfl, rfl⟩ := Prod.mk.inj (Except.ok.inj h)
          exact ⟨rfl, hentry⟩

/-- A file is written at the place that its path leads to, and there is no directory. -/
theorem writable_eq_ok {path : String} {place : Place} (h : files.writable path = .ok place) :
    place = resolve path ∧ files.entry? place ≠ some .directory := by
  unfold writable at h
  cases hlocate : files.locate path with
  | error fault =>
      rw [hlocate] at h
      cases h
  | ok found =>
      rw [hlocate] at h
      simp only [bind, Except.bind] at h
      split at h
      · split at h
        · cases h
        · next hdirectory =>
            obtain rfl := Except.ok.inj h
            refine ⟨locate_eq_ok hlocate, fun hentry => hdirectory ?_⟩
            unfold isDirectory
            rw [hentry]
            exact beq_self_eq_true _
      · cases h

/-! ### What is kept -/

theorem entry?_of_ne_nil {place : Place} (h : place ≠ []) :
    files.entry? place = files.entries.lookup place :=
  if_neg h

theorem lookup_map_put (place : Place) (entry : Entry) (other : Place)
    (entries : List (Place × Entry)) :
    (entries.map fun old => if old.1 = place then (place, entry) else old).lookup other =
      if other = place then (entries.lookup place).map fun _ => entry
      else entries.lookup other := by
  induction entries with
  | nil => split <;> rfl
  | cons old rest ih =>
      obtain ⟨there, kept⟩ := old
      rw [List.map_cons]
      by_cases hthere : there = place
      · subst hthere
        rw [if_pos rfl, List.lookup_cons, List.lookup_cons, List.lookup_cons]
        by_cases hother : other = there
        · subst hother
          simp
        · rw [beq_false_of_ne hother, if_neg hother]
          rw [if_neg hother] at ih
          exact ih
      · rw [if_neg hthere, List.lookup_cons, ih]
        by_cases hother : other = place
        · subst hother
          rw [if_pos rfl, if_pos rfl, List.lookup_cons]
          have hne : (other == there) = false := beq_false_of_ne (Ne.symm hthere)
          rw [hne]
        · rw [if_neg hother, if_neg hother, List.lookup_cons]

theorem lookup_append_singleton (place : Place) (entry : Entry) (other : Place)
    (entries : List (Place × Entry)) (hnone : entries.lookup place = none) :
    (entries ++ [(place, entry)]).lookup other =
      if other = place then some entry else entries.lookup other := by
  rw [List.lookup_append]
  by_cases hother : other = place
  · subst hother
    rw [hnone, if_pos rfl]
    simp
  · rw [if_neg hother, List.lookup_cons, beq_false_of_ne hother]
    cases entries.lookup other <;> rfl

theorem entry?_put {place : Place} (h : place ≠ []) (entry : Entry) (other : Place) :
    Files.entry? (files.put place entry) other =
      if other = place then some entry else files.entry? other := by
  by_cases hroot : other = []
  · subst hroot
    rw [if_neg (Ne.symm h)]
    rfl
  · rw [entry?_of_ne_nil hroot, entry?_of_ne_nil hroot]
    unfold put
    split
    · next hthere =>
        rw [lookup_map_put]
        obtain ⟨old, hold⟩ := Option.isSome_iff_exists.1 hthere
        rw [hold, Option.map_some]
    · next hnone =>
        exact lookup_append_singleton place entry other _ (Option.not_isSome_iff_eq_none.1 hnone)

/-- The pieces that were written at a place, if they are kept there. -/
def written? (files : Files) (place : Place) : Option (List (List UInt8)) :=
  match files.entry? place with
  | some (.file pieces) => some pieces
  | some .sink => none
  | some .program => none
  | _ => some []

theorem written?_put_directory {place : Place} (hnone : files.entry? place = none) (other : Place) :
    (files.put place .directory).written? other = files.written? other := by
  have hplace : place ≠ [] := by
    rintro rfl
    cases hnone
  unfold written?
  rw [entry?_put hplace]
  by_cases hother : other = place
  · rw [if_pos hother, hother, hnone]
  · rw [if_neg hother]

/-! ### Writing -/

theorem resolve_ne_nil_of_writable {path : String} {place : Place}
    (h : files.writable path = .ok place) : place ≠ [] := by
  rintro rfl
  exact (writable_eq_ok h).2 rfl

/-- What is at a place after it was written to. A directory cannot be written to. -/
def rewritten (content : List (List UInt8) → List (List UInt8)) : Option Entry → Entry
  | some (.file pieces) => .file (content pieces)
  | some .sink => .sink
  | some .program => .program
  | _ => .file (content [])

/-- What is at a place after a write, which changes one place. -/
theorem entry?_writeWith {path : String} {content : List (List UInt8) → List (List UInt8)}
    {later : Files} (h : files.writeWith path content = .ok later) (place : Place) :
    later.entry? place =
      if place = resolve path then some (rewritten content (files.entry? place))
      else files.entry? place := by
  unfold writeWith at h
  cases hwritable : files.writable path with
  | error fault =>
      rw [hwritable] at h
      cases h
  | ok found =>
      obtain ⟨hfound, hdirectory⟩ := writable_eq_ok hwritable
      have hne := resolve_ne_nil_of_writable hwritable
      rw [hwritable] at h
      simp only [bind, Except.bind] at h
      rw [← hfound]
      split at h
      · next pieces hentry =>
          obtain rfl := Except.ok.inj h
          rw [entry?_put hne]
          refine if_ctx_congr Iff.rfl (fun heq => ?_) fun _ => rfl
          rw [heq, hentry, rewritten]
      · next other hother hentry =>
          obtain rfl := Except.ok.inj h
          split
          · next heq =>
              rw [heq, hentry]
              cases other with
              | directory => exact absurd hentry hdirectory
              | file pieces => exact absurd rfl (hother pieces)
              | sink | program => rfl
          · rfl
      · next hentry =>
          obtain rfl := Except.ok.inj h
          rw [entry?_put hne]
          refine if_ctx_congr Iff.rfl (fun heq => ?_) fun _ => rfl
          rw [heq, hentry]
          rfl

/-- A file that is written changes as it should, and nothing else does. -/
theorem written?_writeWith {path : String} {content : List (List UInt8) → List (List UInt8)}
    {later : Files} (h : files.writeWith path content = .ok later) (place : Place) :
    later.written? place =
      if place = resolve path then (files.written? place).map content
      else files.written? place := by
  have hentry := entry?_writeWith h place
  split
  · next heq =>
      rw [if_pos heq] at hentry
      unfold written?
      rw [hentry]
      cases files.entry? place with
      | none => rfl
      | some entry => cases entry <;> rfl
  · next hne =>
      rw [if_neg hne] at hentry
      unfold written?
      rw [hentry]

/-! ### Directories -/

/-- A relation between what was there and what is there, which holds however many directories come
into being where nothing was. -/
structure Grows (related : Files → Files → Prop) : Prop where
  refl : ∀ files, related files files
  trans : ∀ {files middle later}, related files middle → related middle later → related files later
  put : ∀ {files : Files} {place : Place}, files.entry? place = none →
    related files (files.put place .directory)

section Grows

variable {related : Files → Files → Prop} (hgrows : Grows related)
include hgrows

theorem Grows.makeDirectory {path : String} {later : Files}
    (h : files.makeDirectory path = .ok later) : related files later := by
  unfold Files.makeDirectory at h
  cases hlocate : files.locate path with
  | error fault =>
      rw [hlocate] at h
      cases h
  | ok found =>
      rw [hlocate] at h
      simp only [bind, Except.bind] at h
      split at h
      · cases h
      · cases h
      · next hnone _ =>
          obtain rfl := Except.ok.inj h
          exact hgrows.put hnone

theorem Grows.ensureDirectory {path : String} {later : Files}
    (h : files.ensureDirectory path = .ok later) : related files later := by
  unfold Files.ensureDirectory at h
  split at h
  · next made hmade =>
      obtain rfl := Except.ok.inj h
      exact hgrows.makeDirectory hmade
  · split at h
    · obtain rfl := Except.ok.inj h
      exact hgrows.refl files
    · cases h

theorem Grows.ensureAfter {above : Files → Except Fault Unit × Files} (path : String)
    (habove : ∀ files : Files, related files (above files).2) :
    related files (files.ensureAfter above path).2 := by
  unfold Files.ensureAfter
  split
  · next made hmade => exact hgrows.ensureDirectory hmade
  · have hmade := habove files
    split
    · next made heq =>
        rw [heq] at hmade
        split
        · next full hfull => exact hgrows.trans hmade (hgrows.ensureDirectory hfull)
        · exact hmade
    · exact hmade
  · exact hgrows.refl files

theorem Grows.makeUpwards (rooted : Bool) (names : List String) (files : Files) :
    related files (Files.makeUpwards rooted names files).2 := by
  induction names generalizing files with
  | nil => exact hgrows.refl files
  | cons name above ih => exact hgrows.ensureAfter _ ih

theorem Grows.makeDirectories (path : String) (files : Files) :
    related files (files.makeDirectories path).2 := by
  unfold Files.makeDirectories
  split
  · exact hgrows.refl files
  · split
    · exact hgrows.refl files
    · exact hgrows.ensureAfter _ (hgrows.makeUpwards _ _)

end Grows

/-- However many directories are made, nothing that was written changes. -/
theorem grows_written (place : Place) :
    Grows fun files later => later.written? place = files.written? place :=
  ⟨fun _ => rfl, fun h hmore => hmore.trans h, fun hnone => written?_put_directory hnone place⟩

/-- A place is as it was, or there is a directory where nothing was. -/
def Grown (place : Place) (files later : Files) : Prop :=
  later.entry? place = files.entry? place ∨
    files.entry? place = none ∧ later.entry? place = some .directory

theorem grows_grown (place : Place) : Grows (Grown place) where
  refl _ := .inl rfl
  trans := by
    rintro files middle later (h | ⟨hnone, h⟩) (hmore | ⟨hmiddle, hmore⟩)
    · exact .inl (hmore.trans h)
    · exact .inr ⟨h.symm.trans hmiddle, hmore⟩
    · exact .inr ⟨hnone, hmore.trans h⟩
    · cases h.symm.trans hmiddle
  put := by
    intro files there hnone
    have hthere : there ≠ [] := by
      rintro rfl
      cases hnone
    unfold Grown
    rw [entry?_put hthere]
    by_cases heq : place = there
    · rw [if_pos heq, heq]
      exact .inr ⟨hnone, rfl⟩
    · rw [if_neg heq]
      exact .inl rfl

/-! ### Names below a directory -/

/-- A name without special meaning. -/
def Plain (name : String) : Prop :=
  name ≠ "" ∧ name ≠ "." ∧ name ≠ ".." ∧ '/' ∉ name.toList

theorem split_ne_nil (mark : Char) (chars : List Char) : Text.split mark chars ≠ [] := by
  cases chars with
  | nil => nofun
  | cons c rest =>
      unfold Text.split
      split
      · nofun
      · split <;> nofun

theorem split_append_mark (mark : Char) (before rest : List Char) :
    Text.split mark (before ++ mark :: rest) = Text.split mark before ++ Text.split mark rest := by
  induction before with
  | nil =>
      rw [List.nil_append]
      conv_lhs => rw [Text.split, if_pos rfl]
      rfl
  | cons c before ih =>
      rw [List.cons_append]
      by_cases hmark : c = mark
      · rw [Text.split, if_pos hmark, ih, Text.split, if_pos hmark]
        rfl
      · rw [Text.split, if_neg hmark, ih, Text.split, if_neg hmark]
        cases hsplit : Text.split mark before with
        | nil => exact absurd hsplit (split_ne_nil mark before)
        | cons piece more => rfl

theorem split_of_not_mem {mark : Char} {chars : List Char} (h : mark ∉ chars) :
    Text.split mark chars = [chars] := by
  induction chars with
  | nil => rfl
  | cons c rest ih =>
      have hmark : c ≠ mark := fun heq => h (heq ▸ List.mem_cons_self)
      rw [Text.split, if_neg hmark, ih fun hmem => h (List.mem_cons_of_mem _ hmem)]

theorem steps_of_slash {path : String} {before rest : List Char}
    (h : path.toList = before ++ '/' :: rest) :
    steps path = steps (String.ofList before) ++ steps (String.ofList rest) := by
  unfold steps
  rw [h, split_append_mark, List.map_append, List.filter_append, String.toList_ofList,
    String.toList_ofList]

theorem steps_of_not_mem {path : String} (hne : path ≠ "") (h : '/' ∉ path.toList) :
    steps path = [path] := by
  unfold steps
  rw [split_of_not_mem h, List.map_singleton, String.ofList_toList, List.filter_singleton,
    bne_iff_ne.2 hne]
  rfl

theorem steps_empty : steps "" = [] := by
  decide

/-- The names of a path from a directory come behind those of the directory. -/
theorem steps_join_relative (directory : String) {path : String}
    (h : path.toList.head? ≠ some '/') :
    steps (join directory path) = steps directory ++ steps path := by
  have hjoin : join directory path =
      if directory.isEmpty || directory.toList.getLast? = some '/' then directory ++ path
      else directory ++ "/" ++ path := by
    unfold join
    split
    · next rest hhead => exact absurd (congrArg List.head? hhead) h
    · rfl
  rw [hjoin]
  split
  · next hends =>
      rw [Bool.or_eq_true, decide_eq_true_eq] at hends
      rcases hends with hempty | hends
      · rw [String.isEmpty_iff.1 hempty, String.empty_append, steps_empty, List.nil_append]
      · obtain ⟨before, hbefore⟩ := List.getLast?_eq_some_iff.1 hends
        have hpath : (directory ++ path).toList = before ++ '/' :: path.toList := by
          rw [String.toList_append, hbefore, List.append_assoc]
          rfl
        rw [steps_of_slash hpath, steps_of_slash hbefore, String.ofList_toList, String.ofList_nil,
          steps_empty, List.append_nil]
  · have hpath : (directory ++ "/" ++ path).toList = directory.toList ++ '/' :: path.toList := by
      rw [String.toList_append, String.toList_append, List.append_assoc]
      rfl
    rw [steps_of_slash hpath, String.ofList_toList, String.ofList_toList]

/-- A plain name below a directory is one step more. -/
theorem steps_join (directory : String) {name : String} (h : Plain name) :
    steps (join directory name) = steps directory ++ [name] := by
  obtain ⟨hne, -, -, hslash⟩ := h
  have hhead : name.toList.head? ≠ some '/' := fun hhead => hslash (List.mem_of_mem_head? hhead)
  rw [steps_join_relative directory hhead, steps_of_not_mem hne hslash]

theorem resolve_join (directory : String) {name : String} (h : Plain name) :
    resolve (join directory name) = resolve directory ++ [name] := by
  unfold resolve
  rw [steps_join directory h, List.foldl_concat, onward, if_neg h.2.1, if_neg h.2.2.1]

end Concord.Files

namespace Concord.Disk

/-! ### On a disk that may refuse -/

theorem files_nextRefusal (disk : Disk) : disk.nextRefusal.2.files = disk.files := by
  unfold nextRefusal
  split <;> rfl

/-- A write that succeeds is carried out, and one that fails changes nothing. -/
theorem attempt_cases (write : Files → Except Files.Fault Files) (disk : Disk) :
    match attempt write disk with
    | (.ok (), later) => write disk.files = .ok later.files
    | (.error _, later) => later.files = disk.files := by
  have hfiles := files_nextRefusal disk
  unfold attempt
  cases hnext : disk.nextRefusal with
  | mk refusal after =>
      rw [hnext] at hfiles
      cases refusal with
      | some fault => exact hfiles
      | none =>
          dsimp only
          rw [show after.files = disk.files from hfiles]
          cases hwrite : write disk.files with
          | ok files => exact rfl
          | error fault => exact hfiles

theorem write_eq_ok {path : String} {content : List UInt8} {disk later : Disk}
    (h : write path content disk = (.ok (), later)) :
    disk.files.write path content = .ok later.files := by
  have hcases := attempt_cases (·.write path content) disk
  rwa [show attempt (·.write path content) disk = _ from h] at hcases

theorem written?_append_ok {path text : String} {disk later : Disk}
    (h : append path text disk = (.ok (), later)) (place : Place) :
    later.files.written? place =
      if place = Files.resolve path then
        (disk.files.written? place).map (· ++ [Text.Utf8.encode text])
      else disk.files.written? place := by
  have hcases := attempt_cases (·.append path text) disk
  rw [show attempt (·.append path text) disk = _ from h] at hcases
  exact Files.written?_writeWith hcases place

theorem files_append_error {path text : String} {disk later : Disk} {fault : Files.Fault}
    (h : append path text disk = (.error fault, later)) : later.files = disk.files := by
  have hcases := attempt_cases (·.append path text) disk
  rwa [show attempt (·.append path text) disk = _ from h] at hcases

/-- Whatever becomes of a write, it changes nothing elsewhere. -/
theorem entry?_attempt_writeWith {path : String}
    (content : List (List UInt8) → List (List UInt8)) (disk : Disk) {place : Place}
    (h : place ≠ Files.resolve path) :
    (attempt (·.writeWith path content) disk).2.files.entry? place = disk.files.entry? place := by
  have hcases := attempt_cases (·.writeWith path content) disk
  cases hattempt : attempt (·.writeWith path content) disk with
  | mk answer later =>
      rw [hattempt] at hcases
      cases answer with
      | ok value => exact (Files.entry?_writeWith hcases place).trans (if_neg h)
      | error fault => exact congrArg (fun files : Files => files.entry? place) hcases

theorem written?_attempt_writeWith {path : String}
    (content : List (List UInt8) → List (List UInt8)) (disk : Disk) {place : Place}
    (h : place ≠ Files.resolve path) :
    (attempt (·.writeWith path content) disk).2.files.written? place =
      disk.files.written? place := by
  unfold Files.written?
  rw [entry?_attempt_writeWith content disk h]

theorem grows_makeDirectories {related : Files → Files → Prop} (hgrows : Files.Grows related)
    (path : String) (disk : Disk) : related disk.files (makeDirectories path disk).2.files := by
  have hfiles := files_nextRefusal disk
  unfold makeDirectories
  cases hnext : disk.nextRefusal with
  | mk refusal after =>
      rw [hnext] at hfiles
      rw [← hfiles]
      cases refusal with
      | some fault => exact hgrows.refl _
      | none => exact hgrows.makeDirectories path _

theorem written?_makeDirectories (path : String) (disk : Disk) (place : Place) :
    (makeDirectories path disk).2.files.written? place = disk.files.written? place :=
  grows_makeDirectories (Files.grows_written place) path disk

end Concord.Disk
