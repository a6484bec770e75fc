import Mathlib
import Concord.Proofs.Monitor.Deeds
import Concord.Proofs.Text

/-!
# A discovered number is free

The names in the bench directory are read with a parser that takes more spellings of a number than
are ever printed. It takes all of them for what they are worth, so one past the highest number is
behind every metrics file, and the file that is started under it takes the place of no other.
-/

namespace Concord

namespace Text

/-! ### Decimal spellings -/

/-- The decimal spellings of a number: zeros may stand before its digits, and a plus sign before
those. -/
inductive Spells (n : Nat) : List Char → Prop
  | plain (zeros : Nat) : Spells n (List.replicate zeros '0' ++ (toString n).toList)
  | signed (zeros : Nat) : Spells n ('+' :: (List.replicate zeros '0' ++ (toString n).toList))

theorem toList_toString (n : Nat) : (toString n).toList = Nat.toDigits 10 n := by
  rw [Nat.toString_eq_repr, Nat.toList_repr]

theorem toDigits_digit {c : Char} (h : c.isDigit = true) :
    c.toNat - 48 < 10 ∧ Nat.toDigits 10 (c.toNat - 48) = [c] := by
  obtain ⟨hlow, hhigh⟩ := Char.isDigit_iff_toNat.1 h
  change 48 ≤ c.toNat at hlow
  change c.toNat ≤ 57 at hhigh
  have hdigit : ∀ d < 10, Nat.toDigits 10 d = [Char.ofNat (d + 48)] := by decide
  refine ⟨by omega, ?_⟩
  rw [hdigit _ (by omega), Nat.sub_add_cancel hlow, Char.ofNat_toNat]

theorem exists_zeros {digits : List Char} (hne : digits ≠ [])
    (hdigits : ∀ c ∈ digits, c.isDigit = true) : ∃ zeros, digits =
      List.replicate zeros '0' ++ Nat.toDigits 10 (Nat.ofDigitChars 10 digits 0) := by
  -- By the last digit: those before it are zeros and a number, which the last one goes behind.
  induction digits using List.reverseRecOn with
  | nil => exact absurd rfl hne
  | append_singleton front c ih =>
      obtain ⟨hlt, hc⟩ := toDigits_digit (hdigits c (List.mem_append_right front (by simp)))
      rw [Nat.ofDigitChars_append, Nat.ofDigitChars_cons, Nat.ofDigitChars_nil]
      change ∃ zeros, _ = List.replicate zeros '0' ++ Nat.toDigits 10 (_ + (c.toNat - 48))
      by_cases hfront : front = []
      · subst hfront
        refine ⟨0, ?_⟩
        rw [Nat.ofDigitChars_nil, Nat.mul_zero, Nat.zero_add, hc]
        rfl
      · obtain ⟨zeros, hzeros⟩ :=
          ih hfront fun d hd => hdigits d (List.mem_append_left [c] hd)
        generalize Nat.ofDigitChars 10 front 0 = n at hzeros ⊢
        rcases Nat.eq_zero_or_pos n with rfl | hpos
        · -- The number is a zero, which leads now.
          refine ⟨zeros + 1, ?_⟩
          rw [Nat.mul_zero, Nat.zero_add, hc, hzeros, List.replicate_succ']
          rfl
        · refine ⟨zeros, ?_⟩
          rw [← Nat.toDigits_append_toDigits (by decide) hpos hlt, hc, ← List.append_assoc,
            ← hzeros]

theorem isDigit_of_mem_zeros {zeros n : Nat} {c : Char}
    (h : c ∈ List.replicate zeros '0' ++ (toString n).toList) : c.isDigit = true := by
  rw [toList_toString] at h
  rcases List.mem_append.1 h with hzero | hdigit
  · rw [(List.mem_replicate.1 hzero).2]
    decide
  · exact Nat.isDigit_of_mem_toDigits (by decide) (by decide) hdigit

theorem digitsValue?_eq_some_iff {digits : List Char} {n : Nat} : digitsValue? digits = some n ↔
    ∃ zeros, digits = List.replicate zeros '0' ++ (toString n).toList := by
  have hfold : digits.foldl (fun value c => 10 * value + (c.toNat - 48)) 0 =
      Nat.ofDigitChars 10 digits 0 := Nat.ofDigitChars_eq_foldl.symm
  rw [digitsValue?, hfold, Option.ite_none_right_eq_some]
  constructor
  · rintro ⟨⟨hne, hdigits⟩, ⟨⟩⟩
    rw [toList_toString]
    exact exists_zeros hne (List.all_eq_true.1 hdigits)
  · rintro ⟨zeros, rfl⟩
    refine ⟨⟨?_, List.all_eq_true.2 fun c => isDigit_of_mem_zeros⟩, ?_⟩
    · rw [toList_toString]
      exact List.append_ne_nil_of_right_ne_nil _ Nat.toDigits_ne_nil
    · rw [toList_toString, Nat.ofDigitChars_append, Nat.ofDigitChars_replicate_zero, Nat.mul_zero,
        Nat.ofDigitChars_ten_toDigits]

theorem spells_plus_iff {n : Nat} {rest : List Char} : Spells n ('+' :: rest) ↔
    ∃ zeros, rest = List.replicate zeros '0' ++ (toString n).toList := by
  constructor
  · generalize hall : '+' :: rest = all
    rintro (zeros | zeros)
    · have hplus : ('+' : Char).isDigit = true := isDigit_of_mem_zeros (hall ▸ List.mem_cons_self)
      cases hplus
    · exact ⟨zeros, (List.cons.inj hall).2⟩
  · rintro ⟨zeros, rfl⟩
    exact .signed zeros

theorem spells_iff {n : Nat} {text : List Char} (h : ∀ rest, text ≠ '+' :: rest) :
    Spells n text ↔ ∃ zeros, text = List.replicate zeros '0' ++ (toString n).toList := by
  constructor
  · rintro (zeros | zeros)
    · exact ⟨zeros, rfl⟩
    · exact absurd rfl (h _)
  · rintro ⟨zeros, rfl⟩
    exact .plain zeros

/-- The parser takes every spelling of a number that is small enough, and nothing else. -/
theorem natural?_eq_some_iff {bits : Nat} {text : String} {n : Nat} :
    natural? bits text = some n ↔ Spells n text.toList ∧ n < 2 ^ bits := by
  unfold natural?
  rw [Option.filter_eq_some_iff, decide_eq_true_eq]
  refine and_congr_left fun _ => ?_
  split
  · next rest htext => rw [htext, digitsValue?_eq_some_iff, spells_plus_iff]
  · next hplus => rw [digitsValue?_eq_some_iff, spells_iff hplus]

end Text

namespace Evidence

/-! ### Names of metrics files -/

def benchName (n : Nat) : String :=
  "data" ++ toString n ++ ".txt"

def metadataName (n : Nat) : String :=
  "bench-metadata" ++ toString n ++ ".txt"

/-- A name of metrics file `n`, with any spelling of a number of 64 bits. -/
structure Numbered (name : String) (n : Nat) : Prop where
  fits : n < 2 ^ 64
  spelled : ∃ digits, Text.Spells n digits ∧
    name.toList = "data".toList ++ digits ++ ".txt".toList

theorem number?_eq_some_iff {name : String} {n : Nat} :
    number? name = some n ↔ Numbered name n := by
  unfold number?
  simp only [bind, Option.bind_eq_some_iff, Text.dropLabel?_eq_some_iff,
    Text.natural?_eq_some_iff, String.toList_ofList]
  constructor
  · rintro ⟨rest, hname, reversed, hrest, hspells, hfits⟩
    refine ⟨hfits, reversed.reverse, hspells, ?_⟩
    rw [hname, ← rest.reverse_reverse, hrest, List.reverse_append, List.reverse_reverse,
      List.append_assoc]
  · rintro ⟨hfits, digits, hspells, hname⟩
    rw [List.append_assoc] at hname
    refine ⟨digits ++ ".txt".toList, hname, digits.reverse, List.reverse_append, ?_, hfits⟩
    rwa [List.reverse_reverse]

theorem numbered_benchName {n : Nat} (h : n < 2 ^ 64) : Numbered (benchName n) n := by
  refine ⟨h, (toString n).toList, .plain 0, ?_⟩
  rw [benchName, String.toList_append, String.toList_append]

instance (name : String) (n : Nat) : Decidable (Numbered name n) :=
  decidable_of_iff _ number?_eq_some_iff

/-! ### The number behind them -/

/-- The numbers behind every metrics file among some names; metrics files are counted from one. -/
def Behind (names : List String) : Set Nat :=
  { s | 1 ≤ s ∧ ∀ name ∈ names, ∀ n, Numbered name n → n < s }

theorem following_le_iff {names : List String} {bound : Nat} :
    following names ≤ bound ↔ bound ∈ Behind names := by
  have hfold : ∀ (numbers : List Nat) (first : Nat), numbers.foldl max first < bound ↔
      first < bound ∧ ∀ n ∈ numbers, n < bound := by
    intro numbers
    induction numbers with
    | nil => simp
    | cons n rest ih =>
        intro first
        rw [List.foldl_cons, ih, Nat.max_lt, List.forall_mem_cons, and_assoc]
  rw [following, Nat.succ_le_iff, hfold]
  refine and_congr Iff.rfl ⟨fun h name hname n hn => ?_, fun h n hn => ?_⟩
  · exact h n (List.mem_filterMap.2 ⟨name, hname, number?_eq_some_iff.2 hn⟩)
  · obtain ⟨name, hname, hnumber⟩ := List.mem_filterMap.1 hn
    exact h name hname n (number?_eq_some_iff.1 hnumber)

theorem isLeast_following (names : List String) : IsLeast (Behind names) (following names) :=
  ⟨following_le_iff.1 le_rfl, fun _ => following_le_iff.2⟩

theorem following_lt {names : List String} (h : ∀ name ∈ names, ¬ Numbered name (2 ^ 64 - 1)) :
    following names < 2 ^ 64 := by
  have hlast : 2 ^ 64 - 1 ∈ Behind names := by
    refine ⟨by decide, fun name hname n hn => ?_⟩
    have hne : n ≠ 2 ^ 64 - 1 := by
      rintro rfl
      exact h name hname hn
    have hlt := hn.fits
    omega
  exact Nat.lt_of_le_of_lt (following_le_iff.2 hlast) (by decide)

theorem benchName_not_mem {names : List String} {s : Nat} (h : s ∈ Behind names)
    (hfits : s < 2 ^ 64) : benchName s ∉ names :=
  fun hmem => Nat.lt_irrefl s (h.2 _ hmem s (numbered_benchName hfits))

/-! ### Discovery -/

/-- The names in the bench directory; there are none where no directory is found. -/
inductive Listed (files : Files) (root : String) : List String → Prop
  | absent {fault : Files.Fault} (h : files.find (benchDirectory root) = .error fault) :
      Listed files root []
  | present {names : List String} (h : files.list (benchDirectory root) = .ok names) :
      Listed files root names

variable {files : Files} {root : String} {names : List String}

theorem list_eq_ok {path : String} (h : files.list path = .ok names) :
    files.find path = .ok (Files.resolve path, .directory) ∧
      names = files.entries.filterMap (Files.childName? (Files.resolve path)) := by
  unfold Files.list at h
  cases hfind : files.find path with
  | error fault =>
      rw [hfind] at h
      cases h
  | ok found =>
      obtain ⟨place, entry⟩ := found
      obtain ⟨rfl, -⟩ := Files.find_eq_ok hfind
      rw [hfind] at h
      cases entry with
      | directory => exact ⟨rfl, (Except.ok.inj h).symm⟩
      | file pieces => cases h
      | sink => cases h
      | program => cases h

theorem Listed.discover_eq (h : Listed files root names) :
    discover files root = .ok (following names) := by
  unfold discover Files.hasSomething
  cases h with
  | absent h => simp [h, following, Except.toOption]
  | present h => simp [(list_eq_ok h).1, h, Except.toOption]

def benchPlace (root : String) : Place :=
  Files.resolve (benchDirectory root)

theorem Listed.exists_entry (h : Listed files root names) {name : String} (hname : name ∈ names) :
    ∃ entry, files.entry? (benchPlace root ++ [name]) = some entry := by
  cases h with
  | absent h => cases hname
  | present h =>
      rw [(list_eq_ok h).2] at hname
      obtain ⟨⟨place, entry⟩, hmem, hchild⟩ := List.mem_filterMap.1 hname
      have hplace : place = benchPlace root ++ [name] := by
        unfold Files.childName? at hchild
        split at hchild
        · obtain ⟨hplace, ⟨⟩⟩ := Option.ite_none_right_eq_some.1 hchild
          exact hplace
        · cases hchild
      rw [Files.entry?_of_ne_nil (by simp)]
      exact Option.isSome_iff_exists.1 (List.lookup_isSome_iff.2 ⟨_, hmem, by simp [hplace]⟩)

/-! ### What a new run leaves as it is -/

/-- What is listed in the bench directory stays there, but for old metadata of the same number. -/
def Keeps (names : List String) (evidence : Evidence) (before later : Files) : Prop :=
  ∀ name ∈ names, name ≠ metadataName evidence.sequence →
    ∃ entry, before.entry? (benchPlace evidence.root ++ [name]) = some entry ∧
      later.entry? (benchPlace evidence.root ++ [name]) = some entry

theorem resolve_started {evidence : Evidence} {path : String} (h : path ∈ evidence.started) :
    Files.resolve path = benchPlace evidence.root ++ [benchName evidence.sequence] ∨
      Files.resolve path = benchPlace evidence.root ++ [metadataName evidence.sequence] := by
  rcases List.mem_pair.1 h with rfl | rfl
  · exact .inl (Files.resolve_join _ (plain_numbered (by decide) _))
  · exact .inr (Files.resolve_join _ (plain_numbered (by decide) _))

theorem Listed.keeps_create {disk : Disk} (h : Listed disk.files root names) {s : Nat}
    (hs : benchName s ∉ names) :
    Keeps names ⟨root, s⟩ disk.files (create ⟨root, s⟩ disk).2.files := by
  intro name hname hmetadata
  obtain ⟨entry, hentry⟩ := h.exists_entry hname
  refine ⟨entry, hentry, ?_⟩
  refine Disk.entry?_of_keepsTo ((Disk.law_keepsTo ⟨root, s⟩).create disk) hentry ?_
  intro path hpath hplace
  rcases resolve_started hpath with hbench | hmeta
  · obtain rfl := List.singleton_inj.1 (List.append_cancel_left (hplace.trans hbench))
    exact hs hname
  · exact hmetadata (List.singleton_inj.1 (List.append_cancel_left (hplace.trans hmeta)))

/-! ### The files of two runs -/

/-- The eight files of two runs below one directory are at eight places. -/
theorem nodup_places (root : String) {a b : Nat} (h : a ≠ b) :
    (((mk root a).paths ++ (mk root b).paths).map Files.resolve).Nodup := by
  have hplaces : ∀ n, (mk root n).paths.map Files.resolve =
      [["bench", benchName n], ["bench", metadataName n],
        ["crashes", "crash" ++ toString n ++ ".txt"],
        ["storage-diff", "diff" ++ toString n ++ ".txt"]].map (Files.resolve root ++ ·) := by
    intro n
    rw [paths, List.map_cons, List.map_cons, List.map_cons, List.map_cons, resolve_bench,
      resolve_metadata, show Files.resolve (mk root n).crashes = _ from crashPlace_eq root n,
      show Files.resolve (mk root n).discrepancies = _ from discrepancyPlace_eq root n]
    rfl
  rw [List.map_append, hplaces, hplaces, ← List.map_append]
  refine List.Nodup.map (List.append_right_injective _) ?_
  have hne : ∀ m n, benchName m ≠ metadataName n := data_ne_metadata
  have hbench : benchName a ≠ benchName b := mt (numbered_injective "data") h
  have hmetadata : metadataName a ≠ metadataName b := mt (numbered_injective "bench-metadata") h
  simp [hne, fun m n => (hne m n).symm, hbench, hmetadata, h]

/-- What a number for a new run below `root` has to be, where the bench directory holds `names`. -/
structure Fresh (files : Files) (root : String) (names : List String) (s : Nat) : Prop where
  least : IsLeast (Behind names) s
  fits : s < 2 ^ 64
  unused : benchName s ∉ names
  keeps : ∀ disk : Disk, disk.files = files →
    Keeps names ⟨root, s⟩ files (create ⟨root, s⟩ disk).2.files

/-- A number is discovered wherever names can be listed and none of them has the last number of all.
It is the lowest one behind every metrics file, whatever the spelling of a file's number and the
order of the names. No name is taken twice, then: a start under it changes none of the files there,
even where the disk refuses in the middle, and files of different runs never meet. -/
theorem discovered_fresh (hlisted : Listed files root names)
    (hroom : ∀ name ∈ names, ¬ Numbered name (2 ^ 64 - 1)) :
    ∃ s, discover files root = .ok s ∧ Fresh files root names s ∧
      ∀ (base : String) (a b : Nat), a ≠ b →
        (((mk base a).paths ++ (mk base b).paths).map Files.resolve).Nodup := by
  have hleast := isLeast_following names
  have hfits := following_lt hroom
  have hunused := benchName_not_mem hleast.1 hfits
  refine ⟨following names, hlisted.discover_eq, ⟨hleast, hfits, hunused, ?_⟩,
    fun base a b => nodup_places base⟩
  rintro disk rfl
  exact hlisted.keeps_create hunused

/-- A bench directory with the metrics of some runs, one under a number that no run would print, and
with names that are not of metrics files. -/
def shelf : Files where
  entries := [(["results"], .directory), (["results", "bench"], .directory),
    (["results", "bench", "data+0012.txt"], .file [[0x61]]),
    (["results", "bench", "data3.txt"], .file [[0x62]]),
    (["results", "bench", "bench-metadata40.txt"], .file []),
    (["results", "bench", "data-50.txt"], .directory)]

def shelved : List String :=
  ["data+0012.txt", "data3.txt", "bench-metadata40.txt", "data-50.txt"]

theorem discovered_behind_unprinted_spelling :
    Listed shelf "results" shelved ∧ (∀ name ∈ shelved, ¬ Numbered name (2 ^ 64 - 1)) ∧
      discover shelf "results" = .ok 13 ∧ Fresh shelf "results" shelved 13 := by
  have hlisted : Listed shelf "results" shelved := .present (by decide)
  have hroom : ∀ name ∈ shelved, ¬ Numbered name (2 ^ 64 - 1) := by decide
  have hdiscovered : discover shelf "results" = .ok 13 := by decide
  obtain ⟨s, hs, hfresh, -⟩ := discovered_fresh hlisted hroom
  obtain rfl : s = 13 := Except.ok.inj (hs.symm.trans hdiscovered)
  exact ⟨hlisted, hroom, hdiscovered, hfresh⟩

end Evidence

end Concord
