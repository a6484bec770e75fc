import Mathlib
import Concord.Evidence
import Concord.Proofs.Files
import Concord.Seed

/-!
# Evidence stays where it is

Every set of files has places of its own for crashes and for discrepancies. What else a monitor
writes does not touch them.
-/

namespace Concord.Evidence

/-! ### Places -/

theorem not_mem_toString (n : Nat) : '/' ∉ (toString n).toList := by
  intro hmem
  rw [show toString n = Nat.repr n from rfl, Nat.repr_eq_ofList_toDigits,
    String.toList_ofList] at hmem
  exact absurd (Nat.isDigit_of_mem_toDigits (by decide) (by decide) hmem) (by decide)

theorem plain_numbered {label : String} (hlabel : '/' ∉ label.toList) (n : Nat) :
    Files.Plain (label ++ toString n ++ ".txt") := by
  have hchars : (label ++ toString n ++ ".txt").toList =
      label.toList ++ (toString n).toList ++ ['.', 't', 'x', 't'] := by
    rw [String.toList_append, String.toList_append]
    rfl
  have hlong : ∀ short : String, short.toList.length < 4 →
      label ++ toString n ++ ".txt" ≠ short := by
    intro short hshort heq
    rw [← heq, hchars, List.length_append] at hshort
    simp only [List.length_cons, List.length_nil] at hshort
    omega
  refine ⟨hlong "" (by decide), hlong "." (by decide), hlong ".." (by decide), ?_⟩
  intro hmem
  rw [hchars] at hmem
  rcases List.mem_append.1 hmem with hfront | hextension
  · rcases List.mem_append.1 hfront with hlabel' | hnumber
    · exact hlabel hlabel'
    · exact not_mem_toString n hnumber
  · exact absurd hextension (by decide)

theorem numbered_injective (label : String) {a b : Nat}
    (h : label ++ toString a ++ ".txt" = label ++ toString b ++ ".txt") : a = b := by
  have hchars := congrArg String.toList h
  simp only [String.toList_append, List.append_assoc] at hchars
  have hdigits := List.append_cancel_right (List.append_cancel_left hchars)
  exact Nat.repr_inj.1 (String.toList_inj.1 hdigits)

def crashPlace (root : String) (sequence : Nat) : Place :=
  Files.resolve (mk root sequence).crashes

def discrepancyPlace (root : String) (sequence : Nat) : Place :=
  Files.resolve (mk root sequence).discrepancies

theorem resolve_below (root : String) {directory label : String}
    (hdirectory : Files.Plain directory) (hlabel : '/' ∉ label.toList) (n : Nat) :
    Files.resolve (Files.join (Files.join root directory) (label ++ toString n ++ ".txt")) =
      Files.resolve root ++ [directory, label ++ toString n ++ ".txt"] := by
  rw [Files.resolve_join _ (plain_numbered hlabel n), Files.resolve_join _ hdirectory,
    List.append_assoc]
  rfl

theorem crashPlace_eq (root : String) (sequence : Nat) : crashPlace root sequence =
    Files.resolve root ++ ["crashes", "crash" ++ toString sequence ++ ".txt"] :=
  resolve_below root (by refine ⟨?_, ?_, ?_, ?_⟩ <;> decide) (by decide) sequence

theorem discrepancyPlace_eq (root : String) (sequence : Nat) : discrepancyPlace root sequence =
    Files.resolve root ++ ["storage-diff", "diff" ++ toString sequence ++ ".txt"] :=
  resolve_below root (by refine ⟨?_, ?_, ?_, ?_⟩ <;> decide) (by decide) sequence

theorem resolve_bench (evidence : Evidence) : Files.resolve evidence.bench =
    Files.resolve evidence.root ++ ["bench", "data" ++ toString evidence.sequence ++ ".txt"] :=
  resolve_below evidence.root (by refine ⟨?_, ?_, ?_, ?_⟩ <;> decide) (by decide) evidence.sequence

theorem resolve_metadata (evidence : Evidence) : Files.resolve evidence.metadata =
    Files.resolve evidence.root ++
      ["bench", "bench-metadata" ++ toString evidence.sequence ++ ".txt"] :=
  resolve_below evidence.root (by refine ⟨?_, ?_, ?_, ?_⟩ <;> decide) (by decide) evidence.sequence

theorem crashPlace_inj {root : String} {a b : Nat} :
    crashPlace root a = crashPlace root b ↔ a = b := by
  refine ⟨fun h => ?_, fun h => h ▸ rfl⟩
  rw [crashPlace_eq, crashPlace_eq] at h
  have hnames := List.append_cancel_left h
  exact numbered_injective "crash" (by simpa using hnames)

theorem discrepancyPlace_inj {root : String} {a b : Nat} :
    discrepancyPlace root a = discrepancyPlace root b ↔ a = b := by
  refine ⟨fun h => ?_, fun h => h ▸ rfl⟩
  rw [discrepancyPlace_eq, discrepancyPlace_eq] at h
  have hnames := List.append_cancel_left h
  exact numbered_injective "diff" (by simpa using hnames)

theorem crashPlace_ne_discrepancyPlace (root : String) (a b : Nat) :
    crashPlace root a ≠ discrepancyPlace root b := by
  intro h
  rw [crashPlace_eq, discrepancyPlace_eq] at h
  exact absurd (List.cons.inj (List.append_cancel_left h)).1 (by decide)

/-- Metrics and events are kept elsewhere. -/
theorem ne_of_bench {evidence : Evidence} {path : String}
    (h : path = evidence.bench ∨ path = evidence.metadata) (sequence : Nat) :
    crashPlace evidence.root sequence ≠ Files.resolve path ∧
      discrepancyPlace evidence.root sequence ≠ Files.resolve path := by
  have hpath : ∃ name, Files.resolve path = Files.resolve evidence.root ++ ["bench", name] := by
    rcases h with rfl | rfl
    · exact ⟨_, resolve_bench evidence⟩
    · exact ⟨_, resolve_metadata evidence⟩
  obtain ⟨name, hpath⟩ := hpath
  rw [crashPlace_eq, discrepancyPlace_eq, hpath]
  refine ⟨fun heq => ?_, fun heq => ?_⟩
  · exact absurd (List.cons.inj (List.append_cancel_left heq)).1 (by decide)
  · exact absurd (List.cons.inj (List.append_cancel_left heq)).1 (by decide)

/-! ### What a reset does -/

/-- The files that a reset starts. -/
def started (evidence : Evidence) : List String :=
  [evidence.bench, evidence.metadata]

/-- A law of steps on a disk that holds of all that a reset does there. -/
structure Law (evidence : Evidence) (holds : ∀ α : Type, StateM Disk α → Prop) : Prop where
  pure : ∀ {α : Type} (value : α), holds α (Pure.pure value)
  bind : ∀ {α γ : Type} {first : StateM Disk α} {next : α → StateM Disk γ}, holds α first →
    (∀ value, holds γ (next value)) → holds γ (first >>= next)
  get : holds Disk MonadState.get
  makeDirectories : ∀ path, holds (Except Files.Fault Unit) (Disk.makeDirectories path)
  write : ∀ path ∈ evidence.started, holds (Except Files.Fault Unit) (Disk.write path [])
  append : ∀ text, holds (Except Files.Fault Unit) (Disk.append evidence.metadata text)

namespace Law

variable {evidence : Evidence} {holds : ∀ α : Type, StateM Disk α → Prop} (law : Law evidence holds)

include law

theorem makeAll (directories : List String) :
    holds (Except Files.Fault Unit) (Evidence.makeAll directories) := by
  induction directories with
  | nil => exact law.pure _
  | cons directory rest ih =>
      refine law.bind (law.makeDirectories directory) fun answer => ?_
      cases answer with
      | ok value => exact ih
      | error fault => exact law.pure _

theorem startAll {paths : List String} (h : ∀ path ∈ paths, path ∈ evidence.started) :
    holds (Except Files.Fault Unit) (Evidence.startAll paths) := by
  induction paths with
  | nil => exact law.pure _
  | cons path rest ih =>
      obtain ⟨hpath, hrest⟩ := List.forall_mem_cons.1 h
      refine law.bind (law.write path hpath) fun answer => ?_
      cases answer with
      | ok value => exact ih hrest
      | error fault => exact law.pure _

theorem create : holds (Except Files.Fault Unit) evidence.create := by
  refine law.bind (law.makeAll _) fun answer => ?_
  cases answer with
  | ok value => exact law.startAll fun _ => id
  | error fault => exact law.pure _

theorem await (log : String) (window attempts : Nat) :
    holds (Option String) (Seed.await log window evidence.metadata attempts) := by
  induction attempts with
  | zero => exact law.pure _
  | succ attempts ih =>
      refine law.bind law.get fun disk => ?_
      split
      · exact law.pure _
      · exact law.bind (law.append _) fun _ => ih

end Law

/-! ### What leaves the evidence alone -/

/-- The crashes and discrepancies below a directory are the same. -/
def Same (root : String) (files later : Files) : Prop :=
  ∀ sequence,
    later.written? (crashPlace root sequence) = files.written? (crashPlace root sequence) ∧
    later.written? (discrepancyPlace root sequence) =
      files.written? (discrepancyPlace root sequence)

theorem Same.refl (root : String) (files : Files) : Same root files files :=
  fun _ => ⟨rfl, rfl⟩

theorem Same.trans {root : String} {files middle later : Files} (h : Same root files middle)
    (hrest : Same root middle later) : Same root files later :=
  fun sequence => ⟨(hrest sequence).1.trans (h sequence).1, (hrest sequence).2.trans (h sequence).2⟩

/-- What a monitor does to a disk: it writes the files of its evidence, and it makes directories. -/
inductive Touches (root : String) : Disk → Disk → Prop
  | write {evidence : Evidence} {path : String} (hroot : evidence.root = root)
      (hpath : path ∈ evidence.paths) (content : List (List UInt8) → List (List UInt8))
      (disk : Disk) : Touches root disk (Disk.attempt (·.writeWith path content) disk).2
  | makeDirectories (path : String) (disk : Disk) :
      Touches root disk (Disk.makeDirectories path disk).2

/-- A step of a monitor on the disk that leaves the evidence alone, whatever becomes of it. -/
def Spares {α : Type} (root : String) (step : StateM Disk α) : Prop :=
  ∀ disk, Same root disk.files (step disk).2.files ∧
    Relation.ReflTransGen (Touches root) disk (step disk).2

namespace Spares

variable {α β : Type} {root : String}

theorem pure (value : α) : Spares root (Pure.pure value : StateM Disk α) :=
  fun disk => ⟨Same.refl root disk.files, .refl⟩

theorem bind {first : StateM Disk α} {next : α → StateM Disk β} (hfirst : Spares root first)
    (hnext : ∀ value, Spares root (next value)) : Spares root (first >>= next) := by
  intro disk
  have hlast := hnext (first disk).1 (first disk).2
  exact ⟨(hfirst disk).1.trans hlast.1, (hfirst disk).2.trans hlast.2⟩

end Spares

section Steps

variable {evidence : Evidence} {path : String}

theorem mem_paths_of_bench (h : path = evidence.bench ∨ path = evidence.metadata) :
    path ∈ evidence.paths := by
  unfold paths
  rcases h with rfl | rfl
  · exact List.mem_cons_self
  · exact List.mem_cons_of_mem _ List.mem_cons_self

theorem spares_writeWith (h : path = evidence.bench ∨ path = evidence.metadata)
    (content : List (List UInt8) → List (List UInt8)) :
    Spares evidence.root (Disk.attempt (·.writeWith path content)) := by
  refine fun disk => ⟨fun sequence => ⟨?_, ?_⟩, ?_⟩
  · exact Disk.written?_attempt_writeWith content disk (ne_of_bench h sequence).1
  · exact Disk.written?_attempt_writeWith content disk (ne_of_bench h sequence).2
  · exact .single (.write rfl (mem_paths_of_bench h) content disk)

theorem spares_append (h : path = evidence.bench ∨ path = evidence.metadata) (text : String) :
    Spares evidence.root (Disk.append path text) :=
  spares_writeWith h _

/-- A reset takes nothing from the evidence. -/
theorem law_spares (evidence : Evidence) :
    Law evidence fun _ step => Spares evidence.root step where
  pure := Spares.pure
  bind := Spares.bind
  get := fun disk => ⟨Same.refl _ disk.files, .refl⟩
  makeDirectories path disk :=
    ⟨fun _ => ⟨Disk.written?_makeDirectories path disk _, Disk.written?_makeDirectories path disk _⟩,
      .single (.makeDirectories path disk)⟩
  write _ hpath := spares_writeWith (List.mem_pair.1 hpath) _
  append := spares_append (.inr rfl)

end Steps

end Concord.Evidence
