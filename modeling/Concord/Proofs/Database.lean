import Mathlib
import Concord.Database.Reach
import Concord.Proofs.Files
import Concord.Proofs.Utf8

/-!
# A database is found under its name

A file that was made for a database ends with the name of what is kept in it. Nothing in the header
says how long that is, so whatever the name is, the file is in order and the name is read from it.
-/

namespace Concord.Database

namespace Image

theorem number_append {front : List UInt8} {start count : Nat} (back : List UInt8)
    (h : start + count ≤ front.length) :
    number (front ++ back) start count = number front start count := by
  refine List.foldl_ext _ _ _ fun value i hi => ?_
  rw [List.getD_append _ _ _ _ ((Nat.add_lt_add_left (List.mem_range.1 hi) start).trans_le h)]

section Made

variable (logged : Bool) (name : String)

theorem length_start : (start logged).length = 112 := by
  cases logged <;> rfl

theorem number_make (place count : Nat) (h : place + count ≤ 112) :
    number (make logged name) place count = number (start logged) place count :=
  number_append _ (h.trans_eq (length_start logged).symm)

theorem pageSize?_make : pageSize? (make logged name) = some 4096 := by
  unfold pageSize?
  simp (disch := decide) only [number_make]
  cases logged <;> rfl

theorem claimedPages_make (present : Nat) : claimedPages (make logged name) present = 1 := by
  unfold claimedPages
  simp (disch := decide) only [number_make]
  cases logged <;> rfl

theorem contents_make : contents (make logged name) 4096 = .ok (.sound logged true) := by
  have hsame : contents (make logged name) 4096 = contents (start logged) 4096 := by
    unfold contents fillable
    simp (disch := decide) only [number_make]
  rw [hsame]
  cases logged <;> rfl

/-- A file that was made is sound, and its tables can be made in it. -/
theorem condition_make : condition (make logged name) = .ok (.sound logged true) := by
  have hlength : (make logged name).length = 112 + (Text.Utf8.encode name).length := by
    rw [make, List.length_append, length_start]
  have hmagic : (make logged name).take 16 = magic := by
    rw [make, List.take_append_of_le_length ((by decide : 16 ≤ 112).trans_eq
      (length_start logged).symm)]
    cases logged <;> rfl
  have hheader : ¬((make logged name).take 16 ≠ magic ∨ 2 < number (make logged name) 19 1 ∨
      number (make logged name) 21 3 ≠ 0x402020) := by
    rw [hmagic, number_make logged name 19 1 (by decide), number_make logged name 21 3 (by decide)]
    cases logged <;> decide +kernel
  have husable : number (make logged name) 20 1 = 0 := by
    rw [number_make logged name 20 1 (by decide)]
    cases logged <;> rfl
  unfold condition
  rw [if_neg (by omega), if_neg hheader, pageSize?_make]
  dsimp only
  rw [claimedPages_make, if_neg (by omega), husable, Nat.sub_zero, if_neg (by decide),
    contents_make]

theorem name?_make : name? (make logged name) = some name := by
  have hfront : (start true).length = 112 := length_start true
  have htake : (make logged name).take 112 = start logged := List.take_left' (length_start logged)
  have hdrop : (make logged name).drop 112 = Text.Utf8.encode name :=
    List.drop_left' (length_start logged)
  unfold name?
  dsimp only
  rw [hfront, htake, hdrop, Text.Utf8.decode_encode, if_pos]
  · rfl
  · cases logged
    · exact .inr rfl
    · exact .inl rfl

end Made

end Image

/-- **What was written under a name is found under the name**, by whatever opens the file. -/
theorem Reach.found_put (files : Files) (opening : Opening) {place : Place} (h : place ≠ [])
    (logged : Bool) (name : String) :
    let written := files.put place (.file [Image.make logged name])
    found written opening place = ofSound written opening place (some name) logged true := by
  intro written
  have hentry : written.entry? place = some (.file [Image.make logged name]) := by
    rw [Files.entry?_put h, if_pos rfl]
  have hpieces : [Image.make logged name].flatten = Image.make logged name := List.flatten_singleton
  unfold found
  rw [hentry]
  dsimp only
  rw [hpieces, Image.condition_make, Image.name?_make]
  rfl

end Concord.Database
