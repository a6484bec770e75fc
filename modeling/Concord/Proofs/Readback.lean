import Mathlib
import Concord.Job
import Concord.Proofs.Execution
import Concord.Proofs.Outcome
import Concord.Proofs.Verdict

/-!
# What is left of a record that was written

A node reads what another one has written. Whatever becomes of the values in a record, a job is the
job that was meant, a candidate is run at the same places, and a result and a verification have as
many outcomes and verdicts as before.
-/

namespace Concord

/-- A job is read as it was written. -/
theorem Job.read?_encode (job : Job) : decoder.read? job.encode.text = some job := by
  have hlimit : Raw.depthLimit = 126 + 1 := rfl
  rw [Decoder.read?_text_eq_some_iff, hlimit, encode, decoder,
    Decoder.record_written_eq_ok_iff (by simp)]
  simp [List.lookup_cons]

theorem Job.text_injective {a b : Job} (h : a.encode.text = b.encode.text) : a = b := by
  have hread := read?_encode a
  rw [h, read?_encode] at hread
  exact (Option.some.inj hread).symm

/-! ### Candidates -/

theorem Table.entries_ofList {α : Type} (entries : List (String × α)) :
    (Table.ofList entries).entries =
      entries.foldl (fun sorted entry => insertEntry entry.1 entry.2 sorted) [] := by
  have hfold : ∀ table : Table α,
      (entries.foldl (fun table entry => table.insert entry.1 entry.2) table).entries =
        entries.foldl (fun sorted entry => insertEntry entry.1 entry.2 sorted) table.entries := by
    induction entries with
    | nil => exact fun _ => rfl
    | cons entry entries ih => exact fun table => ih _
  exact hfold .empty

namespace Decoder

variable {α : Type}

/-- A table is read entry by entry. -/
theorem table_written {decode : Decoder α} {encode : α → Json} {allowance : Nat}
    {written read : Table α}
    (h : table decode (allowance + 1) (Json.table encode written).written = .ok read) :
    List.Forall₂ (fun entry found => entry.1 = found.1 ∧
      decode allowance (encode entry.2).written = .ok found.2) written.entries read.entries := by
  unfold table at h
  cases hentries : entries some decode (allowance + 1) (Json.table encode written).written with
  | error fault =>
      rw [hentries] at h
      cases h
  | ok found =>
      rw [hentries] at h
      cases h
      rw [Json.table, entries_written_eq_ok_iff, List.forall₂_map_left_iff] at hentries
      simp only [Option.some.injEq] at hentries
      have hkeys : written.entries.map (·.1) = found.map (·.1) := by
        rw [← List.forall₂_eq_eq_eq, List.forall₂_map_left_iff, List.forall₂_map_right_iff]
        exact hentries.imp fun _ _ hentry => hentry.1
      have hascending : Ascending found := by
        rw [Json.ascending_iff_names, ← hkeys, ← Json.ascending_iff_names]
        exact written.ascending
      rw [Table.entries_ofList, Json.foldl_insertEntry_of_ascending [] found hascending,
        List.nil_append]
      exact hentries

theorem length_list_written {decode : Decoder α} {encode : α → Json} {allowance : Nat}
    {items found : List α}
    (h : list decode (allowance + 1) (Json.list encode items).written = .ok found) :
    found.length = items.length :=
  (list_written_eq_ok_iff.1 h).length_eq.symm

end Decoder

namespace Generation

/-- Only the number of the argument lists matters to where a candidate is run. -/
theorem shape_congr {a b : Generation}
    (hsets : a.constructorInputs.length = b.constructorInputs.length)
    (hinputs : List.Forall₂ (fun ours theirs => ours.1 = theirs.1 ∧
      ours.2.length = theirs.2.length) a.functionInputs.entries b.functionInputs.entries)
    (cap : Option Nat) : a.shape cap = b.shape cap := by
  have hlength : a.constructorSets.length = b.constructorSets.length := by
    unfold constructorSets
    cases ha : a.constructorInputs <;> cases hb : b.constructorInputs <;>
      simp_all
  have hdeployment : a.deploymentShape cap = b.deploymentShape cap := by
    funext constructorIndex
    unfold deploymentShape
    rw [← List.forall₂_eq_eq_eq, List.forall₂_map_left_iff, List.forall₂_map_right_iff]
    exact hinputs.imp fun ours theirs h => by rw [h.1, h.2]
  rw [shape, shape, hlength, hdeployment]

theorem length_argumentLists {items found : List (List Json)} {allowance : Nat}
    (h : argumentLists (allowance + 1) (Json.list .arr items).written = .ok found) :
    found.length = items.length :=
  Decoder.length_list_written h

/-- What is read of a candidate is run at the same places, and did not compile if the candidate did
not. -/
theorem of_read?_encode {generation read : Generation}
    (h : decoder.read? generation.encode.text = some read) :
    read.id = generation.id ∧ read.compileError.isSome = generation.compileError.isSome ∧
      ∀ cap, read.shape cap = generation.shape cap := by
  have hlimit : Raw.depthLimit = 125 + 1 + 1 := rfl
  rw [Decoder.read?_text_eq_some_iff, hlimit, encode, decoder,
    Decoder.record_written_eq_ok_iff (by simp)] at h
  obtain ⟨id, source, backendSources, functionInputs, constructorInputs, compileError⟩ := read
  simp only [Reading.gives_seq, Reading.gives_map, Opened.gives_required_written,
    Opened.gives_withDefault_written, Opened.gives_optional_written, List.lookup_cons_self,
    List.lookup_cons, String.reduceBEq, Decoder.text_written_eq_ok_iff, exists_and_left,
    exists_eq_left, exists_eq_left', exists_exists_and_eq_and, exists_exists_and_exists_and_eq_and,
    ↓existsAndEq, true_and, and_true, mk.injEq] at h
  obtain ⟨⟨-, hfunctions, hconstructors⟩, herror, rfl, -⟩ := h
  refine ⟨rfl, ?_, ?_⟩
  · cases hwritten : generation.compileError with
    | none =>
        rw [hwritten] at herror
        cases herror
        rfl
    | some message =>
        rw [hwritten] at herror
        cases herror
        rfl
  · apply shape_congr (length_argumentLists hconstructors)
    refine (Decoder.table_written hfunctions).flip.imp ?_
    rintro ours theirs ⟨hkey, hread⟩
    exact ⟨hkey.symm, length_argumentLists hread⟩

end Generation

/-! ### Results and verifications -/

namespace FunctionCalls

theorem extent_of_decoder {calls read : FunctionCalls} {allowance : Nat}
    (h : decoder (allowance + 2) calls.encode.written = .ok read) : read.extent = calls.extent := by
  rw [decoder, encode, Decoder.record_written_eq_ok_iff (by simp)] at h
  obtain ⟨constructorIndex, function, outcomes⟩ := read
  simp only [Reading.gives_seq, Reading.gives_map, Opened.gives_required_written,
    List.lookup_cons_self, List.lookup_cons, String.reduceBEq, Decoder.word64_written_eq_ok_iff,
    Decoder.text_written_eq_ok_iff, exists_and_left, ↓existsAndEq, true_and, and_true,
    mk.injEq] at h
  obtain ⟨-, houtcomes, rfl, rfl⟩ := h
  rw [extent, extent, Decoder.length_list_written houtcomes]
  rfl

end FunctionCalls

/-- What is read of a result is the result of the same candidate on the same backend, with as many
outcomes at each site. -/
theorem RunResult.of_read?_encode {result read : RunResult}
    (h : decoder.read? result.encode.text = some read) :
    read.generation = result.generation ∧ read.backend = result.backend ∧
      read.shape = result.shape := by
  obtain ⟨hcalls, hgeneration, hbackend, -⟩ := read?_encode_eq_some_iff.1 h
  refine ⟨hgeneration.symm, hbackend.symm, ?_⟩
  rw [Decoder.list_written_eq_ok_iff] at hcalls
  rw [shape, shape, ← List.forall₂_eq_eq_eq, List.forall₂_map_left_iff, List.forall₂_map_right_iff]
  exact hcalls.flip.imp fun _ _ hread => FunctionCalls.extent_of_decoder hread

/-- What is read of a verification has as many verdicts. -/
theorem Verification.length_of_read?_encode {verification read : Verification}
    (h : decoder.read? verification.encode.text = some read) :
    read.verdicts.length = verification.verdicts.length :=
  Decoder.length_list_written (read?_encode_eq_some_iff.1 h).1

end Concord
