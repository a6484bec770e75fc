import Mathlib
import Concord.Outcome
import Concord.Proofs.Json.Records

/-!
# Results that survive being written

A result is kept as a text. It comes back from it unless a number has more than 64 bits or a value of
a state dump is too deep or not durable; and whatever comes back is a result of the same candidate on
the same backend.
-/

namespace Concord

/-! ### What is durable -/

/-- How many containers inside one another a value of a state dump may have. -/
def Slot.allowance : Nat :=
  Raw.depthLimit - 7

structure Slot.Durable (slot : Slot) : Prop where
  depth : slot.value.depth ≤ allowance
  value : slot.value.Durable

structure Success.Durable (observed : Success) : Prop where
  state : ∀ slot ∈ observed.state.slots, slot.Durable
  gasUsed : ∀ gas, observed.gasUsed = some gas → gas < 2 ^ 64

def Outcome.Durable (outcome : Outcome) : Prop :=
  ∀ observed, outcome = .success observed → observed.Durable

structure FunctionCalls.Durable (calls : FunctionCalls) : Prop where
  constructorIndex : calls.constructorIndex < 2 ^ 64
  outcomes : ∀ outcome ∈ calls.outcomes, outcome.Durable

def RunResult.Durable (result : RunResult) : Prop :=
  ∀ calls ∈ result.calls, calls.Durable

/-! ### Reading results back -/

theorem Slot.decoder_encode_eq_ok_iff {slot : Slot} :
    decoder (allowance + 1) slot.encode.written = .ok slot ↔ slot.Durable := by
  have hdurable : slot.Durable ↔ slot.value.written.value? allowance = some slot.value := by
    rw [Json.value?_written_eq_some_iff]
    exact ⟨fun h => ⟨h.1, h.2⟩, fun h => ⟨h.1, h.2⟩⟩
  rw [hdurable, decoder, encode, Decoder.record_written_eq_ok_iff (by simp)]
  obtain ⟨name, value⟩ := slot
  simp [List.lookup_cons]

theorem Snapshot.decoder_encode_eq_ok_iff {snapshot : Snapshot} :
    decoder (Slot.allowance + 2) snapshot.encode.written = .ok snapshot ↔
      ∀ slot ∈ snapshot.slots, slot.Durable := by
  obtain ⟨slots⟩ := snapshot
  have hlist : decoder (Slot.allowance + 2) (encode ⟨slots⟩).written = .ok ⟨slots⟩ ↔
      Decoder.list Slot.decoder (Slot.allowance + 2) (Json.list Slot.encode slots).written =
        .ok slots := by
    unfold decoder encode
    cases Decoder.list Slot.decoder (Slot.allowance + 2) (Json.list Slot.encode slots).written <;>
      simp
  rw [hlist, Decoder.list_written_eq_ok_self_iff]
  exact forall₂_congr fun _ _ => Slot.decoder_encode_eq_ok_iff

theorem Success.decoder_fields_eq_ok_iff {observed : Success} :
    decoder (Slot.allowance + 3) (Json.obj observed.fields).written = .ok observed ↔
      observed.Durable := by
  rw [decoder, fields, Decoder.record_written_eq_ok_iff (by simp)]
  obtain ⟨state, memory, gasUsed, returnValue⟩ := observed
  have hdurable : Success.Durable ⟨state, memory, gasUsed, returnValue⟩ ↔
      (∀ slot ∈ state.slots, slot.Durable) ∧ ∀ gas, gasUsed = some gas → gas < 2 ^ 64 :=
    ⟨fun h => ⟨h.1, h.2⟩, fun h => ⟨h.1, h.2⟩⟩
  have hstr : ∀ s, (Json.str s).written ≠ .null := by rintro s ⟨⟩
  have hnat : ∀ n, (Json.nat n).written ≠ .null := by rintro n ⟨⟩
  rw [hdurable, ← Snapshot.decoder_encode_eq_ok_iff]
  simp [List.lookup_cons, Decoder.option_written_eq_ok_self_iff hstr,
    Decoder.option_written_eq_ok_self_iff hnat]

/-- Every part of a durable observation is within the limits of a value. -/
theorem Success.Durable.isSome_fields {observed : Success} (h : observed.Durable) :
    ∀ field ∈ observed.fields,
      (field.2.written.value? (Slot.allowance + 2)).isSome := by
  have hslot : ∀ slot ∈ observed.state.slots,
      (slot.encode.written.value? (Slot.allowance + 1)).isSome := by
    intro slot hmem
    have hvalue := (Json.value?_written_eq_some_iff slot.value Slot.allowance).2
      ⟨(h.state slot hmem).depth, (h.state slot hmem).value⟩
    rw [Slot.encode, Json.isSome_value?_obj_written_iff]
    simp [hvalue, Json.written, Raw.value?]
  have hstate : (observed.state.encode.written.value? (Slot.allowance + 2)).isSome :=
    Json.isSome_value?_list_written_iff.2 hslot
  have hmemory : ((Json.option .str observed.memory).written.value? (Slot.allowance + 2)).isSome := by
    cases observed.memory <;> rfl
  have hgas : ((Json.option .nat observed.gasUsed).written.value? (Slot.allowance + 2)).isSome := by
    cases hused : observed.gasUsed with
    | none => rfl
    | some gas =>
        have hdurable : (Json.nat gas).Durable :=
          (Number.durable_nat_iff gas).2 (h.gasUsed gas hused)
        exact Option.isSome_of_eq_some
          ((Json.value?_written_eq_some_iff (.nat gas) _).2 ⟨Nat.zero_le _, hdurable⟩)
  simp only [fields, List.forall_mem_cons]
  exact ⟨hstate, hmemory, hgas, rfl, by simp⟩

theorem Outcome.durable_success_iff {observed : Success} :
    (Outcome.success observed).Durable ↔ observed.Durable := by
  constructor
  · exact fun h => h observed rfl
  · rintro h _ ⟨⟩
    exact h

theorem Outcome.decoder_encode_eq_ok_iff {outcome : Outcome} :
    decoder (Slot.allowance + 3) outcome.encode.written = .ok outcome ↔ outcome.Durable := by
  cases outcome with
  | success observed =>
      have htag : "kind" ∉ observed.fields.map (·.1) := by simp [Success.fields]
      rw [durable_success_iff, ← Success.decoder_fields_eq_ok_iff, encode, decoder,
        Decoder.tagged_written_eq_ok_iff htag rfl]
      constructor
      · rintro ⟨-, hread⟩
        cases hobserved : Success.decoder (Slot.allowance + 3)
            (Json.obj observed.fields).written with
        | error fault =>
            rw [hobserved] at hread
            cases hread
        | ok found =>
            rw [hobserved] at hread
            cases hread
            rfl
      · intro hread
        refine ⟨(Success.decoder_fields_eq_ok_iff.1 hread).isSome_fields, ?_⟩
        rw [hread]
        rfl
  | deployError message =>
      refine iff_of_true ?_ (by rintro observed ⟨⟩)
      refine (Decoder.tagged_written_eq_ok_iff (by simp) rfl).2 ⟨by simp [Json.written, Raw.value?], ?_⟩
      rw [errorDecoder, Decoder.record_written_eq_ok_iff (by simp)]
      simp
  | runtimeError message =>
      refine iff_of_true ?_ (by rintro observed ⟨⟩)
      refine (Decoder.tagged_written_eq_ok_iff (by simp) rfl).2 ⟨by simp [Json.written, Raw.value?], ?_⟩
      rw [errorDecoder, Decoder.record_written_eq_ok_iff (by simp)]
      simp

theorem FunctionCalls.decoder_encode_eq_ok_iff {calls : FunctionCalls} :
    decoder (Slot.allowance + 5) calls.encode.written = .ok calls ↔ calls.Durable := by
  rw [decoder, encode, Decoder.record_written_eq_ok_iff (by simp)]
  obtain ⟨constructorIndex, function, outcomes⟩ := calls
  have hparts : FunctionCalls.Durable ⟨constructorIndex, function, outcomes⟩ ↔
      constructorIndex < 2 ^ 64 ∧ ∀ outcome ∈ outcomes, outcome.Durable :=
    ⟨fun h => ⟨h.1, h.2⟩, fun h => ⟨h.1, h.2⟩⟩
  have houtcomes : (∀ outcome ∈ outcomes,
      Outcome.decoder (Slot.allowance + 3) outcome.encode.written = .ok outcome) ↔
        ∀ outcome ∈ outcomes, outcome.Durable :=
    forall₂_congr fun _ _ => Outcome.decoder_encode_eq_ok_iff
  rw [hparts, ← houtcomes]
  simp [List.lookup_cons]

namespace RunResult

/-- What comes back from the text of a result. -/
theorem read?_encode_eq_some_iff {result read : RunResult} :
    decoder.read? result.encode.text = some read ↔
      Decoder.list FunctionCalls.decoder (Slot.allowance + 6)
          (Json.list FunctionCalls.encode result.calls).written = .ok read.calls ∧
        result.generation = read.generation ∧ result.backend = read.backend ∧
        result.isHandled = read.isHandled := by
  have hlimit : Raw.depthLimit = Slot.allowance + 6 + 1 := rfl
  rw [Decoder.read?_text_eq_some_iff, hlimit, encode, decoder,
    Decoder.record_written_eq_ok_iff (by simp)]
  obtain ⟨generation, backend, calls, isHandled⟩ := read
  simp [List.lookup_cons]

/-- A result comes back as it was exactly if it is durable. -/
theorem read?_encode_self_iff {result : RunResult} :
    decoder.read? result.encode.text = some result ↔ result.Durable := by
  have hcalls : Decoder.list FunctionCalls.decoder (Slot.allowance + 6)
      (Json.list FunctionCalls.encode result.calls).written = .ok result.calls ↔
        result.Durable := by
    rw [Decoder.list_written_eq_ok_self_iff]
    exact forall₂_congr fun _ _ => FunctionCalls.decoder_encode_eq_ok_iff
  rw [read?_encode_eq_some_iff, hcalls]
  exact and_iff_left ⟨rfl, rfl, rfl⟩

/-- A durable result comes back as it was. -/
theorem read?_encode {result : RunResult} (h : result.Durable) :
    decoder.read? result.encode.text = some result :=
  read?_encode_self_iff.2 h

end RunResult

end Concord
