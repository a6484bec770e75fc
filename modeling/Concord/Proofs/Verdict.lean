import Mathlib
import Concord.Verdict
import Concord.Proofs.Json.Records

/-!
# Verdicts that survive being written

A verification is kept as a text. What comes back from it are the verdicts that were written, unless
an index has more than 64 bits or a difference is between values that are too deep or not durable.
-/

namespace Concord

/-! ### Checks -/

namespace Check

theorem ofName?_name (check : Check) : ofName? check.name = some check := by
  cases check <;> decide

theorem mem_all (check : Check) : check ∈ all := by
  cases check <;> decide

end Check

/-! ### Entries -/

section Lookup

variable {κ α : Type} [BEq κ] [LawfulBEq κ] {key : κ} {entry : κ × α} {entries : List (κ × α)}

theorem lookup_eq_none_of_notMem (h : key ∉ entries.map (·.1)) : entries.lookup key = none := by
  rw [List.lookup_eq_none_iff]
  intro entry hmem
  rw [bne_iff_ne]
  rintro rfl
  exact h (List.mem_map.2 ⟨entry, hmem, rfl⟩)

theorem lookup_cons_of_ne (h : key ≠ entry.1) :
    (entry :: entries).lookup key = entries.lookup key := by
  rw [List.lookup_cons, beq_false_of_ne h]

end Lookup

namespace Checks

/-- The checks with these outcomes; of a check named twice the last one counts. -/
def ofEntries (entries : List (Check × CheckOutcome)) : Checks :=
  entries.foldl (fun checks entry => checks.set entry.1 entry.2) {}

theorem get?_set (checks : Checks) (check other : Check) (outcome : CheckOutcome) :
    (checks.set check outcome).get? other =
      if other = check then some outcome else checks.get? other := by
  cases check <;> cases other <;> rfl

theorem get?_foldl_set (entries : List (Check × CheckOutcome)) (checks : Checks) (check : Check)
    (hnodup : (entries.map (·.1)).Nodup) :
    (entries.foldl (fun checks entry => checks.set entry.1 entry.2) checks).get? check =
      (entries.lookup check).or (checks.get? check) := by
  induction entries generalizing checks with
  | nil => rfl
  | cons entry entries ih =>
      obtain ⟨key, outcome⟩ := entry
      obtain ⟨hkey, hrest⟩ := List.nodup_cons.1 hnodup
      rw [List.foldl_cons, ih _ hrest, get?_set]
      by_cases heq : check = key
      · subst heq
        simp [lookup_eq_none_of_notMem hkey]
      · rw [if_neg heq, lookup_cons_of_ne heq]

theorem get?_ofEntries {entries : List (Check × CheckOutcome)}
    (hnodup : (entries.map (·.1)).Nodup) (check : Check) :
    (ofEntries entries).get? check = entries.lookup check := by
  rw [ofEntries, get?_foldl_set entries {} check hnodup]
  have hnone : ({} : Checks).get? check = none := by cases check <;> rfl
  rw [hnone, Option.or_none]

theorem ofEntries_entries (checks : Checks) : ofEntries checks.entries = checks := by
  obtain ⟨_ | _, _ | _, _ | _, _ | _, _ | _⟩ := checks <;> rfl

theorem mem_entries {checks : Checks} {entry : Check × CheckOutcome} :
    entry ∈ checks.entries ↔ checks.get? entry.1 = some entry.2 := by
  simp only [entries, List.mem_filterMap, Option.map_eq_some_iff]
  constructor
  · rintro ⟨check, -, outcome, hget, rfl⟩
    exact hget
  · exact fun hget => ⟨entry.1, Check.mem_all _, entry.2, hget, rfl⟩

theorem nodup_entries (checks : Checks) : (checks.entries.map (·.1)).Nodup := by
  obtain ⟨_ | _, _ | _, _ | _, _ | _, _ | _⟩ := checks <;>
    simp [entries, Check.all, get?]

/-- Entries are told by what they say of each check, once their keys are known. -/
theorem ofEntries_injective {a b : List (Check × CheckOutcome)} (hkeys : a.map (·.1) = b.map (·.1))
    (hnodup : (a.map (·.1)).Nodup) (h : ofEntries a = ofEntries b) : a = b := by
  have hlookup : ∀ check, a.lookup check = b.lookup check := fun check => by
    rw [← get?_ofEntries hnodup, h, get?_ofEntries (hkeys ▸ hnodup)]
  clear h
  induction a generalizing b with
  | nil => exact (List.map_eq_nil_iff.1 hkeys.symm).symm
  | cons entry a ih =>
      obtain ⟨key, outcome⟩ := entry
      cases b with
      | nil => cases hkeys
      | cons other b =>
          obtain ⟨key', outcome'⟩ := other
          obtain ⟨hkey, hrest⟩ := List.cons.inj hkeys
          obtain rfl : key = key' := hkey
          obtain ⟨hnew, hnodup⟩ := List.nodup_cons.1 hnodup
          have houtcome : outcome = outcome' := by simpa using hlookup key
          subst houtcome
          refine congrArg _ (ih hrest hnodup fun check => ?_)
          by_cases heq : check = key
          · subst heq
            rw [lookup_eq_none_of_notMem hnew, lookup_eq_none_of_notMem (hrest ▸ hnew)]
          · have hcheck := hlookup check
            rwa [lookup_cons_of_ne heq, lookup_cons_of_ne heq] at hcheck

end Checks

/-! ### What is durable -/

/-- How many containers inside one another either side of a difference may have. -/
def Discrepancy.allowance : Nat :=
  Raw.depthLimit - 5

/-- Both sides of the difference are read as they were. -/
structure Discrepancy.Durable (found : Discrepancy) : Prop where
  reference_depth : found.reference.depth ≤ allowance
  reference : found.reference.Durable
  candidate_depth : found.candidate.depth ≤ allowance
  candidate : found.candidate.Durable

structure Verdict.Durable (verdict : Verdict) : Prop where
  constructorIndex : verdict.constructorIndex < 2 ^ 64
  inputIndex : verdict.inputIndex < 2 ^ 64
  checks : ∀ check found, verdict.checks.get? check = some (.discrepancy found) → found.Durable

def Verification.Durable (verification : Verification) : Prop :=
  ∀ verdict ∈ verification.verdicts, verdict.Durable

/-! ### Reading verdicts back -/

theorem CheckOutcome.decoder_pass (allowance : Nat) :
    decoder (allowance + 1) pass.encode.written = .ok pass :=
  (Decoder.tagged_written_eq_ok_iff (by simp) rfl).2 ⟨by simp, rfl⟩

theorem CheckOutcome.decoder_discrepancy_eq_ok_iff {found : Discrepancy} {allowance : Nat} :
    decoder (allowance + 1) (discrepancy found).encode.written = .ok (discrepancy found) ↔
      found.reference.written.value? allowance = some found.reference ∧
        found.candidate.written.value? allowance = some found.candidate := by
  rw [decoder, encode, Decoder.tagged_written_eq_ok_iff (by simp) rfl, discrepancyDecoder,
    Decoder.record_written_eq_ok_iff (by simp)]
  obtain ⟨detail, reference, candidate⟩ := found
  have hdetail : (Raw.value? allowance (Json.str detail).written).isSome := rfl
  simp only [List.forall_mem_cons, hdetail, true_and]
  constructor
  · rintro ⟨-, hread⟩
    simpa [List.lookup_cons] using hread
  · rintro ⟨hreference, hcandidate⟩
    simp [List.lookup_cons, hreference, hcandidate]

theorem CheckOutcome.decoder_encode_eq_ok_iff {outcome : CheckOutcome} :
    decoder (Discrepancy.allowance + 1) outcome.encode.written = .ok outcome ↔
      ∀ found, outcome = discrepancy found → found.Durable := by
  cases outcome with
  | pass => exact iff_of_true (decoder_pass _) (by rintro found ⟨⟩)
  | discrepancy found =>
      rw [decoder_discrepancy_eq_ok_iff, Json.value?_written_eq_some_iff,
        Json.value?_written_eq_some_iff]
      constructor
      · rintro ⟨⟨hreferenceDepth, hreference⟩, hcandidateDepth, hcandidate⟩ _ ⟨⟩
        exact ⟨hreferenceDepth, hreference, hcandidateDepth, hcandidate⟩
      · intro h
        obtain ⟨hreferenceDepth, hreference, hcandidateDepth, hcandidate⟩ := h found rfl
        exact ⟨⟨hreferenceDepth, hreference⟩, hcandidateDepth, hcandidate⟩

/-- What the entries of checks are read as has their keys in their order. -/
theorem Checks.entries_encode_eq_ok_iff {checks : Checks} {allowance : Nat}
    {found : List (Check × CheckOutcome)} :
    Decoder.entries Check.ofName? CheckOutcome.decoder (allowance + 1) checks.encode.written =
        .ok found ↔
      List.Forall₂ (fun entry read => entry.1 = read.1 ∧
        CheckOutcome.decoder allowance entry.2.encode.written = .ok read.2) checks.entries
          found := by
  rw [encode, Decoder.entries_written_eq_ok_iff, List.forall₂_map_left_iff]
  simp only [Check.ofName?_name, Option.some.injEq]

/-- Checks are read back exactly if each outcome among them is. -/
theorem Checks.decoder_encode_eq_ok_iff {checks : Checks} {allowance : Nat} :
    decoder (allowance + 1) checks.encode.written = .ok checks ↔
      ∀ check outcome, checks.get? check = some outcome →
        CheckOutcome.decoder allowance outcome.encode.written = .ok outcome := by
  have hsame : Decoder.entries Check.ofName? CheckOutcome.decoder (allowance + 1)
      checks.encode.written = .ok checks.entries ↔
        ∀ check outcome, checks.get? check = some outcome →
          CheckOutcome.decoder allowance outcome.encode.written = .ok outcome := by
    rw [entries_encode_eq_ok_iff, List.forall₂_same]
    simp only [mem_entries, Prod.forall, true_and]
  rw [← hsame]
  unfold decoder
  constructor
  · intro h
    cases hread : Decoder.entries Check.ofName? CheckOutcome.decoder (allowance + 1)
        checks.encode.written with
    | error fault => rw [hread] at h; cases h
    | ok found =>
        rw [hread] at h
        have hfound : ofEntries found = ofEntries checks.entries :=
          (Except.ok.inj h).trans (ofEntries_entries checks).symm
        have hkeys : checks.entries.map (·.1) = found.map (·.1) := by
          rw [← List.forall₂_eq_eq_eq, List.forall₂_map_left_iff, List.forall₂_map_right_iff]
          exact (entries_encode_eq_ok_iff.1 hread).imp fun _ _ hpair => hpair.1
        rw [ofEntries_injective hkeys.symm (hkeys ▸ nodup_entries checks) hfound]
  · intro h
    rw [h]
    exact congrArg Except.ok (ofEntries_entries checks)

theorem Verdict.decoder_encode_eq_ok_iff {verdict : Verdict} :
    decoder (Discrepancy.allowance + 3) verdict.encode.written = .ok verdict ↔
      verdict.Durable := by
  rw [decoder, encode, Decoder.record_written_eq_ok_iff (by simp)]
  obtain ⟨constructorIndex, function, inputIndex, reference, candidate, checks⟩ := verdict
  have hchecks : Checks.decoder (Discrepancy.allowance + 2) checks.encode.written = .ok checks ↔
      ∀ check found, checks.get? check = some (.discrepancy found) → found.Durable := by
    simp only [Checks.decoder_encode_eq_ok_iff, CheckOutcome.decoder_encode_eq_ok_iff]
    exact ⟨fun h check found hget => h check _ hget found rfl,
      fun h check outcome hget found heq => h check found (heq ▸ hget)⟩
  have hparts : constructorIndex < 2 ^ 64 ∧ inputIndex < 2 ^ 64 ∧
      (∀ check found, checks.get? check = some (.discrepancy found) → found.Durable) ↔
      Verdict.Durable ⟨constructorIndex, function, inputIndex, reference, candidate, checks⟩ :=
    ⟨fun h => ⟨h.1, h.2.1, h.2.2⟩, fun h => ⟨h.1, h.2, h.3⟩⟩
  rw [← hparts, ← hchecks]
  simp [List.lookup_cons, and_assoc]

namespace Verification

/-- What comes back from the text of a verification. -/
theorem read?_encode_eq_some_iff {verification read : Verification} :
    decoder.read? verification.encode.text = some read ↔
      Decoder.list Verdict.decoder (Discrepancy.allowance + 4)
          (Json.list Verdict.encode verification.verdicts).written = .ok read.verdicts ∧
        verification.generation = read.generation ∧ verification.backends = read.backends ∧
        verification.loggedToFile = read.loggedToFile := by
  have hlimit : Raw.depthLimit = Discrepancy.allowance + 4 + 1 := rfl
  rw [Decoder.read?_text_eq_some_iff, hlimit, encode, decoder,
    Decoder.record_written_eq_ok_iff (by simp)]
  obtain ⟨generation, backends, verdicts, loggedToFile⟩ := read
  simp [List.lookup_cons]

theorem list_verdicts_eq_ok_self_iff {verification : Verification} :
    Decoder.list Verdict.decoder (Discrepancy.allowance + 4)
        (Json.list Verdict.encode verification.verdicts).written = .ok verification.verdicts ↔
      verification.Durable := by
  rw [Decoder.list_written_eq_ok_self_iff]
  exact forall₂_congr fun _ _ => Verdict.decoder_encode_eq_ok_iff

/-- A verification comes back as it was exactly if it is durable. -/
theorem read?_encode_self_iff {verification : Verification} :
    decoder.read? verification.encode.text = some verification ↔ verification.Durable := by
  rw [read?_encode_eq_some_iff, list_verdicts_eq_ok_self_iff]
  exact and_iff_left ⟨rfl, rfl, rfl⟩

/-- A durable verification comes back as it was. -/
theorem read?_encode {verification : Verification} (h : verification.Durable) :
    decoder.read? verification.encode.text = some verification :=
  read?_encode_self_iff.2 h

/-- The verdicts come back exactly if the verification is durable. -/
theorem exists_read?_encode_iff {verification : Verification} :
    (∃ read, decoder.read? verification.encode.text = some read ∧
        read.verdicts = verification.verdicts ∧ read.backends = verification.backends) ↔
      verification.Durable := by
  constructor
  · rintro ⟨read, hread, hverdicts, -⟩
    have hlist := (read?_encode_eq_some_iff.1 hread).1
    rw [hverdicts] at hlist
    exact list_verdicts_eq_ok_self_iff.1 hlist
  · exact fun h => ⟨verification, read?_encode h, rfl, rfl⟩

end Verification

end Concord
