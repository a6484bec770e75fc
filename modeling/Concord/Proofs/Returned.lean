import Mathlib
import Concord.Execution
import Concord.Proofs.Comparison
import Concord.Proofs.Json.Restored

/-!
# Returned values

What a call returns travels as a text from the run to the comparison. A value without floats that is
no deeper than a text may be arrives as it was, so two such values are found to differ exactly if
they do, and the difference is reported with the values themselves.
-/

namespace Concord

/-! ### Values that are told apart -/

/-- Numbers that are the same are equal, but for floats. -/
theorem Number.eq_of_same {a b : Number} (h : a.same b) (hfloat : a.isFloat = false) : a = b := by
  cases a with
  | int a =>
      cases b with
      | int b => exact congrArg Number.int (eq_of_beq h)
      | float b => cases h
  | float a => cases hfloat

namespace Json

mutual

theorem eq_of_same {a b : Json} (h : a.same b)
    (hfloats : ∀ number ∈ a.numbers, number.isFloat = false) : a = b := by
  match a, b with
  | .null, .null => rfl
  | .bool a, .bool b => exact congrArg Json.bool (eq_of_beq h)
  | .number a, .number b =>
      exact congrArg Json.number (Number.eq_of_same h (hfloats a List.mem_cons_self))
  | .str a, .str b => exact congrArg Json.str (eq_of_beq h)
  | .arr as, .arr bs => exact congrArg Json.arr (items_eq_of_same h hfloats)
  | .obj as, .obj bs => exact congrArg Json.obj (fields_eq_of_same h hfloats)

theorem items_eq_of_same {as bs : List Json} (h : sameItems as bs)
    (hfloats : ∀ number ∈ itemsNumbers as, number.isFloat = false) : as = bs := by
  match as, bs with
  | [], [] => rfl
  | a :: as, b :: bs =>
      rw [sameItems, Bool.and_eq_true] at h
      rw [itemsNumbers, List.forall_mem_append] at hfloats
      rw [eq_of_same h.1 hfloats.1, items_eq_of_same h.2 hfloats.2]

theorem fields_eq_of_same {as bs : List (String × Json)} (h : sameFields as bs)
    (hfloats : ∀ number ∈ fieldsNumbers as, number.isFloat = false) : as = bs := by
  match as, bs with
  | [], [] => rfl
  | (i, a) :: as, (j, b) :: bs =>
      rw [sameFields, Bool.and_eq_true, Bool.and_eq_true, beq_iff_eq] at h
      rw [fieldsNumbers, List.forall_mem_append] at hfloats
      rw [h.1.1, eq_of_same h.1.2 hfloats.1, fields_eq_of_same h.2 hfloats.2]

end

/-- Values without floats are the same only if they are equal. -/
theorem Portable.same_iff {a b : Json} {limit : Nat} (h : a.Portable limit) :
    a.same b = true ↔ a = b := by
  constructor
  · exact fun hsame => eq_of_same hsame h.integers
  · rintro rfl
    exact same_self a

end Json

/-! ### Calls that succeed -/

namespace Execution

variable {σ : Type}

/-- The executor answers the call with the trace, and the dump behind it with the slots. -/
def Answers (executor : Executor σ) (handle function : String) (args : List Json) (state : σ)
    (trace : Trace) (slots : List Slot) : Prop :=
  ∃ called, executor.call handle function args state = (.ok trace, called) ∧
    (executor.dumpState handle called).1 = .ok slots

theorem invoke_of_answers {executor : Executor σ} {handle function : String} {args : List Json}
    {state : σ} {trace : Trace} {slots : List Slot}
    (h : Answers executor handle function args state trace slots) (config : RunConfig) :
    (invoke executor config handle function args state).1 =
      .success (observed config trace slots) := by
  obtain ⟨called, hcall, hdump⟩ := h
  obtain ⟨answer, dumped⟩ : ∃ dumped, executor.dumpState handle called = (.ok slots, dumped) :=
    ⟨_, Prod.ext hdump rfl⟩
  unfold invoke
  simp only [bind, StateT.bind, hcall, dumped]
  rfl

end Execution

/-! ### Comparing what was returned -/

namespace Snapshot

theorem sameSlots_self (slots : List Slot) : sameSlots slots slots = true := by
  induction slots with
  | nil => rfl
  | cons slot slots ih =>
      rw [sameSlots, Slot.same, ih, beq_self_eq_true, Json.same_self, Bool.true_and, Bool.true_and]

end Snapshot

namespace Comparison

/-- The text of a value stands for the value. -/
theorem returned_text {value : Json} (h : value.Portable Raw.depthLimit) :
    returned value.text = value := by
  rw [returned, h.read_text, Option.getD_some]

/-- Whatever else was observed, the check looks at the two values, and passes if they are equal. -/
theorem returnValue_of_texts {v w : Json} {a b : Success} (hv : v.Portable Raw.depthLimit)
    (hw : w.Portable Raw.depthLimit) (ha : a.returnValue = v.text) (hb : b.returnValue = w.text) :
    (returnValue a b = .pass ↔ v = w) ∧
      (v ≠ w → returnValue a b = .discrepancy ⟨"return values differ", v, w⟩) := by
  rw [returnValue, ha, hb, returned_text hv, returned_text hw]
  by_cases heq : v = w
  · rw [hv.same_iff.2 heq]
    exact ⟨iff_of_true rfl heq, fun hne => absurd heq hne⟩
  · rw [Bool.eq_false_iff.2 (mt hv.same_iff.1 heq)]
    have hdiffer : differ "return values differ" v w =
        .discrepancy ⟨"return values differ", v, w⟩ := by
      rw [differ, Json.sorted_of_ordered v hv.regular.ordered,
        Json.sorted_of_ordered w hw.regular.ordered]
    refine ⟨⟨fun hpass => ?_, fun hsame => absurd hsame heq⟩, fun _ => hdiffer⟩
    cases hpass

/-- **Returned values are compared exactly.** Two backends answer a call with values without floats
that are no deeper than a text may be, and with the same traces and dumps otherwise. Both calls
succeed, the values are found to be the same exactly if they are equal, and otherwise the difference
holds the two values as they were returned. Nothing but the values tells the two calls apart. -/
theorem returnValues_compare_exactly {σ τ : Type} (rule : Comparison) (config other : RunConfig)
    {v w : Json} (hv : v.Portable Raw.depthLimit) (hw : w.Portable Raw.depthLimit)
    {ours : Executor σ} {theirs : Executor τ} (hslots : config.snapshotSlots = other.snapshotSlots)
    (hbytes : config.memoryBytes = other.memoryBytes)
    {gasUsed : Option Nat} {memory : Option (List UInt8)} {slots : List Slot}
    {handle handle' function : String} {args : List Json} {state : σ} {state' : τ}
    (hours : Execution.Answers ours handle function args state ⟨v, gasUsed, memory⟩ slots)
    (htheirs : Execution.Answers theirs handle' function args state' ⟨w, gasUsed, memory⟩ slots) :
    let reference := (Execution.invoke ours config handle function args state).1
    let candidate := (Execution.invoke theirs other handle' function args state').1
    let checks := rule.compare reference candidate
    reference.isError = false ∧ candidate.isError = false ∧
      (checks.returnValue = some .pass ↔ v = w) ∧
      (v ≠ w → checks.returnValue = some (.discrepancy ⟨"return values differ", v, w⟩)) ∧
      (checks.allPass = true ↔ v = w) := by
  have hreference := Execution.invoke_of_answers hours config
  have hcandidate := Execution.invoke_of_answers htheirs other
  dsimp only
  rw [hreference, hcandidate]
  obtain ⟨hpass, hdiffer⟩ := returnValue_of_texts
    (a := Execution.observed config ⟨v, gasUsed, memory⟩ slots)
    (b := Execution.observed other ⟨w, gasUsed, memory⟩ slots) hv hw rfl rfl
  refine ⟨rfl, rfl, (Option.some_inj).trans hpass, fun hne => congrArg some (hdiffer hne), ?_⟩
  refine agree_success_iff.trans ⟨fun hsame => ?_, ?_⟩
  · have hreturned : (returned v.text).same (returned w.text) := hsame.returnValue
    rwa [returned_text hv, returned_text hw, hv.same_iff] at hreturned
  · rintro rfl
    refine ⟨?_, Json.same_self _, fun _ => ?_, fun _ => rfl⟩
    · rw [Execution.observed, Execution.observed, hslots]
      exact Snapshot.sameSlots_self _
    · rw [Execution.observed, Execution.observed, hbytes]

/-- A backend that returns the same value from every call. -/
def answering (value : Json) : Executor Unit where
  deploy _ _ := pure (.ok "")
  manifest _ := pure (.ok [])
  call _ _ _ := pure (.ok ⟨value, none, none⟩)
  dumpState _ := pure (.ok [])
  reset := pure (.ok ())

/-- The largest integer is not the text of its digits. -/
theorem returnValues_of_largest_integer :
    let v : Json := .obj [("total", .nat 18446744073709551615)]
    let w : Json := .obj [("total", .str "18446744073709551615")]
    let checks (value : Json) := compare {}
      (Execution.invoke (answering v) { backend := "ivy" } "h" "f" [] ()).1
      (Execution.invoke (answering value) { backend := "boa" } "h" "f" [] ()).1
    v.Portable Raw.depthLimit ∧ w.Portable Raw.depthLimit ∧ (checks v).returnValue = some .pass ∧
      (checks w).returnValue = some (.discrepancy ⟨"return values differ", v, w⟩) := by
  intro v w checks
  have hanswers : ∀ value,
      Execution.Answers (answering value) "h" "f" [] () ⟨value, none, none⟩ [] :=
    fun value => ⟨(), rfl, rfl⟩
  have hv : v.Portable Raw.depthLimit :=
    ⟨⟨⟨List.pairwise_singleton _ _, trivial, trivial⟩, by decide⟩, by decide, by decide⟩
  have hw : w.Portable Raw.depthLimit :=
    ⟨⟨⟨List.pairwise_singleton _ _, trivial, trivial⟩, by decide⟩, by decide, by decide⟩
  have hne : v ≠ w := by simp [v, w, Json.nat, Json.int]
  obtain ⟨-, -, hsame, -⟩ := returnValues_compare_exactly {} { backend := "ivy" }
    { backend := "boa" } hv hv rfl rfl (hanswers v) (hanswers v)
  obtain ⟨-, -, -, hother, -⟩ := returnValues_compare_exactly {} { backend := "ivy" }
    { backend := "boa" } hv hw rfl rfl (hanswers v) (hanswers w)
  exact ⟨hv, hw, hsame.2 rfl, hother hne⟩

end Comparison

end Concord
