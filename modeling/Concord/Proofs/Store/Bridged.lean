import Mathlib
import Concord.Proofs.Store.Readback

/-!
# What is read back of runs over the bridge

Results that were run over the bridge and verifications that compare loaded results are given back
unless one of their values is too deep for its document or has a float that is read as another one.
The bridge itself takes deeper values than a result can be read with.
-/

namespace Concord

namespace Store

variable {store : Store} {operations : List Operation}

/-- Every result was run over the bridge, and every verification compares results that were loaded
before it was recorded. -/
structure Bridged (operations : List Operation) : Prop where
  runs : ∀ result, .upsertRun result ∈ operations →
    ∃ (generation : Generation) (config : RunConfig) (bridge : Bridge),
      result = (generation.execute Bridge.executor config bridge).1
  verifications : ∀ {before verification rest},
    operations = before ++ .recordVerification verification :: rest →
      ∃ rule backends earlier middle, before = earlier ++ middle ∧
        Compared rule backends earlier verification

/-- What is loaded was read, so it keeps regular values only. -/
theorem regular_of_mem_loadRuns {generation : String} {results : List RunResult}
    (hload : store.loadRuns generation = .ok results) : ∀ result ∈ results, result.Regular := by
  intro result hresult
  obtain ⟨row, -, -, hdecode⟩ := (mem_loadRuns_iff hload).1 hresult
  obtain ⟨read, hread, rfl⟩ := decodeRun_eq_ok_iff.1 hdecode
  have hregular := RunResult.decoder_yields.of_read? hread
  exact hregular

theorem Bridged.regular_run (h : Bridged operations) {result : RunResult}
    (hwritten : .upsertRun result ∈ operations) : result.Regular := by
  obtain ⟨generation, config, bridge, rfl⟩ := h.runs result hwritten
  exact generation.regular_execute Bridge.regular_executor config bridge

theorem Bridged.regular_verification (h : Bridged operations) {verification : Verification}
    (hwritten : .recordVerification verification ∈ operations) : verification.Regular := by
  obtain ⟨before, rest, hsplit⟩ := List.append_of_mem hwritten
  obtain ⟨rule, backends, earlier, middle, -, results, hload, hcompared⟩ := h.verifications hsplit
  exact Comparison.regular_verification? (regular_of_mem_loadRuns hload) hcompared

/-- **What a pipeline over the bridge reads back.** Everything kept is given back exactly if no
value that is kept is too deep for its place or has a float that is read as another one. -/
theorem readsBack_iff_legible (h : Bridged operations) :
    ReadsBack operations ↔
      (∀ result, KeepsRun operations result → result.Legible) ∧
        ∀ verification, KeepsVerification operations verification → verification.Legible := by
  have hruns : (∀ result, KeepsRun operations result → result.Durable) ↔
      ∀ result, KeepsRun operations result → result.Legible :=
    forall₂_congr fun result hkept => (h.regular_run hkept.written).durable_iff
  have hverifications : (∀ verification, KeepsVerification operations verification →
      verification.Durable) ↔
        ∀ verification, KeepsVerification operations verification → verification.Legible :=
    forall₂_congr fun verification hkept => (h.regular_verification hkept.written).durable_iff
  rw [readsBack_iff_durable, hruns, hverifications]

end Store

/-! ### One call on two backends -/

namespace Relay

/-- The line that answers a request by a value. -/
def line (id : Nat) (value : Json) : Bridge.Line :=
  Text.Utf8.encode (Json.obj [("id", .nat id), ("ok", value)]).text

/-- A program with one function that leaves these slots. It prints its replies whatever it is
sent. -/
def printing (slots : List Slot) : Bridge.Program where
  name := ""
  refusal := none
  output _ :=
    { lines := [line 1 (.obj [("handle", .str "h")]), line 2 (.arr [.obj [("name", .str "f")]]),
        line 3 (.obj []), line 4 (.list Slot.encode slots)]
      exited := false }

def missing : Bridge.Program where
  name := "boa"
  refusal := some "not found"
  output _ := ⟨[], true⟩

/-- A candidate with one call. -/
def generation : Generation :=
  ⟨"g", "", .empty, .ofList [("f", [[]])], [], none⟩

def run (backend : String) (program : Bridge.Program) : RunResult where
  generation := "g"
  backend := backend
  calls := (Execution.deployments Bridge.executor { backend } generation 0
    generation.constructorSets ⟨program, 0, none, []⟩).1
  isHandled := false

theorem run_eq_execute (backend : String) (program : Bridge.Program) :
    run backend program =
      (generation.execute Bridge.executor { backend } ⟨program, 0, none, []⟩).1 :=
  rfl

def ivy : RunResult :=
  run "ivy" (printing [⟨"s", .arr [.nat 7]⟩])

def boa : RunResult :=
  run "boa" missing

def comparison : Verification :=
  ⟨"g", ["ivy", "boa"], [boa].flatMap (({} : Comparison).compareRuns ivy), false⟩

/-- One backend leaves a slot and the other cannot be started. This is a discrepancy. -/
def history : List Store.Operation :=
  [.upsertRun ivy, .upsertRun boa, .recordVerification comparison]

theorem legible_ivy : ivy.Legible :=
  ⟨by decide +kernel, by decide +kernel⟩

theorem legible_boa : boa.Legible :=
  ⟨by decide +kernel, by decide +kernel⟩

theorem legible_comparison : comparison.Legible :=
  ⟨by decide +kernel, by decide +kernel⟩

theorem regular_run (backend : String) (program : Bridge.Program) :
    (run backend program).Regular :=
  run_eq_execute backend program ▸
    generation.regular_execute Bridge.regular_executor { backend } _

theorem loadRuns_eq_ok : (Store.after [.upsertRun ivy, .upsertRun boa]).loadRuns "g" =
    .ok [boa, ivy] := by
  have hboa := (regular_run "boa" missing).durable_iff.2 legible_boa
  have hivy := (regular_run "ivy" (printing [⟨"s", .arr [.nat 7]⟩])).durable_iff.2 legible_ivy
  exact mapM_eq_ok_iff.2 (.cons (Store.decodeRun_of_durable hboa false)
    (.cons (Store.decodeRun_of_durable hivy false) .nil))

theorem bridged_history : Store.Bridged history := by
  constructor
  · intro result hresult
    simp only [history, List.mem_cons, List.not_mem_nil, Store.Operation.upsertRun.injEq,
      reduceCtorEq, or_false] at hresult
    rcases hresult with rfl | rfl
    · exact ⟨generation, { backend := "ivy" }, _, run_eq_execute "ivy" _⟩
    · exact ⟨generation, { backend := "boa" }, _, run_eq_execute "boa" _⟩
  · intro before verification rest hsplit
    have hlast : [.upsertRun ivy, .upsertRun boa] ++ [.recordVerification comparison] =
        before ++ .recordVerification verification :: rest := hsplit
    obtain ⟨rfl, rfl⟩ := Store.eq_of_last_recording (by simp) hlast
    exact ⟨{}, ["ivy", "boa"], _, [], (List.append_nil _).symm, _, loadRuns_eq_ok, rfl⟩

/-- Both results and what comparing them shows are given back. -/
theorem readsBack_history : Store.Bridged history ∧ comparison.hasDiscrepancy = true ∧
    Store.ReadsBack history := by
  refine ⟨bridged_history, by decide +kernel,
    (Store.readsBack_iff_legible bridged_history).2 ⟨?_, ?_⟩⟩
  · rintro result ⟨hwritten, -⟩
    simp only [history, List.mem_cons, List.not_mem_nil, Store.Operation.upsertRun.injEq,
      reduceCtorEq, or_false] at hwritten
    rcases hwritten with rfl | rfl
    · exact legible_ivy
    · exact legible_boa
  · rintro verification ⟨hwritten, -⟩
    simp only [history, List.mem_cons, List.not_mem_nil, Store.Operation.recordVerification.injEq,
      reduceCtorEq, or_false, false_or] at hwritten
    subst hwritten
    exact legible_comparison

/-! ### A slot that is too deep -/

/-- Arrays inside one another. -/
def nested : Nat → Json
  | 0 => .arr []
  | levels + 1 => .arr [nested levels]

/-- The result of a call that leaves a slot of 121 arrays inside one another. -/
def deep : RunResult :=
  run "ivy" (printing [⟨"s", nested 120⟩])

theorem exists_deep_slot : ∃ calls ∈ deep.calls, ∃ outcome ∈ calls.outcomes,
    ∃ slot ∈ outcome.slots, Slot.allowance < slot.value.depth := by
  decide +kernel

/-- The bridge takes a slot that a result cannot be read with. -/
theorem not_readsBack_of_deep_slot :
    ¬∀ operations, Store.Bridged operations → Store.ReadsBack operations := by
  intro h
  have hbridged : Store.Bridged [.upsertRun deep] := by
    constructor
    · intro result hresult
      cases List.mem_singleton.1 hresult
      exact ⟨generation, { backend := "ivy" }, _, run_eq_execute "ivy" _⟩
    · intro before verification rest hsplit
      have hmem : .recordVerification verification ∈ [Store.Operation.upsertRun deep] :=
        hsplit ▸ List.mem_append_right before List.mem_cons_self
      cases List.mem_singleton.1 hmem
  have hstands : (Store.after [.upsertRun deep]).run? deep.generation deep.backend =
      some (.ofResult deep) :=
    (Store.run?_upsertRun {} deep deep.generation deep.backend).trans (if_pos ⟨rfl, rfl⟩)
  have hkept : Store.KeepsRun [.upsertRun deep] deep :=
    ⟨List.mem_cons_self, .ofResult deep, hstands, rfl⟩
  have hdurable := ((Store.readsBack_iff_durable _).1 (h _ hbridged)).1 deep hkept
  obtain ⟨calls, hcalls, outcome, houtcome, slot, hslot, hdeep⟩ := exists_deep_slot
  have hlegible := (regular_run "ivy" _).durable_iff.1 hdurable
  exact absurd (hlegible.slots calls hcalls outcome houtcome slot hslot).depth (Nat.not_le.2 hdeep)

end Relay

end Concord
