import Mathlib
import Concord.Comparison
import Concord.Proofs.Bridge.Lifetime
import Concord.Proofs.Course
import Concord.Proofs.Hex

/-!
# Memory that comes over the bridge

A backend writes memory in digits of either case. What is kept of it is the beginning of the text in
lower case, so it does not matter which case a backend prefers. A text that spells no bytes fails
its own call only: the reply had the shape of a reply, so the child that gave it is asked on.
-/

namespace Concord.Bridge

open Execution
open Executor (Exchange)

variable {bridge before after state next last : Bridge} {exchange : Exchange} {log : List Exchange}
  {child : Child}

/-! ### Going on with a child -/

def starts (bridge : Bridge) : Nat :=
  bridge.sights.count .start

theorem use_of_made (h : exchange.Made executor state next) :
    (Bridge.use exchange.use state).2 = next := by
  cases exchange
  case deploy source args answer => exact congrArg Prod.snd h
  case manifest handle answer => exact congrArg Prod.snd h
  case call handle function args answer => exact congrArg Prod.snd h
  case dumpState handle answer => exact congrArg Prod.snd h
  case reset answer => exact congrArg Prod.snd h

def used (uses : List Executor.Use) (bridge : Bridge) : Bridge :=
  uses.foldl (fun bridge use => (Bridge.use use bridge).2) bridge

/-- What is asked decides about what the bridge is then, whatever the answers are. -/
theorem used_of_plays (h : executor.Plays state log last) :
    used (log.map Exchange.use) state = last := by
  induction log generalizing state with
  | nil => exact h
  | cons exchange log ih =>
      obtain ⟨next, hmade, hrest⟩ := h
      obtain rfl := use_of_made hmade
      exact ih hrest

/-- No other child was started, and the one that there was has heard what it had heard, or more. -/
structure Same (child : Child) (before after : Bridge) : Prop where
  starts : after.starts = before.starts
  heard : ∀ later, after.child = some later → child.heard <+: later.heard

theorem same_of_made (hchild : state.child = some child) (h : exchange.Made executor state next) :
    Same child state next := by
  obtain rfl := use_of_made h
  constructor
  · have hnone : Sight.start ∉ seen (requestOf exchange.use) state := by
      rw [start_mem_seen_iff, hchild]
      exact fun hgone => nomatch hgone.1
    rw [Bridge.starts, (sights_use exchange.use state).2, List.count_append,
      List.count_eq_zero.2 hnone]
    rfl
  · intro later hlater
    rw [(kept_of_use hlater).1, reached, addressee, hchild]
    dsimp only [Option.getD_some]
    split
    · exact List.prefix_rfl
    · exact List.prefix_append _ _

/-- Whenever something is asked, there is a child. -/
inductive Steady : Bridge → List Exchange → Bridge → Prop
  | nil (state : Bridge) : Steady state [] state
  | cons {exchange : Exchange} {log : List Exchange} {state next last : Bridge}
      (hchild : state.child ≠ none) (hmade : exchange.Made executor state next)
      (hrest : Steady next log last) : Steady state (exchange :: log) last

theorem Steady.same (h : Steady state log last) (hchild : state.child = some child) :
    Same child state last := by
  induction h generalizing child with
  | nil state =>
      refine ⟨rfl, fun later hlater => ?_⟩
      obtain rfl := Option.some.inj (hchild.symm.trans hlater)
      exact List.prefix_rfl
  | cons _ hmade hrest ih =>
      have hfirst := same_of_made hchild hmade
      -- the request may give the child up, but then nothing is asked behind it
      cases hrest with
      | nil => exact hfirst
      | cons hnext hmore hrest =>
          obtain ⟨middle, hmiddle⟩ := Option.ne_none_iff_exists'.1 hnext
          have hlast := ih hmiddle
          exact ⟨hlast.starts.trans hfirst.starts, fun later hlater =>
            (hfirst.heard middle hmiddle).trans (hlast.heard later hlater)⟩

/-- There is a child, and what is still asked is asked of it up to where a request gives it up. -/
def GoesOn (after : Bridge) (rest : List Exchange) : Prop :=
  ∃ child, after.child = some child ∧ ∀ asked more state, rest = asked ++ more →
    Steady after asked state → Same child after state

theorem goesOn_of_child (h : after.child ≠ none) (rest : List Exchange) : GoesOn after rest := by
  obtain ⟨child, hchild⟩ := Option.ne_none_iff_exists'.1 h
  exact ⟨child, hchild, fun _ _ _ _ hsteady => hsteady.same hchild⟩

/-! ### A reply that has the shape of one -/

theorem exists_value_of_understood {α : Type} {fault : String → Executor.Fault} {decode : Decoder α}
    {answer : Except Executor.Fault Answer} {found : α}
    (h : understood fault decode answer = .ok found) :
    ∃ value, answer = .ok (.ok value) ∧ decode.take value = .ok found := by
  rcases answer with failure | message | value
  · cases h
  · cases h
  · refine ⟨value, rfl, ?_⟩
    unfold understood at h
    dsimp only at h
    split at h
    · next htake =>
        cases h
        exact htake
    · cases h

/-- A value that has been read was in a reply, and the child that gave the reply is kept. -/
theorem child_of_ask {α : Type} {fault : String → Executor.Fault} {decode : Decoder α}
    {request : Request} {found : α} (h : ask fault decode request before = (.ok found, after)) :
    after.child ≠ none := by
  rw [ask_apply] at h
  obtain ⟨hunderstood, hafter⟩ := Prod.mk.inj h
  obtain ⟨value, hvalue, htake⟩ := exists_value_of_understood hunderstood
  obtain ⟨ending, hends⟩ := exists_ends request before
  obtain ⟨hanswer, hchild⟩ := exchange_of_ends hends
  have hreply : ending.isReply = true := by
    rw [hvalue] at hanswer
    cases ending with
    | replied ok error => rfl
    | refused | unwritten | unread | garbled | closed => cases hanswer
  have hshaped : wellShaped decode (exchange request before).1 = true := by
    rw [hvalue, wellShaped, htake]
    rfl
  rw [if_pos hshaped] at hafter
  rw [hreply, hafter] at hchild
  exact Option.isSome_iff_ne_none.1 hchild

/-! ### The call that the memory came from -/

section Calls

variable {handle function : String} {args : List Json} {found : CallReply} {text : String}

theorem call_of_reply
    (h : ask .runtime callReply (.call handle function args) before = (.ok found, after)) :
    executor.call handle function args before = (found.trace, after) := by
  simp only [executor, bind, StateT.bind, h]
  rfl

theorem trace_of_spelled (h : found.memory = some text) (hspelled : Text.Hex.Spelled text) :
    ∃ bytes, found.trace = .ok ⟨found.returnValue, found.gasUsed, some bytes⟩ ∧
      ∀ limit, Text.Hex.encode (bytes.take limit) = Text.Hex.image limit text := by
  obtain ⟨bytes, hdecode, hlower⟩ := hspelled.decode
  refine ⟨bytes, ?_, Text.Hex.encode_take hlower⟩
  rw [CallReply.trace, h]
  dsimp only
  rw [hdecode]

theorem trace_of_not_spelled (h : found.memory = some text)
    (hspelled : ¬ Text.Hex.Spelled text) :
    ∃ fault, Text.Hex.decode text = .error fault ∧
      found.trace = .error (.bridge ("memory is not hex: " ++ fault.message)) := by
  obtain ⟨fault, hdecode⟩ := Text.Hex.exists_fault_iff.2 hspelled
  refine ⟨fault, hdecode, ?_⟩
  rw [CallReply.trace, h]
  dsimp only
  rw [hdecode]

/-- What is recorded of a call that succeeded, with a text for its memory. -/
def recorded (config : RunConfig) (found : CallReply) (text : String) :
    Except Executor.Fault (List Slot) → Outcome
  | .ok slots => .success {
      state := Snapshot.bounded slots config.snapshotSlots
      memory := some (Text.Hex.image config.memoryBytes text)
      gasUsed := found.gasUsed
      returnValue := found.returnValue.text }
  | .error fault => .runtimeError fault.message

/-- The stage of a call whose reply brings memory, with what is asked behind it. -/
structure Normalised (config : RunConfig) (handle function : String) (args : List Json)
    (found : CallReply) (text : String) (replied : Bridge) (stage : Stage Bridge)
    (rest : List Exchange) : Prop where
  /-- The child that was there before the call gave the reply, and is there. -/
  kept : replied.child ≠ none ∧
    ∀ child, stage.before.child = some child → Same child stage.before replied
  /-- Digits are kept in lower case, and the state is dumped. -/
  spelled : Text.Hex.Spelled text → ∃ trace dumped,
    stage.log = [.call handle function args (.ok trace), .dumpState handle dumped] ∧
      executor.dumpState handle replied = (dumped, stage.after) ∧
      stage.outcome = recorded config found text dumped
  /-- Anything else fails the call, and nothing but the call. -/
  failed : ¬ Text.Hex.Spelled text → ∃ fault, Text.Hex.decode text = .error fault ∧
    stage.log = [.call handle function args
      (.error (.bridge ("memory is not hex: " ++ fault.message)))] ∧
    stage.outcome =
      .runtimeError ("backend bridge failure: memory is not hex: " ++ fault.message) ∧
    stage.after = replied ∧ GoesOn stage.after rest

theorem made_of_plays (h : executor.Plays state [exchange] last) :
    exchange.Made executor state last := by
  obtain ⟨next, hmade, rfl⟩ := h
  exact hmade

theorem called_of_fits {config : RunConfig} {stage : Stage Bridge} (h : stage.Fits config)
    {answer : Except Executor.Fault Trace} {dumps : List Exchange}
    (hlog : stage.log = .call handle function args answer :: dumps) :
    Called config handle function args (.call handle function args answer :: dumps)
      stage.outcome := by
  obtain ⟨_, log, _, outcome⟩ := stage
  obtain rfl : log = _ := hlog
  rcases h with hnil | ⟨handle', function', args', hcalled⟩
  · cases hnil
  · cases hcalled with
    | refused fault => exact .refused fault
    | undumped trace fault => exact .undumped trace fault
    | observed trace slots => exact .observed trace slots

theorem normalised_of_stage {config : RunConfig} {stage : Stage Bridge} {replied : Bridge}
    {answer : Except Executor.Fault Trace} {dumps : List Exchange}
    (hfits : stage.Fits config) (hplays : executor.Plays stage.before stage.log stage.after)
    (hlog : stage.log = .call handle function args answer :: dumps)
    (hreply : ask .runtime callReply (.call handle function args) stage.before =
      (.ok found, replied))
    (hmemory : found.memory = some text) (rest : List Exchange) :
    Normalised config handle function args found text replied stage rest := by
  have hcall := call_of_reply hreply
  have hcalled := called_of_fits hfits hlog
  obtain ⟨before, log, after, outcome⟩ := stage
  obtain rfl : log = _ := hlog
  obtain ⟨next, hmade, hdumps⟩ := hplays
  obtain ⟨rfl, rfl⟩ := Prod.mk.inj (hcall.symm.trans hmade)
  have hkept := child_of_ask hreply
  exact {
    kept := ⟨hkept, fun child hchild => same_of_made hchild hmade⟩
    spelled := by
      intro hspelled
      obtain ⟨bytes, htrace, himage⟩ := trace_of_spelled hmemory hspelled
      rw [htrace] at hcalled ⊢
      cases hcalled with
      | undumped trace fault => exact ⟨_, _, rfl, made_of_plays hdumps, rfl⟩
      | observed trace slots =>
          refine ⟨_, _, rfl, made_of_plays hdumps, ?_⟩
          rw [observed, Option.map_some, himage]
          rfl
    failed := by
      intro hspelled
      obtain ⟨fault, hdecode, htrace⟩ := trace_of_not_spelled hmemory hspelled
      rw [htrace] at hcalled ⊢
      cases hcalled with
      | refused =>
          obtain rfl := hdumps
          exact ⟨fault, hdecode, rfl, rfl, rfl, goesOn_of_child hkept rest⟩ }

end Calls

/-! ### Runs -/

theorem memoryImage_of_same_letters {text other : String}
    (h : text.toList.map Char.toLower = other.toList.map Char.toLower) (bytes : Nat)
    {ours theirs : Success} (hours : ours.memory = some (Text.Hex.image bytes text))
    (htheirs : theirs.memory = some (Text.Hex.image bytes other)) :
    Comparison.memoryImage ours theirs = .pass := by
  rw [Comparison.memoryImage, hours, htheirs, Text.Hex.image_congr h, beq_self_eq_true]
  rfl

/-- **Memory is kept in lower case, or its call fails alone.** A run makes all of its calls, and
what it records of each is at the place of the call. Where the reply to a call brings a text for the
memory, the beginning of digits in pairs is kept, in lower case, as far as the state can be dumped;
so texts that differ in case only compare equal. Any other text makes the call a runtime error
without a dump. The child that replied is there for the rest of the run, and no other one is started
as long as no request gives it up. -/
theorem memory_normalised (generation : Generation) (config : RunConfig) (bridge : Bridge) :
    let run := generation.execute executor config bridge
    (∃ log stages,
      generation.execute executor.noted config (bridge, []) =
        (run.1, run.2, log.map Exchange.use) ∧
      Disciplined generation config log run.1 ∧ Course executor bridge stages log run.2 ∧
      stages.map Stage.outcome = run.1.outcomes ∧ (∀ stage ∈ stages, stage.Fits config) ∧
      ∀ front stage back, stages = front ++ stage :: back → ∃ earlier rest,
        log = earlier ++ stage.log ++ rest ∧
        Course executor bridge front earlier stage.before ∧
        Course executor stage.after back rest run.2 ∧
        ∀ handle function args answer dumps found replied text,
          stage.log = .call handle function args answer :: dumps →
          ask .runtime callReply (.call handle function args) stage.before =
            (.ok found, replied) →
          found.memory = some text →
          Normalised config handle function args found text replied stage rest) ∧
    ∀ (text other : String) (ours theirs : Success),
      text.toList.map Char.toLower = other.toList.map Char.toLower →
      ours.memory = some (Text.Hex.image config.memoryBytes text) →
      theirs.memory = some (Text.Hex.image config.memoryBytes other) →
      Comparison.memoryImage ours theirs = .pass := by
  intro run
  obtain ⟨log, hplays, hnoted, hdisciplined⟩ :=
    performs_execute executor generation config bridge []
  obtain ⟨stages, hcourse, houtcomes, hfits⟩ :=
    staged_of_disciplined hdisciplined bridge run.2 hplays
  refine ⟨⟨log, stages, hnoted, hdisciplined, hcourse, houtcomes, hfits, ?_⟩, ?_⟩
  · rintro front stage back rfl
    obtain ⟨earlier, rest, hlog, hfront, hstage, hback⟩ := hcourse.split
    refine ⟨earlier, rest, hlog, hfront, hback, ?_⟩
    intro handle function args answer dumps found replied text hcall hreply hmemory
    exact normalised_of_stage (hfits stage (by simp)) hstage hcall hreply hmemory rest
  · intro text other ours theirs hletters
    exact memoryImage_of_same_letters hletters config.memoryBytes

theorem exists_reply_of_text {request : Request} {text : String}
    (h : (ask .runtime callReply request before).1.toOption.map (·.memory) = some (some text)) :
    ∃ found replied, ask .runtime callReply request before = (.ok found, replied) ∧
      found.memory = some text := by
  rcases hask : ask .runtime callReply request before with ⟨fault | found, replied⟩
  · rw [hask] at h
    cases h
  · rw [hask] at h
    exact ⟨found, replied, rfl, Option.some.inj h⟩

/-- A backend that puts a prefix in front of its digits at first, and then writes them in either
case. -/
def wavering : Nat → Option (List Line)
  | 1 => some [Text.Utf8.encode "\x7b\"id\":1,\"ok\":\x7b\"handle\":\"a\"\x7d\x7d"]
  | 2 => some [Text.Utf8.encode "\x7b\"id\":2,\"ok\":[\x7b\"name\":\"get\"\x7d]\x7d"]
  | 3 => some [Text.Utf8.encode "\x7b\"id\":3,\"ok\":\x7b\"memory\":\"0xAf\"\x7d\x7d"]
  | 4 => some [Text.Utf8.encode "\x7b\"id\":4,\"ok\":\x7b\"memory\":\"0AfFe0\"\x7d\x7d"]
  | 5 => some [Text.Utf8.encode "\x7b\"id\":5,\"ok\":[]\x7d"]
  | _ => some []

def twice : Generation where
  id := "g"
  source := "contract"
  backendSources := .empty
  functionInputs := Table.empty.insert "get" [[], []]
  constructorInputs := []
  compileError := none

/-- A deployment, its exports, two calls, a dump for the second one and a reset. -/
def asksTwice : List Executor.Use → Bool
  | [.deploy "contract" [], .manifest "a", .call "a" "get" [], .call "a" "get" [], .dumpState "a",
      .reset] => true
  | _ => false

theorem exists_asked_of_twice {result : RunResult} {log : List Exchange}
    (h : twice.execute executor.noted ⟨"b", none, 10, 2⟩ (scripted "backend" wavering, []) =
      (result, last, log.map Exchange.use)) :
    ∃ deployed exports failed kept slots answer,
      log = [.deploy "contract" [] deployed, .manifest "a" exports, .call "a" "get" [] failed,
        .call "a" "get" [] kept, .dumpState "a" slots, .reset answer] := by
  have huses : asksTwice (twice.execute executor.noted ⟨"b", none, 10, 2⟩
      (scripted "backend" wavering, [])).2.2 = true := by decide +kernel
  rw [h] at huses
  unfold asksTwice at huses
  dsimp only at huses
  split at huses
  case h_2 => cases huses
  case h_1 hlog =>
    simp only [List.map_eq_cons_iff, List.map_eq_nil_iff] at hlog
    obtain ⟨deploy, _, rfl, hdeploy, manifest, _, rfl, hmanifest, first, _, rfl, hfirst, second, _,
      rfl, hsecond, dump, _, rfl, hdump, reset, _, rfl, hreset, rfl⟩ := hlog
    cases deploy <;> cases hdeploy
    cases manifest <;> cases hmanifest
    cases first <;> cases hfirst
    cases second <;> cases hsecond
    cases dump <;> cases hdump
    cases reset <;> cases hreset
    exact ⟨_, _, _, _, _, _, rfl⟩

/-- The call whose digits have a prefix fails. The child is asked on, and what it says in either case
is kept in lower case. -/
theorem memory_normalised_wavering :
    let config : RunConfig := ⟨"b", none, 10, 2⟩
    let bridge := scripted "backend" wavering
    let run := twice.execute executor config bridge
    (∃ log failed kept, Course executor bridge [failed, kept] log run.2 ∧
      [failed.outcome, kept.outcome] = run.1.outcomes ∧
      (∃ earlier rest found replied, log = earlier ++ failed.log ++ rest ∧
        Normalised config "a" "get" [] found "0xAf" replied failed rest) ∧
      ∃ earlier rest found replied, log = earlier ++ kept.log ++ rest ∧
        Normalised config "a" "get" [] found "0AfFe0" replied kept rest) ∧
    run.1.outcomes.map (·.encode.text) =
        ["\x7b\"kind\":\"runtime_error\",\"message\":\"backend bridge failure: " ++
            "memory is not hex: Invalid character 'x' at position 1\"\x7d",
          "\x7b\"kind\":\"success\",\"state\":[],\"memory\":\"0aff\"," ++
            "\"gas_used\":null,\"return_value\":\"null\"\x7d"] ∧
    run.2.requests = 6 ∧ run.2.starts = 1 ∧
    ∀ ours theirs : Success, ours.memory = some (Text.Hex.image config.memoryBytes "0AfFe0") →
      theirs.memory = some (Text.Hex.image config.memoryBytes "0aFFE0") →
      Comparison.memoryImage ours theirs = .pass := by
  intro config bridge run
  obtain ⟨⟨log, stages, hnoted, -, hcourse, houtcomes, hfits, hnormalised⟩, hcompare⟩ :=
    memory_normalised twice config bridge
  obtain ⟨_, _, _, _, _, _, rfl⟩ := exists_asked_of_twice hnoted
  have hlength : stages.length = 2 := by
    have hcount : run.1.outcomes.length = 2 := by decide +kernel
    rwa [← houtcomes, List.length_map] at hcount
  have hcalls := hcourse.called hfits hlength.symm
  obtain ⟨failed, kept, rfl⟩ := List.length_eq_two.1 hlength
  obtain ⟨_, _, _, hfailed⟩ := hcalls failed List.mem_cons_self
  obtain ⟨_, _, _, hkept⟩ := hcalls kept (List.mem_cons_of_mem failed List.mem_cons_self)
  -- the first call, and what came of it
  obtain ⟨hplays, dumps, rest, hlog, hrest, hnext⟩ :=
    hcourse.enter [.deploy "contract" [] _, .manifest "a" _] hfailed rfl rfl
  have hbefore : used [.deploy "contract" [], .manifest "a"] bridge = failed.before :=
    used_of_plays hplays
  obtain ⟨found, replied, hreply, hmemory⟩ : ∃ found replied,
      ask .runtime callReply (.call "a" "get" []) failed.before = (.ok found, replied) ∧
        found.memory = some "0xAf" := by
    refine exists_reply_of_text ?_
    rw [← hbefore]
    decide +kernel
  obtain ⟨_, _, hfirst, -, -, hstage⟩ := hnormalised [] failed [kept] rfl
  have hprefixed := hstage _ _ _ _ _ _ _ _ hlog hreply hmemory
  obtain ⟨_, -, hcall, -, hafter, -⟩ := hprefixed.failed (by decide)
  obtain ⟨-, rfl⟩ := List.cons.inj (hlog.symm.trans hcall)
  obtain rfl : [_, _, _] = rest := hrest
  -- the second one is asked of the same child
  obtain ⟨hagain, _, _, hlog', -, -⟩ := hnext.enter [] hkept rfl rfl
  have hsame : failed.after = kept.before := hagain
  obtain ⟨found', replied', hreply', hmemory'⟩ : ∃ found replied,
      ask .runtime callReply (.call "a" "get" []) kept.before = (.ok found, replied) ∧
        found.memory = some "0AfFe0" := by
    refine exists_reply_of_text ?_
    have hreplied : (ask .runtime callReply (.call "a" "get" []) failed.before).2 = replied :=
      congrArg Prod.snd hreply
    rw [← hsame, hafter, ← hreplied, ← hbefore]
    decide +kernel
  obtain ⟨_, _, hsecond, -, -, hstage'⟩ := hnormalised [failed] kept [] rfl
  have hmixed := hstage' _ _ _ _ _ _ _ _ hlog' hreply' hmemory'
  refine ⟨⟨_, failed, kept, hcourse, houtcomes, ⟨_, _, _, _, hfirst, hprefixed⟩,
    ⟨_, _, _, _, hsecond, hmixed⟩⟩, ?_, ?_⟩
  · decide +kernel
  · exact ⟨by decide +kernel, by decide +kernel, fun ours theirs hours htheirs =>
      hcompare "0AfFe0" "0aFFE0" ours theirs (by decide) hours htheirs⟩

end Concord.Bridge
