import Mathlib
import Concord.Proofs.Bridge.Requests

/-!
# How long a child lives

A child is started for a request exactly if there is none, and it lives until a request finds it
broken: it cannot be written to, its output ends, fails or breaks the encoding before the reply, or
the reply holds a value of a shape that the operation does not know. Whatever else it says is an
answer of a child that is kept.
-/

namespace Concord.Bridge

/-! ### Lines up to the reply -/

/-- A line that can be read, and is no reply to request `id`. -/
def Other (id : Nat) (line : Line) : Prop :=
  ∃ text, Text.Utf8.decode (line ++ [0x0A]) = .ok text ∧ number? text ≠ some id

/-- What a reply says: an error that it names stands over a value. -/
def said (ok : Option Json) : Option String → Answer
  | some message => .error message
  | none => .ok (ok.getD .null)

theorem answerIn?_eq_none_iff {id : Nat} {text : String} :
    answerIn? id text = none ↔ number? text ≠ some id := by
  rw [← Option.not_isSome_iff_eq_none, answerIn?_isSome_iff]

theorem answerIn?_eq_some_iff {id : Nat} {text : String} {answer : Answer} :
    answerIn? id text = some answer ↔
      ∃ ok error, reply.read? text = some (some id, ok, error) ∧ answer = said ok error := by
  unfold answerIn?
  cases reply.read? text with
  | none => simp
  | some found =>
      obtain ⟨number, ok, error⟩ := found
      by_cases hnumber : number = some id
      · subst hnumber
        cases error <;> simp [said, eq_comm]
      · simp [hnumber]

theorem await_append_of_other {id : Nat} {skipped : List Line}
    (h : ∀ line ∈ skipped, Other id line) (lines : List Line) :
    await id (skipped ++ lines) = await id lines := by
  induction skipped with
  | nil => rfl
  | cons line skipped ih =>
      obtain ⟨⟨text, htext, hnumber⟩, hrest⟩ := List.forall_mem_cons.1 h
      rw [List.cons_append, await, htext]
      dsimp only
      rw [answerIn?_eq_none_iff.2 hnumber]
      exact ih hrest

theorem await_append_cons {id : Nat} {skipped rest : List Line} {line : Line} {text : String}
    {ok : Option Json} {error : Option String} (hskipped : ∀ other ∈ skipped, Other id other)
    (htext : Text.Utf8.decode (line ++ [0x0A]) = .ok text)
    (hread : reply.read? text = some (some id, ok, error)) :
    await id (skipped ++ line :: rest) = .answered (said ok error) rest := by
  rw [await_append_of_other hskipped, await, htext]
  dsimp only
  rw [answerIn?_eq_some_iff.2 ⟨ok, error, hread, rfl⟩]

/-- The lines are read up to a reply, up to a line that cannot be read, or to their end. -/
theorem await_cases (id : Nat) (lines : List Line) :
    (∃ skipped line rest text ok error, lines = skipped ++ line :: rest ∧
        (∀ other ∈ skipped, Other id other) ∧ Text.Utf8.decode (line ++ [0x0A]) = .ok text ∧
        reply.read? text = some (some id, ok, error)) ∨
      (∃ skipped line rest fault, lines = skipped ++ line :: rest ∧
        (∀ other ∈ skipped, Other id other) ∧ Text.Utf8.decode (line ++ [0x0A]) = .error fault) ∨
      ∀ line ∈ lines, Other id line := by
  induction lines with
  | nil => exact .inr (.inr nofun)
  | cons line lines ih =>
      cases htext : Text.Utf8.decode (line ++ [0x0A]) with
      | error fault => exact .inr (.inl ⟨[], line, lines, fault, rfl, nofun, htext⟩)
      | ok text =>
          cases hanswer : answerIn? id text with
          | some answer =>
              obtain ⟨ok, error, hread, -⟩ := answerIn?_eq_some_iff.1 hanswer
              exact .inl ⟨[], line, lines, text, ok, error, rfl, nofun, htext, hread⟩
          | none =>
              have hother : Other id line := ⟨text, htext, answerIn?_eq_none_iff.1 hanswer⟩
              rcases ih with ⟨skipped, reply, rest, found, ok, error, rfl, hskipped, hreply⟩ |
                ⟨skipped, broken, rest, fault, rfl, hskipped, hfault⟩ | hall
              · exact .inl ⟨line :: skipped, reply, rest, found, ok, error, rfl,
                  List.forall_mem_cons.2 ⟨hother, hskipped⟩, hreply⟩
              · exact .inr (.inl ⟨line :: skipped, broken, rest, fault, rfl,
                  List.forall_mem_cons.2 ⟨hother, hskipped⟩, hfault⟩)
              · exact .inr (.inr (List.forall_mem_cons.2 ⟨hother, hall⟩))

/-! ### How a request ends -/

section Ends

variable {request : Request} {bridge : Bridge}

/-- The child that gets the next request: the one there is, or else a new one. -/
def addressee (bridge : Bridge) : Child :=
  bridge.child.getD {}

/-- The lines that the addressee has got when the request was written. -/
def reached (request : Request) (bridge : Bridge) : List (Nat × String) :=
  let number := bridge.requests + 1
  let heard := bridge.addressee.heard
  if (bridge.program.output heard).exited then heard
  else heard ++ [(number, request.line number)]

/-- The lines on its output that were not read for earlier requests. -/
def offered (request : Request) (bridge : Bridge) : List Line :=
  (bridge.program.output (reached request bridge)).lines.drop bridge.addressee.read

/-- There is a child, or one can be started. -/
def Ready (bridge : Bridge) : Prop :=
  bridge.child = none → bridge.program.refusal = none

structure Written (bridge : Bridge) : Prop where
  ready : bridge.Ready
  written : bridge.writeFault? bridge.addressee = none

inductive Ending where
  | refused (reason : String)
  | unwritten (reason : String)
  | unread (reason : String)
  | garbled (fault : Text.Utf8.Fault)
  | closed
  | replied (ok : Option Json) (error : Option String)

inductive Ends (request : Request) (bridge : Bridge) : Ending → Prop
  | refused {reason : String} (hchild : bridge.child = none)
      (hrefusal : bridge.program.refusal = some reason) : Ends request bridge (.refused reason)
  | unwritten {reason : String} (hready : bridge.Ready)
      (hfault : bridge.writeFault? bridge.addressee = some reason) :
      Ends request bridge (.unwritten reason)
  | unread {reason : String} (hwritten : bridge.Written)
      (hothers : ∀ line ∈ offered request bridge, Other (bridge.requests + 1) line)
      (hfault : bridge.program.unreadable (reached request bridge) = some reason) :
      Ends request bridge (.unread reason)
  | closed (hwritten : bridge.Written)
      (hothers : ∀ line ∈ offered request bridge, Other (bridge.requests + 1) line)
      (hfault : bridge.program.unreadable (reached request bridge) = none) :
      Ends request bridge .closed
  | garbled {skipped rest : List Line} {line : Line} {fault : Text.Utf8.Fault}
      (hwritten : bridge.Written) (hlines : offered request bridge = skipped ++ line :: rest)
      (hskipped : ∀ other ∈ skipped, Other (bridge.requests + 1) other)
      (hfault : Text.Utf8.decode (line ++ [0x0A]) = .error fault) :
      Ends request bridge (.garbled fault)
  | replied {skipped rest : List Line} {line : Line} {text : String} {ok : Option Json}
      {error : Option String} (hwritten : bridge.Written)
      (hlines : offered request bridge = skipped ++ line :: rest)
      (hskipped : ∀ other ∈ skipped, Other (bridge.requests + 1) other)
      (htext : Text.Utf8.decode (line ++ [0x0A]) = .ok text)
      (hread : reply.read? text = some (some (bridge.requests + 1), ok, error)) :
      Ends request bridge (.replied ok error)

theorem exists_ends (request : Request) (bridge : Bridge) :
    ∃ ending, Ends request bridge ending := by
  by_cases hready : bridge.Ready
  · cases hfault : bridge.writeFault? bridge.addressee with
    | some reason => exact ⟨_, .unwritten hready hfault⟩
    | none =>
        have hwritten : bridge.Written := ⟨hready, hfault⟩
        rcases await_cases (bridge.requests + 1) (offered request bridge) with
          ⟨skipped, line, rest, text, ok, error, hlines, hskipped, htext, hread⟩ |
          ⟨skipped, line, rest, fault, hlines, hskipped, hbroken⟩ | hothers
        · exact ⟨_, .replied hwritten hlines hskipped htext hread⟩
        · exact ⟨_, .garbled hwritten hlines hskipped hbroken⟩
        · cases hunreadable : bridge.program.unreadable (reached request bridge) with
          | some reason => exact ⟨_, .unread hwritten hothers hunreadable⟩
          | none => exact ⟨_, .closed hwritten hothers hunreadable⟩
  · obtain ⟨hchild, hrefusal⟩ := Classical.not_imp.1 hready
    obtain ⟨reason, hreason⟩ := Option.ne_none_iff_exists'.1 hrefusal
    exact ⟨_, .refused hchild hreason⟩

/-- What the bridge hears of the request; `name` is what it starts children from. -/
def Ending.answer (name : String) : Ending → Except Executor.Fault Answer
  | refused reason => .error (.bridge ("failed to start " ++ name ++ ": " ++ reason))
  | unwritten reason | unread reason => .error (.bridge reason)
  | garbled fault => .error (.bridge fault.message)
  | closed => .error (.bridge "backend process exited")
  | replied ok error => .ok (said ok error)

def Ending.isReply : Ending → Bool
  | replied _ _ => true
  | _ => false

theorem exists_exchange_eq_converse (h : bridge.Ready) (request : Request) :
    ∃ begun : Bridge, begun.program = bridge.program ∧ begun.requests = bridge.requests + 1 ∧
      exchange request bridge = converse (bridge.requests + 1) request bridge.addressee begun := by
  unfold addressee
  cases hchild : bridge.child with
  | some child => exact ⟨bridge.counted, rfl, rfl, exchange_of_child hchild request⟩
  | none => exact ⟨bridge.counted.started, rfl, rfl, exchange_of_start hchild (h hchild) request⟩

theorem heard_send_eq {begun : Bridge} (hprogram : begun.program = bridge.program)
    (hrequests : begun.requests = bridge.requests + 1) (request : Request) :
    let sent := begun.send bridge.addressee (request.line (bridge.requests + 1))
    sent.2.program = bridge.program ∧ sent.1.heard = reached request bridge ∧
      sent.1.read = bridge.addressee.read := by
  unfold send reached
  rw [hprogram, hrequests]
  dsimp only
  split
  · exact ⟨hprogram, rfl, rfl⟩
  · exact ⟨rfl, rfl, rfl⟩

theorem exists_exchange_eq_listen (h : bridge.Written) (request : Request) :
    ∃ (child : Child) (sent : Bridge), sent.program = bridge.program ∧
      child.heard = reached request bridge ∧ sent.unread child = offered request bridge ∧
      exchange request bridge = listen (bridge.requests + 1) child sent := by
  obtain ⟨begun, hprogram, hrequests, hexchange⟩ := exists_exchange_eq_converse h.ready request
  obtain ⟨hsent, hheard, hread⟩ := heard_send_eq hprogram hrequests request
  have hwritten : begun.writeFault? bridge.addressee = none := by
    have hfault := h.written
    unfold writeFault? at hfault ⊢
    rwa [hprogram]
  refine ⟨_, _, hsent, hheard, ?_, ?_⟩
  · unfold unread offered
    rw [hsent, hheard, hread]
  · rw [hexchange, converse, hwritten]

theorem exchange_of_unwritten {reason : String} (hready : bridge.Ready)
    (hfault : bridge.writeFault? bridge.addressee = some reason) :
    (exchange request bridge).1 = .error (.bridge reason) ∧
      (exchange request bridge).2.child = none := by
  obtain ⟨begun, hprogram, -, hexchange⟩ := exists_exchange_eq_converse hready request
  have hunwritten : begun.writeFault? bridge.addressee = some reason := by
    unfold writeFault? at hfault ⊢
    rwa [hprogram]
  rw [hexchange, converse, hunwritten]
  exact ⟨rfl, rfl⟩

theorem exchange_of_others (hwritten : bridge.Written)
    (hothers : ∀ line ∈ offered request bridge, Other (bridge.requests + 1) line) :
    (exchange request bridge).1 = .error (.bridge
        ((bridge.program.unreadable (reached request bridge)).getD "backend process exited")) ∧
      (exchange request bridge).2.child = none := by
  obtain ⟨child, sent, hsent, hheard, hunread, hexchange⟩ :=
    exists_exchange_eq_listen hwritten request
  have hawait := await_append_of_other hothers []
  rw [List.append_nil] at hawait
  rw [hexchange, listen]
  dsimp only
  rw [hunread, hawait, await, silence, hsent, hheard]
  exact ⟨rfl, rfl⟩

section Line

variable {skipped rest : List Line} {line : Line}

theorem exchange_of_garbled {fault : Text.Utf8.Fault} (hwritten : bridge.Written)
    (hlines : offered request bridge = skipped ++ line :: rest)
    (hskipped : ∀ other ∈ skipped, Other (bridge.requests + 1) other)
    (hfault : Text.Utf8.decode (line ++ [0x0A]) = .error fault) :
    (exchange request bridge).1 = .error (.bridge fault.message) ∧
      (exchange request bridge).2.child = none := by
  obtain ⟨child, sent, -, -, hunread, hexchange⟩ := exists_exchange_eq_listen hwritten request
  rw [hexchange, listen]
  dsimp only
  rw [hunread, hlines, await_append_of_other hskipped, await, hfault]
  exact ⟨rfl, rfl⟩

/-- A reply leaves the child as it is, with what stands behind the reply unread. -/
theorem exchange_of_reply {text : String} {ok : Option Json} {error : Option String}
    (hwritten : bridge.Written) (hlines : offered request bridge = skipped ++ line :: rest)
    (hskipped : ∀ other ∈ skipped, Other (bridge.requests + 1) other)
    (htext : Text.Utf8.decode (line ++ [0x0A]) = .ok text)
    (hread : reply.read? text = some (some (bridge.requests + 1), ok, error)) :
    (exchange request bridge).1 = .ok (said ok error) ∧
      ∃ child, (exchange request bridge).2.child = some child ∧
        child.heard = reached request bridge ∧
        (exchange request bridge).2.unread child = rest := by
  obtain ⟨child, sent, -, hheard, hunread, hexchange⟩ := exists_exchange_eq_listen hwritten request
  have hawait : await (bridge.requests + 1) (sent.unread child) =
      .answered (said ok error) rest := by
    rw [hunread, hlines]
    exact await_append_cons hskipped htext hread
  rw [hexchange, listen]
  dsimp only
  rw [hawait]
  refine ⟨rfl, _, rfl, hheard, ?_⟩
  apply drop_read
  change rest <:+ sent.unread child
  rw [hunread, hlines]
  exact (List.suffix_cons line rest).trans (List.suffix_append skipped _)

end Line

theorem exchange_of_ends {ending : Ending} (h : Ends request bridge ending) :
    (exchange request bridge).1 = ending.answer bridge.program.name ∧
      (exchange request bridge).2.child.isSome = ending.isReply := by
  cases h with
  | refused hchild hrefusal =>
      rw [exchange_of_refusal hchild hrefusal]
      exact ⟨rfl, congrArg Option.isSome hchild⟩
  | unwritten hready hfault =>
      obtain ⟨hanswer, hchild⟩ := exchange_of_unwritten hready hfault
      exact ⟨hanswer, congrArg Option.isSome hchild⟩
  | unread hwritten hothers hfault =>
      obtain ⟨hanswer, hchild⟩ := exchange_of_others hwritten hothers
      rw [hfault] at hanswer
      exact ⟨hanswer, congrArg Option.isSome hchild⟩
  | closed hwritten hothers hfault =>
      obtain ⟨hanswer, hchild⟩ := exchange_of_others hwritten hothers
      rw [hfault] at hanswer
      exact ⟨hanswer, congrArg Option.isSome hchild⟩
  | garbled hwritten hlines hskipped hfault =>
      obtain ⟨hanswer, hchild⟩ := exchange_of_garbled hwritten hlines hskipped hfault
      exact ⟨hanswer, congrArg Option.isSome hchild⟩
  | replied hwritten hlines hskipped htext hread =>
      obtain ⟨hanswer, child, hchild, -⟩ :=
        exchange_of_reply hwritten hlines hskipped htext hread
      exact ⟨hanswer, congrArg Option.isSome hchild⟩

end Ends

/-! ### What a reply is made into -/

def failed (fault : Executor.Fault) : Executor.Use → Report
  | .deploy _ _ => .deployed (.error fault)
  | .manifest _ => .exported (.error fault)
  | .call _ _ _ => .called (.error fault)
  | .dumpState _ => .dumped (.error fault)
  | .reset => .reset (.error fault)

/-- An error that the backend reports. -/
def reportedBy (message : String) : Executor.Use → Executor.Fault
  | .deploy _ _ => .deploy message
  | _ => .runtime message

/-- What the operation takes from a value, if the value has the shape that it asks for. Memory that
is not in digits has the shape, but gives no trace; a reset takes any value. -/
def shape (value : Json) : Executor.Use → Except Mismatch Report
  | .deploy _ _ => (fun found => .deployed (.ok found)) <$> handle.take value
  | .manifest _ => (fun found => .exported (.ok found)) <$> (Decoder.list Export.decoder).take value
  | .call _ _ _ => (fun found => .called found.trace) <$> callReply.take value
  | .dumpState _ => (fun found => .dumped (.ok found)) <$> (Decoder.list Slot.decoder).take value
  | .reset => .ok (.reset (.ok ()))

namespace Ending

def report (name : String) (use : Executor.Use) : Ending → Report
  | refused reason => failed (.bridge ("failed to start " ++ name ++ ": " ++ reason)) use
  | unwritten reason | unread reason => failed (.bridge reason) use
  | garbled fault => failed (.bridge fault.message) use
  | closed => failed (.bridge "backend process exited") use
  | replied _ (some message) => failed (reportedBy message use) use
  | replied ok none =>
      match shape (ok.getD .null) use with
      | .ok report => report
      | .error mismatch =>
          failed (.bridge ("unexpected backend payload: " ++ mismatch.message)) use

def leavesChild (use : Executor.Use) : Ending → Bool
  | replied _ (some _) => true
  | replied ok none => (shape (ok.getD .null) use).toBool
  | _ => false

end Ending

theorem reportOf_error (use : Executor.Use) (fault : Executor.Fault) :
    reportOf use (.error fault) = failed fault use ∧ keepsChild use (.error fault) = true := by
  cases use <;> exact ⟨rfl, rfl⟩

theorem reportOf_message (use : Executor.Use) (message : String) :
    reportOf use (.ok (.error message)) = failed (reportedBy message use) use ∧
      keepsChild use (.ok (.error message)) = true := by
  cases use <;> exact ⟨rfl, rfl⟩

theorem reportOf_value (use : Executor.Use) (value : Json) :
    reportOf use (.ok (.ok value)) = (Ending.replied (some value) none).report "" use ∧
      keepsChild use (.ok (.ok value)) = (shape value use).toBool := by
  cases use
  case reset => exact ⟨rfl, rfl⟩
  all_goals
    simp only [reportOf, understood, keepsChild, wellShaped, Ending.report, shape, Option.getD_some]
  case deploy source args => cases handle.take value <;> exact ⟨rfl, rfl⟩
  case manifest name =>
    cases (Decoder.list Export.decoder).take value <;> exact ⟨rfl, rfl⟩
  case call name function args => cases callReply.take value <;> exact ⟨rfl, rfl⟩
  case dumpState name => cases (Decoder.list Slot.decoder).take value <;> exact ⟨rfl, rfl⟩

theorem reportOf_answer (name : String) (use : Executor.Use) (ending : Ending) :
    reportOf use (ending.answer name) = ending.report name use ∧
      (ending.isReply && keepsChild use (ending.answer name)) = ending.leavesChild use := by
  cases ending with
  | replied ok error =>
      cases error with
      | some message => exact reportOf_message use message
      | none => exact reportOf_value use (ok.getD .null)
  | refused | unwritten | unread | garbled | closed => exact ⟨(reportOf_error use _).1, rfl⟩

/-- However the request ends, that is what is reported, and what becomes of the child. -/
theorem use_of_ends {use : Executor.Use} {bridge : Bridge} {ending : Ending}
    (h : Ends (requestOf use) bridge ending) :
    (Bridge.use use bridge).1 = ending.report bridge.program.name use ∧
      (Bridge.use use bridge).2.child.isSome = ending.leavesChild use := by
  obtain ⟨hanswer, hchild⟩ := exchange_of_ends h
  obtain ⟨hreport, hleaves⟩ := reportOf_answer bridge.program.name use ending
  rw [use_apply, hanswer, hreport, ← hleaves, ← hchild]
  refine ⟨rfl, ?_⟩
  dsimp only
  split
  · next hkeeps => rw [hkeeps, Bool.and_true]
  · next hkeeps =>
      rw [Bool.eq_false_iff.2 hkeeps, Bool.and_false]
      rfl

/-! ### Starts -/

/-- The same bridge, with another reason why no child can be started, or none. -/
def refusing (bridge : Bridge) (refusal : Option String) : Bridge :=
  { bridge with program.refusal := refusal }

theorem start_mem_seen_iff {request : Request} {bridge : Bridge} :
    Sight.start ∈ seen request bridge ↔ bridge.child = none ∧ bridge.program.refusal = none := by
  have hreceived : ∀ child line, Sight.start ∉ bridge.received child line := by
    intro child line hmem
    have hsight := (received_sublist bridge child line).subset hmem
    cases List.mem_singleton.1 hsight
  unfold seen
  cases bridge.child with
  | some child => simp [hreceived]
  | none => cases bridge.program.refusal <;> simp

theorem listen_refusing (id : Nat) (child : Child) (bridge : Bridge) (refusal : Option String) :
    listen id child (bridge.refusing refusal) =
      ((listen id child bridge).1, (listen id child bridge).2.refusing refusal) := by
  have hunread : (bridge.refusing refusal).unread child = bridge.unread child := rfl
  unfold listen
  dsimp only
  rw [hunread]
  cases await id (bridge.unread child) <;> rfl

theorem send_refusing (bridge : Bridge) (child : Child) (line : String)
    (refusal : Option String) :
    (bridge.refusing refusal).send child line =
      ((bridge.send child line).1, (bridge.send child line).2.refusing refusal) := by
  have houtput : (bridge.refusing refusal).program.output = bridge.program.output := rfl
  unfold send
  rw [houtput]
  split <;> rfl

theorem converse_refusing (id : Nat) (request : Request) (child : Child) (bridge : Bridge)
    (refusal : Option String) :
    converse id request child (bridge.refusing refusal) =
      ((converse id request child bridge).1,
        (converse id request child bridge).2.refusing refusal) := by
  have hfault : (bridge.refusing refusal).writeFault? child = bridge.writeFault? child := rfl
  unfold converse
  rw [hfault]
  cases bridge.writeFault? child with
  | some reason => rfl
  | none =>
      dsimp only
      rw [send_refusing]
      exact listen_refusing id _ _ refusal

/-- With a child there, it does not matter whether one could be started. -/
theorem use_refusing {bridge : Bridge} (hchild : bridge.child ≠ none) (use : Executor.Use)
    (refusal : Option String) :
    Bridge.use use (bridge.refusing refusal) =
      ((Bridge.use use bridge).1, (Bridge.use use bridge).2.refusing refusal) := by
  obtain ⟨child, hchild⟩ := Option.ne_none_iff_exists'.1 hchild
  have hother : (bridge.refusing refusal).child = some child := hchild
  have hexchange : exchange (requestOf use) (bridge.refusing refusal) =
      ((exchange (requestOf use) bridge).1,
        (exchange (requestOf use) bridge).2.refusing refusal) := by
    rw [exchange_of_child hchild, exchange_of_child hother]
    exact converse_refusing _ (requestOf use) child bridge.counted refusal
  rw [use_apply, use_apply, hexchange]
  dsimp only
  split <;> rfl

/-! ### Runs -/

theorem requests_serve (steps : List (Program × Executor.Use)) (bridge : Bridge) :
    (serve steps bridge).requests = bridge.requests + steps.length := by
  induction steps generalizing bridge with
  | nil => rfl
  | cons step rest ih =>
      obtain ⟨program, use⟩ := step
      rw [serve, ih, (sights_use use _).1, List.length_cons]
      change bridge.requests + 1 + rest.length = _
      omega

/-- What becomes of a request and of the child it is sent to. -/
structure Attended (use : Executor.Use) (before : Bridge) (report : Report) (after : Bridge) :
    Prop where
  counted : after.requests = before.requests + 1
  started : ∃ news, news.Sublist [.start, .request ((requestOf use).line after.requests)] ∧
    after.sights = before.sights ++ news ∧
    (Sight.start ∈ news ↔ before.child = none ∧ before.program.refusal = none)
  untried : before.child ≠ none → ∀ refusal,
    Bridge.use use (before.refusing refusal) = (report, after.refusing refusal)
  ended : ∃ ending, Ends (requestOf use) before ending
  reported : ∀ ending, Ends (requestOf use) before ending →
    report = ending.report before.program.name use ∧
      after.child.isSome = ending.leavesChild use
  gone_iff : after.child = none ↔
    (∃ reason, Ends (requestOf use) before (.refused reason)) ∨
      Ends (requestOf use) before .closed ∨
      (∃ reason, Ends (requestOf use) before (.unwritten reason)) ∨
      (∃ reason, Ends (requestOf use) before (.unread reason)) ∨
      (∃ fault, Ends (requestOf use) before (.garbled fault)) ∨
      ∃ ok mismatch, Ends (requestOf use) before (.replied ok none) ∧
        shape (ok.getD .null) use = .error mismatch
  kept : ∀ child, after.child = some child → child.heard = reached (requestOf use) before ∧
    ∃ skipped line, offered (requestOf use) before = skipped ++ line :: after.unread child ∧
      ∀ other ∈ skipped, Other after.requests other

theorem gone_of_ends {use : Executor.Use} {bridge : Bridge} {ending : Ending}
    (h : Ends (requestOf use) bridge ending) (hleaves : ending.leavesChild use = false) :
    (Bridge.use use bridge).2.child = none := by
  have hchild := (use_of_ends h).2
  rwa [hleaves, Option.isSome_eq_false_iff, Option.isNone_iff_eq_none] at hchild

theorem kept_of_use {use : Executor.Use} {bridge : Bridge} {child : Child}
    (h : (Bridge.use use bridge).2.child = some child) :
    child.heard = reached (requestOf use) bridge ∧
      ∃ skipped line, offered (requestOf use) bridge =
          skipped ++ line :: (Bridge.use use bridge).2.unread child ∧
        ∀ other ∈ skipped, Other (bridge.requests + 1) other := by
  obtain ⟨ending, hends⟩ := exists_ends (requestOf use) bridge
  have hreply : ending.isReply = true := by
    have hleaves := (use_of_ends hends).2
    rw [h] at hleaves
    cases ending with
    | replied ok error => rfl
    | refused | unwritten | unread | garbled | closed => cases hleaves
  cases hends with
  | replied hwritten hlines hskipped htext hread =>
      obtain ⟨-, found, hfound, hheard, hunread⟩ :=
        exchange_of_reply hwritten hlines hskipped htext hread
      -- a child that is there was not given up, so it is the one that was left by the exchange
      have hafter : (Bridge.use use bridge).2 = (exchange (requestOf use) bridge).2 := by
        rw [use_apply] at h ⊢
        dsimp only at h ⊢
        split at h
        · next hkeeps => exact if_pos hkeeps
        · cases h
      rw [hafter] at h ⊢
      obtain rfl : found = child := Option.some.inj (hfound.symm.trans h)
      rw [hunread]
      exact ⟨hheard, _, _, hlines, hskipped⟩
  | refused | unwritten | unread | garbled | closed => cases hreply

theorem gone_use_iff {use : Executor.Use} {bridge : Bridge} :
    (Bridge.use use bridge).2.child = none ↔
      (∃ reason, Ends (requestOf use) bridge (.refused reason)) ∨
        Ends (requestOf use) bridge .closed ∨
        (∃ reason, Ends (requestOf use) bridge (.unwritten reason)) ∨
        (∃ reason, Ends (requestOf use) bridge (.unread reason)) ∨
        (∃ fault, Ends (requestOf use) bridge (.garbled fault)) ∨
        ∃ ok mismatch, Ends (requestOf use) bridge (.replied ok none) ∧
          shape (ok.getD .null) use = .error mismatch := by
  constructor
  · intro hgone
    obtain ⟨ending, hends⟩ := exists_ends (requestOf use) bridge
    have hleaves := (use_of_ends hends).2
    rw [hgone] at hleaves
    cases ending with
    | refused reason => exact .inl ⟨reason, hends⟩
    | closed => exact .inr (.inl hends)
    | unwritten reason => exact .inr (.inr (.inl ⟨reason, hends⟩))
    | unread reason => exact .inr (.inr (.inr (.inl ⟨reason, hends⟩)))
    | garbled fault => exact .inr (.inr (.inr (.inr (.inl ⟨fault, hends⟩))))
    | replied ok error =>
        cases error with
        | some message => cases hleaves
        | none =>
            cases hshape : shape (ok.getD .null) use with
            | ok report =>
                rw [Ending.leavesChild, hshape] at hleaves
                cases hleaves
            | error mismatch =>
                exact .inr (.inr (.inr (.inr (.inr ⟨ok, mismatch, hends, hshape⟩))))
  · rintro (⟨reason, h⟩ | h | ⟨reason, h⟩ | ⟨reason, h⟩ | ⟨fault, h⟩ | ⟨ok, mismatch, h, hshape⟩)
    case inr.inr.inr.inr.inr =>
      refine gone_of_ends h ?_
      rw [Ending.leavesChild, hshape]
      rfl
    all_goals exact gone_of_ends h rfl

/-- **A child is started when there is none, and given up when it is broken.** -/
theorem attended_of_serve (earlier : List (Program × Executor.Use)) (first program : Program)
    (use : Executor.Use) :
    let before := { serve earlier { program := first } with program }
    before.requests = earlier.length ∧
      Attended use before (Bridge.use use before).1 (Bridge.use use before).2 := by
  intro before
  have hsights := sights_use use before
  refine ⟨?_, ?_⟩
  · exact (requests_serve earlier { program := first }).trans (Nat.zero_add earlier.length)
  · exact {
      counted := hsights.1
      started := ⟨_, hsights.1 ▸ seen_sublist _ before, hsights.2, start_mem_seen_iff⟩
      untried := fun hchild refusal => use_refusing hchild use refusal
      ended := exists_ends (requestOf use) before
      reported := fun ending hends => use_of_ends hends
      gone_iff := gone_use_iff
      kept := fun child hchild => hsights.1 ▸ kept_of_use hchild }

end Concord.Bridge
