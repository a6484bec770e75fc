import Mathlib
import Concord.Bridge

/-!
# Noise on a bridge

A child may print more than replies, and replies that nobody waits for any more. None of this
changes an answer, or what the children see: requests are numbered over all children, and a line
answers the request that it names and no other.
-/

namespace Concord.Bridge

/-! ### Uses -/

/-- What came of one use of a bridge. -/
inductive Report where
  | deployed (answer : Except Executor.Fault String)
  | exported (answer : Except Executor.Fault (List Export))
  | called (answer : Except Executor.Fault Trace)
  | dumped (answer : Except Executor.Fault (List Slot))
  | reset (answer : Except Executor.Fault Unit)

def use : Executor.Use → StateM Bridge Report
  | .deploy source args => .deployed <$> executor.deploy source args
  | .manifest handle => .exported <$> executor.manifest handle
  | .call handle function args => .called <$> executor.call handle function args
  | .dumpState handle => .dumped <$> executor.dumpState handle
  | .reset => .reset <$> executor.reset

/-- A use, and why no child could be started at that time, if none could. -/
structure Turn where
  refusal : Option String
  use : Executor.Use

def take (turn : Turn) : StateM Bridge Report := fun bridge =>
  use turn.use { bridge with program.refusal := turn.refusal }

def run : List Turn → StateM Bridge (List Report)
  | [] => pure []
  | turn :: rest => do
      let report ← take turn
      let reports ← run rest
      pure (report :: reports)

def scripted (name : String) (answer : Nat → Option (List Line)) : Bridge where
  program := { Program.answering answer with name }

/-- What is made of what was read, or of a failure to read it. -/
def understood {α : Type} (fault : String → Executor.Fault) (decode : Decoder α) :
    Except Executor.Fault Answer → Except Executor.Fault α
  | .error failure => .error failure
  | .ok (.error message) => .error (fault message)
  | .ok (.ok value) =>
      match decode.take value with
      | .ok found => .ok found
      | .error mismatch => .error (.bridge ("unexpected backend payload: " ++ mismatch.message))

/-- Is the child kept, as far as the shape of the answer goes? -/
def wellShaped {α : Type} (decode : Decoder α) : Except Executor.Fault Answer → Bool
  | .ok (.ok value) => (decode.take value).toBool
  | _ => true

def requestOf : Executor.Use → Request
  | .deploy source args => .deploy source args
  | .manifest handle => .manifest handle
  | .call handle function args => .call handle function args
  | .dumpState handle => .dumpState handle
  | .reset => .reset

def reportOf (use : Executor.Use) (answer : Except Executor.Fault Answer) : Report :=
  match use with
  | .deploy _ _ => .deployed (understood .deploy handle answer)
  | .manifest _ => .exported (understood .runtime (.list Export.decoder) answer)
  | .call _ _ _ => .called ((understood .runtime callReply answer).bind CallReply.trace)
  | .dumpState _ => .dumped (understood .runtime (.list Slot.decoder) answer)
  | .reset => .reset (understood .runtime anything answer)

def keepsChild (use : Executor.Use) (answer : Except Executor.Fault Answer) : Bool :=
  match use with
  | .deploy _ _ => wellShaped handle answer
  | .manifest _ => wellShaped (.list Export.decoder) answer
  | .call _ _ _ => wellShaped callReply answer
  | .dumpState _ => wellShaped (.list Slot.decoder) answer
  | .reset => wellShaped anything answer

theorem ask_apply {α : Type} (fault : String → Executor.Fault) (decode : Decoder α)
    (request : Request) (bridge : Bridge) :
    ask fault decode request bridge =
      (understood fault decode (exchange request bridge).1,
        if wellShaped decode (exchange request bridge).1 then (exchange request bridge).2
        else (exchange request bridge).2.giveUp) := by
  unfold ask
  simp only [bind, StateT.bind]
  cases exchange request bridge with
  | mk answer next =>
      rcases answer with failure | message | value
      · rfl
      · rfl
      · cases htake : decode.take value with
        | ok found => simp [payload, understood, wellShaped, htake, Except.toBool]
        | error mismatch => simp [payload, understood, wellShaped, htake, Except.toBool]

/-- Every use is one exchange, of which it makes what it needs. -/
theorem use_apply (use : Executor.Use) (bridge : Bridge) :
    Bridge.use use bridge =
      (reportOf use (exchange (requestOf use) bridge).1,
        if keepsChild use (exchange (requestOf use) bridge).1
        then (exchange (requestOf use) bridge).2
        else (exchange (requestOf use) bridge).2.giveUp) := by
  have hask : ∀ {α : Type} (fault : String → Executor.Fault) (decode : Decoder α)
      (make : Except Executor.Fault α → Report) (request : Request),
      (make <$> ask fault decode request) bridge =
        (make (understood fault decode (exchange request bridge).1),
          if wellShaped decode (exchange request bridge).1 then (exchange request bridge).2
          else (exchange request bridge).2.giveUp) := by
    intro α fault decode make request
    change (make (ask fault decode request bridge).1, (ask fault decode request bridge).2) = _
    rw [ask_apply]
  cases use with
  | deploy source args => exact hask .deploy handle .deployed (.deploy source args)
  | manifest handle => exact hask .runtime (.list Export.decoder) .exported (.manifest handle)
  | call handle function args =>
      exact hask .runtime callReply (fun found => .called (found.bind CallReply.trace))
        (.call handle function args)
  | dumpState handle => exact hask .runtime (.list Slot.decoder) .dumped (.dumpState handle)
  | reset => exact hask .runtime anything .reset .reset

theorem run_cons (turn : Turn) (rest : List Turn) (bridge : Bridge) :
    run (turn :: rest) bridge =
      ((take turn bridge).1 :: (run rest (take turn bridge).2).1,
        (run rest (take turn bridge).2).2) :=
  rfl

/-! ### Lines -/

/-- The request that a text names, if it has the form of a reply. -/
def number? (text : String) : Option Nat :=
  (reply.read? text).bind (·.1)

/-- A line that can be read, and is no reply to request `id` or to a later one. -/
def Passed (id : Nat) (line : Line) : Prop :=
  ∃ text, Text.Utf8.decode (line ++ [0x0A]) = .ok text ∧ ∀ number, number? text = some number →
    number < id

/-- Is this the reply to request `id`? -/
def answers (id : Nat) (line : Line) : Bool :=
  match Text.Utf8.decode (line ++ [0x0A]) with
  | .ok text => (answerIn? id text).isSome
  | .error _ => false

/-- The second list is the first one with more lines in it, none of which is a reply to request `id`
or to a later one. Behind a reply to request `id`, more replies to it may stand too. -/
inductive Padded (id : Nat) : Bool → List Line → List Line → Prop
  | nil (answered : Bool) : Padded id answered [] []
  | line {answered : Bool} {rest padded : List Line} (line : Line)
      (h : Padded id (answered || answers id line) rest padded) :
      Padded id answered (line :: rest) (line :: padded)
  | noise {answered : Bool} {rest padded : List Line} (line : Line)
      (hline : Passed (if answered then id + 1 else id) line)
      (h : Padded id answered rest padded) : Padded id answered rest (line :: padded)

/-- What a noisy program prints, where another one answers. -/
def Noisy (answer noisy : Nat → Option (List Line)) : Prop :=
  ∀ id, Option.Rel (Padded id false) (answer id) (noisy id)

theorem answerIn?_isSome_iff {id : Nat} {text : String} :
    (answerIn? id text).isSome ↔ number? text = some id := by
  unfold answerIn? number?
  cases reply.read? text with
  | none => simp
  | some found =>
      obtain ⟨number, value, error⟩ := found
      rw [Option.bind_some]
      dsimp only
      split
      · next heq => cases error <;> simp [heq]
      · next hne => simp [hne]

theorem number?_of_answerIn? {id : Nat} {text : String} {answer : Answer}
    (h : answerIn? id text = some answer) : number? text = some id :=
  answerIn?_isSome_iff.1 (h ▸ rfl)

theorem Passed.mono {id later : Nat} {line : Line} (h : Passed id line) (hle : id ≤ later) :
    Passed later line := by
  obtain ⟨text, htext, hnumber⟩ := h
  exact ⟨text, htext, fun number hfound => (hnumber number hfound).trans_le hle⟩

theorem Passed.answerIn?_eq_none {id : Nat} {text : String} {line : Line} (h : Passed id line)
    (htext : Text.Utf8.decode (line ++ [0x0A]) = .ok text) : answerIn? id text = none := by
  obtain ⟨found, hfound, hnumber⟩ := h
  obtain rfl := Except.ok.inj (htext.symm.trans hfound)
  rw [← Option.not_isSome_iff_eq_none, answerIn?_isSome_iff]
  exact fun heq => Nat.lt_irrefl id (hnumber id heq)

namespace Padded

variable {id : Nat} {answered : Bool} {lines padded more paddedMore : List Line}

theorem of_imp (h : Padded id answered lines padded) {later : Bool}
    (himp : answered = true → later = true) : Padded id later lines padded := by
  induction h generalizing later with
  | nil => exact .nil later
  | line line _ ih =>
      refine .line line (ih ?_)
      intro heither
      rw [Bool.or_eq_true] at heither ⊢
      exact heither.imp_left himp
  | @noise answered _ _ line hline _ ih =>
      refine .noise line (hline.mono ?_) (ih himp)
      cases answered with
      | false => cases later <;> simp
      | true => rw [himp rfl]

/-- Once request `id` is answered, all of it is noise to the requests after it. -/
theorem later (h : Padded id answered lines padded) (now : Bool) :
    Padded (id + 1) now lines padded := by
  induction h generalizing now with
  | nil => exact .nil now
  | line line _ ih => exact .line line (ih _)
  | noise line hline _ ih =>
      refine .noise line (hline.mono ?_) (ih now)
      split <;> split <;> omega

theorem append (h : Padded id answered lines padded) (hmore : Padded id answered more paddedMore) :
    Padded id answered (lines ++ more) (padded ++ paddedMore) := by
  induction h with
  | nil => exact hmore
  | line line _ ih =>
      exact .line line (ih (hmore.of_imp fun htrue => by rw [htrue, Bool.true_or]))
  | noise line hline _ ih => exact .noise line hline (ih hmore)

end Padded

/-! ### Waiting for a reply -/

/-- The same was read, and what is left of the one list is left of the other, with noise in it. -/
def Awaited.Alike (next : Nat) : Awaited → Awaited → Prop
  | .answered answer rest, .answered other padded => answer = other ∧ Padded next false rest padded
  | .invalid fault, .invalid other => fault = other
  | .closed, .closed => True
  | _, _ => False

theorem alike_await {id : Nat} {lines padded : List Line} (h : Padded id false lines padded) :
    (await id lines).Alike (id + 1) (await id padded) := by
  generalize hfalse : false = answered at h
  induction h with
  | nil => trivial
  | @line answered rest padded line hrest ih =>
      subst hfalse
      unfold await
      cases htext : Text.Utf8.decode (line ++ [0x0A]) with
      | error fault => rfl
      | ok text =>
          dsimp only
          cases hanswer : answerIn? id text with
          | some answer => exact ⟨rfl, hrest.later false⟩
          | none =>
              exact ih (by simp [answers, htext, hanswer])
  | @noise answered rest padded line hline hrest ih =>
      subst hfalse
      have hpassed : Passed id line := hline
      obtain ⟨text, htext, -⟩ := hline
      -- noise is passed over, and the wait goes on behind it
      have hskip : await id (line :: padded) = await id padded := by
        conv_lhs => unfold await
        rw [htext]
        dsimp only
        rw [hpassed.answerIn?_eq_none htext]
      rw [hskip]
      exact ih rfl

theorem suffix_of_await {id : Nat} {lines rest : List Line} {answer : Answer}
    (h : await id lines = .answered answer rest) : rest <:+ lines := by
  induction lines with
  | nil => cases h
  | cons line lines ih =>
      unfold await at h
      split at h
      · cases h
      · split at h
        · obtain ⟨-, rfl⟩ := Awaited.answered.inj h
          exact List.suffix_cons line lines
        · exact (ih h).trans (List.suffix_cons line lines)

/-! ### What a script prints -/

section Scripts

variable {answer noisy : Nat → Option (List Line)} {heard : List (Nat × String)}

def printed (answer : Nat → Option (List Line)) (heard : List (Nat × String)) : List Line :=
  ((Program.answering answer).output heard).lines

def hasExited (answer : Nat → Option (List Line)) (heard : List (Nat × String)) : Bool :=
  ((Program.answering answer).output heard).exited

theorem hasExited_eq (h : Noisy answer noisy) (heard : List (Nat × String)) :
    hasExited noisy heard = hasExited answer heard := by
  have hnone : ∀ id, (noisy id).isNone = (answer id).isNone := by
    intro id
    have hrel := h id
    generalize answer id = plain at hrel
    generalize noisy id = noised at hrel
    cases hrel <;> rfl
  unfold hasExited Program.answering
  simp only [List.any_map, Function.comp_def, hnone]

/-- As long as the child is there, each request adds to what it has printed. -/
theorem printed_concat (h : hasExited answer heard = false) (id : Nat) (line : String) :
    printed answer (heard ++ [(id, line)]) = printed answer heard ++ (answer id).getD [] := by
  have hall : ∀ reply ∈ heard.map fun request => answer request.1, reply.isSome = true := by
    have hany : (heard.map fun request => answer request.1).any Option.isNone = false := h
    intro reply hreply
    have hnone := List.any_eq_false.1 hany reply hreply
    cases reply with
    | none => exact absurd rfl hnone
    | some lines => rfl
  unfold printed Program.answering
  dsimp only
  rw [List.map_append, List.map_singleton, List.takeWhile_append_of_pos hall,
    List.takeWhile_eq_self_iff.2 hall, List.filterMap_append, List.flatten_append]
  cases answer id with
  | none => rfl
  | some lines => simp

end Scripts

/-! ### Two bridges -/

section Alike

variable {answer noisy : Nat → Option (List Line)}

/-- Apart from their children, two bridges are the same, but for the script of the program. -/
structure Similar (answer noisy : Nat → Option (List Line)) (plain noised : Bridge) : Prop where
  requests : noised.requests = plain.requests
  sights : noised.sights = plain.sights
  name : noised.program.name = plain.program.name
  refusal : noised.program.refusal = plain.program.refusal
  script : plain.program.output = (Program.answering answer).output
  noisyScript : noised.program.output = (Program.answering noisy).output
  unwritable : noised.program.unwritable = plain.program.unwritable
  unreadable : noised.program.unreadable = plain.program.unreadable

/-- The children heard the same, and what is unread of the one is unread of the other, with noise
for request `next` and those after it. -/
structure ChildrenAlike (answer noisy : Nat → Option (List Line)) (next : Nat)
    (plain noised : Child) : Prop where
  heard : noised.heard = plain.heard
  read : plain.read ≤ (printed answer plain.heard).length
  readNoised : noised.read ≤ (printed noisy noised.heard).length
  unread : Padded next false ((printed answer plain.heard).drop plain.read)
    ((printed noisy noised.heard).drop noised.read)

structure Alike (answer noisy : Nat → Option (List Line)) (plain noised : Bridge) : Prop
    extends Similar answer noisy plain noised where
  children : Option.Rel (ChildrenAlike answer noisy (plain.requests + 1)) plain.child noised.child

variable {plain noised : Bridge} {child other : Child}

theorem exited_eq (hnoisy : Noisy answer noisy) (h : Similar answer noisy plain noised)
    (hheard : other.heard = child.heard) :
    (noised.program.output other.heard).exited = (plain.program.output child.heard).exited := by
  rw [h.script, h.noisyScript, hheard]
  exact hasExited_eq hnoisy child.heard

theorem writeFault?_eq (hnoisy : Noisy answer noisy) (h : Similar answer noisy plain noised)
    (hheard : other.heard = child.heard) :
    noised.writeFault? other = plain.writeFault? child := by
  unfold writeFault?
  rw [exited_eq hnoisy h hheard, h.unwritable, hheard]

theorem silence_eq (h : Similar answer noisy plain noised) (hheard : other.heard = child.heard) :
    noised.silence other = plain.silence child := by
  unfold silence
  rw [h.unreadable, hheard]

theorem alike_send (hnoisy : Noisy answer noisy) (h : Similar answer noisy plain noised)
    (hchild : ChildrenAlike answer noisy plain.requests child other) (line : String) :
    Similar answer noisy (plain.send child line).2 (noised.send other line).2 ∧
      (plain.send child line).2.requests = plain.requests ∧
      ChildrenAlike answer noisy plain.requests (plain.send child line).1
        (noised.send other line).1 := by
  have hexited : (plain.program.output child.heard).exited = hasExited answer child.heard := by
    rw [h.script]
    rfl
  have hother : (noised.program.output other.heard).exited = hasExited answer child.heard :=
    (exited_eq hnoisy h hchild.heard).trans hexited
  unfold send
  rw [hexited, hother]
  cases hgone : hasExited answer child.heard with
  | true => exact ⟨h, rfl, hchild⟩
  | false =>
      have hplain := printed_concat hgone plain.requests line
      have hnoised := printed_concat ((hasExited_eq hnoisy child.heard).trans hgone)
        plain.requests line
      have hread := hchild.read
      have hreadNoised := hchild.readNoised
      have hunread := hchild.unread
      rw [hchild.heard] at hreadNoised hunread
      have hnews : Padded plain.requests false ((answer plain.requests).getD [])
          ((noisy plain.requests).getD []) := by
        have hrel := hnoisy plain.requests
        generalize answer plain.requests = lines at hrel
        generalize noisy plain.requests = padded at hrel
        cases hrel with
        | none => exact .nil false
        | some hpadded => exact hpadded
      rw [if_neg Bool.false_ne_true, if_neg Bool.false_ne_true, h.requests, hchild.heard]
      refine ⟨?_, rfl, rfl, ?_, ?_, ?_⟩
      · exact { h with requests := rfl, sights := congrArg (· ++ [Sight.request line]) h.sights }
      · rw [hplain, List.length_append]
        exact Nat.le_add_right_of_le hread
      · rw [hnoised, List.length_append]
        exact Nat.le_add_right_of_le hreadNoised
      · rw [hplain, hnoised, List.drop_append_of_le_length hread,
          List.drop_append_of_le_length hreadNoised]
        exact hunread.append hnews

/-- Reads what a child answers to a request that it was sent. -/
def listen (id : Nat) (child : Child) (bridge : Bridge) : Except Executor.Fault Answer × Bridge :=
  let unread := bridge.unread child
  match await id unread with
  | .answered answer rest =>
      let read := child.read + (unread.length - rest.length)
      (.ok answer, { bridge with child := some { child with read } })
  | .invalid fault => (.error (.bridge fault.message), bridge.giveUp)
  | .closed => (.error (.bridge (bridge.silence child)), bridge.giveUp)

/-- Hands a request to a child and reads what it answers. -/
def converse (id : Nat) (request : Request) (child : Child) (bridge : Bridge) :
    Except Executor.Fault Answer × Bridge :=
  match bridge.writeFault? child with
  | some reason => (.error (.bridge reason), bridge.giveUp)
  | none =>
      let sent := bridge.send child (request.line id)
      listen id sent.1 sent.2

def counted (bridge : Bridge) : Bridge :=
  { bridge with requests := bridge.requests + 1 }

def started (bridge : Bridge) : Bridge :=
  { bridge with child := some {}, sights := bridge.sights ++ [.start] }

theorem exchange_of_child {bridge : Bridge} {child : Child} (hchild : bridge.child = some child)
    (request : Request) :
    exchange request bridge = converse (bridge.requests + 1) request child bridge.counted := by
  have hfound : withChild bridge.counted = .ok (child, bridge.counted) := by
    simp [withChild, Bridge.counted, hchild]
  unfold exchange
  dsimp only
  rw [← Bridge.counted, hfound]
  rfl

theorem exchange_of_start {bridge : Bridge} (hchild : bridge.child = none)
    (hrefusal : bridge.program.refusal = none) (request : Request) :
    exchange request bridge = converse (bridge.requests + 1) request {} bridge.counted.started := by
  have hfound : withChild bridge.counted = .ok ({}, bridge.counted.started) := by
    simp [withChild, Bridge.counted, Bridge.started, hchild, hrefusal]
  unfold exchange
  dsimp only
  rw [← Bridge.counted, hfound]
  rfl

theorem exchange_of_refusal {bridge : Bridge} {reason : String} (hchild : bridge.child = none)
    (hrefusal : bridge.program.refusal = some reason) (request : Request) :
    exchange request bridge =
      (.error (.bridge ("failed to start " ++ bridge.program.name ++ ": " ++ reason)),
        bridge.counted) := by
  have hfound : withChild bridge.counted =
      .error ("failed to start " ++ bridge.program.name ++ ": " ++ reason) := by
    simp [withChild, Bridge.counted, hchild, hrefusal]
  unfold exchange
  dsimp only
  rw [← Bridge.counted, hfound]

theorem drop_read {lines rest : List Line} {read : Nat} (hsuffix : rest <:+ lines.drop read) :
    lines.drop (read + ((lines.drop read).length - rest.length)) = rest := by
  rw [← List.drop_drop]
  exact (List.suffix_iff_eq_drop.1 hsuffix).symm

theorem alike_listen (h : Similar answer noisy plain noised)
    (hchild : ChildrenAlike answer noisy plain.requests child other) :
    (listen plain.requests other noised).1 = (listen plain.requests child plain).1 ∧
      Alike answer noisy (listen plain.requests child plain).2
        (listen plain.requests other noised).2 := by
  have hunread : plain.unread child = (printed answer child.heard).drop child.read := by
    unfold Bridge.unread
    rw [h.script]
    rfl
  have hunreadNoised : noised.unread other = (printed noisy other.heard).drop other.read := by
    unfold Bridge.unread
    rw [h.noisyScript]
    rfl
  have hawait := alike_await hchild.unread
  unfold listen
  dsimp only
  rw [hunread, hunreadNoised]
  cases hplain : await plain.requests ((printed answer child.heard).drop child.read) with
  | answered found rest =>
      rw [hplain] at hawait
      cases hnoised : await plain.requests ((printed noisy other.heard).drop other.read) with
      | answered foundNoised padded =>
          rw [hnoised] at hawait
          obtain ⟨rfl, hrest⟩ := hawait
          -- the same answer is found in both, and what is left differs by noise to later requests
          refine ⟨rfl, { h with children := .some ⟨hchild.heard, ?_, ?_, ?_⟩ }⟩
          · have hlength := (suffix_of_await hplain).length_le
            have hread : child.read ≤ (printed answer child.heard).length := hchild.read
            simp only [List.length_drop] at hlength ⊢
            omega
          · have hlength := (suffix_of_await hnoised).length_le
            have hread : other.read ≤ (printed noisy other.heard).length := hchild.readNoised
            simp only [List.length_drop] at hlength ⊢
            omega
          · dsimp only
            rw [drop_read (suffix_of_await hplain), drop_read (suffix_of_await hnoised)]
            exact hrest
      | invalid | closed =>
          rw [hnoised] at hawait
          exact hawait.elim
  | invalid fault =>
      rw [hplain] at hawait
      cases hnoised : await plain.requests ((printed noisy other.heard).drop other.read) with
      | invalid faultNoised =>
          rw [hnoised] at hawait
          obtain rfl : fault = faultNoised := hawait
          exact ⟨rfl, { h with children := .none }⟩
      | answered | closed =>
          rw [hnoised] at hawait
          exact hawait.elim
  | closed =>
      rw [hplain] at hawait
      cases hnoised : await plain.requests ((printed noisy other.heard).drop other.read) with
      | closed =>
          rw [silence_eq h hchild.heard]
          exact ⟨rfl, { h with children := .none }⟩
      | answered | invalid =>
          rw [hnoised] at hawait
          exact hawait.elim

theorem alike_converse (hnoisy : Noisy answer noisy) (h : Similar answer noisy plain noised)
    (hchild : ChildrenAlike answer noisy plain.requests child other) (request : Request) :
    (converse plain.requests request other noised).1 =
        (converse plain.requests request child plain).1 ∧
      Alike answer noisy (converse plain.requests request child plain).2
        (converse plain.requests request other noised).2 := by
  obtain ⟨hsent, hrequests, hheard⟩ := alike_send hnoisy h hchild (request.line plain.requests)
  unfold converse
  rw [writeFault?_eq hnoisy h hchild.heard]
  cases plain.writeFault? child with
  | some reason => exact ⟨rfl, { h with children := .none }⟩
  | none =>
      dsimp only
      generalize plain.send child (request.line plain.requests) = sent at hsent hrequests hheard ⊢
      generalize noised.send other (request.line plain.requests) = sentNoised at hsent hheard ⊢
      rw [← hrequests] at hheard ⊢
      exact alike_listen hsent hheard

theorem alike_exchange (hnoisy : Noisy answer noisy) (h : Alike answer noisy plain noised)
    (request : Request) :
    (exchange request noised).1 = (exchange request plain).1 ∧
      Alike answer noisy (exchange request plain).2 (exchange request noised).2 := by
  have hcounted : Similar answer noisy plain.counted noised.counted :=
    { h.toSimilar with requests := congrArg (· + 1) h.requests }
  have hchildren := h.children
  generalize hplain : plain.child = child at hchildren
  generalize hnoised : noised.child = other at hchildren
  cases hchildren with
  | some hchild =>
      rw [exchange_of_child hplain, exchange_of_child hnoised, h.requests]
      exact alike_converse hnoisy hcounted hchild request
  | none =>
      cases hrefusal : plain.program.refusal with
      | some reason =>
          rw [exchange_of_refusal hplain hrefusal,
            exchange_of_refusal hnoised (h.refusal.trans hrefusal), h.name]
          refine ⟨rfl, { hcounted with children := ?_ }⟩
          unfold Bridge.counted
          rw [hplain, hnoised]
          exact .none
      | none =>
          rw [exchange_of_start hplain hrefusal,
            exchange_of_start hnoised (h.refusal.trans hrefusal), h.requests]
          have hstarted : Similar answer noisy plain.counted.started noised.counted.started :=
            { hcounted with sights := congrArg (· ++ [Sight.start]) h.sights }
          have hfresh : ChildrenAlike answer noisy (plain.requests + 1) {} {} :=
            ⟨rfl, Nat.zero_le _, Nat.zero_le _, .nil false⟩
          exact alike_converse hnoisy hstarted hfresh request

theorem Alike.giveUp (h : Alike answer noisy plain noised) :
    Alike answer noisy plain.giveUp noised.giveUp :=
  { h.toSimilar with children := .none }

theorem alike_take (hnoisy : Noisy answer noisy) (h : Alike answer noisy plain noised)
    (turn : Turn) :
    (take turn noised).1 = (take turn plain).1 ∧
      Alike answer noisy (take turn plain).2 (take turn noised).2 := by
  have hset : Alike answer noisy
      { plain with program.refusal := turn.refusal }
      { noised with program.refusal := turn.refusal } :=
    { h with refusal := rfl }
  obtain ⟨hanswer, hafter⟩ := alike_exchange hnoisy hset (requestOf turn.use)
  unfold take
  rw [use_apply, use_apply, hanswer]
  refine ⟨rfl, ?_⟩
  dsimp only
  split
  · exact hafter
  · exact hafter.giveUp

theorem alike_run (hnoisy : Noisy answer noisy) (turns : List Turn)
    (h : Alike answer noisy plain noised) :
    (run turns noised).1 = (run turns plain).1 ∧
      Alike answer noisy (run turns plain).2 (run turns noised).2 := by
  induction turns generalizing plain noised with
  | nil => exact ⟨rfl, h⟩
  | cons turn rest ih =>
      obtain ⟨hreport, hnext⟩ := alike_take hnoisy h turn
      obtain ⟨hreports, hlast⟩ := ih hnext
      rw [run_cons, run_cons, hreport, hreports]
      exact ⟨rfl, hlast⟩

theorem alike_scripted (name : String) :
    Alike answer noisy (scripted name answer) (scripted name noisy) where
  requests := rfl
  sights := rfl
  name := rfl
  refusal := rfl
  script := rfl
  noisyScript := rfl
  unwritable := rfl
  unreadable := rfl
  children := .none

end Alike

/-! ### What the children see -/

/-- What a child sees of a line that it is sent. -/
def received (bridge : Bridge) (child : Child) (line : String) : List Sight :=
  if (bridge.program.output child.heard).exited then [] else [.request line]

/-- A child sees nothing of a line that cannot be written to it. -/
theorem received_of_writeFault? {bridge : Bridge} {child : Child} {reason : String}
    (h : bridge.writeFault? child = some reason) (line : String) :
    bridge.received child line = [] :=
  if_pos (Option.ite_none_right_eq_some.1 h).1

/-- What the children see of a request. A child is started for it if there is none. -/
def seen (request : Request) (bridge : Bridge) : List Sight :=
  let line := request.line (bridge.requests + 1)
  match bridge.child, bridge.program.refusal with
  | some child, _ => bridge.received child line
  | none, some _ => []
  | none, none => .start :: bridge.received {} line

theorem received_sublist (bridge : Bridge) (child : Child) (line : String) :
    (bridge.received child line).Sublist [.request line] := by
  unfold received
  split
  · exact List.nil_sublist _
  · exact List.Sublist.refl _

/-- Of a request the children see at most its line, and the start of the child that is sent it. -/
theorem seen_sublist (request : Request) (bridge : Bridge) :
    (seen request bridge).Sublist [.start, .request (request.line (bridge.requests + 1))] := by
  unfold seen
  split
  · exact (received_sublist bridge _ _).cons _
  · exact List.nil_sublist _
  · exact (received_sublist bridge _ _).cons_cons _

theorem sights_send (bridge : Bridge) (child : Child) (line : String) :
    (bridge.send child line).2 =
      { bridge with sights := bridge.sights ++ bridge.received child line } := by
  unfold send received
  split
  · rw [List.append_nil]
  · rfl

theorem sights_listen (id : Nat) (child : Child) (bridge : Bridge) :
    (listen id child bridge).2.requests = bridge.requests ∧
      (listen id child bridge).2.sights = bridge.sights := by
  unfold listen
  dsimp only
  split
  · exact ⟨rfl, rfl⟩
  · exact ⟨rfl, rfl⟩
  · exact ⟨rfl, rfl⟩

theorem sights_converse (id : Nat) (request : Request) (child : Child) (bridge : Bridge) :
    (converse id request child bridge).2.requests = bridge.requests ∧
      (converse id request child bridge).2.sights =
        bridge.sights ++ bridge.received child (request.line id) := by
  unfold converse
  cases hfault : bridge.writeFault? child with
  | some reason =>
      rw [received_of_writeFault? hfault, List.append_nil]
      exact ⟨rfl, rfl⟩
  | none =>
      dsimp only
      obtain ⟨hrequests, hsights⟩ := sights_listen id (bridge.send child (request.line id)).1
        (bridge.send child (request.line id)).2
      rw [hrequests, hsights, sights_send]
      exact ⟨rfl, rfl⟩

/-- A request is counted, whatever comes of it. -/
theorem sights_exchange (request : Request) (bridge : Bridge) :
    (exchange request bridge).2.requests = bridge.requests + 1 ∧
      (exchange request bridge).2.sights = bridge.sights ++ seen request bridge := by
  unfold seen
  cases hchild : bridge.child with
  | some child =>
      rw [exchange_of_child hchild]
      exact sights_converse (bridge.requests + 1) request child bridge.counted
  | none =>
      cases hrefusal : bridge.program.refusal with
      | some reason =>
          rw [exchange_of_refusal hchild hrefusal]
          exact ⟨rfl, (List.append_nil _).symm⟩
      | none =>
          rw [exchange_of_start hchild hrefusal]
          obtain ⟨hcounted, hsights⟩ :=
            sights_converse (bridge.requests + 1) request {} bridge.counted.started
          exact ⟨hcounted, hsights.trans (List.append_assoc bridge.sights [.start] _)⟩

/-! ### Numbers -/

section Numbers

variable {answer : Nat → Option (List Line)} {bridge : Bridge}

/-- The text is a line that the script prints for one of the first `id` requests. -/
def Printed (answer : Nat → Option (List Line)) (id : Nat) (text : String) : Prop :=
  ∃ number ≤ id, ∃ lines, answer number = some lines ∧
    ∃ line ∈ lines, Text.Utf8.decode (line ++ [0x0A]) = .ok text

/-- The turn is request `id`: at most it starts a child and sends it a line with this number, and
what it makes an answer of is a reply with this number. -/
structure Numbered (answer : Nat → Option (List Line)) (id : Nat) (turn : Turn) (before : Bridge) :
    Prop where
  counted : (take turn before).2.requests = id
  seen : ∃ news, List.Sublist news [.start, .request ((requestOf turn.use).line id)] ∧
    (take turn before).2.sights = before.sights ++ news
  read : (∃ message, (take turn before).1 = reportOf turn.use (.error (.bridge message))) ∨
    ∃ text found, Printed answer id text ∧ number? text = some id ∧
      answerIn? id text = some found ∧ (take turn before).1 = reportOf turn.use (.ok found)

/-- The program is the script, and its child heard no more requests than were made. -/
structure Follows (answer : Nat → Option (List Line)) (bridge : Bridge) : Prop where
  script : bridge.program.output = (Program.answering answer).output
  heard : ∀ child ∈ bridge.child, ∀ request ∈ child.heard, request.1 ≤ bridge.requests

theorem mem_of_await {id : Nat} {lines rest : List Line} {found : Answer}
    (h : await id lines = .answered found rest) :
    ∃ line ∈ lines, ∃ text, Text.Utf8.decode (line ++ [0x0A]) = .ok text ∧
      answerIn? id text = some found := by
  induction lines with
  | nil => cases h
  | cons line lines ih =>
      unfold await at h
      split at h
      · cases h
      · next text htext =>
          split at h
          · next answer hanswer =>
              obtain ⟨rfl, -⟩ := Awaited.answered.inj h
              exact ⟨line, List.mem_cons_self, text, htext, hanswer⟩
          · obtain ⟨other, hother, hread⟩ := ih h
            exact ⟨other, List.mem_cons_of_mem line hother, hread⟩

theorem exists_of_mem_printed {heard : List (Nat × String)} {line : Line}
    (h : line ∈ printed answer heard) :
    ∃ request ∈ heard, ∃ lines, answer request.1 = some lines ∧ line ∈ lines := by
  obtain ⟨lines, hlines, hline⟩ := List.mem_flatten.1 h
  obtain ⟨reply, hreply, rfl⟩ := List.mem_filterMap.1 hlines
  obtain ⟨request, hrequest, hanswer⟩ := List.mem_map.1 ((List.takeWhile_sublist _).subset hreply)
  exact ⟨request, hrequest, lines, hanswer, hline⟩

/-- What comes of request `id`, of which the children see at most some things. -/
structure Exchanged (answer : Nat → Option (List Line)) (id : Nat) (atMost before : List Sight)
    (result : Except Executor.Fault Answer × Bridge) : Prop where
  counted : result.2.requests = id
  seen : ∃ news, List.Sublist news atMost ∧ result.2.sights = before ++ news
  follows : Follows answer result.2
  read : (∃ message, result.1 = .error (.bridge message)) ∨
    ∃ text found, Printed answer id text ∧ number? text = some id ∧
      answerIn? id text = some found ∧ result.1 = .ok found

theorem heard_send {child : Child} (h : ∀ request ∈ child.heard, request.1 ≤ bridge.requests)
    (line : String) :
    ∀ request ∈ (bridge.send child line).1.heard, request.1 ≤ bridge.requests := by
  unfold send
  split
  · exact h
  · intro request hrequest
    rcases List.mem_append.1 hrequest with hold | hnew
    · exact h request hold
    · rw [List.mem_singleton.1 hnew]

theorem exchanged_listen (bridge : Bridge)
    (hscript : bridge.program.output = (Program.answering answer).output) {child : Child}
    (hheard : ∀ request ∈ child.heard, request.1 ≤ bridge.requests) :
    Exchanged answer bridge.requests [] bridge.sights (listen bridge.requests child bridge) := by
  have hgone : Follows answer bridge.giveUp := by
    refine ⟨hscript, ?_⟩
    rintro child ⟨⟩
  have hseen : ∃ news, List.Sublist news [] ∧ bridge.sights = bridge.sights ++ news :=
    ⟨[], List.Sublist.refl _, (List.append_nil _).symm⟩
  unfold listen
  dsimp only
  split
  · next found rest hfound =>
      refine ⟨rfl, hseen, ⟨hscript, ?_⟩, .inr ?_⟩
      · rintro other ⟨⟩
        exact hheard
      · obtain ⟨line, hline, text, htext, hanswer⟩ := mem_of_await hfound
        have hprinted : line ∈ printed answer child.heard := by
          have hmem := List.mem_of_mem_drop hline
          rw [hscript] at hmem
          exact hmem
        obtain ⟨asked, hasked, lines, hlines, hmem⟩ := exists_of_mem_printed hprinted
        exact ⟨text, found, ⟨asked.1, hheard asked hasked, lines, hlines, line, hmem, htext⟩,
          number?_of_answerIn? hanswer, hanswer, rfl⟩
  · exact ⟨rfl, hseen, hgone, .inl ⟨_, rfl⟩⟩
  · exact ⟨rfl, hseen, hgone, .inl ⟨_, rfl⟩⟩

theorem exchanged_converse (bridge : Bridge)
    (hscript : bridge.program.output = (Program.answering answer).output) {child : Child}
    (hheard : ∀ request ∈ child.heard, request.1 ≤ bridge.requests)
    (request : Request) :
    Exchanged answer bridge.requests [.request (request.line bridge.requests)] bridge.sights
      (converse bridge.requests request child bridge) := by
  have hseen := (sights_converse bridge.requests request child bridge).2
  unfold converse at hseen ⊢
  cases hfault : bridge.writeFault? child with
  | some reason =>
      refine ⟨rfl, ⟨[], List.nil_sublist _, (List.append_nil _).symm⟩, ⟨hscript, ?_⟩, .inl ⟨_, rfl⟩⟩
      rintro child ⟨⟩
  | none =>
      rw [hfault] at hseen
      have hsent := sights_send bridge child (request.line bridge.requests)
      have hheardSent := heard_send hheard (request.line bridge.requests)
      generalize bridge.send child (request.line bridge.requests) = sent
        at hseen hsent hheardSent ⊢
      have hrequests : sent.2.requests = bridge.requests := by rw [hsent]
      have hprogram : sent.2.program = bridge.program := by rw [hsent]
      rw [← hrequests] at hheardSent
      have hlistened := exchanged_listen sent.2 (hprogram ▸ hscript) hheardSent
      rw [hrequests] at hlistened
      exact { hlistened with seen := ⟨_, received_sublist bridge child _, hseen⟩ }

theorem exchanged_exchange (h : Follows answer bridge) (request : Request) :
    Exchanged answer (bridge.requests + 1)
      [.start, .request (request.line (bridge.requests + 1))] bridge.sights
      (exchange request bridge) := by
  have hseen : ∃ news, List.Sublist news [.start, .request (request.line (bridge.requests + 1))] ∧
      (exchange request bridge).2.sights = bridge.sights ++ news :=
    ⟨_, seen_sublist request bridge, (sights_exchange request bridge).2⟩
  cases hchild : bridge.child with
  | some child =>
      rw [exchange_of_child hchild] at hseen ⊢
      have hheard : ∀ request ∈ child.heard, request.1 ≤ bridge.counted.requests :=
        fun request hrequest => Nat.le_succ_of_le (h.heard child hchild request hrequest)
      exact { exchanged_converse bridge.counted h.script hheard request with seen := hseen }
  | none =>
      cases hrefusal : bridge.program.refusal with
      | some reason =>
          rw [exchange_of_refusal hchild hrefusal] at hseen ⊢
          refine ⟨rfl, hseen, ⟨h.script, ?_⟩, .inl ⟨_, rfl⟩⟩
          intro child hfound
          exact absurd hfound (by simp [Bridge.counted, hchild])
      | none =>
          rw [exchange_of_start hchild hrefusal] at hseen ⊢
          have hheard : ∀ request ∈ ({} : Child).heard,
              request.1 ≤ bridge.counted.started.requests := by
            rintro request ⟨⟩
          exact { exchanged_converse bridge.counted.started h.script hheard request with
            seen := hseen }

theorem Follows.giveUp (h : Follows answer bridge) : Follows answer bridge.giveUp := by
  refine ⟨h.script, ?_⟩
  rintro child ⟨⟩

theorem numbered_of_follows (h : Follows answer bridge) (turn : Turn) :
    Numbered answer (bridge.requests + 1) turn bridge ∧ Follows answer (take turn bridge).2 := by
  have hset : Follows answer { bridge with program.refusal := turn.refusal } :=
    ⟨h.script, h.heard⟩
  have hdone := exchanged_exchange hset (requestOf turn.use)
  generalize hresult : exchange (requestOf turn.use) { bridge with program.refusal := turn.refusal }
    = result at hdone
  have hreport : (take turn bridge).1 = reportOf turn.use result.1 := by
    rw [← hresult]
    exact congrArg Prod.fst (use_apply turn.use _)
  have hafter : (take turn bridge).2 = result.2 ∨ (take turn bridge).2 = result.2.giveUp := by
    rw [← hresult]
    unfold take
    rw [use_apply]
    dsimp only
    split
    · exact .inl rfl
    · exact .inr rfl
  have hread : (∃ message, (take turn bridge).1 = reportOf turn.use (.error (.bridge message))) ∨
      ∃ text found, Printed answer (bridge.requests + 1) text ∧
        number? text = some (bridge.requests + 1) ∧
        answerIn? (bridge.requests + 1) text = some found ∧
        (take turn bridge).1 = reportOf turn.use (.ok found) := by
    rw [hreport]
    rcases hdone.read with ⟨message, hmessage⟩ | ⟨text, found, hprinted, hnumber, hanswer, hfound⟩
    · exact .inl ⟨message, congrArg (reportOf turn.use) hmessage⟩
    · exact .inr ⟨text, found, hprinted, hnumber, hanswer, congrArg (reportOf turn.use) hfound⟩
  rcases hafter with hafter | hafter
  · exact ⟨⟨hafter ▸ hdone.counted, hafter ▸ hdone.seen, hread⟩, hafter ▸ hdone.follows⟩
  · exact ⟨⟨hafter ▸ hdone.counted, hafter ▸ hdone.seen, hread⟩, hafter ▸ hdone.follows.giveUp⟩

theorem follows_run (turns : List Turn) (h : Follows answer bridge) :
    (run turns bridge).2.requests = bridge.requests + turns.length ∧
      Follows answer (run turns bridge).2 := by
  induction turns generalizing bridge with
  | nil => exact ⟨rfl, h⟩
  | cons turn rest ih =>
      obtain ⟨hnumbered, hnext⟩ := numbered_of_follows h turn
      obtain ⟨hrequests, hlast⟩ := ih hnext
      rw [run_cons]
      refine ⟨?_, hlast⟩
      rw [hrequests, hnumbered.counted, List.length_cons]
      omega

end Numbers

/-! ### Noise -/

section Noise

/-- A child that answers the first request and exits at the second, and one that answers the
fourth. -/
def quiet : Nat → Option (List Line)
  | 1 => some [Text.Utf8.encode "\x7b\"id\":1,\"ok\":\x7b\"handle\":\"a\"\x7d\x7d"]
  | 2 => none
  | 4 => some [Text.Utf8.encode "\x7b\"id\":4,\"error\":\"no\"\x7d"]
  | _ => some []

def chatty : Nat → Option (List Line)
  | 1 => some
      [Text.Utf8.encode "debug: compiled",
        Text.Utf8.encode "\x7b\"id\":1,\"ok\":\x7b\"handle\":\"a\"\x7d\x7d",
        Text.Utf8.encode "\x7b\"id\":1,\"ok\":null\x7d"]
  | 2 => none
  | 4 => some
      [Text.Utf8.encode "\x7b\"id\":2,\"ok\":[]\x7d",
        Text.Utf8.encode "\x7b\"id\":4,\"error\":\"no\"\x7d"]
  | _ => some []

def passes (id : Nat) (line : Line) : Bool :=
  match Text.Utf8.decode (line ++ [0x0A]) with
  | .ok text => (number? text).all (· < id)
  | .error _ => false

theorem passed_of_passes {id : Nat} {line : Line} (h : passes id line = true) : Passed id line := by
  unfold passes at h
  split at h
  · next text htext =>
      refine ⟨text, htext, fun number hnumber => ?_⟩
      rw [hnumber] at h
      simpa using h
  · cases h

theorem noisy_chatty : Noisy quiet chatty
  | 0 => .some (.nil false)
  | 1 => .some (.noise _ (passed_of_passes (by decide +kernel)) (.line _
      (.noise _ (passed_of_passes (by decide +kernel)) (.nil _))))
  | 2 => .none
  | 3 => .some (.nil false)
  | 4 => .some (.noise _ (passed_of_passes (by decide +kernel)) (.line _ (.nil _)))
  | _ + 5 => .some (.nil false)

variable {answer noisy : Nat → Option (List Line)}

/-- Noise on the output changes no report, and neither the starts nor the lines that children get.
Whatever the output, the turns are the requests 1, 2, 3 and so on, also when a child has to be
started again or cannot be started, and no reply to another request is taken for an answer. -/
theorem reports_of_noise (h : Noisy answer noisy) (name : String) (turns : List Turn) :
    (run turns (scripted name noisy)).1 = (run turns (scripted name answer)).1 ∧
      (run turns (scripted name noisy)).2.sights = (run turns (scripted name answer)).2.sights ∧
      ∀ earlier turn later, turns = earlier ++ turn :: later →
        Numbered noisy (earlier.length + 1) turn (run earlier (scripted name noisy)).2 := by
  obtain ⟨hreports, hlast⟩ := alike_run h turns (alike_scripted name)
  refine ⟨hreports, hlast.sights, ?_⟩
  rintro earlier turn later -
  have hstart : Follows noisy (scripted name noisy) := by
    refine ⟨rfl, ?_⟩
    rintro child ⟨⟩
  obtain ⟨hrequests, hfollows⟩ := follows_run earlier hstart
  have hnumber : (run earlier (scripted name noisy)).2.requests = earlier.length := by
    rw [hrequests]
    exact Nat.zero_add earlier.length
  rw [← hnumber]
  exact (numbered_of_follows hfollows turn).1

theorem reports_of_chatty :
    Noisy quiet chatty ∧
      let turns : List Turn := [⟨none, .deploy "contract" []⟩, ⟨none, .manifest "a"⟩,
        ⟨some "Permission denied", .reset⟩, ⟨none, .call "a" "get" []⟩]
      (run turns (scripted "backend" chatty)).1 = (run turns (scripted "backend" quiet)).1 ∧
        (run turns (scripted "backend" chatty)).2.sights =
          (run turns (scripted "backend" quiet)).2.sights ∧
        Numbered chatty 4 ⟨none, .call "a" "get" []⟩
          (run (turns.take 3) (scripted "backend" chatty)).2 := by
  obtain ⟨hreports, hsights, hnumbered⟩ := reports_of_noise noisy_chatty "backend"
    [⟨none, .deploy "contract" []⟩, ⟨none, .manifest "a"⟩, ⟨some "Permission denied", .reset⟩,
      ⟨none, .call "a" "get" []⟩]
  exact ⟨noisy_chatty, hreports, hsights, hnumbered
    [⟨none, .deploy "contract" []⟩, ⟨none, .manifest "a"⟩, ⟨some "Permission denied", .reset⟩]
    ⟨none, .call "a" "get" []⟩ [] rfl⟩

end Noise

end Concord.Bridge
