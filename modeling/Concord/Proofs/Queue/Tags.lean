import Mathlib
import Concord.Proofs.Queue.Histories

/-!
# Tags

A message is in the hands of one consumer at a time, the one that received it last. That consumer
can settle it once; all other tags, old ones included, are without power.
-/

namespace Concord

/-- The tag that a message is held under. -/
def Message.tag? (message : Message) : Option DeliveryTag :=
  match message.state with
  | .leased tag _ => some tag
  | _ => none

namespace Message

variable {message : Message} {tag : DeliveryTag}

theorem tag?_eq_some_iff : message.tag? = some tag ↔ message.leasedAs tag = true := by
  unfold tag? leasedAs
  cases message.state <;> simp

theorem exists_tag?_of_isLeased (h : message.isLeased = true) : ∃ tag, message.tag? = some tag := by
  unfold isLeased at h
  unfold tag?
  cases hstate : message.state with
  | leased tag lapsed => exact ⟨tag, rfl⟩
  | ready | dead =>
      rw [hstate] at h
      cases h

theorem isLeased_of_leasedAs (h : message.leasedAs tag = true) : message.isLeased = true := by
  unfold leasedAs at h
  unfold isLeased
  cases hstate : message.state with
  | leased => rfl
  | ready | dead =>
      rw [hstate] at h
      cases h

theorem exists_of_leasedAs (h : message.leasedAs tag = true) :
    ∃ lapsed, message.state = .leased tag lapsed := by
  unfold leasedAs at h
  cases hstate : message.state with
  | leased held lapsed =>
      rw [hstate] at h
      rw [← beq_iff_eq.1 h]
      exact ⟨lapsed, rfl⟩
  | ready | dead =>
      rw [hstate] at h
      cases h

end Message

namespace Queue

/-- How a consumer settles a delivery. -/
inductive Settlement where
  | ack
  | reject (requeue : Bool)

namespace Settlement

def step (tag : DeliveryTag) : Settlement → Step
  | ack => .ack tag
  | reject requeue => .reject tag requeue

/-- What is left of the message that is settled. -/
def remains (message : Message) : Settlement → List Message
  | ack => []
  | reject requeue => [{ message with state := if requeue then .ready else .dead }]

end Settlement

/-- The answer to a consumer that settles a delivery. -/
def settleBy (queue : Queue) (tag : DeliveryTag) : Settlement → Except Fault (Unit × Queue)
  | .ack => queue.ack tag
  | .reject requeue => queue.reject tag requeue

/-- The tag of the last one among deliveries of a message. -/
def lastTag? (deliveries : List Message) (number : Nat) : Option DeliveryTag :=
  ((deliveries.filter (·.number == number)).getLast?).bind Message.tag?

/-! ### What a step makes of a message -/

/-- What became of a message in a step. -/
inductive Became (queue : Queue) : Step → Message → Message → Prop
  | kept (step : Step) (message : Message) : Became queue step message message
  | leased {name : String} {message : Message} (h : message.WaitsIn name) :
      Became queue (.receive name) message (message.leaseUnder ⟨queue.delivered⟩)
  | rejected {tag : DeliveryTag} (requeue : Bool) {message : Message}
      (h : message.leasedAs tag = true) :
      Became queue (.reject tag requeue) message
        { message with state := if requeue then .ready else .dead }
  | lapsed {tag : DeliveryTag} {message : Message} (h : message.leasedAs tag = true) :
      Became queue (.lapse tag) message { message with state := .leased tag true }

variable {queue : Queue} {tag : DeliveryTag} {message : Message}

theorem Became.number {step : Step} {earlier : Message} (h : Became queue step earlier message) :
    message.number = earlier.number := by
  cases h <;> rfl

/-- A message was there before a step, or is the one that was published. -/
theorem exists_of_mem_perform {step : Step} (h : message ∈ (queue.perform step).messages) :
    (∃ name body, step = .publish name body ∧ message = ⟨queue.published, name, body, .ready, 0⟩) ∨
      ∃ earlier ∈ queue.messages, Became queue step earlier message := by
  cases step with
  | publish name body =>
      rcases List.mem_append.1 h with hmem | hmem
      · exact Or.inr ⟨message, hmem, .kept _ message⟩
      · exact Or.inl ⟨name, body, rfl, List.mem_singleton.1 hmem⟩
  | receive name =>
      change message ∈ (queue.receive name).2.messages at h
      refine Or.inr ?_
      cases hreceive : queue.receive name with
      | mk found next =>
          rw [hreceive] at h
          cases found with
          | none =>
              rw [(receive_eq_none hreceive).1] at h
              exact ⟨message, h, .kept _ message⟩
          | some delivery =>
              obtain ⟨earlier, leased, later, hmessages, -, hwaits, -, rfl⟩ :=
                receive_eq_some hreceive
              rcases mem_replaced h with rfl | hmem
              · exact ⟨leased, hmessages ▸ by simp, .leased hwaits⟩
              · exact ⟨message, hmessages ▸ hmem, .kept _ message⟩
  | ack tag =>
      rw [(perform_ack queue tag).1] at h
      exact Or.inr ⟨message, List.mem_of_mem_filter h, .kept _ message⟩
  | reject tag requeue =>
      rw [perform_reject] at h
      obtain ⟨earlier, hearlier, rfl⟩ := mem_changeHeld h
      refine Or.inr ⟨earlier, hearlier, ?_⟩
      split
      · next hheld => exact .rejected requeue hheld
      · exact .kept _ earlier
  | lapse tag =>
      obtain ⟨earlier, hearlier, rfl⟩ := mem_changeHeld h
      refine Or.inr ⟨earlier, hearlier, ?_⟩
      split
      · next hheld => exact .lapsed hheld
      · exact .kept _ earlier

theorem published_le_perform (queue : Queue) (step : Step) :
    queue.published ≤ (queue.perform step).published := by
  cases step with
  | publish name body => exact Nat.le_succ _
  | receive name =>
      change queue.published ≤ (queue.receive name).2.published
      unfold receive
      split <;> exact Nat.le_refl _
  | ack tag =>
      rw [(perform_ack queue tag).1]
      exact Nat.le_refl _
  | reject tag requeue =>
      rw [perform_reject]
      exact Nat.le_refl _
  | lapse tag => exact Nat.le_refl _

theorem delivered_le_perform (queue : Queue) (step : Step) :
    queue.delivered ≤ (queue.perform step).delivered := by
  cases step with
  | publish name body => exact Nat.le_refl _
  | receive name =>
      change queue.delivered ≤ (queue.receive name).2.delivered
      unfold receive
      split
      · exact Nat.le_succ _
      · exact Nat.le_refl _
  | ack tag =>
      rw [(perform_ack queue tag).1]
      exact Nat.le_refl _
  | reject tag requeue =>
      rw [perform_reject]
      exact Nat.le_refl _
  | lapse tag => exact Nat.le_refl _

/-! ### The tag of the last delivery -/

theorem lastTag?_concat (deliveries : List Message) (last : Message) (number : Nat) :
    lastTag? (deliveries ++ [last]) number =
      if last.number = number then last.tag? else lastTag? deliveries number := by
  unfold lastTag?
  rw [List.filter_append, List.filter_singleton]
  by_cases hnumber : last.number = number
  · simp [hnumber]
  · have hne : (last.number == number) = false := beq_false_of_ne hnumber
    simp [hnumber, hne]

/-- A receive delivers a message that could be leased, under a new tag, or it changes nothing. -/
theorem Sound.deliveredBy_receive (h : Sound queue) (name : String) :
    (∃ waiting ∈ queue.messages, waiting.WaitsIn name ∧
      queue.deliveredBy (.receive name) = [waiting.leaseUnder ⟨queue.delivered⟩] ∧
      waiting.leaseUnder ⟨queue.delivered⟩ ∈ (queue.perform (.receive name)).messages) ∨
    queue.deliveredBy (.receive name) = [] ∧ queue.perform (.receive name) = queue := by
  unfold deliveredBy Queue.perform
  dsimp only
  cases hreceive : queue.receive name with
  | mk found next =>
      cases found with
      | none => exact Or.inr ⟨rfl, (receive_eq_none hreceive).1⟩
      | some delivery =>
          obtain ⟨earlier, waiting, later, hmessages, -, hwaits, rfl, rfl⟩ :=
            receive_eq_some hreceive
          refine Or.inl ⟨waiting, ?_, hwaits, h.filter_leasedAs_replaced hmessages, ?_⟩
          · simp [hmessages]
          · simp

theorem deliveredBy_eq_nil {step : Step} (h : ∀ name, step ≠ .receive name) :
    queue.deliveredBy step = [] := by
  cases step with
  | receive name => exact absurd rfl (h name)
  | publish | ack | reject | lapse => rfl

/-- A message that is held after a step is the one that was delivered, or was held under the same
tag before and was not delivered. -/
theorem Sound.held_perform (h : Sound queue) {step : Step}
    (hmem : message ∈ (queue.perform step).messages) (hheld : message.leasedAs tag = true) :
    queue.deliveredBy step = [message] ∨
      (∃ earlier ∈ queue.messages, earlier.number = message.number ∧
        earlier.leasedAs tag = true) ∧
      ∀ delivered ∈ queue.deliveredBy step, delivered.number ≠ message.number := by
  by_cases hdelivered : ∃ delivered ∈ queue.deliveredBy step, delivered.number = message.number
  · obtain ⟨delivered, hdelivered, hnumber⟩ := hdelivered
    refine Or.inl ?_
    cases step with
    | receive name =>
        rcases h.deliveredBy_receive name with ⟨waiting, -, -, hone, hkept⟩ | ⟨hnone, -⟩
        · rw [hone] at hdelivered ⊢
          rw [List.mem_singleton.1 hdelivered] at hnumber
          rw [(h.perform _).eq_of_number_eq hkept hmem hnumber]
        · rw [hnone] at hdelivered
          cases hdelivered
    | publish | ack | reject | lapse => cases hdelivered
  · refine Or.inr ⟨?_, fun delivered hmem hnumber => hdelivered ⟨delivered, hmem, hnumber⟩⟩
    rcases exists_of_mem_perform hmem with ⟨name, body, rfl, rfl⟩ | ⟨earlier, hearlier, hbecame⟩
    · cases hheld
    · cases hbecame with
      | kept => exact ⟨message, hearlier, rfl, hheld⟩
      | @leased name _ hwaits =>
          refine absurd ?_ hdelivered
          rcases h.deliveredBy_receive name with ⟨waiting, -, -, hone, hkept⟩ | ⟨-, hsame⟩
          · refine ⟨_, hone ▸ List.mem_singleton_self _, ?_⟩
            have hnew : (waiting.leaseUnder ⟨queue.delivered⟩).leasedAs ⟨queue.delivered⟩ = true :=
              Message.leasedAs_leaseUnder_iff.2 rfl
            rw [(h.perform _).exclusive _ hkept _ hmem _ hnew
              (Message.leasedAs_leaseUnder_iff.2 rfl)]
          · -- nothing was delivered, so the new tag is in nobody's hands
            rw [hsame] at hmem
            exact absurd (h.delivered _ hmem _ (Message.leasedAs_leaseUnder_iff.2 rfl))
              (Nat.lt_irrefl _)
      | rejected requeue hleased => cases requeue <;> cases hheld
      | lapsed hleased =>
          rw [← beq_iff_eq.1 hheld]
          exact ⟨earlier, hearlier, rfl, hleased⟩

/-- A message is held under the tag of its last delivery. -/
theorem lastTag?_of_leasedAs (steps : List Step) {message : Message} {tag : DeliveryTag}
    (hmem : message ∈ (after steps).messages) (hheld : message.leasedAs tag = true) :
    lastTag? (deliveries steps) message.number = some tag := by
  induction steps using List.reverseRecOn generalizing message tag with
  | nil => cases hmem
  | append_singleton steps step ih =>
      rw [after_concat] at hmem
      rw [deliveries_concat]
      rcases (sound_after steps).held_perform hmem hheld with
        hdelivered | ⟨⟨earlier, hearlier, hnumber, hleased⟩, hothers⟩
      · rw [hdelivered, lastTag?_concat, if_pos rfl]
        exact Message.tag?_eq_some_iff.2 hheld
      · have hlast := hnumber ▸ ih hearlier hleased
        by_cases hreceive : ∃ name, step = .receive name
        · obtain ⟨name, rfl⟩ := hreceive
          rcases (sound_after steps).deliveredBy_receive name with
            ⟨waiting, -, -, hone, -⟩ | ⟨hnone, -⟩
          · rw [hone] at hothers ⊢
            rw [lastTag?_concat, if_neg (hothers _ (List.mem_singleton_self _))]
            exact hlast
          · rw [hnone, List.append_nil]
            exact hlast
        · rw [deliveredBy_eq_nil fun name heq => hreceive ⟨name, heq⟩, List.append_nil]
          exact hlast

/-- The consumer that received a message last is the one that holds it. -/
theorem leasedAs_iff_lastTag? (steps : List Step) (hmem : message ∈ (after steps).messages) :
    message.leasedAs tag = true ↔
      message.isLeased = true ∧ lastTag? (deliveries steps) message.number = some tag := by
  constructor
  · intro hheld
    exact ⟨Message.isLeased_of_leasedAs hheld, lastTag?_of_leasedAs steps hmem hheld⟩
  · rintro ⟨hleased, hlast⟩
    obtain ⟨held, htag⟩ := Message.exists_tag?_of_isLeased hleased
    have hheld := Message.tag?_eq_some_iff.1 htag
    rw [lastTag?_of_leasedAs steps hmem hheld] at hlast
    rwa [← Option.some.inj hlast]

/-! ### Settling -/

theorem settleBy_eq_ok_iff {settlement : Settlement} {next : Queue} :
    queue.settleBy tag settlement = .ok ((), next) ↔
      (∃ message ∈ queue.messages, message.leasedAs tag = true) ∧
        next = queue.perform (settlement.step tag) := by
  cases settlement with
  | ack =>
      rw [Settlement.step, (perform_ack queue tag).1]
      exact ack_eq_ok_iff
  | reject requeue =>
      rw [Settlement.step, perform_reject]
      exact reject_eq_ok_iff

/-- A refused settlement names the tag, and nothing is done. -/
theorem settleBy_eq_error {settlement : Settlement} {fault : Fault}
    (h : queue.settleBy tag settlement = .error fault) :
    fault = .unknownDelivery tag ∧ queue.perform (settlement.step tag) = queue := by
  have hsettle : ∀ messages, queue.settle tag messages = .error fault →
      fault = .unknownDelivery tag := by
    intro messages hsettle
    unfold settle at hsettle
    split at hsettle
    · cases hsettle
    · exact (Except.error.inj hsettle).symm
  cases settlement with
  | ack =>
      refine ⟨hsettle _ h, ?_⟩
      unfold Settlement.step Queue.perform
      dsimp only
      rw [show queue.ack tag = .error fault from h]
  | reject requeue =>
      refine ⟨hsettle _ h, ?_⟩
      unfold Settlement.step Queue.perform
      dsimp only
      rw [show queue.reject tag requeue = .error fault from h]

/-- Where a message is held under a tag, settling replaces this message and no other. -/
theorem Sound.messages_settled (h : Sound queue) {earlier later : List Message}
    (hmessages : queue.messages = earlier ++ message :: later) (hheld : message.leasedAs tag = true)
    (settlement : Settlement) :
    queue.perform (settlement.step tag) =
      { queue with messages := earlier ++ settlement.remains message ++ later } := by
  have hascending := h.ascending
  rw [hmessages, List.pairwise_append, List.pairwise_cons] at hascending
  obtain ⟨-, ⟨hlater, -⟩, hearlier⟩ := hascending
  have hother : ∀ other ∈ queue.messages, other.number ≠ message.number →
      ¬other.leasedAs tag = true := by
    intro other hmem hnumber hotherHeld
    exact hnumber (congrArg Message.number
      (h.exclusive other hmem message (hmessages ▸ by simp) tag hotherHeld hheld))
  have hbefore : ∀ other ∈ earlier, ¬other.leasedAs tag = true := fun other hmem =>
    hother other (by simp [hmessages, hmem])
      (Nat.ne_of_lt (hearlier other hmem message List.mem_cons_self))
  have hafter : ∀ other ∈ later, ¬other.leasedAs tag = true := fun other hmem =>
    hother other (by simp [hmessages, hmem]) (Nat.ne_of_gt (hlater other hmem))
  cases settlement with
  | ack =>
      have hkept : ∀ part : List Message, (∀ other ∈ part, ¬other.leasedAs tag = true) →
          part.filter (fun other => !other.leasedAs tag) = part :=
        fun part hpart => List.filter_eq_self.2 fun other hmem => by simp [hpart other hmem]
      rw [Settlement.step, (perform_ack queue tag).1, Queue.dropHeld, hmessages, List.filter_append,
        List.filter_cons, if_neg (by simp [hheld]), hkept earlier hbefore, hkept later hafter,
        Settlement.remains, List.append_nil]
  | reject requeue =>
      have hkept : ∀ (state : MessageState) (part : List Message),
          (∀ other ∈ part, ¬other.leasedAs tag = true) →
          part.map (fun other => if other.leasedAs tag then { other with state } else other) =
            part := by
        intro state part hpart
        refine (List.map_congr_left ?_).trans (List.map_id _)
        exact fun other hmem => if_neg (hpart other hmem)
      rw [Settlement.step, perform_reject, Queue.changeHeld, hmessages, List.map_append,
        List.map_cons, if_pos hheld, hkept _ earlier hbefore, hkept _ later hafter, Settlement.remains,
        List.append_assoc, List.singleton_append]

/-! ### Tags that are spent -/

/-- A tag that was given and is in nobody's hands. -/
def Spent (queue : Queue) (tag : DeliveryTag) : Prop :=
  tag.number < queue.delivered ∧ ∀ message ∈ queue.messages, ¬message.leasedAs tag = true

theorem Spent.perform (h : Spent queue tag) (step : Step) : Spent (queue.perform step) tag := by
  refine ⟨Nat.lt_of_lt_of_le h.1 (delivered_le_perform queue step), ?_⟩
  intro message hmem hheld
  rcases exists_of_mem_perform hmem with ⟨name, body, rfl, rfl⟩ | ⟨earlier, hearlier, hbecame⟩
  · cases hheld
  · cases hbecame with
    | kept => exact h.2 message hearlier hheld
    | leased hwaits =>
        rw [Message.leasedAs_leaseUnder_iff.1 hheld] at h
        exact Nat.lt_irrefl _ h.1
    | rejected requeue hleased => cases requeue <;> cases hheld
    | lapsed hleased =>
        rw [beq_iff_eq.1 hheld] at hleased
        exact h.2 earlier hearlier hleased

theorem Spent.performAll (h : Spent queue tag) (steps : List Step) :
    Spent (queue.performAll steps) tag := by
  induction steps generalizing queue with
  | nil => exact h
  | cons step steps ih => exact ih (h.perform step)

theorem Sound.spent_of_settled (h : Sound queue) {settlement : Settlement} {next : Queue}
    (hsettle : queue.settleBy tag settlement = .ok ((), next)) :
    Spent (queue.perform (settlement.step tag)) tag := by
  obtain ⟨⟨message, hmem, hheld⟩, -⟩ := settleBy_eq_ok_iff.1 hsettle
  refine ⟨Nat.lt_of_lt_of_le (h.delivered message hmem tag hheld) (delivered_le_perform _ _), ?_⟩
  intro other hother hotherHeld
  cases settlement with
  | ack =>
      rw [Settlement.step, (perform_ack queue tag).1] at hother
      have hkept := (List.mem_filter.1 hother).2
      rw [hotherHeld] at hkept
      cases hkept
  | reject requeue =>
      rw [Settlement.step, perform_reject] at hother
      obtain ⟨earlier, -, rfl⟩ := mem_changeHeld hother
      split at hotherHeld
      · cases requeue <;> cases hotherHeld
      · next hfree => exact hfree hotherHeld

theorem Spent.refused (h : Spent queue tag) (settlement : Settlement) :
    queue.settleBy tag settlement = .error (.unknownDelivery tag) := by
  cases hsettle : queue.settleBy tag settlement with
  | ok answer =>
      obtain ⟨⟨message, hmem, hheld⟩, -⟩ := settleBy_eq_ok_iff.1 hsettle
      exact absurd hheld (h.2 message hmem)
  | error fault => rw [(settleBy_eq_error hsettle).1]

/-! ### Messages that no consumer is given -/

/-- A message that is under an unexpired lease, dead, or gone. -/
def Hidden (queue : Queue) (number : Nat) (tag : DeliveryTag) : Prop :=
  number < queue.published ∧ ∀ message ∈ queue.messages, message.number = number →
    message.state = .leased tag false ∨ message.state = .dead

theorem Hidden.not_waitsIn {number : Nat} (h : Hidden queue number tag)
    (hmem : message ∈ queue.messages) (hnumber : message.number = number) (name : String) :
    ¬message.WaitsIn name := by
  rintro ⟨-, havailable⟩
  unfold Message.available at havailable
  rcases h.2 message hmem hnumber with hstate | hstate <;> simp [hstate] at havailable

/-- A lease ends by running out or by being given back. -/
theorem Hidden.perform {number : Nat} (h : Hidden queue number tag) {step : Step}
    (hlapse : step ≠ .lapse tag) (hreject : step ≠ .reject tag true) :
    Hidden (queue.perform step) number tag := by
  refine ⟨Nat.lt_of_lt_of_le h.1 (published_le_perform queue step), ?_⟩
  intro message hmem hnumber
  rcases exists_of_mem_perform hmem with ⟨name, body, rfl, rfl⟩ | ⟨earlier, hearlier, hbecame⟩
  · exact absurd h.1 (hnumber ▸ Nat.lt_irrefl _)
  · have hearlierNumber : earlier.number = number := hbecame.number.symm.trans hnumber
    have hstate := h.2 earlier hearlier hearlierNumber
    have htag : ∀ held, earlier.leasedAs held = true → held = tag := by
      intro held hheld
      unfold Message.leasedAs at hheld
      rcases hstate with hstate | hstate
      · rw [hstate] at hheld
        exact (beq_iff_eq.1 hheld).symm
      · rw [hstate] at hheld
        cases hheld
    cases hbecame with
    | kept => exact hstate
    | leased hwaits => exact absurd hwaits (h.not_waitsIn hearlier hearlierNumber _)
    | rejected requeue hleased =>
        cases requeue with
        | true => exact absurd (congrArg (Step.reject · true) (htag _ hleased)) hreject
        | false => exact Or.inr rfl
    | lapsed hleased => exact absurd (congrArg Step.lapse (htag _ hleased)) hlapse

theorem Hidden.performAll {number : Nat} (h : Hidden queue number tag) {steps : List Step}
    (hsteps : ∀ step ∈ steps, step ≠ .lapse tag ∧ step ≠ .reject tag true) :
    Hidden (queue.performAll steps) number tag := by
  induction steps generalizing queue with
  | nil => exact h
  | cons step steps ih =>
      obtain ⟨⟨hlapse, hreject⟩, hrest⟩ := List.forall_mem_cons.1 hsteps
      exact ih (h.perform hlapse hreject) hrest

theorem Sound.hidden_of_delivered (h : Sound queue) {name : String}
    (hdelivered : message ∈ queue.deliveredBy (.receive name)) :
    ∃ tag, message.tag? = some tag ∧
      Hidden (queue.perform (.receive name)) message.number tag := by
  rcases h.deliveredBy_receive name with ⟨waiting, hwaiting, -, hone, hkept⟩ | ⟨hnone, -⟩
  · rw [hone, List.mem_singleton] at hdelivered
    subst hdelivered
    refine ⟨⟨queue.delivered⟩, rfl, (h.perform _).published _ hkept, ?_⟩
    intro other hother hnumber
    rw [(h.perform _).eq_of_number_eq hother hkept hnumber]
    exact Or.inl rfl
  · rw [hnone] at hdelivered
    cases hdelivered

/-- Nobody is given a message that is under an unexpired lease, dead or gone. -/
theorem Sound.number_ne_of_hidden (h : Sound queue) {number : Nat}
    (hhidden : Hidden queue number tag) {name : String} (hdelivered : message ∈ queue.deliveredBy (.receive name)) :
    message.number ≠ number := by
  rcases h.deliveredBy_receive name with ⟨waiting, hwaiting, hwaits, hone, -⟩ | ⟨hnone, -⟩
  · rw [hone, List.mem_singleton] at hdelivered
    subst hdelivered
    exact fun hnumber => hhidden.not_waitsIn hwaiting hnumber name hwaits
  · rw [hnone] at hdelivered
    cases hdelivered

/-! ### While others go on -/

/-- A step that settles nothing under a tag. -/
def Step.Spares (tag : DeliveryTag) (step : Step) : Prop :=
  ∀ settlement, step ≠ Settlement.step tag settlement

/-- A consumer keeps its lease, which may run out, until the message is delivered again. -/
theorem Sound.held_of_spares (h : Sound queue) {step : Step} (hspares : step.Spares tag)
    {lapsed : Bool} (hmem : { message with state := .leased tag lapsed } ∈ queue.messages) :
    (∃ delivered ∈ queue.deliveredBy step, delivered.number = message.number) ∨
      ∃ lapsed, { message with state := .leased tag lapsed } ∈ (queue.perform step).messages := by
  have hheld : ∀ other, ({ message with state := .leased tag lapsed } : Message).leasedAs other =
      true ↔ tag = other := fun other => beq_iff_eq
  cases step with
  | publish name body => exact Or.inr ⟨lapsed, List.mem_append_left _ hmem⟩
  | receive name =>
      unfold deliveredBy Queue.perform
      dsimp only
      cases hreceive : queue.receive name with
      | mk found next =>
          cases found with
          | none =>
              rw [(receive_eq_none hreceive).1]
              exact Or.inr ⟨lapsed, hmem⟩
          | some delivery =>
              obtain ⟨earlier, waiting, later, hmessages, -, -, rfl, rfl⟩ :=
                receive_eq_some hreceive
              dsimp only
              rw [h.filter_leasedAs_replaced hmessages]
              rw [hmessages, List.mem_append, List.mem_cons] at hmem
              rcases hmem with hmem | heq | hmem
              · exact Or.inr ⟨lapsed, List.mem_append_left _ hmem⟩
              · exact Or.inl ⟨_, List.mem_singleton_self _, (congrArg Message.number heq).symm⟩
              · exact Or.inr ⟨lapsed, List.mem_append_right _ (List.mem_cons_of_mem _ hmem)⟩
  | ack other =>
      have hne : tag ≠ other := by
        rintro rfl
        exact hspares .ack rfl
      rw [(perform_ack queue other).1]
      refine Or.inr ⟨lapsed, List.mem_filter.2 ⟨hmem, ?_⟩⟩
      rw [Bool.not_eq_true', Bool.eq_false_iff, ne_eq, hheld]
      exact hne
  | reject other requeue =>
      have hne : tag ≠ other := by
        rintro rfl
        exact hspares (.reject requeue) rfl
      rw [perform_reject]
      exact Or.inr ⟨lapsed,
        List.mem_map.2 ⟨_, hmem, if_neg fun hother => hne ((hheld other).1 hother)⟩⟩
  | lapse other =>
      by_cases heq : tag = other
      · subst heq
        exact Or.inr ⟨true, List.mem_map.2 ⟨_, hmem, if_pos ((hheld tag).2 rfl)⟩⟩
      · exact Or.inr ⟨lapsed, List.mem_map.2
          ⟨_, hmem, if_neg fun hother => heq ((hheld other).1 hother)⟩⟩

/-- A message that is delivered again is no longer held under the old tag. -/
theorem Sound.spent_of_delivered (h : Sound queue) {step : Step} {delivered : Message}
    (hmem : message ∈ queue.messages) (hheld : message.leasedAs tag = true)
    (hdelivered : delivered ∈ queue.deliveredBy step)
    (hnumber : delivered.number = message.number) :
    Spent (queue.perform step) tag := by
  have hgiven := h.delivered message hmem tag hheld
  refine ⟨Nat.lt_of_lt_of_le hgiven (delivered_le_perform queue step), ?_⟩
  intro other hother hotherHeld
  rcases h.held_perform hother hotherHeld with hone | ⟨⟨earlier, hearlier, hsame, hleased⟩, hothers⟩
  · -- what was just delivered is under a new tag
    cases step with
    | receive name =>
        rcases h.deliveredBy_receive name with ⟨waiting, -, -, hnew, -⟩ | ⟨hnone, -⟩
        · rw [hnew] at hone
          rw [← List.singleton_injective hone] at hotherHeld
          rw [Message.leasedAs_leaseUnder_iff.1 hotherHeld] at hgiven
          exact Nat.lt_irrefl _ hgiven
        · rw [hnone] at hone
          cases hone
    | publish | ack | reject | lapse => cases hone
  · rw [h.exclusive earlier hearlier message hmem tag hleased hheld] at hsame
    exact hothers delivered hdelivered (hnumber.trans hsame)

theorem Sound.held_performAll (h : Sound queue) {steps : List Step}
    (hspares : ∀ step ∈ steps, step.Spares tag) {lapsed : Bool}
    (hmem : { message with state := .leased tag lapsed } ∈ queue.messages) :
    (∃ delivered ∈ collect deliveredBy queue steps, delivered.number = message.number) ∨
      ∃ lapsed,
        { message with state := .leased tag lapsed } ∈ (queue.performAll steps).messages := by
  induction steps generalizing queue lapsed with
  | nil => exact Or.inr ⟨lapsed, hmem⟩
  | cons step steps ih =>
      obtain ⟨hstep, hrest⟩ := List.forall_mem_cons.1 hspares
      rcases h.held_of_spares hstep hmem with ⟨delivered, hdelivered, hnumber⟩ | ⟨lapsed, hkept⟩
      · exact Or.inl ⟨delivered, List.mem_append_left _ hdelivered, hnumber⟩
      · rcases ih (h.perform step) hrest hkept with ⟨delivered, hdelivered, hnumber⟩ | hstill
        · exact Or.inl ⟨delivered, List.mem_append_right _ hdelivered, hnumber⟩
        · exact Or.inr hstill

theorem Sound.spent_performAll (h : Sound queue) {steps : List Step}
    (hspares : ∀ step ∈ steps, step.Spares tag) {lapsed : Bool}
    (hmem : { message with state := .leased tag lapsed } ∈ queue.messages) {delivered : Message}
    (hdelivered : delivered ∈ collect deliveredBy queue steps)
    (hnumber : delivered.number = message.number) :
    Spent (queue.performAll steps) tag := by
  have hheld : ∀ lapsed, ({ message with state := .leased tag lapsed } : Message).leasedAs tag =
      true := fun _ => beq_self_eq_true tag
  induction steps generalizing queue lapsed with
  | nil => cases hdelivered
  | cons step steps ih =>
      obtain ⟨hstep, hrest⟩ := List.forall_mem_cons.1 hspares
      have hspent : ∀ found ∈ queue.deliveredBy step, found.number = message.number →
          Spent (queue.performAll (step :: steps)) tag := fun found hfound hsame =>
        (h.spent_of_delivered hmem (hheld lapsed) hfound hsame).performAll steps
      rcases List.mem_append.1 hdelivered with hnow | hlater
      · exact hspent delivered hnow hnumber
      · rcases h.held_of_spares hstep hmem with ⟨found, hfound, hsame⟩ | ⟨lapsed, hkept⟩
        · exact hspent found hfound hsame
        · exact ih (h.perform step) hrest hkept hlater

/-! ### Consumers -/

/-- What consumers rely on, after any history. -/
structure Leased (steps : List Step) : Prop where
  /-- Under a lease that has not run out, a message is delivered to nobody and stays as it is. -/
  hidden : ∀ message ∈ (after steps).messages, ∀ tag, message.state = .leased tag false →
    ∀ name, message ∈ ((after steps).perform (.receive name)).messages ∧
      ∀ delivered ∈ (after steps).deliveredBy (.receive name), delivered.number ≠ message.number
  /-- Between two deliveries of a message the first lease ran out or was given back. -/
  released : ∀ before name middle other, steps = before ++ .receive name :: middle →
    ∀ first ∈ (after before).deliveredBy (.receive name),
    ∀ second ∈ (after steps).deliveredBy (.receive other), first.number = second.number →
      ∃ tag, first.tag? = some tag ∧ (.lapse tag ∈ middle ∨ .reject tag true ∈ middle)
  /-- The tag that a message was delivered under last settles it, and no other tag does. -/
  accepted : ∀ tag settlement, (∃ next, (after steps).settleBy tag settlement = .ok ((), next)) ↔
    ∃ message ∈ (after steps).messages, message.isLeased = true ∧
      lastTag? (deliveries steps) message.number = some tag
  /-- It settles this message alone. -/
  alone : ∀ tag settlement next, (after steps).settleBy tag settlement = .ok ((), next) →
    ∃ earlier message later, (after steps).messages = earlier ++ message :: later ∧
      lastTag? (deliveries steps) message.number = some tag ∧
      next = { after steps with messages := earlier ++ settlement.remains message ++ later }
  /-- What is refused is refused for an unknown tag and changes nothing. -/
  refused : ∀ tag settlement fault, (after steps).settleBy tag settlement = .error fault →
    fault = .unknownDelivery tag ∧ (after steps).perform (settlement.step tag) = after steps
  /-- A tag settles once. -/
  once : ∀ before tag first middle next, steps = before ++ Settlement.step tag first :: middle →
    (after before).settleBy tag first = .ok ((), next) →
      ∀ second, (after steps).settleBy tag second = .error (.unknownDelivery tag)

theorem after_append_cons (before middle : List Step) (step : Step) :
    after (before ++ step :: middle) = ((after before).perform step).performAll middle := by
  rw [List.append_cons, after, performAll, List.foldl_append]
  exact congrArg (performAll · middle) (after_concat before step)

/-- **Leases are exclusive and old tags are powerless.** While a lease has not run out, nobody else
is given the message; a message that is held is settled under the tag of its last delivery, once, and
under no other tag. -/
theorem leases_exclusive (steps : List Step) : Leased steps where
  hidden message hmem tag hstate name := by
    have hsound := sound_after steps
    have hhidden : Hidden (after steps) message.number tag := by
      refine ⟨hsound.published message hmem, ?_⟩
      intro other hother hnumber
      rw [hsound.eq_of_number_eq hother hmem hnumber]
      exact Or.inl hstate
    refine ⟨?_, fun delivered => hsound.number_ne_of_hidden hhidden⟩
    change message ∈ ((after steps).receive name).2.messages
    cases hreceive : (after steps).receive name with
    | mk found next =>
        cases found with
        | none => rwa [(receive_eq_none hreceive).1]
        | some delivery =>
            obtain ⟨earlier, waiting, later, hmessages, -, hwaits, -, rfl⟩ :=
              receive_eq_some hreceive
            have hne : message ≠ waiting := by
              rintro rfl
              exact hhidden.not_waitsIn hmem rfl name hwaits
            rw [hmessages, List.mem_append, List.mem_cons] at hmem
            rcases hmem with hmem | hmem | hmem
            · exact List.mem_append_left _ hmem
            · exact absurd hmem hne
            · exact List.mem_append_right _ (List.mem_cons_of_mem _ hmem)
  released before name middle other hsteps first hfirst second hsecond hnumber := by
    obtain ⟨tag, htag, hhidden⟩ := (sound_after before).hidden_of_delivered hfirst
    refine ⟨tag, htag, ?_⟩
    by_contra hkept
    rw [not_or] at hkept
    -- else the message stays hidden up to the second delivery
    have hstill : Hidden (after steps) first.number tag := by
      rw [hsteps, after_append_cons]
      refine hhidden.performAll fun step hmem => ⟨?_, ?_⟩
      · rintro rfl
        exact hkept.1 hmem
      · rintro rfl
        exact hkept.2 hmem
    exact (sound_after steps).number_ne_of_hidden hstill hsecond hnumber.symm
  accepted tag settlement := by
    constructor
    · rintro ⟨next, hsettle⟩
      obtain ⟨⟨message, hmem, hheld⟩, -⟩ := settleBy_eq_ok_iff.1 hsettle
      exact ⟨message, hmem, (leasedAs_iff_lastTag? steps hmem).1 hheld⟩
    · rintro ⟨message, hmem, hlast⟩
      exact ⟨_, settleBy_eq_ok_iff.2
        ⟨⟨message, hmem, (leasedAs_iff_lastTag? steps hmem).2 hlast⟩, rfl⟩⟩
  alone tag settlement next hsettle := by
    obtain ⟨⟨message, hmem, hheld⟩, rfl⟩ := settleBy_eq_ok_iff.1 hsettle
    obtain ⟨earlier, later, hmessages⟩ := List.append_of_mem hmem
    exact ⟨earlier, message, later, hmessages, lastTag?_of_leasedAs steps hmem hheld,
      (sound_after steps).messages_settled hmessages hheld settlement⟩
  refused tag settlement fault := settleBy_eq_error
  once before tag first middle next hsteps hsettle second := by
    have hspent := ((sound_after before).spent_of_settled hsettle).performAll middle
    rw [← after_append_cons, ← hsteps] at hspent
    exact hspent.refused second

end Queue

end Concord
