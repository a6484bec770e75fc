import Mathlib
import Concord.Queue

/-!
# Leases

What each operation of a queue does to its messages, and that no two of them are ever held under one
tag.
-/

namespace Concord

namespace Message

/-- The message is in a queue and can be leased. -/
def WaitsIn (message : Message) (name : String) : Prop :=
  message.queue = name ∧ message.available = true

def isLeased (message : Message) : Bool :=
  match message.state with
  | .leased _ _ => true
  | _ => false

/-- The message once it is leased under a tag. -/
def leaseUnder (message : Message) (tag : DeliveryTag) : Message :=
  { message with state := .leased tag false, deliveries := message.deliveries + 1 }

theorem leasedAs_leaseUnder_iff {message : Message} {tag held : DeliveryTag} :
    (message.leaseUnder tag).leasedAs held = true ↔ held = tag := by
  change (tag == held) = true ↔ held = tag
  rw [beq_iff_eq, eq_comm]

end Message

namespace Queue

/-- The messages of one queue. -/
def messagesOf (queue : Queue) (name : String) : List Message :=
  queue.messages.filter (·.queue == name)

/-- What holds of the messages at any time: they are in the order of publication, and what is held
under a tag is one message. -/
structure Sound (queue : Queue) : Prop where
  ascending : queue.messages.Pairwise fun message other => message.number < other.number
  published : ∀ message ∈ queue.messages, message.number < queue.published
  delivered : ∀ message ∈ queue.messages, ∀ tag, message.leasedAs tag = true →
    tag.number < queue.delivered
  exclusive : ∀ message ∈ queue.messages, ∀ other ∈ queue.messages, ∀ tag,
    message.leasedAs tag = true → other.leasedAs tag = true → message = other

variable {queue next : Queue} {name : String} {tag : DeliveryTag} {delivery : Delivery}

theorem sound_empty : Sound {} := by
  constructor <;> simp

/-! ### Receiving -/

theorem lease_eq_none_iff {messages : List Message} :
    lease name tag messages = none ↔ ∀ message ∈ messages, ¬message.WaitsIn name := by
  induction messages with
  | nil => simp [lease]
  | cons message rest ih =>
      rw [lease, List.forall_mem_cons, ← ih]
      by_cases hwaits : message.WaitsIn name
      · obtain ⟨hqueue, havailable⟩ := id hwaits
        simp [hqueue, havailable, hwaits]
      · rw [if_neg (by simpa [Message.WaitsIn] using hwaits)]
        cases lease name tag rest <;> simp [hwaits]

/-- The first message that can be leased is, and all others stay as they are. -/
theorem exists_of_lease_eq_some {messages leased : List Message}
    (h : lease name tag messages = some (delivery, leased)) :
    ∃ earlier message later, messages = earlier ++ message :: later ∧
      (∀ other ∈ earlier, ¬other.WaitsIn name) ∧ message.WaitsIn name ∧
      delivery = ⟨tag, name, message.body, message.deliveries + 1⟩ ∧
      leased = earlier ++ message.leaseUnder tag :: later := by
  induction messages generalizing leased with
  | nil => cases h
  | cons message rest ih =>
      rw [lease] at h
      by_cases hwaits : message.WaitsIn name
      · obtain ⟨hqueue, havailable⟩ := id hwaits
        rw [if_pos (by simp [hqueue, havailable])] at h
        cases h
        exact ⟨[], message, rest, rfl, by simp, hwaits, rfl, rfl⟩
      · rw [if_neg (by simpa [Message.WaitsIn] using hwaits)] at h
        cases hrest : lease name tag rest with
        | none =>
            rw [hrest] at h
            cases h
        | some found =>
            rw [hrest] at h
            cases h
            obtain ⟨earlier, first, later, rfl, hearlier, hfirst, hdelivery, hleased⟩ := ih hrest
            refine ⟨message :: earlier, first, later, rfl, ?_, hfirst, hdelivery, ?_⟩
            · exact List.forall_mem_cons.2 ⟨hwaits, hearlier⟩
            · rw [hleased]
              rfl

theorem receive_eq_none (h : queue.receive name = (none, next)) :
    next = queue ∧ ∀ message ∈ queue.messages, ¬message.WaitsIn name := by
  unfold receive at h
  cases hlease : lease name ⟨queue.delivered⟩ queue.messages with
  | none =>
      rw [hlease] at h
      cases h
      exact ⟨rfl, lease_eq_none_iff.1 hlease⟩
  | some found =>
      rw [hlease] at h
      cases h

theorem receive_eq_some (h : queue.receive name = (some delivery, next)) :
    ∃ earlier message later, queue.messages = earlier ++ message :: later ∧
      (∀ other ∈ earlier, ¬other.WaitsIn name) ∧ message.WaitsIn name ∧
      delivery = ⟨⟨queue.delivered⟩, name, message.body, message.deliveries + 1⟩ ∧
      next = { queue with
        messages := earlier ++ message.leaseUnder ⟨queue.delivered⟩ :: later
        delivered := queue.delivered + 1 } := by
  unfold receive at h
  cases hlease : lease name ⟨queue.delivered⟩ queue.messages with
  | none =>
      rw [hlease] at h
      cases h
  | some found =>
      rw [hlease] at h
      cases h
      obtain ⟨earlier, message, later, hmessages, hearlier, hwaits, hdelivery, hleased⟩ :=
        exists_of_lease_eq_some hlease
      exact ⟨earlier, message, later, hmessages, hearlier, hwaits, hdelivery, by rw [hleased]⟩

/-- Where one item was put in the place of another one, all others were there before. -/
theorem mem_replaced {α : Type} {earlier later : List α} {old new item : α}
    (h : item ∈ earlier ++ new :: later) : item = new ∨ item ∈ earlier ++ old :: later := by
  rw [List.mem_append, List.mem_cons] at h ⊢
  rcases h with hearlier | hnew | hlater
  · exact Or.inr (Or.inl hearlier)
  · exact Or.inl hnew
  · exact Or.inr (Or.inr (Or.inr hlater))

/-! ### Settling -/

/-- The message that is held under a tag goes into another state. -/
def changeHeld (queue : Queue) (tag : DeliveryTag) (state : MessageState) : Queue :=
  { queue with messages := queue.messages.map fun message =>
      if message.leasedAs tag then { message with state } else message }

/-- The message that is held under a tag is removed. -/
def dropHeld (queue : Queue) (tag : DeliveryTag) : Queue :=
  { queue with messages := queue.messages.filter fun message => !message.leasedAs tag }

theorem mem_changeHeld {state : MessageState} {message : Message}
    (h : message ∈ (queue.changeHeld tag state).messages) :
    ∃ earlier ∈ queue.messages,
      message = if earlier.leasedAs tag then { earlier with state } else earlier := by
  obtain ⟨earlier, hearlier, rfl⟩ := List.mem_map.1 h
  exact ⟨earlier, hearlier, rfl⟩

theorem settle_eq_ok_iff {messages : List Message} :
    queue.settle tag messages = .ok ((), next) ↔
      (∃ message ∈ queue.messages, message.leasedAs tag = true) ∧
        next = { queue with messages } := by
  rw [settle, ← List.any_eq_true]
  constructor
  · intro h
    split at h
    · next hheld =>
        cases h
        exact ⟨hheld, rfl⟩
    · cases h
  · rintro ⟨hheld, rfl⟩
    exact if_pos hheld

theorem ack_eq_ok_iff :
    queue.ack tag = .ok ((), next) ↔
      (∃ message ∈ queue.messages, message.leasedAs tag = true) ∧ next = queue.dropHeld tag :=
  settle_eq_ok_iff

theorem reject_eq_ok_iff {requeue : Bool} :
    queue.reject tag requeue = .ok ((), next) ↔
      (∃ message ∈ queue.messages, message.leasedAs tag = true) ∧
        next = queue.changeHeld tag (if requeue then .ready else .dead) :=
  settle_eq_ok_iff

/-! ### Soundness -/

namespace Sound

variable (h : Sound queue)
include h

theorem publishText (name body : String) : Sound (queue.publishText name body) where
  ascending := by
    rw [Queue.publishText, List.pairwise_append]
    refine ⟨h.ascending, List.pairwise_singleton _ _, ?_⟩
    intro message hmem other hother
    rw [List.mem_singleton.1 hother]
    exact h.published message hmem
  published := by
    intro message hmem
    rcases List.mem_append.1 hmem with hmem | hmem
    · exact Nat.lt_succ_of_lt (h.published message hmem)
    · rw [List.mem_singleton.1 hmem]
      exact Nat.lt_succ_self _
  delivered := by
    intro message hmem tag hheld
    rcases List.mem_append.1 hmem with hmem | hmem
    · exact h.delivered message hmem tag hheld
    · rw [List.mem_singleton.1 hmem] at hheld
      cases hheld
  exclusive := by
    intro message hmem other hother tag hheld hotherHeld
    rcases List.mem_append.1 hmem with hmem | hmem
    · rcases List.mem_append.1 hother with hother | hother
      · exact h.exclusive message hmem other hother tag hheld hotherHeld
      · rw [List.mem_singleton.1 hother] at hotherHeld
        cases hotherHeld
    · rw [List.mem_singleton.1 hmem] at hheld
      cases hheld

theorem receive (hreceive : queue.receive name = (some delivery, next)) :
    Sound next := by
  obtain ⟨earlier, leased, later, hmessages, -, -, -, rfl⟩ := receive_eq_some hreceive
  have hkept : ∀ message ∈ earlier ++ leased.leaseUnder ⟨queue.delivered⟩ :: later,
      message = leased.leaseUnder ⟨queue.delivered⟩ ∨ message ∈ queue.messages :=
    fun message hmem => hmessages ▸ mem_replaced hmem
  constructor
  · have hascending := h.ascending
    rw [hmessages] at hascending
    rw [List.pairwise_append, List.pairwise_cons] at hascending ⊢
    simpa [Message.leaseUnder] using hascending
  · intro message hmem
    rcases hkept message hmem with rfl | hmem
    · exact h.published leased (hmessages ▸ by simp)
    · exact h.published message hmem
  · intro message hmem tag hheld
    rcases hkept message hmem with rfl | hmem
    · rw [Message.leasedAs_leaseUnder_iff.1 hheld]
      exact Nat.lt_succ_self _
    · exact Nat.lt_succ_of_lt (h.delivered message hmem tag hheld)
  · -- the new tag was not given before
    have hfresh : ∀ message ∈ queue.messages,
        message.leasedAs ⟨queue.delivered⟩ = true → False :=
      fun message hmem hheld => Nat.lt_irrefl _ (h.delivered message hmem _ hheld)
    intro message hmem other hother tag hheld hotherHeld
    rcases hkept message hmem with rfl | hmem <;> rcases hkept other hother with rfl | hother
    · rfl
    · rw [Message.leasedAs_leaseUnder_iff.1 hheld] at hotherHeld
      exact (hfresh other hother hotherHeld).elim
    · rw [Message.leasedAs_leaseUnder_iff.1 hotherHeld] at hheld
      exact (hfresh message hmem hheld).elim
    · exact h.exclusive message hmem other hother tag hheld hotherHeld

/-- A message that goes into another state is under no new lease. -/
theorem changeHeld (tag : DeliveryTag) {state : MessageState}
    (hstate : ∀ (message : Message) (held : DeliveryTag),
      { message with state }.leasedAs held = true → held = tag) :
    Sound (queue.changeHeld tag state) := by
  have hkept : ∀ message ∈ (queue.changeHeld tag state).messages,
      ∃ earlier ∈ queue.messages, message.number = earlier.number ∧
        message = (if earlier.leasedAs tag then { earlier with state } else earlier) ∧
        ∀ held, message.leasedAs held = true → earlier.leasedAs held = true := by
    intro message hmem
    obtain ⟨earlier, hearlier, rfl⟩ := mem_changeHeld hmem
    refine ⟨earlier, hearlier, ?_, rfl, ?_⟩
    · split <;> rfl
    · intro held hheld
      split at hheld
      · next htag => rwa [hstate earlier held hheld]
      · exact hheld
  constructor
  · rw [Queue.changeHeld, List.pairwise_map]
    refine h.ascending.imp ?_
    intro message other hlt
    split <;> split <;> exact hlt
  · intro message hmem
    obtain ⟨earlier, hearlier, hnumber, -, -⟩ := hkept message hmem
    rw [hnumber]
    exact h.published earlier hearlier
  · intro message hmem held hheld
    obtain ⟨earlier, hearlier, -, -, hleased⟩ := hkept message hmem
    exact h.delivered earlier hearlier held (hleased held hheld)
  · intro message hmem other hother held hheld hotherHeld
    obtain ⟨earlier, hearlier, -, hmessage, hleased⟩ := hkept message hmem
    obtain ⟨second, hsecond, -, hotherMessage, hotherLeased⟩ := hkept other hother
    rw [hmessage, hotherMessage, h.exclusive earlier hearlier second hsecond held
      (hleased held hheld) (hotherLeased held hotherHeld)]

theorem lapse (tag : DeliveryTag) : Sound (queue.lapse tag) :=
  h.changeHeld tag fun _ _ hheld => (beq_iff_eq.1 hheld).symm

/-- A message is told by its number. -/
theorem eq_of_number_eq {message other : Message} (hmem : message ∈ queue.messages)
    (hother : other ∈ queue.messages) (hnumber : message.number = other.number) :
    message = other := by
  have hnodup : (queue.messages.map (·.number)).Nodup := by
    rw [List.Nodup, List.pairwise_map]
    exact h.ascending.imp Nat.ne_of_lt
  exact List.inj_on_of_nodup_map hnodup hmem hother hnumber

/-- No message has had the tag of the next delivery, so the one that is leased is alone under it. -/
theorem filter_leasedAs_replaced {earlier later : List Message} {message : Message}
    (hmessages : queue.messages = earlier ++ message :: later) :
    (earlier ++ message.leaseUnder ⟨queue.delivered⟩ :: later).filter
      (·.leasedAs ⟨queue.delivered⟩) = [message.leaseUnder ⟨queue.delivered⟩] := by
  have hfresh : ∀ other ∈ queue.messages, ¬other.leasedAs ⟨queue.delivered⟩ = true :=
    fun other hmem hheld => Nat.lt_irrefl _ (h.delivered other hmem _ hheld)
  rw [hmessages] at hfresh
  rw [List.filter_append, List.filter_cons, if_pos (Message.leasedAs_leaseUnder_iff.2 rfl),
    List.filter_eq_nil_iff.2 fun other hmem => hfresh other (by simp [hmem]),
    List.filter_eq_nil_iff.2 fun other hmem => hfresh other (by simp [hmem]), List.nil_append]

theorem dropHeld (tag : DeliveryTag) : Sound (queue.dropHeld tag) where
  ascending := h.ascending.filter _
  published message hmem := h.published message (List.mem_of_mem_filter hmem)
  delivered message hmem := h.delivered message (List.mem_of_mem_filter hmem)
  exclusive message hmem other hother :=
    h.exclusive message (List.mem_of_mem_filter hmem) other (List.mem_of_mem_filter hother)

theorem ack (hack : queue.ack tag = .ok ((), next)) : Sound next := by
  rw [(ack_eq_ok_iff.1 hack).2]
  exact h.dropHeld tag

end Sound

/-! ### Other queues -/

/-- Where messages of other queues only change, those of a queue stay. -/
theorem messagesOf_map {change : Message → Message}
    (hqueue : ∀ message, (change message).queue = message.queue)
    (hother : ∀ message ∈ queue.messages, message.queue = name → change message = message) :
    ({ queue with messages := queue.messages.map change } : Queue).messagesOf name =
      queue.messagesOf name := by
  rw [messagesOf, messagesOf, List.filter_map]
  have hfilter : ((·.queue == name) ∘ change : Message → Bool) = (·.queue == name) :=
    funext fun message => congrArg (· == name) (hqueue message)
  rw [hfilter]
  refine (List.map_congr_left ?_).trans (List.map_id _)
  intro message hmem
  obtain ⟨hmem, hname⟩ := List.mem_filter.1 hmem
  exact hother message hmem (beq_iff_eq.1 hname)

theorem messagesOf_changeHeld (state : MessageState)
    (h : ∀ message ∈ queue.messages, message.leasedAs tag = true → message.queue ≠ name) :
    (queue.changeHeld tag state).messagesOf name = queue.messagesOf name := by
  apply messagesOf_map
  · intro message
    split <;> rfl
  · intro message hmem hname
    exact if_neg fun hheld => h message hmem hheld hname

theorem messagesOf_dropHeld
    (h : ∀ message ∈ queue.messages, message.leasedAs tag = true → message.queue ≠ name) :
    (queue.dropHeld tag).messagesOf name = queue.messagesOf name := by
  rw [messagesOf, dropHeld, List.filter_filter]
  refine List.filter_congr ?_
  intro message hmem
  by_cases hheld : message.leasedAs tag = true
  · simp [hheld, h message hmem hheld]
  · simp [hheld]

theorem messagesOf_publishText {other : String} (hname : name ≠ other) (body : String) :
    (queue.publishText name body).messagesOf other = queue.messagesOf other := by
  have hne : (name == other) = false := beq_false_of_ne hname
  rw [messagesOf, publishText, List.filter_append, List.filter_singleton]
  simp [hne, messagesOf]

theorem messagesOf_receive {other : String} (hname : name ≠ other)
    (h : queue.receive name = (some delivery, next)) :
    next.messagesOf other = queue.messagesOf other := by
  obtain ⟨earlier, message, later, hmessages, -, ⟨hqueue, -⟩, -, rfl⟩ := receive_eq_some h
  rw [messagesOf, messagesOf, hmessages, List.filter_append, List.filter_append,
    List.filter_cons_of_neg, List.filter_cons_of_neg]
  · simpa [hqueue] using hname
  · simpa [Message.leaseUnder, hqueue] using hname

end Queue

end Concord
