import Mathlib
import Concord.Proofs.Queue.Leases

/-!
# Histories of a queue

A history is a list of steps from an empty queue. Every message that was published is still there or
was acknowledged, once and as it was published, and messages are delivered in the order of
publication.
-/

namespace Concord.Queue

open scoped List

/-- What may happen to a queue: the operations of its users, and that the time of a lease runs
out. -/
inductive Step where
  | publish (name body : String)
  | receive (name : String)
  | ack (tag : DeliveryTag)
  | reject (tag : DeliveryTag) (requeue : Bool)
  | lapse (tag : DeliveryTag)

/-- The queue after a step. Settling under a tag that is not known changes nothing. -/
def perform (queue : Queue) : Step → Queue
  | .publish name body => queue.publishText name body
  | .receive name => (queue.receive name).2
  | .ack tag =>
      match queue.ack tag with
      | .ok (_, next) => next
      | .error _ => queue
  | .reject tag requeue =>
      match queue.reject tag requeue with
      | .ok (_, next) => next
      | .error _ => queue
  | .lapse tag => queue.lapse tag

def performAll (queue : Queue) (steps : List Step) : Queue :=
  steps.foldl perform queue

/-- The queue after steps from an empty one. -/
def after (steps : List Step) : Queue :=
  performAll {} steps

/-! ### What happened -/

def Step.publication? : Step → Option (String × String)
  | .publish name body => some (name, body)
  | _ => none

/-- What was published, and where. -/
def publications (steps : List Step) : List (String × String) :=
  steps.filterMap Step.publication?

/-- The messages that a step acknowledges. -/
def acknowledgedBy (queue : Queue) : Step → List Message
  | .ack tag =>
      match queue.ack tag with
      | .ok _ => queue.messages.filter (·.leasedAs tag)
      | .error _ => []
  | _ => []

/-- The message that a step delivers: the one that is held under the tag of the delivery. -/
def deliveredBy (queue : Queue) : Step → List Message
  | .receive name =>
      match queue.receive name with
      | (some delivery, next) => next.messages.filter (·.leasedAs delivery.tag)
      | (none, _) => []
  | _ => []

/-- What the steps of a history give in turn. -/
def collect (view : Queue → Step → List Message) (queue : Queue) : List Step → List Message
  | [] => []
  | step :: rest => view queue step ++ collect view (queue.perform step) rest

/-- The messages that were acknowledged, as they were then. -/
def acknowledged (steps : List Step) : List Message :=
  collect acknowledgedBy {} steps

/-- The messages that were delivered, one for each delivery. -/
def deliveries (steps : List Step) : List Message :=
  collect deliveredBy {} steps

theorem after_concat (steps : List Step) (step : Step) :
    after (steps ++ [step]) = (after steps).perform step :=
  List.foldl_concat ..

theorem publications_concat (steps : List Step) (step : Step) :
    publications (steps ++ [step]) = publications steps ++ step.publication?.toList := by
  rw [publications, List.filterMap_append]
  cases h : step.publication? <;> simp [publications, h]

theorem collect_concat (view : Queue → Step → List Message) (queue : Queue) (steps : List Step)
    (step : Step) :
    collect view queue (steps ++ [step]) =
      collect view queue steps ++ view (queue.performAll steps) step := by
  induction steps generalizing queue with
  | nil => simp [collect, performAll]
  | cons first rest ih => simp [collect, performAll, ih]

theorem acknowledged_concat (steps : List Step) (step : Step) :
    acknowledged (steps ++ [step]) = acknowledged steps ++ (after steps).acknowledgedBy step :=
  collect_concat acknowledgedBy {} steps step

theorem deliveries_concat (steps : List Step) (step : Step) :
    deliveries (steps ++ [step]) = deliveries steps ++ (after steps).deliveredBy step :=
  collect_concat deliveredBy {} steps step

/-! ### Steps -/

variable {queue : Queue}

/-- An acknowledgement removes what is held under its tag, which may be nothing. -/
theorem perform_ack (queue : Queue) (tag : DeliveryTag) :
    queue.perform (.ack tag) = queue.dropHeld tag ∧
      queue.acknowledgedBy (.ack tag) = queue.messages.filter (·.leasedAs tag) := by
  unfold perform acknowledgedBy
  dsimp only
  cases hack : queue.ack tag with
  | ok next => exact ⟨(ack_eq_ok_iff.1 hack).2, rfl⟩
  | error fault =>
      have hnone : ∀ message ∈ queue.messages, message.leasedAs tag = false := by
        intro message hmem
        by_contra hheld
        rw [ack_eq_ok_iff.2 ⟨⟨message, hmem, by simpa using hheld⟩, rfl⟩] at hack
        cases hack
      constructor
      · have hmessages : (queue.dropHeld tag).messages = queue.messages :=
          List.filter_eq_self.2 fun message hmem => by simp [hnone message hmem]
        exact congrArg (fun messages => { queue with messages }) hmessages.symm
      · exact (List.filter_eq_nil_iff.2 fun message hmem => by simp [hnone message hmem]).symm

theorem perform_reject (queue : Queue) (tag : DeliveryTag) (requeue : Bool) :
    queue.perform (.reject tag requeue) =
      queue.changeHeld tag (if requeue then .ready else .dead) := by
  unfold perform
  dsimp only
  cases hreject : queue.reject tag requeue with
  | ok next => exact (reject_eq_ok_iff.1 hreject).2
  | error fault =>
      have hmessages :
          (queue.changeHeld tag (if requeue then .ready else .dead)).messages = queue.messages := by
        refine (List.map_congr_left ?_).trans (List.map_id _)
        intro message hmem
        refine if_neg fun hheld => ?_
        rw [reject_eq_ok_iff.2 ⟨⟨message, hmem, hheld⟩, rfl⟩] at hreject
        cases hreject
      exact congrArg (fun messages => { queue with messages }) hmessages.symm

theorem Sound.perform (h : Sound queue) (step : Step) : Sound (queue.perform step) := by
  cases step with
  | publish name body => exact h.publishText name body
  | receive name =>
      change Sound (queue.receive name).2
      cases hreceive : queue.receive name with
      | mk found next =>
          cases found with
          | none =>
              rw [(receive_eq_none hreceive).1]
              exact h
          | some delivery => exact h.receive hreceive
  | ack tag =>
      rw [(perform_ack queue tag).1]
      exact h.dropHeld tag
  | reject tag requeue =>
      rw [perform_reject]
      apply h.changeHeld
      intro message held hheld
      cases requeue <;> cases hheld
  | lapse tag => exact h.lapse tag

theorem sound_after (steps : List Step) : Sound (after steps) := by
  induction steps using List.reverseRecOn with
  | nil => exact sound_empty
  | append_singleton steps step ih =>
      rw [after_concat]
      exact ih.perform step

/-! ### Accounts -/

/-- What is published and not acknowledged is there, as it was published and with the number of its
deliveries. -/
structure Accounted (queue : Queue) (publications : List (String × String))
    (acknowledged deliveries : List Message) : Prop where
  published : queue.published = publications.length
  once : ((queue.messages ++ acknowledged).map (·.number)).Perm (List.range publications.length)
  unchanged : ∀ message ∈ queue.messages ++ acknowledged,
    publications[message.number]? = some (message.queue, message.body)
  counted : ∀ message ∈ queue.messages ++ acknowledged,
    message.deliveries = deliveries.countP (·.number == message.number)
  delivered : ∀ message ∈ deliveries, message.number < publications.length

namespace Accounted

variable {publications : List (String × String)} {acknowledged deliveries : List Message}

theorem empty : Accounted {} [] [] [] := by
  constructor <;> simp

variable (h : Accounted queue publications acknowledged deliveries)
include h

theorem publish (name body : String) :
    Accounted (queue.publishText name body) (publications ++ [(name, body)]) acknowledged
      deliveries := by
  let message : Message := ⟨queue.published, name, body, .ready, 0⟩
  have hperm : ((queue.publishText name body).messages ++ acknowledged).Perm
      (message :: (queue.messages ++ acknowledged)) := by
    rw [publishText, List.append_assoc]
    exact List.perm_middle
  constructor
  · rw [List.length_append, ← h.published]
    rfl
  · refine (hperm.map (·.number)).trans ?_
    rw [List.map_cons, List.length_append, List.length_singleton, List.range_succ, ← h.published]
    refine List.Perm.trans ?_ (List.perm_append_singleton _ _).symm
    exact (h.published ▸ h.once).cons _
  · intro found hmem
    rcases List.mem_cons.1 (hperm.mem_iff.1 hmem) with rfl | hmem
    · rw [show message.number = publications.length from h.published]
      exact List.getElem?_concat_length
    · have hunchanged := h.unchanged found hmem
      rw [List.getElem?_append_left (List.getElem?_eq_some_iff.1 hunchanged).1]
      exact hunchanged
  · intro found hmem
    rcases List.mem_cons.1 (hperm.mem_iff.1 hmem) with rfl | hmem
    · -- nothing with the new number was delivered before
      refine (List.countP_eq_zero.2 ?_).symm
      intro earlier hearlier heq
      have hlt := h.delivered earlier hearlier
      rw [beq_iff_eq.1 heq, ← h.published] at hlt
      exact Nat.lt_irrefl _ hlt
    · exact h.counted found hmem
  · intro found hmem
    rw [List.length_append]
    exact Nat.lt_add_right _ (h.delivered found hmem)

/-- It does not matter which messages were acknowledged. -/
theorem of_perm {next : Queue} {removed : List Message} (hpublished : next.published = queue.published)
    (hperm : (next.messages ++ removed).Perm (queue.messages ++ acknowledged)) :
    Accounted next publications removed deliveries where
  published := hpublished.trans h.published
  once := (hperm.map _).trans h.once
  unchanged message hmem := h.unchanged message (hperm.mem_iff.1 hmem)
  counted message hmem := h.counted message (hperm.mem_iff.1 hmem)
  delivered := h.delivered

theorem ack (tag : DeliveryTag) :
    Accounted (queue.dropHeld tag) publications
      (acknowledged ++ queue.messages.filter (·.leasedAs tag)) deliveries := by
  refine h.of_perm rfl ?_
  calc (queue.dropHeld tag).messages ++
        (acknowledged ++ queue.messages.filter (·.leasedAs tag))
      ~ (queue.dropHeld tag).messages ++
          (queue.messages.filter (·.leasedAs tag) ++ acknowledged) :=
        List.perm_append_comm.append_left _
    _ ~ queue.messages ++ acknowledged := by
        rw [← List.append_assoc]
        refine List.Perm.append_right _ ?_
        exact List.perm_append_comm.trans (List.filter_append_perm _ _)

theorem changeHeld (tag : DeliveryTag) (state : MessageState) :
    Accounted (queue.changeHeld tag state) publications acknowledged deliveries := by
  have hkept : ∀ message ∈ (queue.changeHeld tag state).messages ++ acknowledged,
      ∃ earlier ∈ queue.messages ++ acknowledged, message.number = earlier.number ∧
        message.queue = earlier.queue ∧ message.body = earlier.body ∧
        message.deliveries = earlier.deliveries := by
    intro message hmem
    rcases List.mem_append.1 hmem with hmem | hmem
    · obtain ⟨earlier, hearlier, rfl⟩ := mem_changeHeld hmem
      refine ⟨earlier, List.mem_append_left _ hearlier, ?_⟩
      split <;> exact ⟨rfl, rfl, rfl, rfl⟩
    · exact ⟨message, List.mem_append_right _ hmem, rfl, rfl, rfl, rfl⟩
  have hnumbers : (queue.changeHeld tag state).messages.map (·.number) =
      queue.messages.map (·.number) := by
    rw [Queue.changeHeld, List.map_map]
    refine List.map_congr_left fun message _ => ?_
    rw [Function.comp_apply]
    split <;> rfl
  constructor
  · exact h.published
  · rw [List.map_append, hnumbers, ← List.map_append]
    exact h.once
  · intro message hmem
    obtain ⟨earlier, hearlier, hnumber, hqueue, hbody, -⟩ := hkept message hmem
    rw [hnumber, hqueue, hbody]
    exact h.unchanged earlier hearlier
  · intro message hmem
    obtain ⟨earlier, hearlier, hnumber, -, -, hdeliveries⟩ := hkept message hmem
    rw [hnumber, hdeliveries]
    exact h.counted earlier hearlier
  · exact h.delivered

/-- The delivery counts for the message that is held under its tag, and for no other. -/
theorem receive {name : String} {delivery : Delivery} {next : Queue} (hsound : Sound queue)
    (hreceive : queue.receive name = (some delivery, next)) :
    ∃ message, next.messages.filter (·.leasedAs delivery.tag) = [message] ∧
      Accounted next publications acknowledged (deliveries ++ [message]) := by
  obtain ⟨earlier, message, later, hmessages, -, -, rfl, rfl⟩ := receive_eq_some hreceive
  dsimp only
  let leased := message.leaseUnder ⟨queue.delivered⟩
  let others := earlier ++ later ++ acknowledged
  have hbefore : (queue.messages ++ acknowledged) ~ (message :: others) := by
    rw [hmessages]
    exact List.perm_middle.append_right _
  have hafter : (earlier ++ leased :: later ++ acknowledged) ~ (leased :: others) :=
    List.perm_middle.append_right _
  have hmessage := hbefore.mem_iff.2 List.mem_cons_self
  have hothers : ∀ other ∈ others, other ∈ queue.messages ++ acknowledged :=
    fun other hmem => hbefore.mem_iff.2 (List.mem_cons_of_mem _ hmem)
  have hnodup : ((message :: others).map (·.number)).Nodup :=
    ((hbefore.map _).symm.trans h.once).nodup_iff.2 List.nodup_range
  have hdistinct : ∀ other ∈ others, (message.number == other.number) = false := by
    intro other hmem
    have hnotMem := (List.nodup_cons.1 hnodup).1
    exact beq_false_of_ne fun heq => hnotMem (List.mem_map.2 ⟨other, hmem, heq.symm⟩)
  refine ⟨leased, ?_, h.published, ?_, ?_, ?_, ?_⟩
  · exact hsound.filter_leasedAs_replaced hmessages
  · exact (hafter.map _).trans ((hbefore.map _).symm.trans h.once)
  · intro found hmem
    rcases List.mem_cons.1 (hafter.mem_iff.1 hmem) with rfl | hmem
    · exact h.unchanged message hmessage
    · exact h.unchanged found (hothers found hmem)
  · intro found hmem
    rw [List.countP_append, List.countP_singleton]
    rcases List.mem_cons.1 (hafter.mem_iff.1 hmem) with rfl | hmem
    · rw [if_pos (beq_self_eq_true _)]
      exact congrArg (· + 1) (h.counted message hmessage)
    · rw [if_neg (by simp [leased, Message.leaseUnder, hdistinct found hmem])]
      exact h.counted found (hothers found hmem)
  · intro found hmem
    rcases List.mem_append.1 hmem with hmem | hmem
    · exact h.delivered found hmem
    · rw [List.mem_singleton.1 hmem]
      exact (List.getElem?_eq_some_iff.1 (h.unchanged message hmessage)).1

end Accounted

/-- **No message is lost or invented.** -/
theorem accounted_after (steps : List Step) :
    Accounted (after steps) (publications steps) (acknowledged steps) (deliveries steps) := by
  -- from the last step back, as what was published and acknowledged grows at its end
  induction steps using List.reverseRecOn with
  | nil => exact .empty
  | append_singleton steps step ih =>
      rw [after_concat, publications_concat, acknowledged_concat, deliveries_concat]
      cases step with
      | publish name body =>
          simp only [acknowledgedBy, deliveredBy, List.append_nil]
          exact ih.publish name body
      | receive name =>
          simp only [Step.publication?, Option.toList_none, List.append_nil, acknowledgedBy,
            perform, deliveredBy]
          cases hreceive : (after steps).receive name with
          | mk found next =>
              cases found with
              | none =>
                  rw [(receive_eq_none hreceive).1]
                  simpa using ih
              | some delivery =>
                  obtain ⟨message, hmessage, hnext⟩ := ih.receive (sound_after steps) hreceive
                  simpa [hmessage] using hnext
      | ack tag =>
          obtain ⟨hnext, hremoved⟩ := perform_ack (after steps) tag
          rw [hnext, hremoved]
          simpa [Step.publication?, deliveredBy] using ih.ack tag
      | reject tag requeue =>
          rw [perform_reject]
          simpa [Step.publication?, acknowledgedBy, deliveredBy] using ih.changeHeld tag _
      | lapse tag =>
          simp only [Step.publication?, acknowledgedBy, deliveredBy, Option.toList_none,
            List.append_nil]
          exact ih.changeHeld tag (.leased tag true)

/-- The messages there are, and those that were acknowledged, are what was published. -/
theorem Accounted.perm_publications {publications : List (String × String)}
    {acknowledged deliveries : List Message}
    (h : Accounted queue publications acknowledged deliveries) :
    ((queue.messages ++ acknowledged).map fun message => (message.queue, message.body)) ~
      publications := by
  -- each number is looked up in what was published: one side gives the messages, the other all of it
  have hnumbers := (h.once.map (publications[·]?)).filterMap id
  have hpublications :
      ((List.range publications.length).map (publications[·]?)).filterMap id = publications := by
    have hrange : (List.range publications.length).map (publications[·]?) =
        publications.map some := by
      refine List.ext_getElem? fun index => ?_
      by_cases hindex : index < publications.length <;> simp [hindex]
    rw [hrange, List.filterMap_map]
    exact List.filterMap_some
  have hmessages : ((queue.messages ++ acknowledged).map (·.number)).map (publications[·]?) =
      ((queue.messages ++ acknowledged).map fun message => (message.queue, message.body)).map
        some := by
    rw [List.map_map, List.map_map]
    exact List.map_congr_left h.unchanged
  rw [hpublications, hmessages, List.filterMap_map] at hnumbers
  simpa using hnumbers

/-- The message that is held under the tag of a delivery is delivered as it was published. -/
theorem publication_of_received (steps : List Step) {name : String} {delivery : Delivery}
    {next : Queue} {message : Message}
    (hreceive : (after steps).receive name = (some delivery, next))
    (hmem : message ∈ next.messages) (hheld : message.leasedAs delivery.tag = true) :
    (publications steps)[message.number]? = some (name, delivery.body) := by
  obtain ⟨earlier, received, later, hmessages, -, hwaits, rfl, rfl⟩ := receive_eq_some hreceive
  have hreceived : received ∈ (after steps).messages := by
    rw [hmessages]
    exact List.mem_append_right _ List.mem_cons_self
  have hpublished := (accounted_after steps).unchanged received (List.mem_append_left _ hreceived)
  rw [hwaits.1] at hpublished
  rcases mem_replaced hmem with rfl | hother
  · exact hpublished
  · -- the tag is new, so nothing else is held under it
    rw [← hmessages] at hother
    exact absurd ((sound_after steps).delivered message hother _ hheld) (Nat.lt_irrefl _)

/-! ### Where the messages of a queue are -/

/-- How many messages of a queue are in the hands of a consumer, or were until their time ran
out. -/
def inLease (queue : Queue) (name : String) : Nat :=
  (queue.messages.filter fun message => message.queue == name && message.isLeased).length

theorem length_messagesOf (queue : Queue) (name : String) :
    (queue.messagesOf name).length =
      queue.depth name + queue.inLease name + queue.deadLettered name := by
  unfold messagesOf depth inLease deadLettered
  induction queue.messages with
  | nil => rfl
  | cons message rest ih =>
      by_cases hqueue : message.queue == name
      · cases hstate : message.state <;>
          simp [hqueue, hstate, Message.isLeased, ih] <;> omega
      · simpa [List.filter_cons, hqueue] using ih

/-- Every message of a queue is ready, leased, dead or acknowledged. -/
theorem Accounted.length_publications {publications : List (String × String)}
    {acknowledged deliveries : List Message}
    (h : Accounted queue publications acknowledged deliveries) (name : String) :
    (publications.filter (·.1 == name)).length =
      queue.depth name + queue.inLease name + queue.deadLettered name +
        (acknowledged.filter (·.queue == name)).length := by
  rw [← length_messagesOf, messagesOf, ← List.length_append, ← List.filter_append,
    ← (h.perm_publications.filter _).length_eq, List.filter_map, List.length_map]
  rfl

/-- What a receive gives: of the messages that can be leased the one that was published first, under
a tag that no message has had. It gives nothing only if there is no such message. -/
def DeliversFirst (queue : Queue) (name : String) : Prop :=
  match queue.receive name with
  | (none, next) => next = queue ∧ ∀ message ∈ queue.messages, ¬message.WaitsIn name
  | (some delivery, next) =>
      ∃ message ∈ queue.messages, message.WaitsIn name ∧
        (∀ other ∈ queue.messages, other.WaitsIn name → message.number ≤ other.number) ∧
        delivery = ⟨delivery.tag, name, message.body, message.deliveries + 1⟩ ∧
        (∀ other ∈ queue.messages, other.leasedAs delivery.tag = false) ∧
        next.messages = queue.messages.map fun other =>
          if other = message then message.leaseUnder delivery.tag else other

theorem Sound.deliversFirst (h : Sound queue) (name : String) : DeliversFirst queue name := by
  unfold DeliversFirst
  split
  · next hreceive => exact receive_eq_none hreceive
  · next delivery next hreceive =>
      obtain ⟨earlier, message, later, hmessages, hearlier, hwaits, rfl, rfl⟩ :=
        receive_eq_some hreceive
      have hascending := h.ascending
      rw [hmessages, List.pairwise_append, List.pairwise_cons] at hascending
      obtain ⟨-, ⟨hlater, -⟩, hbefore⟩ := hascending
      refine ⟨message, by simp [hmessages], hwaits, ?_, rfl, ?_, ?_⟩
      · intro other hmem hother
        rw [hmessages, List.mem_append, List.mem_cons] at hmem
        rcases hmem with hmem | rfl | hmem
        · exact absurd hother (hearlier other hmem)
        · exact Nat.le_refl _
        · exact Nat.le_of_lt (hlater other hmem)
      · intro other hmem
        by_contra hheld
        exact Nat.lt_irrefl _ (h.delivered other hmem _ (by simpa using hheld))
      · -- the messages around it have other numbers
        have hother : ∀ other, other ∈ earlier ∨ other ∈ later → ¬other = message := by
          rintro other hmem rfl
          rcases hmem with hmem | hmem
          · exact Nat.lt_irrefl _ (hbefore other hmem other List.mem_cons_self)
          · exact Nat.lt_irrefl _ (hlater other hmem)
        have hunchanged : ∀ part : List Message,
            (∀ other ∈ part, other ∈ earlier ∨ other ∈ later) →
              part.map (fun other => if other = message then
                message.leaseUnder ⟨queue.delivered⟩ else other) = part := by
          intro part hpart
          refine (List.map_congr_left ?_).trans (List.map_id _)
          intro other hmem
          exact if_neg (hother other (hpart other hmem))
        rw [hmessages, List.map_append, List.map_cons, if_pos rfl,
          hunchanged earlier fun _ hmem => Or.inl hmem, hunchanged later fun _ hmem => Or.inr hmem]

/-- The queue that a step is about: the one it names, or that of the message under its tag. -/
def addressed? (queue : Queue) : Step → Option String
  | .publish name _ | .receive name => some name
  | .ack tag | .reject tag _ | .lapse tag =>
      (queue.messages.find? (·.leasedAs tag)).map (·.queue)

/-- A step changes the messages of one queue at most. -/
theorem Sound.messagesOf_perform (h : Sound queue) {step : Step} {name : String}
    (hother : queue.addressed? step ≠ some name) :
    (queue.perform step).messagesOf name = queue.messagesOf name := by
  -- a tag is held by one message, so no message of this queue has it
  have hheld : ∀ tag, (queue.messages.find? (·.leasedAs tag)).map (·.queue) ≠ some name →
      ∀ message ∈ queue.messages, message.leasedAs tag = true → message.queue ≠ name := by
    rintro tag hfind message hmem hleased rfl
    have hsome : (queue.messages.find? (·.leasedAs tag)).isSome :=
      List.find?_isSome.2 ⟨message, hmem, hleased⟩
    obtain ⟨found, hfound⟩ := Option.isSome_iff_exists.1 hsome
    have hfoundHeld : found.leasedAs tag = true := by simpa using List.find?_some hfound
    have hsame : message = found := h.exclusive message hmem found
      (List.mem_of_find?_eq_some hfound) tag hleased hfoundHeld
    exact hfind (by rw [hfound, hsame]; rfl)
  cases step with
  | publish other body => exact messagesOf_publishText (fun heq => hother (congrArg some heq)) body
  | receive other =>
      change (queue.receive other).2.messagesOf name = _
      cases hreceive : queue.receive other with
      | mk found next =>
          cases found with
          | none => rw [(receive_eq_none hreceive).1]
          | some delivery =>
              exact messagesOf_receive (fun heq => hother (congrArg some heq)) hreceive
  | ack tag =>
      rw [(perform_ack queue tag).1]
      exact messagesOf_dropHeld (hheld tag hother)
  | reject tag requeue =>
      rw [perform_reject]
      exact messagesOf_changeHeld _ (hheld tag hother)
  | lapse tag => exact messagesOf_changeHeld _ (hheld tag hother)

/-- What users of a queue rely on, after any history. -/
structure Faithful (steps : List Step) : Prop where
  accounted : Accounted (after steps) (publications steps) (acknowledged steps) (deliveries steps)
  balanced : ∀ name, ((publications steps).filter (·.1 == name)).length =
    (after steps).depth name + (after steps).inLease name + (after steps).deadLettered name +
      ((acknowledged steps).filter (·.queue == name)).length
  ordered : ∀ name, DeliversFirst (after steps) name
  separate : ∀ step name, (after steps).addressed? step ≠ some name →
    ((after steps).perform step).messagesOf name = (after steps).messagesOf name

/-- **Queues are faithful.** At every moment each published message is there once or was
acknowledged once, as it was published and with the number of its deliveries; a receive gives the
first message that is ready or whose lease ran out; and no step reaches into another queue. -/
theorem faithful (steps : List Step) : Faithful steps where
  accounted := accounted_after steps
  balanced := (accounted_after steps).length_publications
  ordered := (sound_after steps).deliversFirst
  separate _ _ := (sound_after steps).messagesOf_perform

end Concord.Queue
