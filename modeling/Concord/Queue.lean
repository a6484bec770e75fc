import Concord.Database
import Concord.Job
import Concord.Text.Hex

/-!
The job queue. A message is leased to whoever receives it and comes back if it is not settled in
time. Queues are told apart by name and deliver in the order of publication.
-/

namespace Concord

/-- The mark of one delivery, a number of 128 bits. -/
structure DeliveryTag where
  number : Nat
  deriving DecidableEq, Repr

namespace DeliveryTag

/-- Digits in groups of 8, 4, 4, 4 and 12. -/
def text (tag : DeliveryTag) : String :=
  let digits := (List.range 32).reverse.map fun place =>
    Text.Hex.digit (tag.number / Nat.pow 16 place % 16)
  let group (start length : Nat) := String.ofList ((digits.drop start).take length)
  "-".intercalate [group 0 8, group 8 4, group 12 4, group 16 4, group 20 12]

/-- The number of the hexadecimal digits in a text, whatever stands between them. -/
def ofText (text : String) : DeliveryTag :=
  let digits := text.toUTF8.toList.filterMap Text.Hex.value?
  ⟨digits.foldl (fun number digit => 16 * number + digit) 0⟩

end DeliveryTag

inductive MessageState where
  | ready
  | leased (tag : DeliveryTag) (lapsed : Bool)
  | dead
  deriving DecidableEq, Repr

structure Message where
  number : Nat
  queue : String
  body : String
  state : MessageState
  deliveries : Nat
  deriving DecidableEq, Repr

/-- The messages that were published and not acknowledged, oldest first, how many were published,
and how many were delivered. -/
structure Queue where
  messages : List Message := []
  published : Nat := 0
  delivered : Nat := 0
  deriving DecidableEq, Repr

/-- A message in the hands of a consumer. The count of its deliveries has no limit, so a message that
was delivered 2 ^ 32 times is not taken for a fresh one, as it is where 32 bits are kept. -/
structure Delivery where
  tag : DeliveryTag
  queue : String
  body : String
  count : Nat
  deriving DecidableEq, Repr

namespace Delivery

/-- An earlier lease ran out, or was given back. -/
def redelivered (delivery : Delivery) : Bool :=
  1 < delivery.count

def job? (delivery : Delivery) : Option Job :=
  Job.decoder.read? delivery.body

end Delivery

namespace Message

/-- Can the message be leased? -/
def available (message : Message) : Bool :=
  match message.state with
  | .ready => true
  | .leased _ lapsed => lapsed
  | .dead => false

/-- Is this the lease that the message is under? A lease that ran out stays the message's own until
the next one. -/
def leasedAs (message : Message) (tag : DeliveryTag) : Bool :=
  match message.state with
  | .leased held _ => held == tag
  | _ => false

end Message

namespace Queue

inductive Fault where
  | unknownDelivery (tag : DeliveryTag)
  | database (fault : Database.Fault)
  deriving DecidableEq, Repr

namespace Fault

def message : Fault → String
  | unknownDelivery tag => "unknown delivery tag: " ++ tag.text
  | database fault => "database error: " ++ fault.message

def transient : Fault → Bool
  | database fault => fault.transient
  | _ => false

instance : Transient Fault := ⟨transient⟩

instance : Explained Fault := ⟨message⟩

end Fault

variable (queue : Queue)

def publishText (name body : String) : Queue :=
  { queue with
    messages := queue.messages ++ [⟨queue.published, name, body, .ready, 0⟩]
    published := queue.published + 1 }

def publish (name : String) (job : Job) : Queue :=
  queue.publishText name job.encode.text

/-- Leases the first message that is available in a queue, under a new tag. -/
def lease (name : String) (tag : DeliveryTag) :
    List Message → Option (Delivery × List Message)
  | [] => none
  | message :: rest =>
      if message.queue == name && message.available then
        let count := message.deliveries + 1
        some (⟨tag, name, message.body, count⟩,
          { message with state := .leased tag false, deliveries := count } :: rest)
      else
        match lease name tag rest with
        | some (delivery, rest) => some (delivery, message :: rest)
        | none => none

def receive (name : String) : Option Delivery × Queue :=
  match lease name ⟨queue.delivered⟩ queue.messages with
  | some (delivery, messages) =>
      (some delivery, { queue with messages, delivered := queue.delivered + 1 })
  | none => (none, queue)

/-- The time of a lease runs out. -/
def lapse (tag : DeliveryTag) : Queue :=
  { queue with messages := queue.messages.map fun message =>
      if message.leasedAs tag then { message with state := .leased tag true } else message }

/-- Changes the message that is under a lease, if there is one. -/
def settle (tag : DeliveryTag) (messages : List Message) : Except Fault (Unit × Queue) :=
  if queue.messages.any (·.leasedAs tag) then .ok ((), { queue with messages })
  else .error (.unknownDelivery tag)

/-- Removes a delivered message. -/
def ack (tag : DeliveryTag) : Except Fault (Unit × Queue) :=
  queue.settle tag (queue.messages.filter fun message => !message.leasedAs tag)

/-- Gives a delivered message back, or puts it with the dead. -/
def reject (tag : DeliveryTag) (requeue : Bool) : Except Fault (Unit × Queue) :=
  queue.settle tag (queue.messages.map fun message =>
    if message.leasedAs tag then { message with state := if requeue then .ready else .dead }
    else message)

def depth (name : String) : Nat :=
  (queue.messages.filter fun message => message.queue == name && message.state == .ready).length

def deadLettered (name : String) : Nat :=
  (queue.messages.filter fun message => message.queue == name && message.state == .dead).length

end Queue

end Concord
