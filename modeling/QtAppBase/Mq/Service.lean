import QtAppBase.Library.Mealy
import QtAppBase.Mq.Store
import Mathlib.Data.Finset.Sort

/-!
# Publishing, consuming, acknowledging

`MqService` owns the AMQP channel and the sets of deliveries that are not yet
acknowledged. The AMQP library is outside the repository: its answers to the
calls made during an event come with the event. Channels are numbered in the
order they are made, and each counts its deliveries, so that a delivery is known
by its channel and its tag, where the code has the tag alone.
-/

namespace QtAppBase.Mq

open Library Qt

/-- `AMQP::Channel`. The broker gives delivery tags from one on, per channel. -/
structure Channel where
  number : ℕ
  nextDeliveryTag : ℕ := 1
  deriving DecidableEq, Repr

/-- A delivery by the broker. -/
structure Delivery where
  channel : ℕ
  tag : ℕ
  deriving DecidableEq, Repr

/-- `AMQP::Message`: its size and what `MqCodec::decode` makes of its body. -/
structure Message where
  bodySize : ℕ
  decoded : Option Envelope
  redelivered : Bool := false
  deriving DecidableEq, Repr

/-- What the library answers during one event: whether there is a connection
object, and the results of the calls on the channel. -/
structure AmqpAnswers where
  connection : Bool := true
  publish : Bool := true
  ack : ℕ → Bool := fun _ => true
  reject : Bool := true

/-- `QSet` iterates its elements in an order of its own. -/
structure IterationOrder where
  toList : Finset ℕ → List ℕ
  mem_toList : ∀ set tag, tag ∈ toList set ↔ tag ∈ set
  nodup : ∀ set, (toList set).Nodup

/-- The increasing order is one. -/
def IterationOrder.increasing : IterationOrder where
  toList set := set.sort (· ≤ ·)
  mem_toList _ _ := Finset.mem_sort _
  nodup set := set.sort_nodup (· ≤ ·)

/-- What `MqService` does to the outside: calls on the channel that succeed, by
its number, and signals. `messageReceived` has the whole delivery for its tag. -/
inductive ServiceEffect where
  | setQos (channel prefetchCount : ℕ)
  | consume (channel : ℕ) (queue : QString)
  | cancel (channel : ℕ) (consumerTag : QString)
  | publish (channel : ℕ) (exchange routingKey : QString) (envelope : Envelope)
  | ack (delivery : Delivery)
  | reject (delivery : Delivery)
  | published (envelope : Envelope)
  | messageReceived (envelope : Envelope) (redelivered : Bool) (delivery : Delivery)
  | errorOccurred (message : QString)
  | messageRejected (reason : QString)
  | messageReturned (routingKey description : QString)
  | deliveryAcked (deliveryTag : ℕ)
  deriving DecidableEq, Repr

namespace ServiceEffect

/-- The delivery acknowledged by a `basic.ack`. -/
def acked? : ServiceEffect → Option Delivery
  | .ack delivery => some delivery
  | _ => none

/-- The delivery reported by `messageReceived`, with its envelope. -/
def received? : ServiceEffect → Option (Delivery × Envelope)
  | .messageReceived envelope _ delivery => some (delivery, envelope)
  | _ => none

end ServiceEffect

/-- The exchange published to. -/
def kExchange : QString := "hsf.card"

/-- The queue consumed. -/
def kQueue : QString := "hsf.card.issued"

/-- The members of `MqService`, and how many channels were made. -/
structure MqService where
  channel : Option Channel := none
  channelsMade : ℕ := 0
  consumerTag : QString := ""
  pendingDeliveries : Finset ℕ := ∅
  committedDeliveries : Finset ℕ := ∅
  paused : Bool := false
  consumerStarting : Bool := false
  consuming : Bool := false
  cancelPending : Bool := false

namespace MqService

/-- `ensureChannel`: the channel there is, or a new one. -/
def ensureChannel (amqp : AmqpAnswers) (s : MqService) : Except QString (Channel × MqService) :=
  match s.channel with
  | some channel => .ok (channel, s)
  | none =>
    if amqp.connection then
      let channel : Channel := { number := s.channelsMade }
      .ok (channel, { s with channel := some channel, channelsMade := s.channelsMade + 1 })
    else .error "AMQP connection is not ready"

/-- `publish`, with what `MqCodec::decode` makes of the new message. The message
is persistent and mandatory. -/
def publish (amqp : AmqpAnswers) (decoded : Option Envelope) (s : MqService) :
    Bool × Reaction MqService ServiceEffect :=
  match s.ensureChannel amqp with
  | .error message => (false, s, [.errorOccurred message])
  | .ok (channel, s) =>
    match decoded with
    | none => (false, s, [.errorOccurred "Could not decode the newly encoded message"])
    | some envelope =>
      if amqp.publish then
        (true, s, [.publish channel.number kExchange envelope.type envelope, .published envelope])
      else (false, s, [.errorOccurred "Could not publish the message"])

/-- `startConsuming`. -/
def startConsuming (amqp : AmqpAnswers) (s : MqService) : Bool × Reaction MqService ServiceEffect :=
  if s.paused || s.consuming || s.consumerStarting then (true, s, [])
  else
    match s.ensureChannel amqp with
    | .error message => (false, s, [.errorOccurred message])
    | .ok (channel, s) =>
      (true, { s with consumerStarting := true },
        [.setQos channel.number 10, .consume channel.number kQueue])

/-- `cancelConsumer`, up to the broker's reply. -/
def cancelConsumer (s : MqService) : Reaction MqService ServiceEffect :=
  match s.channel with
  | none => (s, [])
  | some channel =>
    if s.consumerTag = "" ∨ s.cancelPending then (s, [])
    else ({ s with cancelPending := true }, [.cancel channel.number s.consumerTag])

/-- `rejectDelivery`. -/
def rejectDelivery (amqp : AmqpAnswers) (deliveryTag : ℕ) (reason : QString) (s : MqService) :
    Reaction MqService ServiceEffect :=
  match s.channel with
  | none => (s, [.errorOccurred "Could not reject an undecodable message"])
  | some channel =>
    if amqp.reject then
      ({ s with
          pendingDeliveries := s.pendingDeliveries.erase deliveryTag
          committedDeliveries := s.committedDeliveries.erase deliveryTag },
        [.reject ⟨channel.number, deliveryTag⟩, .messageRejected reason])
    else (s, [.errorOccurred "Could not reject an undecodable message"])

/-- `confirmInserted`. -/
def confirmInserted (amqp : AmqpAnswers) (deliveryTag : ℕ) (s : MqService) :
    Reaction MqService ServiceEffect :=
  if deliveryTag ∉ s.pendingDeliveries then (s, [])
  else if s.paused then
    ({ s with committedDeliveries := insert deliveryTag s.committedDeliveries }, [])
  else
    match s.channel with
    | none => (s, [.errorOccurred "Could not acknowledge the inserted message"])
    | some channel =>
      if amqp.ack deliveryTag then
        ({ s with
            committedDeliveries := s.committedDeliveries.erase deliveryTag
            pendingDeliveries := s.pendingDeliveries.erase deliveryTag },
          [.ack ⟨channel.number, deliveryTag⟩, .deliveryAcked deliveryTag])
      else (s, [.errorOccurred "Could not acknowledge the inserted message"])

/-- The loop of `pauseConsuming`. -/
def confirmAll (amqp : AmqpAnswers) : List ℕ → MqService → Reaction MqService ServiceEffect
  | [], s => (s, [])
  | deliveryTag :: rest, s => (s.confirmInserted amqp deliveryTag).andThen (confirmAll amqp rest)

/-- `pauseConsuming`. The loop runs over a copy of the set. -/
def pauseConsuming (order : IterationOrder) (amqp : AmqpAnswers) (paused : Bool) (s : MqService) :
    Reaction MqService ServiceEffect :=
  let s := { s with paused := paused }
  if paused then s.cancelConsumer
  else
    (s.confirmAll amqp (order.toList s.committedDeliveries)).andThen fun s =>
      if !s.consuming && !s.cancelPending then (s.startConsuming amqp).2 else (s, [])

/-- `resetConnectionState`. -/
def resetConnectionState (s : MqService) : MqService :=
  { s with
    channel := none
    consumerTag := ""
    consuming := false
    consumerStarting := false
    cancelPending := false
    pendingDeliveries := ∅
    committedDeliveries := ∅ }

/-- The handler of `MqConnection::connectionStateChanged`. -/
def onConnectionStateChanged (connected : Bool) (s : MqService) : MqService :=
  if connected then s else s.resetConnectionState

/-- The consumer's `onSuccess` callback. -/
def onConsumeSuccess (tag : QString) (s : MqService) : Reaction MqService ServiceEffect :=
  let s := { s with consumerStarting := false, consuming := true, consumerTag := tag }
  if s.paused then s.cancelConsumer else (s, [])

/-- The consumer's `onReceived` callback. -/
def onReceived (amqp : AmqpAnswers) (message : Message) (delivery : Delivery) (s : MqService) :
    Reaction MqService ServiceEffect :=
  if message.bodySize > 2147483647 then s.rejectDelivery amqp delivery.tag "message too large"
  else
    match message.decoded with
    | none => s.rejectDelivery amqp delivery.tag "invalid envelope"
    | some envelope =>
      ({ s with pendingDeliveries := insert delivery.tag s.pendingDeliveries },
        [.messageReceived envelope message.redelivered delivery])

/-- The broker delivers a message to the consumer of the channel. -/
def deliver (amqp : AmqpAnswers) (message : Message) (s : MqService) :
    Reaction MqService ServiceEffect :=
  match s.channel with
  | none => (s, [])
  | some channel =>
    onReceived amqp message ⟨channel.number, channel.nextDeliveryTag⟩
      { s with
        channel := some { channel with nextDeliveryTag := channel.nextDeliveryTag + 1 } }

/-- The consumer's `onCancelled` callback. -/
def onConsumerCancelled (amqp : AmqpAnswers) (s : MqService) : Reaction MqService ServiceEffect :=
  let s := { s with
    consumerStarting := false
    consuming := false
    cancelPending := false
    consumerTag := "" }
  if !s.paused then (s.startConsuming amqp).2 else (s, [])

/-- The consumer's `onError` callback. -/
def onConsumeError (message : QString) (s : MqService) : Reaction MqService ServiceEffect :=
  ({ s with consumerStarting := false }, [.errorOccurred message])

/-- The `onSuccess` callback of a cancellation. -/
def onCancelSuccess (amqp : AmqpAnswers) (s : MqService) : Reaction MqService ServiceEffect :=
  let s := { s with cancelPending := false, consuming := false, consumerTag := "" }
  if !s.paused then (s.startConsuming amqp).2 else (s, [])

/-- The `onError` callback of a cancellation. -/
def onCancelError (message : QString) (s : MqService) : Reaction MqService ServiceEffect :=
  ({ s with cancelPending := false }, [.errorOccurred message])

end MqService

end QtAppBase.Mq
