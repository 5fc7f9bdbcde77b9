import QtAppBase.Core.Worker
import QtAppBase.Mq.Service

/-!
# From the delivery to the store and back

`MqTab` joins the service, the worker and the store: a received message is
inserted by a job of the worker, and the completion of the job confirms the
delivery to the service. Widgets and counters are left out, and so are the jobs
that only read the store.
-/

namespace QtAppBase.Mq

open Library QtAppBase.Core Qt

/-- What a `MessagePresenter` makes of a message, as far as it is stored. -/
structure PresentedMessage where
  displayTitle : QString := ""
  searchText : QString := ""
  deriving DecidableEq, Repr

/-- `MqTab::presentOrFallback`: an empty title is replaced by the payload. -/
def presentOrFallback (presenter : Option (QString → QString → PresentedMessage))
    (envelope : Envelope) : PresentedMessage :=
  let presented :=
    match presenter with
    | some present => present envelope.type envelope.payload
    | none => {}
  if presented.displayTitle = "" then { presented with displayTitle := envelope.payload }
  else presented

/-- The jobs that change the store, with what their closures hold. -/
inductive StoreJob where
  | insertReceived (delivery : Delivery) (envelope : Envelope) (presented : PresentedMessage)
  | insertSent (envelope : Envelope) (presented : PresentedMessage)
  | markAcked (envelopeId : QString)
  deriving DecidableEq, Repr

/-- A call of `MqStore::insert` for a delivery that has returned: its result, and
the store as it left it. -/
structure InsertCall where
  delivery : Delivery
  envelope : Envelope
  fresh : Bool
  store : MqStore
  deriving DecidableEq, Repr

namespace StoreJob

/-- The delivery whose envelope the job inserts. -/
def received? : StoreJob → Option (Delivery × Envelope)
  | .insertReceived delivery envelope _ => some (delivery, envelope)
  | .insertSent _ _ | .markAcked _ => none

/-- Run the job, at the time `now`. -/
def run (now : QString) : StoreJob → MqStore → Option Bool × MqStore
  | .insertReceived _ envelope presented, store =>
    let inserted :=
      store.insert now "received" presented.displayTitle presented.searchText envelope
    (some inserted.1, inserted.2)
  | .insertSent envelope presented, store =>
    let inserted := store.insert now "sent" presented.displayTitle presented.searchText envelope
    (some inserted.1, inserted.2)
  | .markAcked envelopeId, store => (none, store.markAcked envelopeId)

/-- The call of `insert` that the job makes for a delivery. -/
def insertCall? (now : QString) (store : MqStore) (job : StoreJob) : Option InsertCall :=
  job.received?.map fun message =>
    { delivery := message.1
      envelope := message.2
      fresh := (job.run now store).1.getD false
      store := (job.run now store).2 }

end StoreJob

/-- What is seen of the application: what the service does, and the returns of
`insert` for received messages. -/
inductive AppEffect where
  | service (effect : ServiceEffect)
  | insertReturned (call : InsertCall)
  deriving DecidableEq, Repr

/-- The service and the tab with its worker and its store. -/
structure MqApp where
  service : MqService := {}
  pendingAckEnvelopeIds : ℕ → Option QString := fun _ => none
  worker : Worker StoreJob (Option Bool) := {}
  store : MqStore := {}

/-- What happens, on the GUI thread or, for `jobFinished`, on the worker. -/
inductive MqEvent where
  /-- `connectionStateChanged` of the connection. -/
  | connectionStateChanged (connected : Bool) (amqp : AmqpAnswers)
  /-- A message is sent from the tab. -/
  | publish (decoded : Option Envelope) (amqp : AmqpAnswers)
  /-- The pause check box is toggled. -/
  | pauseToggled (paused : Bool) (amqp : AmqpAnswers)
  /-- The broker delivers a message. -/
  | delivered (message : Message) (amqp : AmqpAnswers)
  /-- The broker confirms or refuses the consumer, or cancels it. -/
  | consumeSucceeded (tag : QString)
  | consumeFailed (message : QString)
  | consumerCancelled (amqp : AmqpAnswers)
  /-- The broker confirms or refuses a cancellation. -/
  | cancelSucceeded (amqp : AmqpAnswers)
  | cancelFailed (message : QString)
  /-- The channel reports an error, or an unroutable message. -/
  | channelFailed (message : QString)
  | messageReturned (routingKey description : QString)
  /-- The worker finishes its oldest job. -/
  | jobFinished (now : QString)
  /-- The oldest posted `onDone` is called. -/
  | jobDone (amqp : AmqpAnswers)

namespace MqApp

variable (presenter : Option (QString → QString → PresentedMessage)) (order : IterationOrder)

/-- `worker_.call`. -/
def call (job : StoreJob) (a : MqApp) : MqApp := { a with worker := a.worker.call job }

/-- `MqTab::onDeliveryAcked`. -/
def onDeliveryAcked (deliveryTag : ℕ) (a : MqApp) : MqApp :=
  let envelopeId := (a.pendingAckEnvelopeIds deliveryTag).getD ""
  let a := { a with
    pendingAckEnvelopeIds := Function.update a.pendingAckEnvelopeIds deliveryTag none }
  if envelopeId = "" then a else a.call (.markAcked envelopeId)

/-- The tab's handlers of the service's signals. -/
def onSignal (a : MqApp) : ServiceEffect → MqApp
  | .published envelope => a.call (.insertSent envelope (presentOrFallback presenter envelope))
  | .messageReceived envelope _ delivery =>
    a.call (.insertReceived delivery envelope (presentOrFallback presenter envelope))
  | .deliveryAcked deliveryTag => a.onDeliveryAcked deliveryTag
  | _ => a

/-- An operation of the service, with the tab's handlers of its signals. The
service reads nothing that they change. -/
def onService (f : MqService → Reaction MqService ServiceEffect) (a : MqApp) :
    Reaction MqApp AppEffect :=
  let r := f a.service
  (r.2.foldl (onSignal presenter) { a with service := r.1 }, r.2.map .service)

/-- The worker finishes its oldest job. -/
def onJobFinished (now : QString) (a : MqApp) : Reaction MqApp AppEffect :=
  let finished := a.worker.finish (StoreJob.run now) a.store
  ({ a with worker := finished.1, store := finished.2 },
    (a.worker.queue.head?.bind (StoreJob.insertCall? now a.store)).toList.map .insertReturned)

/-- The `onDone` of the insertion of a received message. -/
def onInserted (amqp : AmqpAnswers) (delivery : Delivery) (envelope : Envelope) (a : MqApp) :
    Reaction MqApp AppEffect :=
  let a := { a with
    pendingAckEnvelopeIds :=
      Function.update a.pendingAckEnvelopeIds delivery.tag (some envelope.id) }
  a.onService presenter (MqService.confirmInserted amqp delivery.tag)

/-- The oldest posted `onDone` is called. -/
def onJobDone (amqp : AmqpAnswers) (a : MqApp) : Reaction MqApp AppEffect :=
  let taken := a.worker.take
  let a := { a with worker := taken.2 }
  match taken.1 with
  | some (.insertReceived delivery envelope _, _) => a.onInserted presenter amqp delivery envelope
  | _ => (a, [])

/-- One event. The service's handler of `connectionStateChanged` runs before the
tab's `refreshConnectionState`. -/
def step (a : MqApp) : MqEvent → Reaction MqApp AppEffect
  | .connectionStateChanged connected amqp =>
    a.onService presenter fun s =>
      let s := s.onConnectionStateChanged connected
      if connected then (s.startConsuming amqp).2 else (s, [])
  | .publish decoded amqp => a.onService presenter fun s => (s.publish amqp decoded).2
  | .pauseToggled paused amqp => a.onService presenter (MqService.pauseConsuming order amqp paused)
  | .delivered message amqp => a.onService presenter (MqService.deliver amqp message)
  | .consumeSucceeded tag => a.onService presenter (MqService.onConsumeSuccess tag)
  | .consumeFailed message => a.onService presenter (MqService.onConsumeError message)
  | .consumerCancelled amqp => a.onService presenter (MqService.onConsumerCancelled amqp)
  | .cancelSucceeded amqp => a.onService presenter (MqService.onCancelSuccess amqp)
  | .cancelFailed message => a.onService presenter (MqService.onCancelError message)
  | .channelFailed message => a.onService presenter fun s => (s, [.errorOccurred message])
  | .messageReturned routingKey description =>
    a.onService presenter fun s => (s, [.messageReturned routingKey description])
  | .jobFinished now => a.onJobFinished now
  | .jobDone amqp => a.onJobDone presenter amqp

end MqApp

end QtAppBase.Mq
