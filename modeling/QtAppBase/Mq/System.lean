import QtAppBase.Drivers.StateSignals
import QtAppBase.Mq.SettingsDialog
import QtAppBase.Mq.Tab

/-!
# The driver, the service and the tab

Driver, service and tab live in one thread and call each other through signals. When
the state of the connection changes, the service hears of it first and forgets its
channel when the connection goes. The tab comes second: it shows the change, and has
the service consume when the connection is there. What the service reports meanwhile
is shown in the same place.
-/

namespace QtAppBase.Mq

open Library QtAppBase.Core Qt

/-- What the tab shows of the connection. -/
structure ConnectionRow where
  /-- The text of the label, and its `state` property. -/
  text : QString := ""
  state : QString := ""
  sendEnabled : Bool := true
  serviceError : QString := ""
  deriving DecidableEq, Repr

namespace ConnectionRow

/-- `setConnectionError`. -/
def setConnectionError (message : QString) (_ : ConnectionRow) : ConnectionRow where
  text := "● Lỗi AMQP: " ++ message
  state := "warn"
  sendEnabled := false
  serviceError := message

/-- `refreshConnectionState`, up to the call of `startConsuming`. -/
def refreshConnectionState (connected : Bool) (errorString : QString) (r : ConnectionRow) :
    ConnectionRow :=
  if !connected then
    if errorString ≠ "" then
      { r with text := "● Lỗi kết nối: " ++ errorString, state := "warn", sendEnabled := false }
    else { r with text := "● Đang kết nối...", state := "off", sendEnabled := false }
  else { text := "● Đã kết nối", state := "on", sendEnabled := true, serviceError := "" }

/-- The tab's handler of what the service reports. -/
def onSignal (r : ConnectionRow) : AppEffect → ConnectionRow
  | .service (.errorOccurred message) => r.setConnectionError message
  | _ => r

end ConnectionRow

/-- The objects of one window, and what is remembered of them to say how they fit together. -/
structure MqSystem (α : Type*) where
  connection : MqConnection α := {}
  app : MqApp := {}
  row : ConnectionRow
  /-- How many AMQP connections were made. The one there is, if any, is the last one. -/
  connectionsMade : ℕ := 0
  /-- On which of them the last channel was made. -/
  channelOwner : ℕ := 0
  /-- The consumer or the channel has failed since the connection came up. -/
  faulted : Bool := false

/-- What can happen: to the connection, with what the library answers the service then, and
to the application. -/
inductive SystemEvent where
  | connection (event : Event) (amqp : AmqpAnswers)
  | app (event : MqEvent)

/-- What can be observed. -/
inductive SystemEffect where
  | connection (effect : Effect)
  | app (effect : AppEffect)
  deriving DecidableEq

/-- Whether there is an AMQP connection is not up to the event. -/
def MqEvent.onConnection (there : Bool) : MqEvent → MqEvent
  | .connectionStateChanged connected amqp =>
    .connectionStateChanged connected { amqp with connection := there }
  | .publish decoded amqp => .publish decoded { amqp with connection := there }
  | .pauseToggled paused amqp => .pauseToggled paused { amqp with connection := there }
  | .delivered message amqp => .delivered message { amqp with connection := there }
  | .consumerCancelled amqp => .consumerCancelled { amqp with connection := there }
  | .cancelSucceeded amqp => .cancelSucceeded { amqp with connection := there }
  | .jobDone amqp => .jobDone { amqp with connection := there }
  | event => event

/-- The broker refuses the consumer, or closes the channel. -/
def MqEvent.isFault : MqEvent → Bool
  | .consumeFailed _ | .channelFailed _ => true
  | _ => false

/-- An event that only an object of the channel can bring. -/
def MqEvent.ofChannel : MqEvent → Bool
  | .delivered .. | .consumeSucceeded _ | .consumeFailed _ | .consumerCancelled _
  | .cancelSucceeded _ | .cancelFailed _ | .channelFailed _ | .messageReturned .. => true
  | _ => false

namespace MqSystem

variable {α : Type*}

/-- The tab has been opened on a connection that has not been tried. -/
def opened : MqSystem α := { row := ConnectionRow.refreshConnectionState false "" {} }

section Behaviour

variable (lib : AmqpLibrary α) (presenter : Option (QString → QString → PresentedMessage))
  (order : IterationOrder)

/-- An event of the application. -/
def onApp (event : MqEvent) (w : MqSystem α) : Reaction (MqSystem α) SystemEffect :=
  let r := w.app.step presenter order (event.onConnection w.connection.connection.isSome)
  ({ w with
      app := r.1
      row := r.2.foldl ConnectionRow.onSignal w.row
      channelOwner :=
        if r.1.service.channelsMade = w.app.service.channelsMade then w.channelOwner
        else w.connectionsMade
      faulted := w.faulted || event.isFault }, r.2.map .app)

/-- `connectionStateChanged` reaches the service and the tab. Its handlers have set the error
by then, and leave it alone after it. -/
def announced (connected : Bool) (amqp : AmqpAnswers) (w : MqSystem α) :
    Reaction (MqSystem α) SystemEffect :=
  onApp presenter order (.connectionStateChanged connected amqp)
    { w with
      row := w.row.refreshConnectionState connected w.connection.error
      faulted := w.faulted && !connected }

/-- What the connection does, with its signal connected to the service and the tab. -/
def deliver (amqp : AmqpAnswers) : List Effect → MqSystem α → Reaction (MqSystem α) SystemEffect
  | [], w => (w, [])
  | .connectionStateChanged connected :: effects, w =>
    let r : Reaction (MqSystem α) SystemEffect :=
      (w, [.connection (.connectionStateChanged connected)])
    (r.andThen (announced presenter order connected amqp)).andThen (deliver amqp effects)
  | effect :: effects, w =>
    Reaction.andThen (w, [.connection effect]) (deliver amqp effects)

/-- An event of the connection. -/
def onConnection (event : Event) (amqp : AmqpAnswers) (w : MqSystem α) :
    Reaction (MqSystem α) SystemEffect :=
  let r := w.connection.handle lib event
  deliver presenter order amqp r.2
    { w with
      connection := r.1
      connectionsMade :=
        if event = .socketConnected then w.connectionsMade + 1 else w.connectionsMade }

/-- What one event does. `sendCurrentBody` publishes nothing unless the connection is ready. -/
def handle (w : MqSystem α) : SystemEvent → Reaction (MqSystem α) SystemEffect
  | .connection event amqp => onConnection lib presenter order event amqp w
  | .app (.publish decoded amqp) =>
    if w.connection.isReady then onApp presenter order (.publish decoded amqp) w else (w, [])
  | .app event => onApp presenter order event w

/-- The state machine driven by its events. -/
def machine : Mealy (MqSystem α) SystemEvent SystemEffect := ⟨handle lib presenter order⟩

end Behaviour

/-- When an event can happen. The library hears that the connection is ready from bytes that
arrive, the driver is all that tells of its state, and the channel brings what is its own. -/
def Enabled (w : MqSystem α) : SystemEvent → Prop
  | .connection event _ =>
    w.connection.Enabled event ∧ (event = .amqpReady → w.connection.socket.IsOpen)
  | .app (.connectionStateChanged ..) => False
  | .app event => event.ofChannel = true → w.app.service.channel.isSome = true

instance (w : MqSystem α) (e : SystemEvent) : Decidable (w.Enabled e) := by
  unfold Enabled
  split
  · infer_instance
  · infer_instance
  · infer_instance

/-! ### The row -/

variable {lib : AmqpLibrary α} {presenter : Option (QString → QString → PresentedMessage)}
  {order : IterationOrder} {w : MqSystem α} {r : ConnectionRow} {ready after : Bool}

/-- What an effect says about sending: the state of the connection, or that something is wrong. -/
def sending? : SystemEffect → Option Bool
  | .connection (.connectionStateChanged connected) => some connected
  | .app (.service (.errorOccurred _)) => some false
  | _ => none

variable (α) in
/-- The row shows it. -/
def rowListener : Announcer (MqSystem α) SystemEffect Bool where
  shown w := w.row.sendEnabled
  announced := sending?

/-- What the row shows is true of a connection that is ready or not. -/
structure Truthful (ready : Bool) (r : ConnectionRow) : Prop where
  /-- Sending is offered only when it is possible. -/
  send : r.sendEnabled = true → ready = true
  /-- The label says so exactly when it is offered. -/
  shown : r.state = "on" ↔ r.sendEnabled = true
  text : r.sendEnabled = true → r.text = "● Đã kết nối" ∧ r.serviceError = ""
  /-- If a connection that is there cannot be used, the label says why. -/
  reason : ready = true → r.sendEnabled = false →
    r.text = "● Lỗi AMQP: " ++ r.serviceError ∧ r.state = "warn"

theorem refreshConnectionState_truthful (connected : Bool) (errorString : QString)
    (r : ConnectionRow) : Truthful connected (r.refreshConnectionState connected errorString) := by
  cases connected with
  | true => exact ⟨fun _ => rfl, ⟨fun _ => rfl, fun _ => rfl⟩, fun _ => ⟨rfl, rfl⟩, nofun⟩
  | false =>
    have hoffer : ∀ {text state serviceError : QString}, state ≠ "on" →
        Truthful false ⟨text, state, false, serviceError⟩ := fun hstate =>
      ⟨nofun, ⟨fun h => absurd h hstate, nofun⟩, nofun, nofun⟩
    unfold ConnectionRow.refreshConnectionState
    split_ifs with hdown herror
    · exact hoffer (by decide)
    · exact hoffer (by decide)
    · exact absurd rfl hdown

theorem Truthful.onSignal (h : Truthful ready r) (effect : AppEffect) :
    Truthful ready (r.onSignal effect) := by
  unfold ConnectionRow.onSignal
  split
  · exact ⟨nofun, ⟨fun h => absurd h (by simp [ConnectionRow.setConnectionError]), nofun⟩, nofun,
      fun _ _ => ⟨rfl, rfl⟩⟩
  · exact h

theorem Truthful.onSignals (h : Truthful ready r) (effects : List AppEffect) :
    Truthful ready (effects.foldl ConnectionRow.onSignal r) := by
  induction effects generalizing r with
  | nil => exact h
  | cons effect effects ih => exact ih (h.onSignal effect)

/-- The row takes what the service reports as it comes. -/
theorem sendEnabled_onSignals (effects : List AppEffect) (r : ConnectionRow) :
    (effects.foldl ConnectionRow.onSignal r).sendEnabled =
      ((effects.map SystemEffect.app).filterMap sending?).getLastD r.sendEnabled := by
  induction effects generalizing r with
  | nil => rfl
  | cons effect effects ih =>
    rw [List.foldl_cons, ih, List.map_cons]
    unfold ConnectionRow.onSignal
    split
    · exact List.getLastD_cons.symm
    · next hother =>
      rw [List.filterMap_cons_none]
      unfold sending?
      split
      · next h => cases h
      · next message h => exact absurd (SystemEffect.app.inj h) (hother message)
      · rfl

/-- A reaction that starts from a row that is true of the connection ends so, and what it
says last about sending is what the row shows. -/
structure Shows (ready after : Bool) (w : MqSystem α) (r : Reaction (MqSystem α) SystemEffect) :
    Prop where
  echoes : (rowListener α).Echoes w r
  truthful : Truthful ready w.row → Truthful after r.1.row
  connection : r.1.connection = w.connection

theorem Shows.andThen {middle : Bool} {r : Reaction (MqSystem α) SystemEffect}
    {f : MqSystem α → Reaction (MqSystem α) SystemEffect} (h : Shows ready middle w r)
    (hf : Shows middle after r.1 (f r.1)) : Shows ready after w (r.andThen f) :=
  ⟨h.echoes.andThen hf.echoes, fun hw => hf.truthful (h.truthful hw),
    hf.connection.trans h.connection⟩

theorem onApp_shows (event : MqEvent) (w : MqSystem α) :
    Shows ready ready w (onApp presenter order event w) :=
  ⟨sendEnabled_onSignals _ _, fun h => h.onSignals _, rfl⟩

/-- A signal of the connection, and what the service makes of it. -/
theorem announced_shows (connected : Bool) (amqp : AmqpAnswers) (w : MqSystem α) :
    Shows ready connected w (Reaction.andThen
      (w, [.connection (.connectionStateChanged connected)])
      (announced presenter order connected amqp)) := by
  have htold : (w.row.refreshConnectionState connected w.connection.error).sendEnabled =
      connected := by
    cases connected with
    | true => rfl
    | false =>
      unfold ConnectionRow.refreshConnectionState
      split_ifs <;> first | contradiction | rfl
  refine ⟨?_, fun _ => ?_, rfl⟩
  · have happ := sendEnabled_onSignals ((w.app.step presenter order
      ((MqEvent.connectionStateChanged connected amqp).onConnection
        w.connection.connection.isSome)).2)
      (w.row.refreshConnectionState connected w.connection.error)
    rw [htold] at happ
    exact happ.trans List.getLastD_cons.symm
  · exact (refreshConnectionState_truthful connected _ w.row).onSignals _

variable (presenter order) in
theorem deliver_shows (amqp : AmqpAnswers) {effects : List Effect}
    (hannounced : Announces ready (effects.filterMap Effect.connected?) after) :
    Shows ready after w (deliver presenter order amqp effects w) := by
  induction effects generalizing ready w with
  | nil =>
    obtain rfl : ready = after := hannounced
    exact ⟨rfl, id, rfl⟩
  | cons effect effects ih =>
    cases effect with
    | connectionStateChanged connected =>
      exact (announced_shows connected amqp w).andThen (ih hannounced.2)
    | write data | parse data | heartbeat =>
      exact Shows.andThen (r := (w, _)) ⟨rfl, id, rfl⟩ (ih hannounced)

/-- Every event shows in the row what it says about sending. -/
theorem handle_shows {e : SystemEvent} (henabled : w.Enabled e) :
    (rowListener α).Echoes w (w.handle lib presenter order e) ∧
      (Truthful w.connection.isReady w.row →
        Truthful (w.handle lib presenter order e).1.connection.isReady
          (w.handle lib presenter order e).1.row) := by
  cases e with
  | connection event amqp =>
    have htells : Announces w.connection.isReady
        ((w.connection.handle lib event).2.filterMap Effect.connected?)
        (w.connection.handle lib event).1.isReady := w.connection.handle_tells event
    have hshows := deliver_shows presenter order (w := { w with
      connection := (w.connection.handle lib event).1
      connectionsMade :=
        if event = .socketConnected then w.connectionsMade + 1 else w.connectionsMade }) amqp htells
    refine ⟨hshows.echoes, fun h => ?_⟩
    change Truthful (deliver presenter order amqp _ _).1.connection.isReady _
    rw [hshows.connection]
    exact hshows.truthful h
  | app event =>
    have hshows : Shows w.connection.isReady w.connection.isReady w
        (onApp presenter order event w) := onApp_shows event w
    cases event with
    | publish decoded amqp =>
      change (rowListener α).Echoes w (if _ then _ else _) ∧ (_ → Truthful
        (if _ then _ else _ : Reaction (MqSystem α) SystemEffect).1.connection.isReady
        (if _ then _ else _ : Reaction (MqSystem α) SystemEffect).1.row)
      split_ifs
      · exact ⟨hshows.echoes, hshows.truthful⟩
      · exact ⟨rfl, id⟩
    | _ => exact ⟨hshows.echoes, hshows.truthful⟩

variable (lib presenter order) in
/-- **The tab tells the truth about the connection.** After every run of driver, service and
tab, sending is offered exactly if the last that was said about it was that the connection is
there, with no error after it; and the row is true of the connection as it is. -/
theorem row_truthful (events : List SystemEvent)
    (henabled : (machine lib presenter order).EachStep Enabled opened events) :
    ((machine lib presenter order).after opened events).row.sendEnabled =
      (((machine lib presenter order).emitted opened events).filterMap sending?).getLastD false ∧
    Truthful ((machine lib presenter order).after opened events).connection.isReady
      ((machine lib presenter order).after opened events).row := by
  constructor
  · exact Announcer.echoes_run (A := rowListener α) (P := Enabled)
      (fun _ _ h => (handle_shows h).1) henabled
  · refine (Mealy.eachState_of_invariant (I := fun w => Truthful w.connection.isReady w.row)
      (R := fun w => Truthful w.connection.isReady w.row)
      (fun _ _ h he => (handle_shows he).2 h) (fun _ h => h) ?_ henabled).last
    exact refreshConnectionState_truthful false "" {}

/-- The broker refuses the consumer, and later the connection is lost. -/
def refusedRun : List SystemEvent :=
  [.connection (.connectToHost "localhost" 5672 "/" "lab" "lab" .started) {},
    .connection .socketConnected {}, .connection .amqpReady {},
    .app (.consumeFailed "ACCESS_REFUSED"), .app (.pauseToggled true {}),
    .connection .socketDisconnected {}]

theorem refusedRun_truthful :
    let w := (machine MqSettingsDialog.idleLibrary none .increasing).after opened refusedRun
    w.row.sendEnabled =
      (((machine MqSettingsDialog.idleLibrary none .increasing).emitted opened
        refusedRun).filterMap sending?).getLastD false ∧
    Truthful w.connection.isReady w.row :=
  row_truthful MqSettingsDialog.idleLibrary none .increasing refusedRun (by decide)

end MqSystem

end QtAppBase.Mq
