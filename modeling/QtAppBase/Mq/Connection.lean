import QtAppBase.Core.ConnectionState
import QtAppBase.Mq.Buffer

/-!
# The AMQP connection

`MqConnection` owns the socket, a `ConnectionState` with asynchronous results,
and one `AMQP::Connection` object, recreated whenever the socket connects. The
AMQP library is outside the repository; it is a parameter with a state of its
own, and its callbacks into the handler are events.
-/

namespace QtAppBase.Mq

open Library QtAppBase.Core Qt

/-- What the driver uses of an `AMQP::Connection`: how it is made, and how many
bytes of complete frames `parse` consumes. -/
structure AmqpLibrary (α : Type*) where
  create : (user password vhost : QString) → α
  parse : α → QByteArray → ℕ × α
  consumes_le : ∀ a data, (parse a data).1 ≤ data.length

variable {α : Type*} (lib : AmqpLibrary α)

/-- What the driver does to the outside: bytes written to the socket, data
handed to the parser, heartbeats asked of the library, and the signal it forwards. -/
inductive Effect where
  | write (data : QByteArray)
  | parse (data : QByteArray)
  | heartbeat
  | connectionStateChanged (connected : Bool)
  deriving DecidableEq, Repr

/-- The members of `MqConnection`. -/
structure MqConnection (α : Type*) where
  socket : TcpSocket := {}
  heartbeatTimer : Option ℤ := none
  state : ConnectionState := {}
  inputBuffer : QByteArray := []
  connection : Option α := none
  host : QString := ""
  vhost : QString := ""
  user : QString := ""
  password : QString := ""
  error : QString := ""
  port : UInt16 := 0
  ready : Bool := false
  connectAttemptPending : Bool := false

namespace MqConnection

/-- The signal of `state_` that is forwarded. -/
def forward : Signal → Option Effect
  | .connectionStateChanged connected => some (.connectionStateChanged connected)
  | .reconnectingChanged _ => none

/-- An operation on the `state_` member. -/
def onState (f : ConnectionState → Reaction ConnectionState Signal) (c : MqConnection α) :
    Reaction (MqConnection α) Effect :=
  ({ c with state := (f c.state).1 }, (f c.state).2.filterMap forward)

/-- The state of the object after the error handler, up to its report. -/
def failed (error : QString) (c : MqConnection α) : MqConnection α :=
  { c with error := error, ready := false, heartbeatTimer := none, connectAttemptPending := false }

/-- The connect callable, up to the report its call makes when the socket fails
from inside `connectToHost`. -/
def connectFn (launch : Launch) (c : MqConnection α) : MqConnection α :=
  let c := { c with
    error := ""
    connectAttemptPending := true
    socket := c.socket.connectToHost launch }
  match launch with
  | .started => c
  | .failed error => c.failed error

/-- What the connect callable does to `state_`. -/
def connectCall : Launch → ConnectCall
  | .started => ⟨[], true⟩
  | .failed _ => ⟨[false], true⟩

/-- The disconnect callable. -/
def disconnectFn (c : MqConnection α) : MqConnection α :=
  { c with connectAttemptPending := false, socket := c.socket.abort }

/-- The probe callable. -/
def probeFn (c : MqConnection α) : Bool := c.socket.state = .connected

/-- `connectToHost`: forget the old connection, set the handlers, try once. -/
def connectToHost (host : QString) (port : UInt16) (vhost user password : QString)
    (launch : Launch) (c : MqConnection α) : Reaction (MqConnection α) Effect :=
  let c := { c with
    heartbeatTimer := none
    connection := none
    inputBuffer := []
    ready := false
    error := ""
    host := host
    port := port
    vhost := vhost
    user := user
    password := password
    state := c.state.setHandlers true true true true }
  (c.connectFn launch).onState (ConnectionState.beginAutoConnect (connectCall launch))

/-- The `connected` handler makes a new `AMQP::Connection`. -/
def onSocketConnected (c : MqConnection α) : MqConnection α :=
  { c with
    socket := c.socket.establish
    connection := some (lib.create c.user c.password c.vhost) }

/-- The `error` handler; the connection may be gone with it. -/
def onSocketError (error : QString) (dropped : Bool) (c : MqConnection α) :
    Reaction (MqConnection α) Effect :=
  let pending := c.connectAttemptPending
  let c := { c.failed error with socket := if dropped then c.socket.drop else c.socket }
  if pending then c.onState (ConnectionState.reportPendingConnectResult false) else (c, [])

/-- The consume function of `readSocket`, with the calls of `parse` it made. -/
def consume (s : Option α × List Effect) (data : QByteArray) : ℕ × (Option α × List Effect) :=
  match s.1 with
  | none => (0, s)
  | some a => ((lib.parse a data).1, (some (lib.parse a data).2, s.2 ++ [.parse data]))

/-- `readSocket`. -/
def readSocket (c : MqConnection α) : Reaction (MqConnection α) Effect :=
  let fed := feed (consume lib) (c.connection, []) c.inputBuffer c.socket.unread
  ({ c with
    socket := c.socket.drained
    connection := fed.1.1
    inputBuffer := fed.2 }, fed.1.2)

/-- The slot of the AMQP heartbeat timer. -/
def onHeartbeatTimeout (c : MqConnection α) : Reaction (MqConnection α) Effect :=
  if c.connection.isSome then (c, [.heartbeat]) else (c, [])

/-- The library reports that the connection is ready for use. -/
def onReady (c : MqConnection α) : Reaction (MqConnection α) Effect :=
  onState (ConnectionState.reportPendingConnectResult true)
    { c with ready := true, error := "", connectAttemptPending := false }

/-- The library reports an error. -/
def onError (message : QString) (c : MqConnection α) : Reaction (MqConnection α) Effect :=
  if c.connectAttemptPending then
    (c.failed message).onState (ConnectionState.reportPendingConnectResult false)
  else (c.failed message, [])

/-- The library reports that the connection was closed. -/
def onClosed (c : MqConnection α) : MqConnection α :=
  { c with ready := false, heartbeatTimer := none, socket := c.socket.disconnectFromHost }

/-- The heartbeat interval is negotiated; it is accepted as offered. -/
def onNegotiate (interval : UInt16) (c : MqConnection α) : MqConnection α :=
  { c with heartbeatTimer := if interval = 0 then none else some (interval.toNat * 500) }

/-- A retry of the reconnect loop: disconnect, then connect. -/
def onReconnectTick (launch : Launch) (c : MqConnection α) : Reaction (MqConnection α) Effect :=
  let c := if c.state.disconnect then c.disconnectFn else c
  let c := if c.state.connect then c.connectFn launch else c
  c.onState (ConnectionState.reconnectTimeout (connectCall launch))

end MqConnection

/-- Everything that can happen to an `MqConnection`. -/
inductive Event where
  | connectToHost (host : QString) (port : UInt16) (vhost user password : QString) (launch : Launch)
  | socketConnected
  | socketError (error : QString) (dropped : Bool)
  | socketDisconnected
  | readyRead (chunk : QByteArray)
  | heartbeatTimeout
  | amqpData (data : QByteArray)
  | amqpReady
  | amqpError (message : QString)
  | amqpClosed
  | amqpNegotiate (interval : UInt16)
  | heartbeatTick
  | reconnectTick (launch : Launch)
  deriving DecidableEq, Repr

namespace MqConnection

/-- What one event does. -/
def handle (c : MqConnection α) : Event → Reaction (MqConnection α) Effect
  | .connectToHost host port vhost user password launch =>
    c.connectToHost host port vhost user password launch
  | .socketConnected => .silently (c.onSocketConnected lib)
  | .socketError error dropped => c.onSocketError error dropped
  | .socketDisconnected => .silently { c with socket := c.socket.drop }
  | .readyRead chunk => readSocket lib { c with socket := c.socket.receive chunk }
  | .heartbeatTimeout => c.onHeartbeatTimeout
  | .amqpData data => (c, [.write data])
  | .amqpReady => c.onReady
  | .amqpError message => c.onError message
  | .amqpClosed => .silently c.onClosed
  | .amqpNegotiate interval => .silently (c.onNegotiate interval)
  | .heartbeatTick => c.onState (ConnectionState.onHeartbeatTick c.probeFn)
  | .reconnectTick launch => c.onReconnectTick launch

/-- When an event can happen: a call of `connectToHost` does what the socket admits, the
socket connects after it started connecting, bytes arrive on an open connection, timers
fire while active, and the library calls back through an object that exists. -/
def Enabled (c : MqConnection α) : Event → Prop
  | .connectToHost _ _ _ _ _ launch => c.socket.Admits launch
  | .socketConnected => c.socket.state = .connecting
  | .socketDisconnected => c.socket.IsOpen
  | .readyRead _ => c.socket.IsOpen
  | .heartbeatTimeout => c.heartbeatTimer.isSome
  | .amqpData _ | .amqpReady | .amqpError _ | .amqpClosed | .amqpNegotiate _ =>
    c.connection.isSome
  | .heartbeatTick => c.state.heartbeatTimer.isSome
  | .reconnectTick _ => c.state.reconnectTimer.isSome
  | .socketError .. => True

instance (c : MqConnection α) (e : Event) : Decidable (c.Enabled e) := by
  cases e <;> unfold Enabled <;> infer_instance

end MqConnection

end QtAppBase.Mq
