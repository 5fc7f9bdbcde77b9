import QtAppBase.Core.ConnectionState
import QtAppBase.Qt.TcpSocket
import QtAppBase.Modbus.Codec

/-!
# The Modbus TCP connection

`ModbusConnection` owns a socket, a `ConnectionState` with asynchronous results,
one read buffer, and one pending request with its timer. Requests are numbered
by a transaction id that is encoded in each frame.
-/

namespace QtAppBase.Modbus

open Library QtAppBase.Core Qt

inductive PendingRequest where
  | none
  | readHoldingRegisters
  | writeSingleRegister
  | writeMultipleRegisters
  | readInputRegisters
  | readCoils
  | readDiscreteInputs
  | writeSingleCoil
  | writeMultipleCoils
  deriving DecidableEq, Repr

/-- What the driver does to the outside: frames written to the socket, and its signals. -/
inductive Effect where
  | write (frame : QByteArray)
  | connectionStateChanged (connected : Bool)
  | holdingRegistersRead (registers : List UInt16)
  | inputRegistersRead (registers : List UInt16)
  | coilsRead (coils : List Bool)
  | discreteInputsRead (inputs : List Bool)
  | readFailed (error : QString)
  | singleRegisterWritten (address value : UInt16)
  | writeFailed (error : QString)
  | multipleRegistersWritten (startAddress quantity : UInt16)
  | multipleWriteFailed (error : QString)
  | singleCoilWritten (address : UInt16) (value : Bool)
  | singleCoilWriteFailed (error : QString)
  | multipleCoilsWritten (startAddress quantity : UInt16)
  | multipleCoilWriteFailed (error : QString)
  deriving DecidableEq, Repr

/-- The members of `ModbusConnection`. `host` and `port` are what the connect
callable captured. The timer is `none` while inactive. -/
structure ModbusConnection where
  socket : TcpSocket := {}
  state : ConnectionState := {}
  host : QString := ""
  port : UInt16 := 0
  error : QString := ""
  readBuffer : QByteArray := []
  nextTransactionId : UInt16 := 1
  pendingRequest : PendingRequest := .none
  requestTimer : Option ℤ := none
  requestTimeoutMs : ℤ := 1000

/-- The request calls of the caller. -/
inductive RequestCall where
  | readHoldingRegisters (unitId : UInt8) (startAddress quantity : UInt16)
  | readInputRegisters (unitId : UInt8) (startAddress quantity : UInt16)
  | readCoils (unitId : UInt8) (startAddress quantity : UInt16)
  | readDiscreteInputs (unitId : UInt8) (startAddress quantity : UInt16)
  | writeSingleRegister (unitId : UInt8) (address value : UInt16)
  | writeMultipleRegisters (unitId : UInt8) (startAddress : UInt16) (values : List UInt16)
  | writeSingleCoil (unitId : UInt8) (address : UInt16) (value : Bool)
  | writeMultipleCoils (unitId : UInt8) (startAddress : UInt16) (values : List Bool)
  deriving DecidableEq, Repr

namespace ModbusConnection

/-- The signal of `state_` that is forwarded. -/
def forward : Signal → Option Effect
  | .connectionStateChanged connected => some (.connectionStateChanged connected)
  | .reconnectingChanged _ => none

/-- An operation on the `state_` member. When it signals that the connection is
gone, the request is forgotten; its timer keeps running. -/
def onState (f : ConnectionState → Reaction ConnectionState Signal) (c : ModbusConnection) :
    Reaction ModbusConnection Effect :=
  let r := f c.state
  let lost := r.2.any fun signal => signal = .connectionStateChanged false
  ({ c with
    state := r.1
    readBuffer := if lost then [] else c.readBuffer
    pendingRequest := if lost then .none else c.pendingRequest },
   r.2.filterMap forward)

/-- All that is forwarded is whether the connection is up. -/
theorem onState_forwards {f : ConnectionState → Reaction ConnectionState Signal}
    {c : ModbusConnection} {effect : Effect} (h : effect ∈ (onState f c).2) :
    ∃ connected, effect = .connectionStateChanged connected := by
  obtain ⟨signal, _, hsignal⟩ := List.mem_filterMap.mp h
  cases signal with
  | connectionStateChanged connected => exact ⟨connected, (Option.some.inj hsignal).symm⟩
  | reconnectingChanged _ => cases hsignal

/-- `isReady`. -/
def isReady (c : ModbusConnection) : Bool := c.state.connected

/-- The connect callable, with what the error handler leaves behind when the
socket fails from inside `connectToHost`. -/
def connectFn (launch : Launch) (c : ModbusConnection) : ModbusConnection :=
  { c with
    error := match launch with
      | .started => ""
      | .failed error => error
    socket := c.socket.connectToHost launch }

/-- What the connect callable does to `state_`. -/
def connectCall : Launch → ConnectCall
  | .started => ⟨[], true⟩
  | .failed _ => ⟨[false], true⟩

/-- The probe callable. -/
def probeFn (c : ModbusConnection) : Bool := c.socket.state = .connected

/-- The disconnect callable. -/
def disconnectFn (c : ModbusConnection) : ModbusConnection := { c with socket := c.socket.abort }

/-- `connectToHost`: forget the request, set the handlers, try once. -/
def connectToHost (host : QString) (port : UInt16) (launch : Launch) (c : ModbusConnection) :
    Reaction ModbusConnection Effect :=
  let c := { c with
    error := ""
    readBuffer := []
    pendingRequest := .none
    requestTimer := none
    host := host
    port := port
    state := c.state.setHandlers true true true true }
  (c.connectFn launch).onState (ConnectionState.beginAutoConnect (connectCall launch))

/-- `disconnectNow`. The operation of `state_` calls the disconnect callable. -/
def disconnectNow (c : ModbusConnection) : Reaction ModbusConnection Effect :=
  let r := onState ConnectionState.disconnectNow (if c.state.disconnect then c.disconnectFn else c)
  ({ r.1 with
    socket := r.1.socket.abort
    readBuffer := []
    pendingRequest := .none
    requestTimer := none }, r.2)

def setRequestTimeoutMs (ms : ℤ) (c : ModbusConnection) : ModbusConnection :=
  { c with requestTimeoutMs := ms }

/-- Start a timer; a negative interval does not start it. -/
def started (ms : ℤ) : Option ℤ := if ms < 0 then none else some ms

/-! ### Requests -/

/-- Write a frame, unless a request is pending; the next one gets another id. -/
def sendRequest (pendingRequest : PendingRequest) (frame : QByteArray) (c : ModbusConnection) :
    Reaction ModbusConnection Effect :=
  if !c.isReady || c.pendingRequest ≠ .none then (c, [])
  else
    ({ c with
      nextTransactionId := c.nextTransactionId + 1
      pendingRequest := pendingRequest
      requestTimer := started c.requestTimeoutMs },
     [.write frame])

def readHoldingRegisters (unitId : UInt8) (startAddress quantity : UInt16) (c : ModbusConnection) :
    Reaction ModbusConnection Effect :=
  c.sendRequest .readHoldingRegisters <| encodeReadHoldingRegistersRequest
    { transactionId := c.nextTransactionId
      unitId := unitId
      startAddress := startAddress
      quantity := quantity }

def readInputRegisters (unitId : UInt8) (startAddress quantity : UInt16) (c : ModbusConnection) :
    Reaction ModbusConnection Effect :=
  c.sendRequest .readInputRegisters <| encodeReadInputRegistersRequest
    { transactionId := c.nextTransactionId
      unitId := unitId
      startAddress := startAddress
      quantity := quantity }

def readCoils (unitId : UInt8) (startAddress quantity : UInt16) (c : ModbusConnection) :
    Reaction ModbusConnection Effect :=
  c.sendRequest .readCoils <| encodeReadCoilsRequest
    { transactionId := c.nextTransactionId
      unitId := unitId
      startAddress := startAddress
      quantity := quantity }

def readDiscreteInputs (unitId : UInt8) (startAddress quantity : UInt16) (c : ModbusConnection) :
    Reaction ModbusConnection Effect :=
  c.sendRequest .readDiscreteInputs <| encodeReadDiscreteInputsRequest
    { transactionId := c.nextTransactionId
      unitId := unitId
      startAddress := startAddress
      quantity := quantity }

def writeSingleRegister (unitId : UInt8) (address value : UInt16) (c : ModbusConnection) :
    Reaction ModbusConnection Effect :=
  c.sendRequest .writeSingleRegister <| encodeWriteSingleRegisterRequest
    { transactionId := c.nextTransactionId
      unitId := unitId
      address := address
      value := value }

def writeMultipleRegisters (unitId : UInt8) (startAddress : UInt16) (values : List UInt16)
    (c : ModbusConnection) : Reaction ModbusConnection Effect :=
  c.sendRequest .writeMultipleRegisters <| encodeWriteMultipleRegistersRequest
    { transactionId := c.nextTransactionId
      unitId := unitId
      startAddress := startAddress
      values := values }

def writeSingleCoil (unitId : UInt8) (address : UInt16) (value : Bool) (c : ModbusConnection) :
    Reaction ModbusConnection Effect :=
  c.sendRequest .writeSingleCoil <| encodeWriteSingleCoilRequest
    { transactionId := c.nextTransactionId
      unitId := unitId
      address := address
      value := value }

def writeMultipleCoils (unitId : UInt8) (startAddress : UInt16) (values : List Bool)
    (c : ModbusConnection) : Reaction ModbusConnection Effect :=
  c.sendRequest .writeMultipleCoils <| encodeWriteMultipleCoilsRequest
    { transactionId := c.nextTransactionId
      unitId := unitId
      startAddress := startAddress
      values := values }

/-! ### Received bytes -/

/-- The text of a Modbus exception. -/
def exceptionText (exceptionCode : UInt8) : QString :=
  "Modbus exception code " ++ toString exceptionCode.toNat

def malformedText : QString := "Malformed Modbus response"

def timedOutText : QString := "timed out waiting for a response"

/-- A complete response ends the request with one of its signals. -/
def onResponse {α : Type} (response : Response α) (succeeded : α → Effect)
    (failed : QString → Effect) (c : ModbusConnection) : Reaction ModbusConnection Effect :=
  match response.status with
  | .incomplete => (c, [])
  | status =>
    ({ c with readBuffer := [], pendingRequest := .none, requestTimer := none },
     [match status with
      | .ok => succeeded response.content
      | .exception => failed (exceptionText response.exceptionCode)
      | _ => failed malformedText])

/-- `readBuffer_.append(socket_.readAll())`. -/
def readAll (c : ModbusConnection) : ModbusConnection :=
  { c with readBuffer := c.readBuffer ++ c.socket.unread, socket := c.socket.drained }

/-- `onSocketReadyRead`. Bytes that nothing waits for are dropped. -/
def onSocketReadyRead (c : ModbusConnection) : Reaction ModbusConnection Effect :=
  let c := c.readAll
  match c.pendingRequest with
  | .readHoldingRegisters =>
    c.onResponse (decodeReadHoldingRegistersResponse c.readBuffer) .holdingRegistersRead .readFailed
  | .readInputRegisters =>
    c.onResponse (decodeReadInputRegistersResponse c.readBuffer) .inputRegistersRead .readFailed
  | .writeSingleRegister =>
    c.onResponse (decodeWriteSingleRegisterResponse c.readBuffer)
      (fun content => .singleRegisterWritten content.1 content.2) .writeFailed
  | .writeMultipleRegisters =>
    c.onResponse (decodeWriteMultipleRegistersResponse c.readBuffer)
      (fun content => .multipleRegistersWritten content.1 content.2) .multipleWriteFailed
  | .readCoils => c.onResponse (decodeReadCoilsResponse c.readBuffer) .coilsRead .readFailed
  | .readDiscreteInputs =>
    c.onResponse (decodeReadDiscreteInputsResponse c.readBuffer) .discreteInputsRead .readFailed
  | .writeSingleCoil =>
    c.onResponse (decodeWriteSingleCoilResponse c.readBuffer)
      (fun content => .singleCoilWritten content.1 content.2) .singleCoilWriteFailed
  | .writeMultipleCoils =>
    c.onResponse (decodeWriteMultipleCoilsResponse c.readBuffer)
      (fun content => .multipleCoilsWritten content.1 content.2) .multipleCoilWriteFailed
  | .none => ({ c with readBuffer := [] }, [])

/-- The failure signal of a request. -/
def failure : PendingRequest → Option (QString → Effect)
  | .readHoldingRegisters | .readInputRegisters | .readCoils | .readDiscreteInputs =>
    some .readFailed
  | .writeSingleRegister => some .writeFailed
  | .writeMultipleRegisters => some .multipleWriteFailed
  | .writeSingleCoil => some .singleCoilWriteFailed
  | .writeMultipleCoils => some .multipleCoilWriteFailed
  | .none => none

/-- `onRequestTimeout`. -/
def onRequestTimeout (c : ModbusConnection) : Reaction ModbusConnection Effect :=
  ({ c with pendingRequest := .none, readBuffer := [] },
   ((failure c.pendingRequest).map fun failed => failed timedOutText).toList)

/-! ### Events -/

/-- The socket is connected. -/
def onSocketConnected (c : ModbusConnection) : Reaction ModbusConnection Effect :=
  onState (ConnectionState.reportPendingConnectResult true) { c with socket := c.socket.establish }

/-- The socket reports an error; the connection may be gone with it. -/
def onSocketError (error : QString) (dropped : Bool) (c : ModbusConnection) :
    Reaction ModbusConnection Effect :=
  onState (ConnectionState.reportPendingConnectResult false)
    { c with error := error, socket := if dropped then c.socket.drop else c.socket }

/-- A retry of the reconnect loop: disconnect, then connect. -/
def onReconnectTick (launch : Launch) (c : ModbusConnection) : Reaction ModbusConnection Effect :=
  let c := if c.state.disconnect then c.disconnectFn else c
  let c := if c.state.connect then c.connectFn launch else c
  c.onState (ConnectionState.reconnectTimeout (connectCall launch))

/-- Make a request call. -/
def callRequest : RequestCall → ModbusConnection → Reaction ModbusConnection Effect
  | .readHoldingRegisters unitId startAddress quantity =>
    readHoldingRegisters unitId startAddress quantity
  | .readInputRegisters unitId startAddress quantity =>
    readInputRegisters unitId startAddress quantity
  | .readCoils unitId startAddress quantity => readCoils unitId startAddress quantity
  | .readDiscreteInputs unitId startAddress quantity =>
    readDiscreteInputs unitId startAddress quantity
  | .writeSingleRegister unitId address value => writeSingleRegister unitId address value
  | .writeMultipleRegisters unitId startAddress values =>
    writeMultipleRegisters unitId startAddress values
  | .writeSingleCoil unitId address value => writeSingleCoil unitId address value
  | .writeMultipleCoils unitId startAddress values =>
    writeMultipleCoils unitId startAddress values

end ModbusConnection

/-- Everything that can happen to a `ModbusConnection`. -/
inductive Event where
  | connectToHost (host : QString) (port : UInt16) (launch : Launch)
  | disconnectNow
  | setRequestTimeoutMs (ms : ℤ)
  | request (call : RequestCall)
  | socketConnected
  | socketError (error : QString) (dropped : Bool)
  | socketDisconnected
  | readyRead (chunk : QByteArray)
  | requestTimeout
  | heartbeatTick
  | reconnectTick (launch : Launch)
  deriving DecidableEq, Repr

namespace ModbusConnection

/-- What one event does. The request timer is single-shot, so it is inactive
while its slot runs. -/
def handle (c : ModbusConnection) : Event → Reaction ModbusConnection Effect
  | .connectToHost host port launch => c.connectToHost host port launch
  | .disconnectNow => c.disconnectNow
  | .setRequestTimeoutMs ms => .silently (c.setRequestTimeoutMs ms)
  | .request call => c.callRequest call
  | .socketConnected => c.onSocketConnected
  | .socketError error dropped => c.onSocketError error dropped
  | .socketDisconnected => .silently { c with socket := c.socket.drop }
  | .readyRead chunk => onSocketReadyRead { c with socket := c.socket.receive chunk }
  | .requestTimeout => onRequestTimeout { c with requestTimer := none }
  | .heartbeatTick => c.onState (ConnectionState.onHeartbeatTick c.probeFn)
  | .reconnectTick launch => c.onReconnectTick launch

/-- When an event can happen: a call of `connectToHost` does what the socket admits, the
socket connects after it started connecting, bytes arrive on an open connection, and
timers fire while active. -/
def Enabled (c : ModbusConnection) : Event → Prop
  | .connectToHost _ _ launch => c.socket.Admits launch
  | .socketConnected => c.socket.state = .connecting
  | .socketDisconnected => c.socket.IsOpen
  | .readyRead _ => c.socket.IsOpen
  | .requestTimeout => c.requestTimer.isSome
  | .heartbeatTick => c.state.heartbeatTimer.isSome
  | .reconnectTick _ => c.state.reconnectTimer.isSome
  | .disconnectNow | .setRequestTimeoutMs _ | .request _ | .socketError .. => True

instance (c : ModbusConnection) (e : Event) : Decidable (c.Enabled e) := by
  cases e <;> unfold Enabled <;> infer_instance

end ModbusConnection

end QtAppBase.Modbus
