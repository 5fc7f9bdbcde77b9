import QtAppBase.Core.ConnectionState
import QtAppBase.Qt.TcpSocket
import QtAppBase.C3.Codec

/-!
# The C3 panel connection

`C3Connection` owns a socket, a `ConnectionState` with asynchronous results, one
read buffer, and a pending flag with a timer for each of six kinds of request.
This file has its members, the connection lifecycle, and the requests; what it
does with received bytes is the subject of the next one.
-/

namespace QtAppBase.C3

open Library QtAppBase.Core Qt

def kHandshakeTimeoutMs : ℤ := 3000

inductive HandshakeStep where
  | none
  | awaitingSessionReply
  | awaitingSessionLessReply
  deriving DecidableEq, Repr

inductive DataQueryStep where
  | none
  | awaitingTableConfig
  | awaitingTableData
  | awaitingBigDataChunk
  | awaitingFreeDataAck
  deriving DecidableEq, Repr

inductive CountQueryStep where
  | none
  | awaitingTableConfig
  | awaitingCount
  deriving DecidableEq, Repr

inductive RtLogQueryStep where
  | none
  | awaitingBinaryReply
  | awaitingKeyValueReply
  deriving DecidableEq, Repr

/-- What the driver does to the outside: frames written to the socket, and its signals. -/
inductive Effect where
  | write (frame : QByteArray)
  | connectionStateChanged (connected : Bool)
  | sessionEstablished (sessionId : UInt16)
  | sessionFailed (error : QString)
  | tableDataReceived (tableName : QString) (records : List QVariantMap)
  | tableDataFailed (tableName error : QString)
  | tableRecordCountReceived (tableName : QString) (count : UInt32)
  | tableRecordCountFailed (tableName error : QString)
  | realtimeLogReceived (records : List RtLogRecord)
  | realtimeLogKeyValueReceived (records : List QVariantMap)
  | realtimeLogFailed (error : QString)
  | deviceParamsReceived (values : QVariantMap)
  | deviceParamsFailed (error : QString)
  | setParamsAcknowledged
  | setParamsFailed (error : QString)
  | controlAcknowledged
  | controlFailed (error : QString)
  deriving DecidableEq

/-- The members of `C3Connection`. `host` and `port` are what the connect
callable captured. A timer is `none` while inactive. -/
structure C3Connection where
  socket : TcpSocket := {}
  state : ConnectionState := {}
  host : QString := ""
  port : UInt16 := 0
  error : QString := ""
  readBuffer : QByteArray := []
  handshakeTimer : Option ℤ := none
  connectAttemptPending : Bool := false
  handshakeStep : HandshakeStep := .none
  sessionId : UInt16 := 0
  sessionLess : Bool := false
  requestNr : Int32 := kPreSessionRequestNr
  dataQueryPending : Bool := false
  dataQueryStep : DataQueryStep := .none
  dataQueryTimer : Option ℤ := none
  tableConfig : DataTableConfig := {}
  pendingTableName : QString := ""
  bigDataBuffer : QByteArray := []
  bigDataExpectedLength : UInt32 := 0
  countQueryPending : Bool := false
  countQueryStep : CountQueryStep := .none
  countQueryTimer : Option ℤ := none
  countTableIndex : ℤ := -1
  pendingCountTableName : QString := ""
  rtLogQueryPending : Bool := false
  rtLogQueryStep : RtLogQueryStep := .none
  rtLogQueryTimer : Option ℤ := none
  controlPending : Bool := false
  controlTimer : Option ℤ := none
  getParamPending : Bool := false
  getParamTimer : Option ℤ := none
  setParamPending : Bool := false
  setParamTimer : Option ℤ := none
  rtlogCommand : UInt8 := kCommandRtlogBinary

namespace C3Connection

/-- The signal of `state_` that is forwarded. -/
def forward : Signal → Option Effect
  | .connectionStateChanged connected => some (.connectionStateChanged connected)
  | .reconnectingChanged _ => none

/-- An operation on the `state_` member. -/
def onState (f : ConnectionState → Reaction ConnectionState Signal) (c : C3Connection) :
    Reaction C3Connection Effect :=
  ({ c with state := (f c.state).1 }, (f c.state).2.filterMap forward)

/-- All that is forwarded is whether the connection is up. -/
theorem onState_forwards {f : ConnectionState → Reaction ConnectionState Signal} {c : C3Connection}
    {effect : Effect} (h : effect ∈ (onState f c).2) :
    ∃ connected, effect = .connectionStateChanged connected := by
  obtain ⟨signal, _, hsignal⟩ := List.mem_filterMap.mp h
  cases signal with
  | connectionStateChanged connected => exact ⟨connected, (Option.some.inj hsignal).symm⟩
  | reconnectingChanged _ => cases hsignal

/-- A session exists, with or without an id. -/
def hasSession (c : C3Connection) : Bool := c.sessionId ≠ 0 || c.sessionLess

/-- `isReady`. -/
def isReady (c : C3Connection) : Bool := c.hasSession && c.socket.state = .connected

/-! ### The connection lifecycle -/

/-- Forget every request: flags, steps and timers. -/
def dropRequests (c : C3Connection) : C3Connection :=
  { c with
    dataQueryPending := false
    dataQueryStep := .none
    dataQueryTimer := none
    countQueryPending := false
    countQueryStep := .none
    countQueryTimer := none
    rtLogQueryPending := false
    rtLogQueryStep := .none
    rtLogQueryTimer := none
    controlPending := false
    controlTimer := none
    getParamPending := false
    getParamTimer := none
    setParamPending := false
    setParamTimer := none }

/-- The error handler, up to its report to `state_`: what it leaves behind, what
it emits, and whether a connect attempt was pending. -/
def failAttempt (error : QString) (c : C3Connection) : Reaction C3Connection Effect :=
  let c := { c.dropRequests with error := error, handshakeTimer := none }
  if c.connectAttemptPending then
    ({ c with connectAttemptPending := false, handshakeStep := .none }, [.sessionFailed error])
  else (c, [])

/-- The connect callable, up to the report its call makes when the socket fails
from inside `connectToHost`. -/
def connectFn (launch : Launch) (c : C3Connection) : Reaction C3Connection Effect :=
  let c := { c with
    error := ""
    readBuffer := []
    connectAttemptPending := true
    socket := c.socket.connectToHost launch }
  match launch with
  | .started => (c, [])
  | .failed error => c.failAttempt error

/-- What the connect callable does to `state_`. -/
def connectCall : Launch → ConnectCall
  | .started => ⟨[], true⟩
  | .failed _ => ⟨[false], true⟩

/-- The probe callable. -/
def probeFn (c : C3Connection) : Bool :=
  c.hasSession && !c.connectAttemptPending && c.socket.state = .connected

/-- The disconnect callable. -/
def disconnectFn (c : C3Connection) : C3Connection :=
  { c with socket := c.socket.abort, handshakeTimer := none }

/-- `connectToHost`: set the handlers, try once. -/
def connectToHost (host : QString) (port : UInt16) (launch : Launch) (c : C3Connection) :
    Reaction C3Connection Effect :=
  let c := { c with
    error := ""
    host := host
    port := port
    state := c.state.setHandlers true true true true }
  (c.connectFn launch).andThen (onState (ConnectionState.beginAutoConnect (connectCall launch)))

/-- `onSocketConnected`: start the handshake. -/
def onSocketConnected (c : C3Connection) : Reaction C3Connection Effect :=
  ({ c with
    socket := c.socket.establish
    requestNr := kPreSessionRequestNr
    handshakeStep := .awaitingSessionReply
    readBuffer := []
    handshakeTimer := some kHandshakeTimeoutMs },
   [.write (encodeConnectSessionRequest "")])

/-- `onSocketError`; the connection may be gone with it. -/
def onSocketError (error : QString) (dropped : Bool) (c : C3Connection) :
    Reaction C3Connection Effect :=
  let pending := c.connectAttemptPending
  let c := { c with socket := if dropped then c.socket.drop else c.socket }
  if pending then
    (c.failAttempt error).andThen (onState (ConnectionState.reportPendingConnectResult false))
  else c.failAttempt error

/-- `onHandshakeTimeout`: drop the connection. -/
def onHandshakeTimeout (c : C3Connection) : Reaction C3Connection Effect :=
  let error := "C3 session handshake timed out"
  let c := { c with error := error, socket := c.socket.abort }
  if c.connectAttemptPending then
    Reaction.andThen
      ({ c with connectAttemptPending := false, handshakeStep := .none }, [.sessionFailed error])
      (onState (ConnectionState.reportPendingConnectResult false))
  else (c, [])

/-- The frame that ends the session, if there is one. -/
def disconnectFrames (c : C3Connection) : List Effect :=
  if c.isReady then
    if c.sessionLess then [.write encodeSessionLessDisconnectRequest]
    else [.write (encodeDisconnectRequest c.sessionId c.requestNr)]
  else []

/-- `disconnectNow`. The operation of `state_` calls the disconnect callable. -/
def disconnectNow (c : C3Connection) : Reaction C3Connection Effect :=
  let frames := c.disconnectFrames
  let c := { c.dropRequests with
    sessionId := 0
    sessionLess := false
    handshakeTimer := none
    handshakeStep := .none }
  let c := if c.state.disconnect then c.disconnectFn else c
  Reaction.andThen (c, frames) (onState ConnectionState.disconnectNow)

/-- A retry of the reconnect loop: disconnect, then connect. -/
def onReconnectTick (launch : Launch) (c : C3Connection) : Reaction C3Connection Effect :=
  let c := if c.state.disconnect then c.disconnectFn else c
  let r := if c.state.connect then c.connectFn launch else (c, [])
  r.andThen (onState (ConnectionState.reconnectTimeout (connectCall launch)))

/-! ### Requests -/

/-- The request number after a frame was sent: sessions count, session-less connections do not. -/
def nextRequestNr (c : C3Connection) : Int32 :=
  if !c.sessionLess then c.requestNr + 1 else c.requestNr

def requestTableData (tableName : QString) (c : C3Connection) : Reaction C3Connection Effect :=
  if !c.isReady || c.dataQueryPending then (c, [])
  else
    ({ c with
      dataQueryPending := true
      dataQueryStep := .awaitingTableConfig
      pendingTableName := tableName
      readBuffer := []
      requestNr := c.nextRequestNr
      dataQueryTimer := some kHandshakeTimeoutMs },
     [.write (encodeDataTableConfigRequest (!c.sessionLess) c.sessionId c.requestNr)])

def onDataQueryTimeout (c : C3Connection) : Reaction C3Connection Effect :=
  ({ c with dataQueryPending := false, dataQueryStep := .none },
   [.tableDataFailed c.pendingTableName "table data query timed out"])

def requestTableRecordCount (tableName : QString) (c : C3Connection) :
    Reaction C3Connection Effect :=
  if !c.isReady || c.countQueryPending then (c, [])
  else
    ({ c with
      countQueryPending := true
      countQueryStep := .awaitingTableConfig
      pendingCountTableName := tableName
      readBuffer := []
      requestNr := c.nextRequestNr
      countQueryTimer := some kHandshakeTimeoutMs },
     [.write (encodeDataTableConfigRequest (!c.sessionLess) c.sessionId c.requestNr)])

def onCountQueryTimeout (c : C3Connection) : Reaction C3Connection Effect :=
  ({ c with countQueryPending := false, countQueryStep := .none },
   [.tableRecordCountFailed c.pendingCountTableName "table record count query timed out"])

def requestRealtimeLog (c : C3Connection) : Reaction C3Connection Effect :=
  if !c.isReady || c.rtLogQueryPending then (c, [])
  else
    let binary : Bool := c.rtlogCommand = kCommandRtlogBinary
    ({ c with
      rtLogQueryPending := true
      rtLogQueryStep := if binary then .awaitingBinaryReply else .awaitingKeyValueReply
      readBuffer := []
      requestNr := c.nextRequestNr
      rtLogQueryTimer := some kHandshakeTimeoutMs },
     [.write
       (if binary then encodeRtlogBinaryRequest (!c.sessionLess) c.sessionId c.requestNr
        else encodeRtlogKeyValueRequest (!c.sessionLess) c.sessionId c.requestNr)])

def onRtLogQueryTimeout (c : C3Connection) : Reaction C3Connection Effect :=
  ({ c with rtLogQueryPending := false, rtLogQueryStep := .none },
   [.realtimeLogFailed "RT log query timed out"])

def sendControlRequest (operation : ControlOperation) (param1 param2 param3 : UInt8)
    (c : C3Connection) : Reaction C3Connection Effect :=
  if !c.isReady || c.controlPending then (c, [])
  else
    ({ c with
      controlPending := true
      readBuffer := []
      requestNr := c.nextRequestNr
      controlTimer := some kHandshakeTimeoutMs },
     [.write (encodeControlRequest operation param1 param2 param3 (!c.sessionLess) c.sessionId
       c.requestNr)])

def controlDoorOutput (doorNumber durationSeconds : UInt8) :
    C3Connection → Reaction C3Connection Effect :=
  sendControlRequest .output doorNumber ControlOutputAddress.door.code durationSeconds

def controlDoorOutputNormalOpen (doorNumber : UInt8) :
    C3Connection → Reaction C3Connection Effect :=
  sendControlRequest .output doorNumber ControlOutputAddress.door.code 255

def controlDoorClose (doorNumber : UInt8) : C3Connection → Reaction C3Connection Effect :=
  sendControlRequest .output doorNumber ControlOutputAddress.door.code 0

def controlAuxOutput (auxNumber durationSeconds : UInt8) :
    C3Connection → Reaction C3Connection Effect :=
  sendControlRequest .output auxNumber ControlOutputAddress.aux.code durationSeconds

def cancelAlarm : C3Connection → Reaction C3Connection Effect :=
  sendControlRequest .cancelAlarm 0 0 0

def restartDevice : C3Connection → Reaction C3Connection Effect :=
  sendControlRequest .restartDevice 0 0 0

def setNormalOpenState (doorNumber : UInt8) (enabled : Bool) :
    C3Connection → Reaction C3Connection Effect :=
  sendControlRequest .enableDisableNormalOpen doorNumber (if enabled then 1 else 0) 0

def onControlTimeout (c : C3Connection) : Reaction C3Connection Effect :=
  ({ c with controlPending := false }, [.controlFailed "CONTROL command timed out"])

def requestDeviceParams (parameterNames : List QString) (c : C3Connection) :
    Reaction C3Connection Effect :=
  if !c.isReady || c.getParamPending then (c, [])
  else
    ({ c with
      getParamPending := true
      readBuffer := []
      requestNr := c.nextRequestNr
      getParamTimer := some kHandshakeTimeoutMs },
     [.write (encodeGetParamRequest parameterNames (!c.sessionLess) c.sessionId c.requestNr)])

def onGetParamTimeout (c : C3Connection) : Reaction C3Connection Effect :=
  ({ c with getParamPending := false }, [.deviceParamsFailed "GETPARAM request timed out"])

def setDeviceParams (values : QVariantMap) (c : C3Connection) : Reaction C3Connection Effect :=
  if !c.isReady || c.setParamPending then (c, [])
  else
    ({ c with
      setParamPending := true
      readBuffer := []
      requestNr := c.nextRequestNr
      setParamTimer := some kHandshakeTimeoutMs },
     [.write (encodeSetParamRequest values (!c.sessionLess) c.sessionId c.requestNr)])

def onSetParamTimeout (c : C3Connection) : Reaction C3Connection Effect :=
  ({ c with setParamPending := false }, [.setParamsFailed "SETPARAM request timed out"])

end C3Connection

end QtAppBase.C3
