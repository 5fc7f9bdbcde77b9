import QtAppBase.C3.Connection

/-!
# Received bytes

`onSocketReadyRead` gives the received bytes to the handshake while one is
pending, and otherwise to the first pending request in a fixed order: table
data, realtime log, control, parameters read, parameters written, record count.
Every branch appends what the socket holds to the one read buffer and decodes
the frame at its front. The events of a connection are listed at the end.
-/

namespace QtAppBase.C3

open Library QtAppBase.Core Qt

namespace C3Connection

/-- `readBuffer_.append(socket_.readAll())`. -/
def readAll (c : C3Connection) : C3Connection :=
  { c with readBuffer := c.readBuffer ++ c.socket.unread, socket := c.socket.drained }

/-! ### The handshake -/

/-- The handshake succeeded. -/
def establishSession (sessionId : UInt16) (c : C3Connection) : Reaction C3Connection Effect :=
  Reaction.andThen ({ c with error := "" }, [.sessionEstablished sessionId])
    (onState (ConnectionState.reportPendingConnectResult true))

/-- The handshake failed. -/
def failSession (error : QString) (c : C3Connection) : Reaction C3Connection Effect :=
  Reaction.andThen ({ c with error := error }, [.sessionFailed error])
    (onState (ConnectionState.reportPendingConnectResult false))

/-- A rejected CONNECT_SESSION falls back to CONNECT_SESSION_LESS. -/
def onSessionReply (c : C3Connection) : Reaction C3Connection Effect :=
  let response := decodeConnectSessionResponse c.readBuffer
  match response.status with
  | .incomplete => (c, [])
  | .ok =>
    establishSession response.sessionId { c with
      readBuffer := []
      handshakeTimer := none
      connectAttemptPending := false
      sessionId := response.sessionId
      sessionLess := false
      requestNr := kPreSessionRequestNr + 1 }
  | .rejected =>
    ({ c with
      readBuffer := []
      handshakeStep := .awaitingSessionLessReply
      handshakeTimer := some kHandshakeTimeoutMs },
     [.write (encodeConnectSessionLessRequest "")])
  | .malformed =>
    failSession "C3 session handshake malformed reply" { c with
      readBuffer := []
      handshakeTimer := none
      connectAttemptPending := false }

def onSessionLessReply (c : C3Connection) : Reaction C3Connection Effect :=
  let status := decodeGenericReply c.readBuffer
  if status = .incomplete then (c, [])
  else
    let c := { c with handshakeTimer := none, readBuffer := [], connectAttemptPending := false }
    if status = .ok then establishSession 0 { c with sessionId := 0, sessionLess := true }
    else failSession "C3 session-less handshake rejected or malformed" c

/-- The handshake branch. -/
def onHandshakeData (c : C3Connection) : Reaction C3Connection Effect :=
  match c.handshakeStep with
  | .awaitingSessionReply => c.onSessionReply
  | .awaitingSessionLessReply => c.onSessionLessReply
  | .none => (c, [])

/-! ### The table data query

The branch of this query does not always return from the handler: where the
source has no `return`, control falls through to the branches after it. -/

/-- What a branch does, and whether it returns from the handler. -/
structure Branch where
  returns : Bool
  reaction : Reaction C3Connection Effect

/-- The query ends with a failure. -/
def failDataQuery (error : QString) (c : C3Connection) : Reaction C3Connection Effect :=
  ({ c with dataQueryPending := false, dataQueryStep := .none },
   [.tableDataFailed c.pendingTableName error])

/-- The query ends with records. -/
def finishDataQuery (records : List QVariantMap) (c : C3Connection) :
    Reaction C3Connection Effect :=
  ({ c with dataQueryPending := false, dataQueryStep := .none },
   [.tableDataReceived c.pendingTableName records])

/-- The query goes on with another frame. -/
def continueDataQuery (step : DataQueryStep) (frame : QByteArray) (c : C3Connection) :
    Reaction C3Connection Effect :=
  ({ c with
    dataQueryStep := step
    requestNr := c.nextRequestNr
    dataQueryTimer := some kHandshakeTimeoutMs },
   [.write frame])

/-- A complete reply stops the timer and empties the buffer. -/
def takeDataReply (c : C3Connection) : C3Connection :=
  { c with dataQueryTimer := none, readBuffer := [] }

/-- A GETDATA frame for all columns of the configured table. -/
def getDataFrame (c : C3Connection) : QByteArray :=
  encodeGetDataRequest c.tableConfig.index (c.tableConfig.fields.map DataTableField.index)
    (!c.sessionLess) c.sessionId c.requestNr

/-- The configuration of the table is looked up by its name. -/
def onDataTableConfig (c : C3Connection) : Branch :=
  let response := decodeDataTableConfigResponse c.readBuffer (!c.sessionLess)
  if response.status = .incomplete then ⟨true, (c, [])⟩
  else if response.status ≠ .ok then
    ⟨true, c.takeDataReply.failDataQuery "failed to fetch DATATABLE_CFG"⟩
  else
    match response.tables.find? fun table => table.name = c.pendingTableName with
    | none =>
      ⟨true, c.takeDataReply.failDataQuery ("panel has no '" ++ c.pendingTableName ++ "' table")⟩
    | some table =>
      let c := { c.takeDataReply with tableConfig := table }
      ⟨false, c.continueDataQuery .awaitingTableData c.getDataFrame⟩

/-- A TRANSMIT_DATA frame for what the big-data buffer lacks. -/
def transmitDataFrame (c : C3Connection) : QByteArray :=
  encodeTransmitDataRequest (UInt32.ofNat c.bigDataBuffer.length) (!c.sessionLess) c.sessionId
    c.requestNr

/-- Records end the query; an uncompressed announcement starts the big-data transfer. -/
def onTableData (c : C3Connection) : Branch :=
  let response := decodeGetDataResponse c.readBuffer c.tableConfig.index c.tableConfig.fields
    (!c.sessionLess)
  match response.status with
  | .incomplete => ⟨true, (c, [])⟩
  | .bigDataPending =>
    if response.prepareInfo.compressed then
      ⟨true, c.takeDataReply.failDataQuery
        ("'" ++ c.pendingTableName ++ "' table reply is compressed -- not supported")⟩
    else
      let c := { c.takeDataReply with
        bigDataBuffer := []
        bigDataExpectedLength := response.prepareInfo.dataLength }
      ⟨true, c.continueDataQuery .awaitingBigDataChunk c.transmitDataFrame⟩
  | .ok => ⟨false, c.takeDataReply.finishDataQuery response.records⟩
  | _ =>
    ⟨false, c.takeDataReply.failDataQuery
      ("failed to fetch '" ++ c.pendingTableName ++ "' table GETDATA")⟩

/-- A FREE_DATA frame. -/
def freeDataFrame (c : C3Connection) : QByteArray :=
  encodeFreeDataRequest (!c.sessionLess) c.sessionId c.requestNr

/-- A chunk at the requested offset is appended; the next one is requested until
the announced length is reached. -/
def onBigDataChunk (c : C3Connection) : Branch :=
  let response := decodeTransmitDataResponse c.readBuffer (!c.sessionLess)
  if response.status = .incomplete then ⟨true, (c, [])⟩
  else if response.status ≠ .ok ∨ response.offset ≠ UInt32.ofNat c.bigDataBuffer.length then
    ⟨true, c.takeDataReply.failDataQuery
      ("failed to fetch '" ++ c.pendingTableName ++ "' table big-data chunk")⟩
  else
    let c := { c.takeDataReply with bigDataBuffer := c.bigDataBuffer ++ response.chunkData }
    if UInt32.ofNat c.bigDataBuffer.length < c.bigDataExpectedLength then
      ⟨true, c.continueDataQuery .awaitingBigDataChunk c.transmitDataFrame⟩
    else ⟨false, c.continueDataQuery .awaitingFreeDataAck c.freeDataFrame⟩

/-- Any complete reply to FREE_DATA ends the transfer with the records of the
assembled buffer. -/
def onFreeDataAck (c : C3Connection) : Branch :=
  if decodeGenericReply c.readBuffer = .incomplete then ⟨true, (c, [])⟩
  else
    let parsed := parseGetDataPayload c.bigDataBuffer c.tableConfig.index c.tableConfig.fields
    let c := { c.takeDataReply with bigDataBuffer := [] }
    if parsed.status = .ok then ⟨false, c.finishDataQuery parsed.records⟩
    else
      ⟨false, c.failDataQuery
        ("failed to parse assembled '" ++ c.pendingTableName ++ "' table data")⟩

/-- The table data branch. -/
def onDataQueryData (c : C3Connection) : Branch :=
  match c.dataQueryStep with
  | .awaitingTableConfig => c.onDataTableConfig
  | .awaitingTableData => c.onTableData
  | .awaitingBigDataChunk => c.onBigDataChunk
  | .awaitingFreeDataAck => c.onFreeDataAck
  | .none => ⟨false, (c, [])⟩

/-! ### The other requests -/

/-- A complete realtime log reply ends its request. -/
def takeRtLogReply (c : C3Connection) : C3Connection :=
  { c with
    rtLogQueryTimer := none
    readBuffer := []
    rtLogQueryPending := false
    rtLogQueryStep := .none }

/-- A payload that is no sequence of binary records switches to key/value mode. -/
def onRtLogBinaryReply (c : C3Connection) : Reaction C3Connection Effect :=
  let response := decodeRtlogBinaryResponse c.readBuffer (!c.sessionLess)
  match response.status with
  | .incomplete => (c, [])
  | .ok => (c.takeRtLogReply, [.realtimeLogReceived response.records])
  | .notBinaryMode =>
    ({ c.takeRtLogReply with rtlogCommand := kCommandRtlogKeyValue }, [.realtimeLogReceived []])
  | _ => (c.takeRtLogReply, [.realtimeLogFailed "failed to fetch RT log (binary)"])

def onRtLogKeyValueReply (c : C3Connection) : Reaction C3Connection Effect :=
  let response := decodeRtlogKeyValueResponse c.readBuffer (!c.sessionLess)
  if response.status = .incomplete then (c, [])
  else if response.status = .ok then
    (c.takeRtLogReply, [.realtimeLogKeyValueReceived response.records])
  else (c.takeRtLogReply, [.realtimeLogFailed "failed to fetch RT log (key/value)"])

/-- The realtime log branch. -/
def onRtLogQueryData (c : C3Connection) : Reaction C3Connection Effect :=
  match c.rtLogQueryStep with
  | .awaitingBinaryReply => c.onRtLogBinaryReply
  | .awaitingKeyValueReply => c.onRtLogKeyValueReply
  | .none => (c, [])

/-- The control branch. -/
def onControlData (c : C3Connection) : Reaction C3Connection Effect :=
  let status := decodeGenericReply c.readBuffer
  if status = .incomplete then (c, [])
  else
    ({ c with controlTimer := none, readBuffer := [], controlPending := false },
     [if status = .ok then .controlAcknowledged else .controlFailed "CONTROL command failed"])

/-- The branch of parameters read. -/
def onGetParamData (c : C3Connection) : Reaction C3Connection Effect :=
  let response := decodeGetParamResponse c.readBuffer (!c.sessionLess)
  if response.status = .incomplete then (c, [])
  else
    ({ c with getParamTimer := none, readBuffer := [], getParamPending := false },
     [if response.status = .ok then .deviceParamsReceived response.values
      else .deviceParamsFailed "GETPARAM request failed"])

/-- The branch of parameters written. -/
def onSetParamData (c : C3Connection) : Reaction C3Connection Effect :=
  let status := decodeGenericReply c.readBuffer
  if status = .incomplete then (c, [])
  else
    ({ c with setParamTimer := none, readBuffer := [], setParamPending := false },
     [if status = .ok then .setParamsAcknowledged else .setParamsFailed "SETPARAM request failed"])

/-- A complete reply stops the timer and empties the buffer. -/
def takeCountReply (c : C3Connection) : C3Connection :=
  { c with countQueryTimer := none, readBuffer := [] }

/-- The query ends with a failure. -/
def failCountQuery (error : QString) (c : C3Connection) : Reaction C3Connection Effect :=
  ({ c with countQueryPending := false, countQueryStep := .none },
   [.tableRecordCountFailed c.pendingCountTableName error])

def onCountTableConfig (c : C3Connection) : Reaction C3Connection Effect :=
  let response := decodeDataTableConfigResponse c.readBuffer (!c.sessionLess)
  if response.status = .incomplete then (c, [])
  else if response.status ≠ .ok then
    c.takeCountReply.failCountQuery "failed to fetch DATATABLE_CFG"
  else
    match response.tables.find? fun table => table.name = c.pendingCountTableName with
    | none =>
      c.takeCountReply.failCountQuery ("panel has no '" ++ c.pendingCountTableName ++ "' table")
    | some table =>
      ({ c.takeCountReply with
        countTableIndex := table.index
        countQueryStep := .awaitingCount
        requestNr := c.nextRequestNr
        countQueryTimer := some kHandshakeTimeoutMs },
       [.write (encodeGetDataCountRequest table.index (!c.sessionLess) c.sessionId c.requestNr)])

def onCount (c : C3Connection) : Reaction C3Connection Effect :=
  let response := decodeGetDataCountResponse c.readBuffer (!c.sessionLess)
  if response.status = .incomplete then (c, [])
  else if response.status = .ok then
    ({ c.takeCountReply with countQueryPending := false, countQueryStep := .none },
     [.tableRecordCountReceived c.pendingCountTableName response.count])
  else
    c.takeCountReply.failCountQuery
      ("failed to fetch '" ++ c.pendingCountTableName ++ "' table GETDATACOUNT")

/-- The record count branch. -/
def onCountQueryData (c : C3Connection) : Reaction C3Connection Effect :=
  match c.countQueryStep with
  | .awaitingTableConfig => c.onCountTableConfig
  | .awaitingCount => c.onCount
  | .none => (c, [])

/-- The branches after the one for table data; each returns. -/
def onOtherData (c : C3Connection) : Reaction C3Connection Effect :=
  if c.rtLogQueryPending then c.readAll.onRtLogQueryData
  else if c.controlPending then c.readAll.onControlData
  else if c.getParamPending then c.readAll.onGetParamData
  else if c.setParamPending then c.readAll.onSetParamData
  else if c.countQueryPending then c.readAll.onCountQueryData
  else (c, [])

/-- `onSocketReadyRead`. -/
def onSocketReadyRead (c : C3Connection) : Reaction C3Connection Effect :=
  if c.connectAttemptPending then c.readAll.onHandshakeData
  else if c.dataQueryPending then
    let branch := c.readAll.onDataQueryData
    if branch.returns then branch.reaction else branch.reaction.andThen onOtherData
  else c.onOtherData

end C3Connection

/-- The public calls that control the panel. -/
inductive ControlCall where
  | controlDoorOutput (doorNumber durationSeconds : UInt8)
  | controlDoorOutputNormalOpen (doorNumber : UInt8)
  | controlDoorClose (doorNumber : UInt8)
  | controlAuxOutput (auxNumber durationSeconds : UInt8)
  | cancelAlarm
  | restartDevice
  | setNormalOpenState (doorNumber : UInt8) (enabled : Bool)
  deriving DecidableEq, Repr

/-- The request calls of the caller. -/
inductive RequestCall where
  | requestTableData (tableName : QString)
  | requestTableRecordCount (tableName : QString)
  | requestRealtimeLog
  | control (call : ControlCall)
  | requestDeviceParams (parameterNames : List QString)
  | setDeviceParams (values : QVariantMap)
  deriving DecidableEq

/-- The six kinds of request. -/
inductive Kind where
  | tableData
  | recordCount
  | realtimeLog
  | control
  | getParam
  | setParam
  deriving DecidableEq, Repr

/-- The kind of a call. -/
def RequestCall.kind : RequestCall → Kind
  | .requestTableData _ => .tableData
  | .requestTableRecordCount _ => .recordCount
  | .requestRealtimeLog => .realtimeLog
  | .control _ => .control
  | .requestDeviceParams _ => .getParam
  | .setDeviceParams _ => .setParam

/-- Everything that can happen to a `C3Connection`. -/
inductive Event where
  | connectToHost (host : QString) (port : UInt16) (launch : Launch)
  | disconnectNow
  | request (call : RequestCall)
  | socketConnected
  | socketError (error : QString) (dropped : Bool)
  | socketDisconnected
  | readyRead (chunk : QByteArray)
  | handshakeTimeout
  | requestTimeout (kind : Kind)
  | heartbeatTick
  | reconnectTick (launch : Launch)
  deriving DecidableEq

namespace C3Connection

/-- Control the panel. -/
def callControl : ControlCall → C3Connection → Reaction C3Connection Effect
  | .controlDoorOutput doorNumber durationSeconds => controlDoorOutput doorNumber durationSeconds
  | .controlDoorOutputNormalOpen doorNumber => controlDoorOutputNormalOpen doorNumber
  | .controlDoorClose doorNumber => controlDoorClose doorNumber
  | .controlAuxOutput auxNumber durationSeconds => controlAuxOutput auxNumber durationSeconds
  | .cancelAlarm => cancelAlarm
  | .restartDevice => restartDevice
  | .setNormalOpenState doorNumber enabled => setNormalOpenState doorNumber enabled

/-- Make a request call. -/
def callRequest : RequestCall → C3Connection → Reaction C3Connection Effect
  | .requestTableData tableName => requestTableData tableName
  | .requestTableRecordCount tableName => requestTableRecordCount tableName
  | .requestRealtimeLog => requestRealtimeLog
  | .control call => callControl call
  | .requestDeviceParams parameterNames => requestDeviceParams parameterNames
  | .setDeviceParams values => setDeviceParams values

/-- Whether a request of a kind is pending. -/
def pending (c : C3Connection) : Kind → Bool
  | .tableData => c.dataQueryPending
  | .recordCount => c.countQueryPending
  | .realtimeLog => c.rtLogQueryPending
  | .control => c.controlPending
  | .getParam => c.getParamPending
  | .setParam => c.setParamPending

/-- The timer of a kind of request. -/
def timer (c : C3Connection) : Kind → Option ℤ
  | .tableData => c.dataQueryTimer
  | .recordCount => c.countQueryTimer
  | .realtimeLog => c.rtLogQueryTimer
  | .control => c.controlTimer
  | .getParam => c.getParamTimer
  | .setParam => c.setParamTimer

/-- A request timer fires. It is single-shot, so it is inactive while its slot runs. -/
def fireTimeout : Kind → C3Connection → Reaction C3Connection Effect
  | .tableData, c => onDataQueryTimeout { c with dataQueryTimer := none }
  | .recordCount, c => onCountQueryTimeout { c with countQueryTimer := none }
  | .realtimeLog, c => onRtLogQueryTimeout { c with rtLogQueryTimer := none }
  | .control, c => onControlTimeout { c with controlTimer := none }
  | .getParam, c => onGetParamTimeout { c with getParamTimer := none }
  | .setParam, c => onSetParamTimeout { c with setParamTimer := none }

/-- What one event does. -/
def handle (c : C3Connection) : Event → Reaction C3Connection Effect
  | .connectToHost host port launch => c.connectToHost host port launch
  | .disconnectNow => c.disconnectNow
  | .request call => c.callRequest call
  | .socketConnected => c.onSocketConnected
  | .socketError error dropped => c.onSocketError error dropped
  | .socketDisconnected => .silently { c with socket := c.socket.drop }
  | .readyRead chunk => onSocketReadyRead { c with socket := c.socket.receive chunk }
  | .handshakeTimeout => onHandshakeTimeout { c with handshakeTimer := none }
  | .requestTimeout kind => fireTimeout kind c
  | .heartbeatTick => c.onState (ConnectionState.onHeartbeatTick c.probeFn)
  | .reconnectTick launch => c.onReconnectTick launch

/-- When an event can happen: a call of `connectToHost` does what the socket admits, the
socket connects after it started connecting, bytes arrive on an open connection, and
timers fire while active. -/
def Enabled (c : C3Connection) : Event → Prop
  | .connectToHost _ _ launch => c.socket.Admits launch
  | .socketConnected => c.socket.state = .connecting
  | .socketDisconnected => c.socket.IsOpen
  | .readyRead _ => c.socket.IsOpen
  | .handshakeTimeout => c.handshakeTimer.isSome
  | .requestTimeout kind => (c.timer kind).isSome
  | .heartbeatTick => c.state.heartbeatTimer.isSome
  | .reconnectTick _ => c.state.reconnectTimer.isSome
  | .disconnectNow | .request _ | .socketError .. => True

instance (c : C3Connection) (e : Event) : Decidable (c.Enabled e) := by
  cases e <;> unfold Enabled <;> infer_instance

/-- The state machine driven by its events. -/
def machine : Mealy C3Connection Event Effect := ⟨handle⟩

end C3Connection

end QtAppBase.C3
