import QtAppBase.C3.ReadyRead
import QtAppBase.C3.FrameDecoding

/-!
# What received bytes do to the requests

Received bytes go to one kind of request. While the frame at the front of the
buffer is incomplete, nothing else happens; a complete frame empties the buffer
and is followed either by another frame of the same request or by its outcome.
This is stated once for all branches of `onSocketReadyRead`.
-/

namespace QtAppBase.C3

open Library QtAppBase.Core Qt

/-- The kind of request a signal is an outcome of. -/
def Effect.outcomeKind : Effect → Option Kind
  | .tableDataReceived .. | .tableDataFailed .. => some .tableData
  | .tableRecordCountReceived .. | .tableRecordCountFailed .. => some .recordCount
  | .realtimeLogReceived _ | .realtimeLogKeyValueReceived _ | .realtimeLogFailed _ =>
    some .realtimeLog
  | .controlAcknowledged | .controlFailed _ => some .control
  | .deviceParamsReceived _ | .deviceParamsFailed _ => some .getParam
  | .setParamsAcknowledged | .setParamsFailed _ => some .setParam
  | .write _ | .connectionStateChanged _ | .sessionEstablished _ | .sessionFailed _ => none

/-- A frame is written. -/
def Effect.isWrite : Effect → Bool
  | .write _ => true
  | _ => false

/-- The members that belong to the connection and its session. -/
structure Lifecycle where
  socketState : SocketState
  state : ConnectionState
  sessionId : UInt16
  sessionLess : Bool
  connectAttemptPending : Bool
  handshakeStep : HandshakeStep
  handshakeTimer : Option ℤ

namespace C3Connection

variable {c d : C3Connection}

def lifecycle (c : C3Connection) : Lifecycle where
  socketState := c.socket.state
  state := c.state
  sessionId := c.sessionId
  sessionLess := c.sessionLess
  connectAttemptPending := c.connectAttemptPending
  handshakeStep := c.handshakeStep
  handshakeTimer := c.handshakeTimer

/-- The kind of request received bytes go to. -/
def dispatch (c : C3Connection) : Option Kind :=
  if c.dataQueryPending then some .tableData
  else if c.rtLogQueryPending then some .realtimeLog
  else if c.controlPending then some .control
  else if c.getParamPending then some .getParam
  else if c.setParamPending then some .setParam
  else if c.countQueryPending then some .recordCount
  else none

/-- Bytes go to a pending kind, if there is one. -/
theorem dispatch_pending {k : Kind} (h : c.dispatch = some k) : c.pending k = true := by
  unfold dispatch at h
  split_ifs at h with h1 h2 h3 h4 h5 h6 <;> cases h <;> simpa [pending]

/-- Bytes go nowhere only while nothing is pending. -/
theorem dispatch_none : c.dispatch = none ↔ ∀ k, c.pending k = false := by
  constructor
  · intro h k
    unfold dispatch at h
    split_ifs at h with h1 h2 h3 h4 h5 h6
    cases k <;> simp_all [pending]
  · intro h
    have h1 := h .tableData
    have h2 := h .realtimeLog
    have h3 := h .control
    have h4 := h .getParam
    have h5 := h .setParam
    have h6 := h .recordCount
    simp_all [dispatch, pending]

/-- A pending query knows which reply it waits for. -/
structure Stepping (c : C3Connection) : Prop where
  /-- The table data query. -/
  tableData : c.dataQueryPending → c.dataQueryStep ≠ .none
  /-- The record count query. -/
  recordCount : c.countQueryPending → c.countQueryStep ≠ .none
  /-- The realtime log query. -/
  realtimeLog : c.rtLogQueryPending → c.rtLogQueryStep ≠ .none

/-- What a complete reply to a request of kind `k` leads to. -/
structure Answered (k : Kind) (c : C3Connection) (r : Reaction C3Connection Effect) : Prop where
  /-- The read buffer is empty. -/
  readBuffer : r.1.readBuffer = []
  /-- The socket is empty. -/
  unread : r.1.socket.unread = []
  /-- The connection and its session are untouched. -/
  lifecycle : r.1.lifecycle = c.lifecycle
  /-- Requests of other kinds are untouched. -/
  others : ∀ j, j ≠ k → r.1.pending j = c.pending j
  /-- Pending queries still know which reply they wait for. -/
  stepping : Stepping r.1
  /-- The request goes on with a frame, or ends with its outcome. -/
  result : (r.1.pending k = true ∧ ∃ frame, r.2 = [.write frame]) ∨
    (r.1.pending k = false ∧ ∃ outcome, r.2 = [outcome] ∧ outcome.outcomeKind = some k)

/-- The state a reply was decoded in matters only for the members it keeps. -/
theorem Answered.of_same {k : Kind} {r : Reaction C3Connection Effect} (h : Answered k d r)
    (hlifecycle : d.lifecycle = c.lifecycle) (hpending : d.pending = c.pending) :
    Answered k c r :=
  ⟨h.readBuffer, h.unread, h.lifecycle.trans hlifecycle,
    fun j hj => by rw [h.others j hj, hpending], h.stepping, h.result⟩

/-- An outcome is no frame. -/
theorem isWrite_outcome {outcome : Effect} {k : Kind} (h : outcome.outcomeKind = some k) :
    outcome.isWrite = false := by
  cases outcome <;> first | rfl | cases h

/-! ### The branches -/

/-- A state in which a complete reply has just been taken from the buffer. -/
structure Emptied (c : C3Connection) : Prop where
  /-- The read buffer is empty. -/
  readBuffer : c.readBuffer = []
  /-- The socket is empty. -/
  unread : c.socket.unread = []
  /-- Pending queries know which reply they wait for. -/
  stepping : Stepping c

theorem failDataQuery_answered (h : Emptied c) (error : QString) :
    Answered .tableData c (c.failDataQuery error) := by
  refine ⟨h.readBuffer, h.unread, rfl, ?_, ?_, Or.inr ⟨rfl, _, rfl, rfl⟩⟩
  · intro j hj
    cases j <;> first | rfl | exact absurd rfl hj
  · exact ⟨fun hp => absurd hp Bool.false_ne_true, h.stepping.recordCount, h.stepping.realtimeLog⟩

theorem finishDataQuery_answered (h : Emptied c) (records : List QVariantMap) :
    Answered .tableData c (c.finishDataQuery records) := by
  refine ⟨h.readBuffer, h.unread, rfl, ?_, ?_, Or.inr ⟨rfl, _, rfl, rfl⟩⟩
  · intro j hj
    cases j <;> first | rfl | exact absurd rfl hj
  · exact ⟨fun hp => absurd hp Bool.false_ne_true, h.stepping.recordCount, h.stepping.realtimeLog⟩

theorem continueDataQuery_answered (h : Emptied c) (hpending : c.dataQueryPending = true)
    (step : DataQueryStep) (hstep : step ≠ .none) (frame : QByteArray) :
    Answered .tableData c (c.continueDataQuery step frame) := by
  refine ⟨h.readBuffer, h.unread, rfl, ?_, ?_, Or.inl ⟨hpending, _, rfl⟩⟩
  · intro j _
    cases j <;> rfl
  · exact ⟨fun _ => hstep, h.stepping.recordCount, h.stepping.realtimeLog⟩

/-- A complete reply, taken from the buffer, leaves it emptied. -/
theorem takeDataReply_emptied (hunread : c.socket.unread = []) (hstepping : Stepping c) :
    Emptied c.takeDataReply :=
  ⟨rfl, hunread, hstepping.tableData, hstepping.recordCount, hstepping.realtimeLog⟩

theorem onDataTableConfig_answered (hunread : c.socket.unread = []) (hstepping : Stepping c)
    (hpending : c.dataQueryPending = true) (hcomplete : ¬ Partial c.readBuffer) :
    Answered .tableData c c.onDataTableConfig.reaction := by
  have hemptied := takeDataReply_emptied hunread hstepping
  unfold onDataTableConfig
  dsimp only
  rw [if_neg (mt (decodeDataTableConfigResponse_incomplete _).mp hcomplete)]
  split_ifs
  · exact (failDataQuery_answered hemptied _).of_same rfl rfl
  · split
    · exact (failDataQuery_answered hemptied _).of_same rfl rfl
    · next table _ =>
      have hconfigured : Emptied { c.takeDataReply with tableConfig := table } :=
        ⟨hemptied.readBuffer, hemptied.unread, hemptied.stepping.1, hemptied.stepping.2,
          hemptied.stepping.3⟩
      exact (continueDataQuery_answered hconfigured hpending _ (by decide) _).of_same rfl rfl

theorem onTableData_answered (hunread : c.socket.unread = []) (hstepping : Stepping c)
    (hpending : c.dataQueryPending = true) (hcomplete : ¬ Partial c.readBuffer) :
    Answered .tableData c c.onTableData.reaction := by
  have hemptied := takeDataReply_emptied hunread hstepping
  have hannounced : ∀ length, Emptied { c.takeDataReply with
      bigDataBuffer := [], bigDataExpectedLength := length } :=
    fun _ => ⟨hemptied.readBuffer, hemptied.unread, hemptied.stepping.1, hemptied.stepping.2,
      hemptied.stepping.3⟩
  unfold onTableData
  dsimp only
  split
  · next hincomplete =>
    exact absurd ((decodeGetDataResponse_incomplete _ _ _).mp hincomplete) hcomplete
  · split_ifs
    · exact (failDataQuery_answered hemptied _).of_same rfl rfl
    · exact (continueDataQuery_answered (hannounced _) hpending _ (by decide) _).of_same rfl rfl
  · exact (finishDataQuery_answered hemptied _).of_same rfl rfl
  · exact (failDataQuery_answered hemptied _).of_same rfl rfl

theorem onBigDataChunk_answered (hunread : c.socket.unread = []) (hstepping : Stepping c)
    (hpending : c.dataQueryPending = true) (hcomplete : ¬ Partial c.readBuffer) :
    Answered .tableData c c.onBigDataChunk.reaction := by
  have hemptied := takeDataReply_emptied hunread hstepping
  have happended : ∀ buffer, Emptied { c.takeDataReply with bigDataBuffer := buffer } :=
    fun _ => ⟨hemptied.readBuffer, hemptied.unread, hemptied.stepping.1, hemptied.stepping.2,
      hemptied.stepping.3⟩
  unfold onBigDataChunk
  dsimp only
  rw [if_neg (mt (decodeTransmitDataResponse_incomplete _).mp hcomplete)]
  split_ifs
  · exact (failDataQuery_answered hemptied _).of_same rfl rfl
  · exact (continueDataQuery_answered (happended _) hpending _ (by decide) _).of_same rfl rfl
  · exact (continueDataQuery_answered (happended _) hpending _ (by decide) _).of_same rfl rfl

theorem onFreeDataAck_answered (hunread : c.socket.unread = []) (hstepping : Stepping c)
    (hcomplete : ¬ Partial c.readBuffer) : Answered .tableData c c.onFreeDataAck.reaction := by
  have hemptied := takeDataReply_emptied hunread hstepping
  have hcleared : Emptied { c.takeDataReply with bigDataBuffer := [] } :=
    ⟨hemptied.readBuffer, hemptied.unread, hemptied.stepping.1, hemptied.stepping.2,
      hemptied.stepping.3⟩
  unfold onFreeDataAck
  dsimp only
  rw [if_neg (mt decodeGenericReply_incomplete.mp hcomplete)]
  split_ifs
  · exact (finishDataQuery_answered hcleared _).of_same rfl rfl
  · exact (failDataQuery_answered hcleared _).of_same rfl rfl

/-- The table data branch answers its request. -/
theorem onDataQueryData_answered (hunread : c.socket.unread = []) (hstepping : Stepping c)
    (hpending : c.dataQueryPending = true) (hcomplete : ¬ Partial c.readBuffer) :
    Answered .tableData c c.onDataQueryData.reaction := by
  unfold onDataQueryData
  cases hstep : c.dataQueryStep with
  | none => exact absurd hstep (hstepping.tableData hpending)
  | awaitingTableConfig => exact onDataTableConfig_answered hunread hstepping hpending hcomplete
  | awaitingTableData => exact onTableData_answered hunread hstepping hpending hcomplete
  | awaitingBigDataChunk => exact onBigDataChunk_answered hunread hstepping hpending hcomplete
  | awaitingFreeDataAck => exact onFreeDataAck_answered hunread hstepping hcomplete

theorem takeRtLogReply_answered (hunread : c.socket.unread = []) (hstepping : Stepping c)
    {outcome : Effect} (houtcome : outcome.outcomeKind = some .realtimeLog) :
    Answered .realtimeLog c (c.takeRtLogReply, [outcome]) := by
  refine ⟨rfl, hunread, rfl, ?_, ?_, Or.inr ⟨rfl, _, rfl, houtcome⟩⟩
  · intro j hj
    cases j <;> first | rfl | exact absurd rfl hj
  · exact ⟨hstepping.tableData, hstepping.recordCount,
      fun hp => absurd hp Bool.false_ne_true⟩

/-- The realtime log branch answers its request. -/
theorem onRtLogQueryData_answered (hunread : c.socket.unread = []) (hstepping : Stepping c)
    (hpending : c.rtLogQueryPending = true) (hcomplete : ¬ Partial c.readBuffer) :
    Answered .realtimeLog c c.onRtLogQueryData := by
  have hsettled : ∀ outcome : Effect, outcome.outcomeKind = some .realtimeLog →
      Answered .realtimeLog c (c.takeRtLogReply, [outcome]) :=
    fun _ houtcome => takeRtLogReply_answered hunread hstepping houtcome
  unfold onRtLogQueryData
  cases hstep : c.rtLogQueryStep with
  | none => exact absurd hstep (hstepping.realtimeLog hpending)
  | awaitingBinaryReply =>
    dsimp only
    unfold onRtLogBinaryReply
    dsimp only
    split
    · next hincomplete =>
      exact absurd ((decodeRtlogBinaryResponse_incomplete _).mp hincomplete) hcomplete
    · exact hsettled _ rfl
    · obtain ⟨h1, h2, h3, h4, h5, h6⟩ := hsettled (.realtimeLogReceived []) rfl
      exact ⟨h1, h2, h3, fun j hj => by rw [← h4 j hj]; cases j <;> rfl,
        ⟨h5.tableData, h5.recordCount, h5.realtimeLog⟩, h6⟩
    · exact hsettled _ rfl
  | awaitingKeyValueReply =>
    dsimp only
    unfold onRtLogKeyValueReply
    dsimp only
    rw [if_neg (mt (decodeRtlogKeyValueResponse_incomplete _).mp hcomplete)]
    split_ifs
    · exact hsettled _ rfl
    · exact hsettled _ rfl

/-- The control branch answers its request: it acknowledges exactly an accepted reply. -/
theorem onControlData_answered (hunread : c.socket.unread = []) (hstepping : Stepping c)
    (hcomplete : ¬ Partial c.readBuffer) : Answered .control c c.onControlData := by
  unfold onControlData
  dsimp only
  rw [if_neg (mt decodeGenericReply_incomplete.mp hcomplete)]
  refine ⟨rfl, hunread, rfl, ?_, ⟨hstepping.1, hstepping.2, hstepping.3⟩,
    Or.inr ⟨rfl, _, rfl, by split_ifs <;> rfl⟩⟩
  intro j hj
  cases j <;> first | rfl | exact absurd rfl hj

/-- The branch of parameters read answers its request. -/
theorem onGetParamData_answered (hunread : c.socket.unread = []) (hstepping : Stepping c)
    (hcomplete : ¬ Partial c.readBuffer) : Answered .getParam c c.onGetParamData := by
  unfold onGetParamData
  dsimp only
  rw [if_neg (mt (decodeGetParamResponse_incomplete _).mp hcomplete)]
  refine ⟨rfl, hunread, rfl, ?_, ⟨hstepping.1, hstepping.2, hstepping.3⟩,
    Or.inr ⟨rfl, _, rfl, by split_ifs <;> rfl⟩⟩
  intro j hj
  cases j <;> first | rfl | exact absurd rfl hj

/-- The branch of parameters written answers its request. -/
theorem onSetParamData_answered (hunread : c.socket.unread = []) (hstepping : Stepping c)
    (hcomplete : ¬ Partial c.readBuffer) : Answered .setParam c c.onSetParamData := by
  unfold onSetParamData
  dsimp only
  rw [if_neg (mt decodeGenericReply_incomplete.mp hcomplete)]
  refine ⟨rfl, hunread, rfl, ?_, ⟨hstepping.1, hstepping.2, hstepping.3⟩,
    Or.inr ⟨rfl, _, rfl, by split_ifs <;> rfl⟩⟩
  intro j hj
  cases j <;> first | rfl | exact absurd rfl hj

theorem takeCountReply_emptied (hunread : c.socket.unread = []) (hstepping : Stepping c) :
    Emptied c.takeCountReply :=
  ⟨rfl, hunread, hstepping.tableData, hstepping.recordCount, hstepping.realtimeLog⟩

theorem failCountQuery_answered (h : Emptied c) (error : QString) :
    Answered .recordCount c (c.failCountQuery error) := by
  refine ⟨h.readBuffer, h.unread, rfl, ?_, ?_, Or.inr ⟨rfl, _, rfl, rfl⟩⟩
  · intro j hj
    cases j <;> first | rfl | exact absurd rfl hj
  · exact ⟨h.stepping.tableData, fun hp => absurd hp Bool.false_ne_true, h.stepping.realtimeLog⟩

/-- The record count branch answers its request. -/
theorem onCountQueryData_answered (hunread : c.socket.unread = []) (hstepping : Stepping c)
    (hpending : c.countQueryPending = true) (hcomplete : ¬ Partial c.readBuffer) :
    Answered .recordCount c c.onCountQueryData := by
  have hemptied := takeCountReply_emptied hunread hstepping
  unfold onCountQueryData
  cases hstep : c.countQueryStep with
  | none => exact absurd hstep (hstepping.recordCount hpending)
  | awaitingTableConfig =>
    dsimp only
    unfold onCountTableConfig
    dsimp only
    rw [if_neg (mt (decodeDataTableConfigResponse_incomplete _).mp hcomplete)]
    split_ifs
    · exact (failCountQuery_answered hemptied _).of_same rfl rfl
    · split
      · exact (failCountQuery_answered hemptied _).of_same rfl rfl
      · refine ⟨rfl, hunread, rfl, ?_, ?_, Or.inl ⟨hpending, _, rfl⟩⟩
        · intro j _
          cases j <;> rfl
        · exact ⟨hstepping.tableData, fun _ hnone => CountQueryStep.noConfusion hnone,
            hstepping.realtimeLog⟩
  | awaitingCount =>
    dsimp only
    unfold onCount
    dsimp only
    rw [if_neg (mt (decodeGetDataCountResponse_incomplete _).mp hcomplete)]
    split_ifs
    · refine ⟨rfl, hunread, rfl, ?_, ?_, Or.inr ⟨rfl, _, rfl, rfl⟩⟩
      · intro j hj
        cases j <;> first | rfl | exact absurd rfl hj
      · exact ⟨hstepping.tableData, fun hp => absurd hp Bool.false_ne_true,
          hstepping.realtimeLog⟩
    · exact (failCountQuery_answered hemptied _).of_same rfl rfl

/-! ### The whole handler -/

/-- Reading all there is takes the bytes from the socket and changes nothing else. -/
theorem readAll_stepping (h : Stepping c) : Stepping c.readAll := ⟨h.1, h.2, h.3⟩

/-- While the frame is incomplete, the realtime log branch changes nothing. -/
theorem onRtLogQueryData_ofPartial (hPartial : Partial c.readBuffer) :
    c.onRtLogQueryData = (c, []) := by
  unfold onRtLogQueryData
  split
  · unfold onRtLogBinaryReply
    dsimp only
    rw [(decodeRtlogBinaryResponse_incomplete _).mpr hPartial]
  · unfold onRtLogKeyValueReply
    dsimp only
    rw [if_pos ((decodeRtlogKeyValueResponse_incomplete _).mpr hPartial)]
  · rfl

/-- While the frame is incomplete, the record count branch changes nothing. -/
theorem onCountQueryData_ofPartial (hPartial : Partial c.readBuffer) :
    c.onCountQueryData = (c, []) := by
  unfold onCountQueryData
  split
  · unfold onCountTableConfig
    dsimp only
    rw [if_pos ((decodeDataTableConfigResponse_incomplete _).mpr hPartial)]
  · unfold onCount
    dsimp only
    rw [if_pos ((decodeGetDataCountResponse_incomplete _).mpr hPartial)]
  · rfl

/-- While the frame is incomplete, the branches after table data only read. -/
theorem onOtherData_ofPartial (hPartial : Partial (c.readBuffer ++ c.socket.unread)) :
    c.onOtherData =
      (if c.rtLogQueryPending || c.controlPending || c.getParamPending || c.setParamPending ||
        c.countQueryPending then c.readAll else c, []) := by
  have hPartial : Partial c.readAll.readBuffer := hPartial
  have hcontrol : c.readAll.onControlData = (c.readAll, []) :=
    if_pos (decodeGenericReply_incomplete.mpr hPartial)
  have hgetParam : c.readAll.onGetParamData = (c.readAll, []) :=
    if_pos ((decodeGetParamResponse_incomplete _).mpr hPartial)
  have hsetParam : c.readAll.onSetParamData = (c.readAll, []) :=
    if_pos (decodeGenericReply_incomplete.mpr hPartial)
  unfold onOtherData
  rw [onRtLogQueryData_ofPartial hPartial, hcontrol, hgetParam, hsetParam,
    onCountQueryData_ofPartial hPartial]
  split_ifs <;> simp_all

/-- With nothing to read, the branches after table data change nothing. -/
theorem onOtherData_emptied (h : Emptied c) : c.onOtherData = (c, []) := by
  have hPartial : Partial (c.readBuffer ++ c.socket.unread) := by
    rw [h.readBuffer, h.unread]
    exact partial_nil
  have hread : c.readAll = c := by
    have hsocket : c.socket.drained = c.socket := by
      rw [TcpSocket.drained, ← h.unread]
    rw [readAll, hsocket, h.unread, List.append_nil]
  rw [onOtherData_ofPartial hPartial, hread, ite_self]

/-- While the frame is incomplete, the table data branch returns unchanged. -/
theorem onDataQueryData_ofPartial (hPartial : Partial c.readBuffer)
    (hstep : c.dataQueryStep ≠ .none) :
    c.onDataQueryData = ⟨true, (c, [])⟩ := by
  unfold onDataQueryData
  cases hcase : c.dataQueryStep with
  | none => exact absurd hcase hstep
  | awaitingTableConfig =>
    dsimp only
    unfold onDataTableConfig
    dsimp only
    rw [if_pos ((decodeDataTableConfigResponse_incomplete _).mpr hPartial)]
  | awaitingTableData =>
    dsimp only
    unfold onTableData
    dsimp only
    rw [(decodeGetDataResponse_incomplete _ _ _).mpr hPartial]
  | awaitingBigDataChunk =>
    dsimp only
    unfold onBigDataChunk
    dsimp only
    rw [if_pos ((decodeTransmitDataResponse_incomplete _).mpr hPartial)]
  | awaitingFreeDataAck =>
    dsimp only
    unfold onFreeDataAck
    rw [if_pos (decodeGenericReply_incomplete.mpr hPartial)]

/-- With nothing pending, received bytes stay in the socket. -/
theorem onSocketReadyRead_idle (hattempt : c.connectAttemptPending = false)
    (hk : c.dispatch = none) : c.onSocketReadyRead = (c, []) := by
  have hnone := dispatch_none.mp hk
  have h1 := hnone .tableData
  have h2 := hnone .realtimeLog
  have h3 := hnone .control
  have h4 := hnone .getParam
  have h5 := hnone .setParam
  have h6 := hnone .recordCount
  simp_all [onSocketReadyRead, onOtherData, pending]

/-- While the frame is incomplete, a request only reads. -/
theorem onSocketReadyRead_ofPartial {k : Kind} (hattempt : c.connectAttemptPending = false)
    (hk : c.dispatch = some k) (hstepping : Stepping c)
    (hPartial : Partial (c.readBuffer ++ c.socket.unread)) :
    c.onSocketReadyRead = (c.readAll, []) := by
  unfold onSocketReadyRead
  rw [if_neg (by simp [hattempt])]
  split_ifs with hdata
  · have hbranch : c.readAll.onDataQueryData = ⟨true, (c.readAll, [])⟩ :=
      onDataQueryData_ofPartial hPartial (hstepping.tableData hdata)
    dsimp only
    rw [hbranch]
    rfl
  · have hothers : (c.rtLogQueryPending || c.controlPending || c.getParamPending ||
        c.setParamPending || c.countQueryPending) = true := by
      unfold dispatch at hk
      split_ifs at hk <;> simp_all
    rw [onOtherData_ofPartial hPartial, if_pos hothers]

/-- A complete frame that goes to the table data query is answered by its branch;
a fall through to the other branches does nothing more. -/
theorem onSocketReadyRead_dataQuery (hattempt : c.connectAttemptPending = false)
    (hpending : c.dataQueryPending = true) (hstepping : Stepping c)
    (hcomplete : ¬ Partial (c.readBuffer ++ c.socket.unread)) :
    c.onSocketReadyRead = c.readAll.onDataQueryData.reaction := by
  have hanswered : Answered .tableData c.readAll c.readAll.onDataQueryData.reaction :=
    onDataQueryData_answered rfl (readAll_stepping hstepping) hpending hcomplete
  unfold onSocketReadyRead
  rw [if_neg (by simp [hattempt]), if_pos hpending]
  dsimp only
  split
  · rfl
  · have hemptied : Emptied c.readAll.onDataQueryData.reaction.1 :=
      ⟨hanswered.readBuffer, hanswered.unread, hanswered.stepping⟩
    rw [Reaction.andThen, onOtherData_emptied hemptied, List.append_nil]

/-- A complete frame answers the request the bytes go to. -/
theorem onSocketReadyRead_complete {k : Kind} (hattempt : c.connectAttemptPending = false)
    (hk : c.dispatch = some k) (hstepping : Stepping c)
    (hcomplete : ¬ Partial (c.readBuffer ++ c.socket.unread)) :
    Answered k c c.onSocketReadyRead := by
  have hread := readAll_stepping hstepping
  have hsame : ∀ {r}, Answered k c.readAll r → Answered k c r := fun h => h.of_same rfl rfl
  apply hsame
  have hothers : ¬ c.dataQueryPending = true → c.onSocketReadyRead = c.onOtherData := by
    intro hdata
    rw [onSocketReadyRead, if_neg (by simp [hattempt]), if_neg hdata]
  unfold dispatch at hk
  split_ifs at hk with h1 h2 h3 h4 h5 h6 <;> cases hk
  · rw [onSocketReadyRead_dataQuery hattempt h1 hstepping hcomplete]
    exact onDataQueryData_answered rfl hread h1 hcomplete
  · rw [hothers h1, onOtherData, if_pos h2]
    exact onRtLogQueryData_answered rfl hread h2 hcomplete
  · rw [hothers h1, onOtherData, if_neg h2, if_pos h3]
    exact onControlData_answered rfl hread hcomplete
  · rw [hothers h1, onOtherData, if_neg h2, if_neg h3, if_pos h4]
    exact onGetParamData_answered rfl hread hcomplete
  · rw [hothers h1, onOtherData, if_neg h2, if_neg h3, if_neg h4, if_pos h5]
    exact onSetParamData_answered rfl hread hcomplete
  · rw [hothers h1, onOtherData, if_neg h2, if_neg h3, if_neg h4, if_neg h5, if_pos h6]
    exact onCountQueryData_answered rfl hread h6 hcomplete

/-- Received bytes lead to frames and outcomes of the request they go to. -/
theorem onSocketReadyRead_effects {k : Kind} (hattempt : c.connectAttemptPending = false)
    (hk : c.dispatch = some k) (hstepping : Stepping c) :
    ∀ effect ∈ c.onSocketReadyRead.2, effect.isWrite = true ∨ effect.outcomeKind = some k := by
  intro effect heffect
  by_cases hPartial : Partial (c.readBuffer ++ c.socket.unread)
  · rw [onSocketReadyRead_ofPartial hattempt hk hstepping hPartial] at heffect
    cases heffect
  · rcases (onSocketReadyRead_complete hattempt hk hstepping hPartial).result with
      ⟨_, frame, hframe⟩ | ⟨_, outcome, houtcome, hkind⟩
    · rw [hframe] at heffect
      exact Or.inl (by rw [List.mem_singleton.mp heffect]; rfl)
    · rw [houtcome] at heffect
      exact Or.inr (by rw [List.mem_singleton.mp heffect, hkind])

/-- A complete reply that goes to a control request is acknowledged exactly when it is accepted. -/
theorem onSocketReadyRead_control (hattempt : c.connectAttemptPending = false)
    (hk : c.dispatch = some .control)
    (hcomplete : ¬ Partial (c.readBuffer ++ c.socket.unread)) :
    c.onSocketReadyRead.2 =
      [if decodeGenericReply (c.readBuffer ++ c.socket.unread) = .ok then .controlAcknowledged
        else .controlFailed "CONTROL command failed"] := by
  have hcomplete : ¬ decodeGenericReply c.readAll.readBuffer = .incomplete :=
    mt decodeGenericReply_incomplete.mp hcomplete
  unfold dispatch at hk
  split_ifs at hk with h1 h2 h3 h4 h5 h6 <;> cases hk
  unfold onSocketReadyRead
  rw [if_neg (by simp [hattempt]), if_neg h1, onOtherData, if_neg h2, if_pos h3]
  unfold onControlData
  dsimp only
  rw [if_neg hcomplete]
  rfl

end C3Connection

end QtAppBase.C3
