import QtAppBase.Library.Stamps
import QtAppBase.C3.Events

/-!
# Session ids and request numbers

Every frame of a session carries its id and a request number that counts the
frames; without a session the frames have no session block. Which frame this is,
is said by the request it encodes, and the request by the step that writes it.
Frames are written at eleven places, each of which reads the number and advances
it once. This is proved place by place, and then for whole runs.
-/

namespace QtAppBase.C3

open Library QtAppBase.Core Qt

/-- The session block behind the header: session id and request number. -/
def sessionBlock (frame : QByteArray) : UInt16 × UInt16 :=
  (word16 (byteAt frame 5) (byteAt frame 6), word16 (byteAt frame 7) (byteAt frame 8))

/-- A frame with a session block that holds this id and this number. -/
def CarriesBlock (sessionId : UInt16) (requestNr : ℕ) (frame : QByteArray) : Prop :=
  (∃ command number payload, frame = encodeFrame command sessionId number payload true) ∧
    (sessionBlock frame).1 = sessionId ∧ (sessionBlock frame).2.toNat = requestNr

/-- The block is the id and the lower half of the number. -/
theorem sessionBlock_encodeFrame (command : UInt8) (sessionId : UInt16) (requestNr : Int32)
    (payload : QByteArray) :
    sessionBlock (encodeFrame command sessionId requestNr payload true) =
      (sessionId, requestNr.toUInt32.toUInt16) := by
  change (word16 (lowByte sessionId) (highByte sessionId),
    word16 (lowByte requestNr.toUInt32.toUInt16) (highByte requestNr.toUInt32.toUInt16)) = _
  rw [word16_bytes, word16_bytes]

/-- The frame of an effect, if it is written. -/
def Effect.frame : Effect → Option QByteArray
  | .write frame => some frame
  | _ => none

/-- The session id of an effect, if it announces one. -/
def Effect.announced : Effect → Option UInt16
  | .sessionEstablished sessionId => some sessionId
  | _ => none

/-- The frames among the effects. -/
def frames (effects : List Effect) : List QByteArray := effects.filterMap Effect.frame

/-! ### What a frame asks for -/

/-- What the frames of an established connection ask for. -/
inductive FrameRequest where
  | dataTableConfig
  | getData (table : DataTableConfig)
  | getDataCount (table : DataTableConfig)
  | transmitData (offset : UInt32)
  | freeData
  | rtlogBinary
  | rtlogKeyValue
  | control (operation : ControlOperation) (param1 param2 param3 : UInt8)
  | getParam (parameterNames : List QString)
  | setParam (values : QVariantMap)
  | disconnect

/-- The frame of a request, with or without a session block. -/
def FrameRequest.encode (includeSessionBlock : Bool) (sessionId : UInt16) (requestNr : Int32) :
    FrameRequest → QByteArray
  | .dataTableConfig => encodeDataTableConfigRequest includeSessionBlock sessionId requestNr
  | .getData table =>
    encodeGetDataRequest table.index (table.fields.map DataTableField.index) includeSessionBlock
      sessionId requestNr
  | .getDataCount table =>
    encodeGetDataCountRequest table.index includeSessionBlock sessionId requestNr
  | .transmitData offset => encodeTransmitDataRequest offset includeSessionBlock sessionId requestNr
  | .freeData => encodeFreeDataRequest includeSessionBlock sessionId requestNr
  | .rtlogBinary => encodeRtlogBinaryRequest includeSessionBlock sessionId requestNr
  | .rtlogKeyValue => encodeRtlogKeyValueRequest includeSessionBlock sessionId requestNr
  | .control operation param1 param2 param3 =>
    encodeControlRequest operation param1 param2 param3 includeSessionBlock sessionId requestNr
  | .getParam parameterNames =>
    encodeGetParamRequest parameterNames includeSessionBlock sessionId requestNr
  | .setParam values => encodeSetParamRequest values includeSessionBlock sessionId requestNr
  | .disconnect =>
    if includeSessionBlock then encodeDisconnectRequest sessionId requestNr
    else encodeSessionLessDisconnectRequest

/-- Every request is a command with a payload that does not depend on the session. -/
theorem FrameRequest.encode_eq (request : FrameRequest) : ∃ command payload,
    ∀ includeSessionBlock sessionId requestNr,
      request.encode includeSessionBlock sessionId requestNr =
        encodeFrame command sessionId requestNr payload includeSessionBlock := by
  cases request with
  | disconnect =>
    refine ⟨kCommandDisconnect, [], fun includeSessionBlock sessionId requestNr => ?_⟩
    cases includeSessionBlock <;> rfl
  | _ => exact ⟨_, _, fun _ _ _ => rfl⟩

/-- What a control call asks for. -/
def ControlCall.asks : ControlCall → FrameRequest
  | .controlDoorOutput doorNumber durationSeconds =>
    .control .output doorNumber ControlOutputAddress.door.code durationSeconds
  | .controlDoorOutputNormalOpen doorNumber =>
    .control .output doorNumber ControlOutputAddress.door.code 255
  | .controlDoorClose doorNumber =>
    .control .output doorNumber ControlOutputAddress.door.code 0
  | .controlAuxOutput auxNumber durationSeconds =>
    .control .output auxNumber ControlOutputAddress.aux.code durationSeconds
  | .cancelAlarm => .control .cancelAlarm 0 0 0
  | .restartDevice => .control .restartDevice 0 0 0
  | .setNormalOpenState doorNumber enabled =>
    .control .enableDisableNormalOpen doorNumber (if enabled then 1 else 0) 0

/-- What a call asks for first. Queries of a table begin with the configuration. -/
def RequestCall.asks (rtlogCommand : UInt8) : RequestCall → FrameRequest
  | .requestTableData _ | .requestTableRecordCount _ => .dataTableConfig
  | .requestRealtimeLog =>
    if rtlogCommand = kCommandRtlogBinary then .rtlogBinary else .rtlogKeyValue
  | .control call => call.asks
  | .requestDeviceParams parameterNames => .getParam parameterNames
  | .setDeviceParams values => .setParam values

/-- How a connection was established. -/
inductive SessionMode where
  | session (sessionId : UInt16)
  | sessionLess
  deriving DecidableEq, Repr

/-- The frame of a request that is written after `n` others. -/
def SessionMode.frameOf (n : ℕ) (request : FrameRequest) : SessionMode → QByteArray
  | .session sessionId => request.encode true sessionId (Int32.ofNat (65279 + n))
  | .sessionLess => request.encode false 0 0

namespace C3Connection

/-- The tables in the buffer. -/
def receivedTables (c : C3Connection) : List DataTableConfig :=
  (decodeDataTableConfigResponse c.readBuffer (!c.sessionLess)).tables

/-- The big-data chunk in the buffer. -/
def receivedChunk (c : C3Connection) : QByteArray :=
  (decodeTransmitDataResponse c.readBuffer (!c.sessionLess)).chunkData

/-- What a record count query asks for next. -/
inductive AsksCount (c : C3Connection) : FrameRequest → Prop
  | count (table : DataTableConfig) (step : c.countQueryStep = .awaitingTableConfig)
      (received : table ∈ c.receivedTables) (name : table.name = c.pendingCountTableName) :
      AsksCount c (.getDataCount table)

/-- What a table data query asks for next. -/
inductive AsksData (c : C3Connection) : FrameRequest → Prop
  | table (table : DataTableConfig) (step : c.dataQueryStep = .awaitingTableConfig)
      (received : table ∈ c.receivedTables) (name : table.name = c.pendingTableName) :
      AsksData c (.getData table)
  | firstChunk (step : c.dataQueryStep = .awaitingTableData) : AsksData c (.transmitData 0)
  | nextChunk (step : c.dataQueryStep = .awaitingBigDataChunk) :
      AsksData c (.transmitData (UInt32.ofNat (c.bigDataBuffer ++ c.receivedChunk).length))
  | freeData (step : c.dataQueryStep = .awaitingBigDataChunk) : AsksData c .freeData

/-- What a step asks for: what the call says, or what the reply in the buffer leads to. -/
def Asks (c : C3Connection) : Event → FrameRequest → Prop
  | .request call, request => request = call.asks c.rtlogCommand
  | .readyRead chunk, request =>
    AsksData (readAll { c with socket := c.socket.receive chunk }) request ∨
      AsksCount (readAll { c with socket := c.socket.receive chunk }) request
  | .disconnectNow, request => request = .disconnect
  | _, _ => False

/-- A step writes, after `n` other frames, the frame of a request that it asks for. -/
def Sends (mode : SessionMode) (c : C3Connection) (e : Event) (n : ℕ) (frame : QByteArray) : Prop :=
  ∃ request, Asks c e request ∧ frame = mode.frameOf n request

variable {c d : C3Connection} {mode : SessionMode} {n : ℕ} {Asked Others : FrameRequest → Prop}
  {r : Reaction C3Connection Effect}

/-- A session in which `n` frames have been written. No handshake is going on, and
the request number of a session has been advanced by each frame. -/
structure InSession (mode : SessionMode) (n : ℕ) (c : C3Connection) : Prop where
  attempt : c.connectAttemptPending = false
  handshakeTimer : c.handshakeTimer = none
  socket : c.socket.state ≠ .connecting
  sessionLess : c.sessionLess = true ↔ mode = .sessionLess
  session : ∀ sessionId, mode = .session sessionId →
    c.sessionId = sessionId ∧ c.requestNr.toUInt32.toUInt16 = UInt16.ofNat (65279 + n)

/-! ### One frame -/

/-- A number is cut to its lower half. -/
theorem toUInt16_ofNat (m : ℕ) : (Int32.ofNat m).toUInt32.toUInt16 = UInt16.ofNat m := by simp

/-- A frame built from the members of the connection is the frame of its request. -/
theorem InSession.frameOf (h : InSession mode n c) (request : FrameRequest) :
    request.encode (!c.sessionLess) c.sessionId c.requestNr = mode.frameOf n request := by
  obtain ⟨command, payload, hencode⟩ := request.encode_eq
  cases mode with
  | session sessionId =>
    have hblock : (!c.sessionLess) = true := by
      have hless : c.sessionLess ≠ true := fun h' => nomatch h.sessionLess.mp h'
      simp [hless]
    obtain ⟨rfl, hnumber⟩ := h.session sessionId rfl
    rw [SessionMode.frameOf, hblock, hencode, hencode, encodeFrame, encodeFrame, frameBody,
      frameBody, hnumber, toUInt16_ofNat]
  | sessionLess =>
    rw [SessionMode.frameOf, h.sessionLess.mpr rfl, hencode, hencode]
    rfl

/-- The next request number, on the wire, is one more. -/
theorem toUInt16_succ (requestNr : Int32)
    (h : requestNr.toUInt32.toUInt16 = UInt16.ofNat (65279 + n)) :
    (requestNr + 1).toUInt32.toUInt16 = UInt16.ofNat (65279 + (n + 1)) := by
  have hsucc : (requestNr + 1).toUInt32.toUInt16 = requestNr.toUInt32.toUInt16 + 1 := by
    rw [Int32.toUInt32_add, UInt32.toUInt16_add]
    rfl
  rw [hsucc, h, ← Nat.add_assoc, UInt16.ofNat_add (65279 + n) 1]
  rfl

/-- What a handler does to the numbering: it writes nothing and keeps the number, or
it writes one frame of the session, as asked, and advances the number. -/
structure Numbered (Asked : FrameRequest → Prop) (c : C3Connection)
    (r : Reaction C3Connection Effect) : Prop where
  /-- The connection and its session are untouched. -/
  lifecycle : r.1.lifecycle = c.lifecycle
  /-- At most one frame is written. -/
  written : (frames r.2 = [] ∧ r.1.requestNr = c.requestNr) ∨
    ∃ request, Asked request ∧
      frames r.2 = [request.encode (!c.sessionLess) c.sessionId c.requestNr] ∧
        r.1.requestNr = c.nextRequestNr
  /-- No session is established. -/
  announced : r.2.filterMap Effect.announced = []

/-- What is asked may be said in another way. -/
theorem Numbered.mono (hr : Numbered Asked c r) (h : ∀ request, Asked request → Others request) :
    Numbered Others c r := by
  refine ⟨hr.lifecycle, hr.written.imp_right ?_, hr.announced⟩
  rintro ⟨request, hasked, hone⟩
  exact ⟨request, h request hasked, hone⟩

/-- A session goes on in a state with the same connection. -/
theorem InSession.of_lifecycle (h : InSession mode n c) (hlifecycle : d.lifecycle = c.lifecycle)
    {m : ℕ} (hnumber : ∀ sessionId, mode = .session sessionId →
      d.requestNr.toUInt32.toUInt16 = UInt16.ofNat (65279 + m)) : InSession mode m d := by
  have hfields := hlifecycle
  simp only [C3Connection.lifecycle, Lifecycle.mk.injEq] at hfields
  obtain ⟨hsocket, -, hsessionId, hsessionLess, hattempt, -, htimer⟩ := hfields
  exact ⟨hattempt.trans h.attempt, htimer.trans h.handshakeTimer, hsocket ▸ h.socket,
    hsessionLess ▸ h.sessionLess,
    fun s hs => ⟨hsessionId.trans (h.session s hs).1, hnumber s hs⟩⟩

/-- A handler that numbers its frame keeps the session going. -/
theorem Numbered.stamps {Carries : ℕ → QByteArray → Prop} (hr : Numbered Asked c r)
    (h : InSession mode n c)
    (hcarries : ∀ request, Asked request → Carries n (mode.frameOf n request)) :
    Stamps Carries (InSession mode) Effect.frame n r := by
  rcases hr.written with ⟨hnone, hnr⟩ | ⟨request, hasked, hone, hnr⟩
  · refine stamps_nothing hnone (h.of_lifecycle hr.lifecycle fun s hs => ?_)
    rw [hnr, (h.session s hs).2]
  · rw [h.frameOf request] at hone
    refine stamps_one hone (hcarries request hasked) (h.of_lifecycle hr.lifecycle fun s hs => ?_)
    have hless : c.sessionLess ≠ true := fun h' => nomatch (h.sessionLess.mp h').symm.trans hs
    rw [hnr, nextRequestNr, if_pos (by simp [hless])]
    exact toUInt16_succ _ (h.session s hs).2

/-- The number is read from the same members in a state with the same connection. -/
theorem Numbered.of_same (hr : Numbered Asked d r) (hlifecycle : d.lifecycle = c.lifecycle)
    (hnr : d.requestNr = c.requestNr) : Numbered Asked c r := by
  have hfields := hlifecycle
  simp only [C3Connection.lifecycle, Lifecycle.mk.injEq] at hfields
  obtain ⟨-, -, hsessionId, hsessionLess, -, -, -⟩ := hfields
  refine ⟨hr.lifecycle.trans hlifecycle, ?_, hr.announced⟩
  have hnext : d.nextRequestNr = c.nextRequestNr := by
    rw [nextRequestNr, nextRequestNr, hsessionLess, hnr]
  rw [← hnext, ← hsessionId, ← hsessionLess, ← hnr]
  exact hr.written

/-- A handler without a frame. -/
theorem numbered_quiet {effects : List Effect} (hlifecycle : d.lifecycle = c.lifecycle)
    (hnr : d.requestNr = c.requestNr) (hnone : frames effects = [])
    (hannounced : effects.filterMap Effect.announced = []) : Numbered Asked c (d, effects) :=
  ⟨hlifecycle, Or.inl ⟨hnone, hnr⟩, hannounced⟩

/-- Nothing happens. -/
theorem numbered_refl (c : C3Connection) : Numbered Asked c (c, []) :=
  numbered_quiet rfl rfl rfl rfl

/-! ### The places where frames are written -/

theorem requestTableData_numbered (tableName : QString) :
    Numbered (· = .dataTableConfig) c (requestTableData tableName c) := by
  unfold requestTableData
  split_ifs
  · exact numbered_refl c
  · exact ⟨rfl, Or.inr ⟨_, rfl, rfl, rfl⟩, rfl⟩

theorem requestTableRecordCount_numbered (tableName : QString) :
    Numbered (· = .dataTableConfig) c (requestTableRecordCount tableName c) := by
  unfold requestTableRecordCount
  split_ifs
  · exact numbered_refl c
  · exact ⟨rfl, Or.inr ⟨_, rfl, rfl, rfl⟩, rfl⟩

theorem requestRealtimeLog_numbered :
    Numbered (· = RequestCall.asks c.rtlogCommand .requestRealtimeLog) c
      (requestRealtimeLog c) := by
  unfold requestRealtimeLog
  dsimp only
  by_cases hrefused : (!c.isReady || c.rtLogQueryPending) = true
  · rw [if_pos hrefused]
    exact numbered_refl c
  · rw [if_neg hrefused]
    refine ⟨rfl, Or.inr ⟨_, rfl, ?_, rfl⟩, rfl⟩
    unfold RequestCall.asks
    by_cases hbinary : c.rtlogCommand = kCommandRtlogBinary
    · simp only [hbinary, decide_true, if_true]
      rfl
    · simp only [hbinary, decide_false, if_false]
      rfl

theorem sendControlRequest_numbered (operation : ControlOperation)
    (param1 param2 param3 : UInt8) :
    Numbered (· = .control operation param1 param2 param3) c
      (sendControlRequest operation param1 param2 param3 c) := by
  unfold sendControlRequest
  split_ifs
  · exact numbered_refl c
  · exact ⟨rfl, Or.inr ⟨_, rfl, rfl, rfl⟩, rfl⟩

theorem requestDeviceParams_numbered (parameterNames : List QString) :
    Numbered (· = .getParam parameterNames) c (requestDeviceParams parameterNames c) := by
  unfold requestDeviceParams
  split_ifs
  · exact numbered_refl c
  · exact ⟨rfl, Or.inr ⟨_, rfl, rfl, rfl⟩, rfl⟩

theorem setDeviceParams_numbered (values : QVariantMap) :
    Numbered (· = .setParam values) c (setDeviceParams values c) := by
  unfold setDeviceParams
  split_ifs
  · exact numbered_refl c
  · exact ⟨rfl, Or.inr ⟨_, rfl, rfl, rfl⟩, rfl⟩

/-- Every request call numbers its frame. -/
theorem callRequest_numbered (call : RequestCall) (c : C3Connection) :
    Numbered (· = call.asks c.rtlogCommand) c (callRequest call c) := by
  cases call with
  | requestTableData tableName => exact requestTableData_numbered tableName
  | requestTableRecordCount tableName => exact requestTableRecordCount_numbered tableName
  | requestRealtimeLog => exact requestRealtimeLog_numbered
  | control call => cases call <;> exact sendControlRequest_numbered _ _ _ _
  | requestDeviceParams parameterNames => exact requestDeviceParams_numbered parameterNames
  | setDeviceParams values => exact setDeviceParams_numbered values

/-- A timeout writes nothing. -/
theorem fireTimeout_numbered (k : Kind) (c : C3Connection) :
    Numbered Asked c (fireTimeout k c) := by
  cases k <;> exact numbered_quiet rfl rfl rfl rfl

/-! ### Received bytes -/

theorem failDataQuery_numbered (error : QString) :
    Numbered Asked c (c.takeDataReply.failDataQuery error) :=
  numbered_quiet rfl rfl rfl rfl

theorem onDataTableConfig_numbered (hstep : c.dataQueryStep = .awaitingTableConfig) :
    Numbered (AsksData c) c c.onDataTableConfig.reaction := by
  unfold onDataTableConfig
  dsimp only
  split_ifs
  · exact numbered_refl c
  · exact failDataQuery_numbered _
  · split
    · exact failDataQuery_numbered _
    · rename_i table hfound
      have hasked : AsksData c (.getData table) :=
        .table table hstep (List.mem_of_find?_eq_some hfound)
          (of_decide_eq_true (List.find?_some hfound :))
      exact ⟨rfl, Or.inr ⟨_, hasked, rfl, rfl⟩, rfl⟩

theorem onTableData_numbered (hstep : c.dataQueryStep = .awaitingTableData) :
    Numbered (AsksData c) c c.onTableData.reaction := by
  unfold onTableData
  dsimp only
  split
  · exact numbered_refl c
  · split_ifs
    · exact failDataQuery_numbered _
    · exact ⟨rfl, Or.inr ⟨_, .firstChunk hstep, rfl, rfl⟩, rfl⟩
  · exact numbered_quiet rfl rfl rfl rfl
  · exact failDataQuery_numbered _

theorem onBigDataChunk_numbered (hstep : c.dataQueryStep = .awaitingBigDataChunk) :
    Numbered (AsksData c) c c.onBigDataChunk.reaction := by
  unfold onBigDataChunk
  dsimp only
  split_ifs
  · exact numbered_refl c
  · exact failDataQuery_numbered _
  · exact ⟨rfl, Or.inr ⟨_, .nextChunk hstep, rfl, rfl⟩, rfl⟩
  · exact ⟨rfl, Or.inr ⟨_, .freeData hstep, rfl, rfl⟩, rfl⟩

theorem onFreeDataAck_numbered : Numbered Asked c c.onFreeDataAck.reaction := by
  unfold onFreeDataAck
  dsimp only
  split_ifs
  · exact numbered_refl c
  · exact numbered_quiet rfl rfl rfl rfl
  · exact numbered_quiet rfl rfl rfl rfl

/-- The table data branch numbers its frame. -/
theorem onDataQueryData_numbered : Numbered (AsksData c) c c.onDataQueryData.reaction := by
  unfold onDataQueryData
  cases hstep : c.dataQueryStep with
  | none => exact numbered_refl c
  | awaitingTableConfig => exact onDataTableConfig_numbered hstep
  | awaitingTableData => exact onTableData_numbered hstep
  | awaitingBigDataChunk => exact onBigDataChunk_numbered hstep
  | awaitingFreeDataAck => exact onFreeDataAck_numbered

theorem onRtLogQueryData_numbered : Numbered Asked c c.onRtLogQueryData := by
  unfold onRtLogQueryData
  cases c.rtLogQueryStep with
  | none => exact numbered_refl c
  | awaitingBinaryReply =>
    dsimp only
    unfold onRtLogBinaryReply
    dsimp only
    split
    · exact numbered_refl c
    · exact numbered_quiet rfl rfl rfl rfl
    · exact numbered_quiet rfl rfl rfl rfl
    · exact numbered_quiet rfl rfl rfl rfl
  | awaitingKeyValueReply =>
    dsimp only
    unfold onRtLogKeyValueReply
    dsimp only
    split_ifs
    · exact numbered_refl c
    · exact numbered_quiet rfl rfl rfl rfl
    · exact numbered_quiet rfl rfl rfl rfl

theorem onControlData_numbered : Numbered Asked c c.onControlData := by
  unfold onControlData
  dsimp only
  split_ifs
  · exact numbered_refl c
  · exact numbered_quiet rfl rfl rfl rfl
  · exact numbered_quiet rfl rfl rfl rfl

theorem onGetParamData_numbered : Numbered Asked c c.onGetParamData := by
  unfold onGetParamData
  dsimp only
  split_ifs
  · exact numbered_refl c
  · exact numbered_quiet rfl rfl rfl rfl
  · exact numbered_quiet rfl rfl rfl rfl

theorem onSetParamData_numbered : Numbered Asked c c.onSetParamData := by
  unfold onSetParamData
  dsimp only
  split_ifs
  · exact numbered_refl c
  · exact numbered_quiet rfl rfl rfl rfl
  · exact numbered_quiet rfl rfl rfl rfl

/-- The record count branch numbers its frame. -/
theorem onCountQueryData_numbered : Numbered (AsksCount c) c c.onCountQueryData := by
  unfold onCountQueryData
  cases hstep : c.countQueryStep with
  | none => exact numbered_refl c
  | awaitingTableConfig =>
    dsimp only
    unfold onCountTableConfig
    dsimp only
    split_ifs
    · exact numbered_refl c
    · exact numbered_quiet rfl rfl rfl rfl
    · split
      · exact numbered_quiet rfl rfl rfl rfl
      · rename_i table hfound
        have hasked : AsksCount c (.getDataCount table) :=
          .count table hstep (List.mem_of_find?_eq_some hfound)
            (of_decide_eq_true (List.find?_some hfound :))
        exact ⟨rfl, Or.inr ⟨_, hasked, rfl, rfl⟩, rfl⟩
  | awaitingCount =>
    dsimp only
    unfold onCount
    dsimp only
    split_ifs
    · exact numbered_refl c
    · exact numbered_quiet rfl rfl rfl rfl
    · exact numbered_quiet rfl rfl rfl rfl

/-- So does every branch after the one for table data. -/
theorem onOtherData_numbered : Numbered (AsksCount c.readAll) c c.onOtherData := by
  have hread {Asked} {r : Reaction C3Connection Effect} (hr : Numbered Asked c.readAll r) :
      Numbered Asked c r := hr.of_same rfl rfl
  unfold onOtherData
  split_ifs
  · exact hread onRtLogQueryData_numbered
  · exact hread onControlData_numbered
  · exact hread onGetParamData_numbered
  · exact hread onSetParamData_numbered
  · exact hread onCountQueryData_numbered
  · exact numbered_refl c

/-- The table data branch leaves the record count query alone, and the bytes unless it has
read them. -/
theorem onDataQueryData_aside :
    let next := c.onDataQueryData.reaction.1
    next.countQueryStep = c.countQueryStep ∧
      next.pendingCountTableName = c.pendingCountTableName ∧ next.sessionLess = c.sessionLess ∧
        next.socket = c.socket ∧ (next.readBuffer = c.readBuffer ∨ next.readBuffer = []) := by
  unfold onDataQueryData
  cases c.dataQueryStep with
  | none => exact ⟨rfl, rfl, rfl, rfl, Or.inl rfl⟩
  | awaitingTableConfig =>
    dsimp only
    unfold onDataTableConfig
    dsimp only
    split_ifs
    · exact ⟨rfl, rfl, rfl, rfl, Or.inl rfl⟩
    · exact ⟨rfl, rfl, rfl, rfl, Or.inr rfl⟩
    · split <;> exact ⟨rfl, rfl, rfl, rfl, Or.inr rfl⟩
  | awaitingTableData =>
    dsimp only
    unfold onTableData
    dsimp only
    split
    · exact ⟨rfl, rfl, rfl, rfl, Or.inl rfl⟩
    · split_ifs <;> exact ⟨rfl, rfl, rfl, rfl, Or.inr rfl⟩
    · exact ⟨rfl, rfl, rfl, rfl, Or.inr rfl⟩
    · exact ⟨rfl, rfl, rfl, rfl, Or.inr rfl⟩
  | awaitingBigDataChunk =>
    dsimp only
    unfold onBigDataChunk
    dsimp only
    split_ifs
    · exact ⟨rfl, rfl, rfl, rfl, Or.inl rfl⟩
    all_goals exact ⟨rfl, rfl, rfl, rfl, Or.inr rfl⟩
  | awaitingFreeDataAck =>
    dsimp only
    unfold onFreeDataAck
    dsimp only
    split_ifs
    · exact ⟨rfl, rfl, rfl, rfl, Or.inl rfl⟩
    all_goals exact ⟨rfl, rfl, rfl, rfl, Or.inr rfl⟩

/-- Where control falls through, the record count query asks for what the received bytes
say, or finds none. -/
theorem asksCount_aside {request : FrameRequest}
    (h : AsksCount c.readAll.onDataQueryData.reaction.1.readAll request) :
    AsksCount c.readAll request := by
  obtain ⟨hstep, hname, hless, hsocket, hbytes⟩ := onDataQueryData_aside (c := c.readAll)
  have hbuffer : c.readAll.onDataQueryData.reaction.1.readAll.readBuffer =
      c.readAll.onDataQueryData.reaction.1.readBuffer := by
    rw [readAll, hsocket]
    exact List.append_nil _
  obtain ⟨table, hawaiting, hreceived, hpending⟩ := h
  rw [receivedTables, hbuffer] at hreceived
  rcases hbytes with hsame | hnil
  · refine .count table (hstep ▸ hawaiting) ?_ (hpending.trans hname)
    rw [hsame] at hreceived
    change table ∈ (decodeDataTableConfigResponse _
      (!c.readAll.onDataQueryData.reaction.1.sessionLess)).tables at hreceived
    rwa [hless] at hreceived
  · rw [hnil] at hreceived
    cases hblock : !c.readAll.onDataQueryData.reaction.1.readAll.sessionLess <;>
      rw [hblock] at hreceived <;> cases hreceived

/-- Received bytes lead to numbered frames, also where a branch falls through. -/
theorem onSocketReadyRead_stamps {Carries : ℕ → QByteArray → Prop} (h : InSession mode n c)
    (hcarries : ∀ m request, AsksData c.readAll request ∨ AsksCount c.readAll request →
      Carries m (mode.frameOf m request)) :
    Stamps Carries (InSession mode) Effect.frame n c.onSocketReadyRead := by
  have hbranch : Numbered (AsksData c.readAll) c c.readAll.onDataQueryData.reaction :=
    onDataQueryData_numbered.of_same rfl rfl
  have hfirst := hbranch.stamps h fun request hasked => hcarries n request (Or.inl hasked)
  unfold onSocketReadyRead
  rw [if_neg (by simp [h.attempt])]
  split_ifs
  · dsimp only
    split_ifs
    · exact hfirst
    · refine hfirst.andThen fun m hd => onOtherData_numbered.stamps hd fun request hasked => ?_
      exact hcarries m request (Or.inr (asksCount_aside hasked))
  · exact onOtherData_numbered.stamps h fun request hasked => hcarries n request (Or.inr hasked)

/-! ### Whole runs -/

/-- Everything but the next connect and the next disconnect. A retry of the
reconnect loop is both. -/
def Within : Event → Prop
  | .connectToHost .. | .disconnectNow | .reconnectTick _ => False
  | _ => True

/-- An operation on `state_` writes nothing. -/
theorem onState_frames (f : ConnectionState → Reaction ConnectionState Signal)
    (c : C3Connection) : frames (onState f c).2 = [] := by
  rw [frames, List.filterMap_eq_nil_iff]
  intro effect heffect
  obtain ⟨connected, rfl⟩ := onState_forwards heffect
  rfl

/-- Without an attempt that could fail, the error handler writes nothing. -/
theorem failAttempt_stamps {Carries : ℕ → QByteArray → Prop} (error : QString)
    (h : InSession mode n c) :
    Stamps Carries (InSession mode) Effect.frame n (c.failAttempt error) := by
  have hquiet : c.failAttempt error =
      ({ c.dropRequests with error := error, handshakeTimer := none }, []) :=
    if_neg (by simp [dropRequests, h.attempt])
  rw [hquiet]
  exact stamps_nothing rfl ⟨h.attempt, rfl, h.socket, h.sessionLess, h.session⟩

/-- A step of the session sends what it asks for, numbered. -/
theorem handle_stamps {e : Event} (h : InSession mode n c) (he : Within e)
    (henabled : c.Enabled e) :
    Stamps (Sends mode c e) (InSession mode) Effect.frame n (c.handle e) := by
  cases e with
  | connectToHost _ _ _ | disconnectNow | reconnectTick _ => exact he.elim
  | request call =>
    exact (callRequest_numbered call c).stamps h fun request hasked => ⟨request, hasked, rfl⟩
  | socketConnected => exact absurd henabled h.socket
  | socketError error dropped =>
    have hhandled : c.handle (.socketError error dropped) =
        failAttempt error { c with socket := if dropped then c.socket.drop else c.socket } :=
      if_neg (by simp [h.attempt])
    rw [hhandled]
    refine failAttempt_stamps error ⟨h.attempt, h.handshakeTimer, ?_, h.sessionLess, h.session⟩
    cases dropped with
    | true => exact SocketState.noConfusion
    | false => exact h.socket
  | socketDisconnected =>
    exact stamps_nothing rfl
      ⟨h.attempt, h.handshakeTimer, SocketState.noConfusion, h.sessionLess, h.session⟩
  | readyRead chunk =>
    exact onSocketReadyRead_stamps (c := { c with socket := c.socket.receive chunk })
      ⟨h.attempt, h.handshakeTimer, h.socket, h.sessionLess, h.session⟩
      fun _ request hasked => ⟨request, hasked, rfl⟩
  | handshakeTimeout =>
    have htimer : c.handshakeTimer.isSome = true := henabled
    rw [h.handshakeTimer] at htimer
    cases htimer
  | requestTimeout k =>
    have hquiet : Numbered (fun _ => False) c (fireTimeout k c) := fireTimeout_numbered k c
    exact hquiet.stamps h fun _ => False.elim
  | heartbeatTick =>
    exact stamps_nothing (onState_frames _ c)
      ⟨h.attempt, h.handshakeTimer, h.socket, h.sessionLess, h.session⟩

/-- A run within the session sends what its steps ask for, numbered. -/
theorem run_stamped {es : List Event} (h : InSession mode n c)
    (hrun : machine.EachStep (fun d e => Within e ∧ d.Enabled e) c es) :
    Stamped machine (Sends mode) Effect.frame n c es ∧
      InSession mode (n + (frames (machine.emitted c es)).length) (machine.after c es) :=
  stamped_run (fun _ _ _ hd he => handle_stamps hd he.1 he.2) h hrun

/-- The frame that ends a session is numbered too. -/
theorem disconnectFrames_sends (h : InSession mode n c) :
    Consecutive (Sends mode c .disconnectNow) n (frames c.disconnectFrames) := by
  have hframe := h.frameOf .disconnect
  unfold disconnectFrames
  split_ifs with hready hless
  · rw [hless] at hframe
    exact consecutive_singleton.mpr ⟨.disconnect, rfl, hframe⟩
  · rw [show (!c.sessionLess) = true by simp [hless]] at hframe
    exact consecutive_singleton.mpr ⟨.disconnect, rfl, hframe⟩
  · trivial

/-- A disconnect writes no other frame. -/
theorem disconnectNow_frames (c : C3Connection) :
    frames c.disconnectNow.2 = frames c.disconnectFrames := by
  unfold disconnectNow
  rw [Reaction.andThen_snd, frames, List.filterMap_append]
  have hquiet := onState_frames ConnectionState.disconnectNow
  unfold frames at hquiet
  rw [hquiet, List.append_nil]
  rfl

/-- Only a handshake establishes a session. -/
theorem onSocketReadyRead_announced (h : c.connectAttemptPending = false) :
    c.onSocketReadyRead.2.filterMap Effect.announced = [] := by
  have hothers : ∀ d : C3Connection, d.onOtherData.2.filterMap Effect.announced = [] :=
    fun d => (onOtherData_numbered (c := d)).announced
  have hbranch := (onDataQueryData_numbered (c := c.readAll)).announced
  unfold onSocketReadyRead
  rw [if_neg (by simp [h])]
  split_ifs
  · dsimp only
    split_ifs
    · exact hbranch
    · rw [Reaction.andThen_snd, List.filterMap_append, hbranch, hothers, List.append_nil]
  · exact hothers c

/-- A session is announced by a handshake that establishes it. -/
theorem establishSession_announced {sessionId announced : UInt16}
    (h : .sessionEstablished announced ∈ (establishSession sessionId c).2) :
    announced = sessionId := by
  rcases List.mem_append.mp h with hfirst | hlater
  · exact Effect.sessionEstablished.inj (List.mem_singleton.mp hfirst)
  · obtain ⟨connected, hsignal⟩ := onState_forwards hlater
    cases hsignal

/-- A handshake that fails announces no session. -/
theorem failSession_announced {error : QString} {announced : UInt16} :
    .sessionEstablished announced ∉ (failSession error c).2 := by
  intro h
  rcases List.mem_append.mp h with hfirst | hlater
  · cases List.mem_singleton.mp hfirst
  · obtain ⟨connected, hsignal⟩ := onState_forwards hlater
    cases hsignal

/-- When a session is announced, no frame of it has been written. -/
theorem onSocketReadyRead_established (hsocket : c.socket.state ≠ .connecting)
    {sessionId : UInt16} (h : .sessionEstablished sessionId ∈ c.onSocketReadyRead.2) :
    (sessionId ≠ 0 → InSession (.session sessionId) 0 c.onSocketReadyRead.1) ∧
      (c.onSocketReadyRead.1.sessionLess = true →
        InSession .sessionLess 0 c.onSocketReadyRead.1) := by
  cases hattempt : c.connectAttemptPending with
  | false =>
    have hnone := onSocketReadyRead_announced hattempt
    rw [List.filterMap_eq_nil_iff] at hnone
    cases hnone _ h
  | true =>
    have hhandshake : c.onSocketReadyRead = c.readAll.onHandshakeData := if_pos hattempt
    rw [hhandshake, onHandshakeData] at h ⊢
    cases hstep : c.readAll.handshakeStep with
    | none => simp [hstep] at h
    | awaitingSessionReply =>
      simp only [hstep, onSessionReply] at h ⊢
      split at h
      · cases h
      · obtain rfl := establishSession_announced h
        have hfirst : (kPreSessionRequestNr + 1).toUInt32.toUInt16 = UInt16.ofNat (65279 + 0) := by
          decide
        exact ⟨fun _ => ⟨rfl, rfl, hsocket, iff_of_false Bool.false_ne_true nofun,
          fun s hs => ⟨SessionMode.session.inj hs, hfirst⟩⟩, fun hless => nomatch hless⟩
      · cases List.mem_singleton.mp h
      · exact absurd h failSession_announced
    | awaitingSessionLessReply =>
      simp only [hstep, onSessionLessReply] at h ⊢
      split_ifs at h ⊢
      · cases h
      · obtain rfl := establishSession_announced h
        exact ⟨fun hzero => absurd rfl hzero,
          fun _ => ⟨rfl, rfl, hsocket, iff_of_true rfl rfl, nofun⟩⟩
      · exact absurd h failSession_announced

/-- A run that a disconnect may end sends what its steps ask for, numbered. -/
theorem closedRun_stamped {es last : List Event} (h : InSession mode 0 c)
    (hrun : machine.EachStep (fun d e => Within e ∧ d.Enabled e) c es)
    (hlast : last = [] ∨ last = [.disconnectNow]) :
    Stamped machine (Sends mode) Effect.frame 0 c (es ++ last) := by
  obtain ⟨hsent, hcounted⟩ := run_stamped h hrun
  refine stamped_append.mpr ⟨hsent, ?_⟩
  rcases hlast with rfl | rfl
  · trivial
  · refine ⟨?_, trivial⟩
    change Consecutive _ _ (frames (machine.after c es).disconnectNow.2)
    rw [disconnectNow_frames]
    exact disconnectFrames_sends hcounted

/-- The frame written after `n` others in a session has the block with this number. -/
theorem carriesBlock_of_sends {sessionId : UInt16} {e : Event} {frame : QByteArray}
    (h : Sends (.session sessionId) c e n frame) :
    CarriesBlock sessionId ((65279 + n) % 65536) frame := by
  obtain ⟨request, -, rfl⟩ := h
  obtain ⟨command, payload, hencode⟩ := request.encode_eq
  rw [SessionMode.frameOf, hencode]
  refine ⟨⟨command, _, payload, rfl⟩, ?_⟩
  rw [sessionBlock_encodeFrame, toUInt16_ofNat]
  exact ⟨rfl, UInt16.toNat_ofNat'⟩

/-- **Frames of a session are numbered.** From the moment a session is established up to
the next connect or disconnect, every frame is the frame of what its step asks for. The
`k`-th one carries the session id and the number `65279 + k` on 16 bits, the frame that
ends the session included; in a session-less run each is encoded without a session block. -/
theorem frames_numbered (c : C3Connection) (chunk : QByteArray) (es last : List Event)
    (hopen : c.Enabled (.readyRead chunk))
    (hrun : machine.EachStep (fun d e => Within e ∧ d.Enabled e)
      (machine.next c (.readyRead chunk)) es)
    (hlast : last = [] ∨ last = [.disconnectNow]) :
    let established := c.handle (.readyRead chunk)
    let written := frames (machine.emitted established.1 (es ++ last))
    (∀ sessionId, sessionId ≠ 0 → .sessionEstablished sessionId ∈ established.2 →
      Stamped machine (Sends (.session sessionId)) Effect.frame 0 established.1 (es ++ last) ∧
        ∀ k (hk : k < written.length),
          CarriesBlock sessionId ((65279 + k) % 65536) written[k]) ∧
    (.sessionEstablished 0 ∈ established.2 → established.1.sessionLess = true →
      Stamped machine (Sends .sessionLess) Effect.frame 0 established.1 (es ++ last)) := by
  intro established written
  have hsocket : (c.socket.receive chunk).state ≠ .connecting := by
    intro hconnecting
    rcases hopen with hopen | hopen <;> exact SocketState.noConfusion (hopen.symm.trans hconnecting)
  have hsession {sessionId : UInt16} (h : .sessionEstablished sessionId ∈ established.2) :=
    onSocketReadyRead_established (c := { c with socket := c.socket.receive chunk }) hsocket h
  constructor
  · intro sessionId hne hestablished
    have hsent := closedRun_stamped ((hsession hestablished).1 hne) hrun hlast
    refine ⟨hsent, fun k hk => ?_⟩
    have hcarries := (hsent.consecutive fun _ _ _ _ => carriesBlock_of_sends).get k hk
    rwa [Nat.zero_add] at hcarries
  · intro hestablished hless
    exact closedRun_stamped ((hsession hestablished).2 hless) hrun hlast

/-- A session with id 1: a table and a door are asked for before it ends. -/
theorem openSession_numbered :
    let awaiting := machine.after {} [.connectToHost "panel" 4370 .started, .socketConnected]
    let established := awaiting.handle (.readyRead (encodeFrame kReplyOk 1 0 [] true))
    let events := [.request (.requestTableData "user"), .request (.control (.controlDoorClose 1)),
      .disconnectNow]
    let written := frames (machine.emitted established.1 events)
    written.length = 3 ∧
      Stamped machine (Sends (.session 1)) Effect.frame 0 established.1 events ∧
      ∀ k (hk : k < written.length), CarriesBlock 1 ((65279 + k) % 65536) written[k] :=
  ⟨by decide +kernel, (frames_numbered _ _
    [.request (.requestTableData "user"), .request (.control (.controlDoorClose 1))] _
    (by decide +kernel) (by simp only [Mealy.EachStep, Within]; decide +kernel) (Or.inr rfl)).1 1
    (by decide) (by decide +kernel)⟩

end C3Connection

end QtAppBase.C3
