import QtAppBase.C3.Events
import QtAppBase.C3.RequestNumbers

/-!
# What the driver does of its own accord

Outside a handshake received bytes lead to outcomes of requests and to the later
frames of the queries that need several. None of that touches `state_` or says
anything about the connection, and but for the realtime log branch it leaves the
log mode alone. So every frame on the wire is either the frame of a request call
or one of a fixed list of commands.
-/

namespace QtAppBase.C3

open Library QtAppBase.Core Qt

/-- The commands the driver writes on its own account: the handshake, the end of
the session, and the later frames of a query. -/
def ownCommands : List UInt8 :=
  [kCommandConnectSession, kCommandConnectSessionLess, kCommandDisconnect, kCommandGetData,
    kCommandTransmitData, kCommandFreeData, kCommandGetDataCount]

/-- An effect that is no news about the connection, and no frame but the driver's own. -/
def Effect.isAside : Effect → Bool
  | .write frame => frameCommand frame ∈ ownCommands
  | .connectionStateChanged _ => false
  | _ => true

/-- An answer to a request for the realtime log. -/
def Effect.isLog : Effect → Bool
  | .realtimeLogReceived _ | .realtimeLogKeyValueReceived _ => true
  | _ => false

namespace C3Connection

variable {c d : C3Connection}

/-- A handler that leaves the connection up or down as it is, says nothing about it,
and writes only the driver's own frames. -/
structure Aside (c : C3Connection) (r : Reaction C3Connection Effect) : Prop where
  connected : r.1.state.connected = c.state.connected
  effects : ∀ effect ∈ r.2, effect.isAside = true

/-- Such a handler that neither answers a request for the realtime log nor changes its
mode; it may drop the request. -/
structure Routine (c : C3Connection) (r : Reaction C3Connection Effect) : Prop
    extends Aside c r where
  rtlogCommand : r.1.rtlogCommand = c.rtlogCommand
  rtLogQueryStep : r.1.rtLogQueryStep = c.rtLogQueryStep ∨ r.1.rtLogQueryStep = .none
  unlogged : ∀ effect ∈ r.2, effect.isLog = false

theorem aside_of {effects : List Effect} (hconnected : d.state.connected = c.state.connected)
    (heffects : effects.all Effect.isAside = true) : Aside c (d, effects) :=
  ⟨hconnected, List.all_eq_true.mp heffects⟩

/-- At most one effect, which can be read off. -/
theorem routine_of {effects : List Effect} (hconnected : d.state.connected = c.state.connected)
    (hcommand : d.rtlogCommand = c.rtlogCommand)
    (hstep : d.rtLogQueryStep = c.rtLogQueryStep ∨ d.rtLogQueryStep = .none)
    (heffects : effects.all (fun effect => effect.isAside && !effect.isLog) = true) :
    Routine c (d, effects) := by
  rw [List.all_eq_true] at heffects
  refine ⟨⟨hconnected, fun effect heffect => ?_⟩, hcommand, hstep, fun effect heffect => ?_⟩
  · exact (Bool.and_eq_true_iff.mp (heffects effect heffect)).1
  · simpa using (Bool.and_eq_true_iff.mp (heffects effect heffect)).2

/-- The state a handler starts from matters only for these members. -/
theorem Routine.of_same {r : Reaction C3Connection Effect} (h : Routine d r)
    (hconnected : d.state.connected = c.state.connected)
    (hcommand : d.rtlogCommand = c.rtlogCommand) (hstep : d.rtLogQueryStep = c.rtLogQueryStep) :
    Routine c r :=
  ⟨⟨h.connected.trans hconnected, h.effects⟩, h.rtlogCommand.trans hcommand,
    hstep ▸ h.rtLogQueryStep, h.unlogged⟩

theorem Aside.andThen {r : Reaction C3Connection Effect}
    {f : C3Connection → Reaction C3Connection Effect} (h : Aside c r)
    (hf : Aside r.1 (f r.1)) : Aside c (r.andThen f) := by
  refine ⟨hf.connected.trans h.connected, fun effect heffect => ?_⟩
  rcases List.mem_append.mp heffect with hfirst | hlater
  · exact h.effects effect hfirst
  · exact hf.effects effect hlater

theorem Routine.andThen {r : Reaction C3Connection Effect}
    {f : C3Connection → Reaction C3Connection Effect} (h : Routine c r)
    (hf : Routine r.1 (f r.1)) : Routine c (r.andThen f) := by
  refine ⟨h.toAside.andThen hf.toAside, hf.rtlogCommand.trans h.rtlogCommand, ?_,
    fun effect heffect => ?_⟩
  · rcases hf.rtLogQueryStep with hkept | hnone
    · exact h.rtLogQueryStep.imp hkept.trans hkept.trans
    · exact Or.inr hnone
  · rcases List.mem_append.mp heffect with hfirst | hlater
    · exact h.unlogged effect hfirst
    · exact hf.unlogged effect hlater

/-! ### The branches of received bytes -/

theorem onDataTableConfig_routine : Routine c c.onDataTableConfig.reaction := by
  unfold onDataTableConfig
  dsimp only
  split_ifs
  · exact routine_of rfl rfl (Or.inl rfl) rfl
  · exact routine_of rfl rfl (Or.inl rfl) rfl
  · split <;> exact routine_of rfl rfl (Or.inl rfl) rfl

theorem onTableData_routine : Routine c c.onTableData.reaction := by
  unfold onTableData
  dsimp only
  split
  · exact routine_of rfl rfl (Or.inl rfl) rfl
  · split_ifs <;> exact routine_of rfl rfl (Or.inl rfl) rfl
  · exact routine_of rfl rfl (Or.inl rfl) rfl
  · exact routine_of rfl rfl (Or.inl rfl) rfl

theorem onBigDataChunk_routine : Routine c c.onBigDataChunk.reaction := by
  unfold onBigDataChunk
  dsimp only
  split_ifs <;> exact routine_of rfl rfl (Or.inl rfl) rfl

theorem onFreeDataAck_routine : Routine c c.onFreeDataAck.reaction := by
  unfold onFreeDataAck
  dsimp only
  split_ifs <;> exact routine_of rfl rfl (Or.inl rfl) rfl

theorem onDataQueryData_routine : Routine c c.onDataQueryData.reaction := by
  unfold onDataQueryData
  cases c.dataQueryStep with
  | none => exact routine_of rfl rfl (Or.inl rfl) rfl
  | awaitingTableConfig => exact onDataTableConfig_routine
  | awaitingTableData => exact onTableData_routine
  | awaitingBigDataChunk => exact onBigDataChunk_routine
  | awaitingFreeDataAck => exact onFreeDataAck_routine

theorem onControlData_routine : Routine c c.onControlData := by
  unfold onControlData
  dsimp only
  split_ifs <;> exact routine_of rfl rfl (Or.inl rfl) rfl

theorem onGetParamData_routine : Routine c c.onGetParamData := by
  unfold onGetParamData
  dsimp only
  split_ifs <;> exact routine_of rfl rfl (Or.inl rfl) rfl

theorem onSetParamData_routine : Routine c c.onSetParamData := by
  unfold onSetParamData
  dsimp only
  split_ifs <;> exact routine_of rfl rfl (Or.inl rfl) rfl

theorem onCountQueryData_routine : Routine c c.onCountQueryData := by
  unfold onCountQueryData
  cases c.countQueryStep with
  | none => exact routine_of rfl rfl (Or.inl rfl) rfl
  | awaitingTableConfig =>
    dsimp only
    unfold onCountTableConfig
    dsimp only
    split_ifs
    · exact routine_of rfl rfl (Or.inl rfl) rfl
    · exact routine_of rfl rfl (Or.inl rfl) rfl
    · split <;> exact routine_of rfl rfl (Or.inl rfl) rfl
  | awaitingCount =>
    dsimp only
    unfold onCount
    dsimp only
    split_ifs <;> exact routine_of rfl rfl (Or.inl rfl) rfl

/-- What the realtime log branch does: nothing yet, an answer in the mode the request
was made in, the switch of mode, or a failure. -/
theorem onRtLogQueryData_cases (c : C3Connection) :
    c.onRtLogQueryData = (c, []) ∨
      (c.rtLogQueryStep = .awaitingBinaryReply ∧ ∃ records,
        c.onRtLogQueryData = (c.takeRtLogReply, [.realtimeLogReceived records])) ∨
      (c.rtLogQueryStep = .awaitingBinaryReply ∧ c.onRtLogQueryData =
        ({ c.takeRtLogReply with rtlogCommand := kCommandRtlogKeyValue },
          [.realtimeLogReceived []])) ∨
      (c.rtLogQueryStep = .awaitingKeyValueReply ∧ ∃ records,
        c.onRtLogQueryData = (c.takeRtLogReply, [.realtimeLogKeyValueReceived records])) ∨
      ∃ error, c.onRtLogQueryData = (c.takeRtLogReply, [.realtimeLogFailed error]) := by
  unfold onRtLogQueryData
  cases hstep : c.rtLogQueryStep with
  | none => exact Or.inl rfl
  | awaitingBinaryReply =>
    dsimp only
    unfold onRtLogBinaryReply
    dsimp only
    split
    · exact Or.inl rfl
    · exact Or.inr (Or.inl ⟨rfl, _, rfl⟩)
    · exact Or.inr (Or.inr (Or.inl ⟨rfl, rfl⟩))
    · exact Or.inr (Or.inr (Or.inr (Or.inr ⟨_, rfl⟩)))
  | awaitingKeyValueReply =>
    dsimp only
    unfold onRtLogKeyValueReply
    dsimp only
    split_ifs
    · exact Or.inl rfl
    · exact Or.inr (Or.inr (Or.inr (Or.inl ⟨rfl, _, rfl⟩)))
    · exact Or.inr (Or.inr (Or.inr (Or.inr ⟨_, rfl⟩)))

theorem onRtLogQueryData_aside (c : C3Connection) : Aside c c.onRtLogQueryData := by
  obtain h | ⟨-, _, h⟩ | ⟨-, h⟩ | ⟨-, _, h⟩ | ⟨_, h⟩ := onRtLogQueryData_cases c <;>
    · rw [h]
      exact aside_of rfl rfl

/-- The branches after the one for table data are routine but for the realtime log. -/
theorem onOtherData_cases (c : C3Connection) :
    c.onOtherData = c.readAll.onRtLogQueryData ∨ Routine c c.onOtherData := by
  have hread {r : Reaction C3Connection Effect} (hr : Routine c.readAll r) : Routine c r :=
    hr.of_same rfl rfl rfl
  unfold onOtherData
  split_ifs
  · exact Or.inl rfl
  · exact Or.inr (hread onControlData_routine)
  · exact Or.inr (hread onGetParamData_routine)
  · exact Or.inr (hread onSetParamData_routine)
  · exact Or.inr (hread onCountQueryData_routine)
  · exact Or.inr (routine_of rfl rfl (Or.inl rfl) rfl)

/-! ### The other handlers -/

theorem fireTimeout_routine (k : Kind) (c : C3Connection) : Routine c (c.fireTimeout k) := by
  cases k with
  | realtimeLog => exact routine_of rfl rfl (Or.inr rfl) rfl
  | _ => exact routine_of rfl rfl (Or.inl rfl) rfl

/-- The frame of a request call. -/
def requestFrame (c : C3Connection) : RequestCall → QByteArray
  | .requestTableData _ | .requestTableRecordCount _ =>
    encodeDataTableConfigRequest (!c.sessionLess) c.sessionId c.requestNr
  | .requestRealtimeLog =>
    if decide (c.rtlogCommand = kCommandRtlogBinary) then
      encodeRtlogBinaryRequest (!c.sessionLess) c.sessionId c.requestNr
    else encodeRtlogKeyValueRequest (!c.sessionLess) c.sessionId c.requestNr
  | .control call =>
    let (operation, param1, param2, param3) : ControlOperation × UInt8 × UInt8 × UInt8 :=
      match call with
      | .controlDoorOutput doorNumber durationSeconds =>
        (.output, doorNumber, ControlOutputAddress.door.code, durationSeconds)
      | .controlDoorOutputNormalOpen doorNumber =>
        (.output, doorNumber, ControlOutputAddress.door.code, 255)
      | .controlDoorClose doorNumber => (.output, doorNumber, ControlOutputAddress.door.code, 0)
      | .controlAuxOutput auxNumber durationSeconds =>
        (.output, auxNumber, ControlOutputAddress.aux.code, durationSeconds)
      | .cancelAlarm => (.cancelAlarm, 0, 0, 0)
      | .restartDevice => (.restartDevice, 0, 0, 0)
      | .setNormalOpenState doorNumber enabled =>
        (.enableDisableNormalOpen, doorNumber, if enabled then 1 else 0, 0)
    encodeControlRequest operation param1 param2 param3 (!c.sessionLess) c.sessionId c.requestNr
  | .requestDeviceParams parameterNames =>
    encodeGetParamRequest parameterNames (!c.sessionLess) c.sessionId c.requestNr
  | .setDeviceParams values =>
    encodeSetParamRequest values (!c.sessionLess) c.sessionId c.requestNr

theorem sendControlRequest_written (operation : ControlOperation) (param1 param2 param3 : UInt8)
    (c : C3Connection) :
    (sendControlRequest operation param1 param2 param3 c).1.state = c.state ∧
      ((sendControlRequest operation param1 param2 param3 c).2 = [] ∨
        c.isReady = true ∧ (sendControlRequest operation param1 param2 param3 c).2 =
          [.write (encodeControlRequest operation param1 param2 param3 (!c.sessionLess) c.sessionId
            c.requestNr)]) := by
  unfold sendControlRequest
  split_ifs with hrefused
  · exact ⟨rfl, Or.inl rfl⟩
  · exact ⟨rfl, Or.inr ⟨(not_refused hrefused).1, rfl⟩⟩

/-- A request writes its frame, or nothing, and leaves `state_` alone. -/
theorem callRequest_written (call : RequestCall) (c : C3Connection) :
    (c.callRequest call).1.state = c.state ∧
      ((c.callRequest call).2 = [] ∨
        c.isReady = true ∧ (c.callRequest call).2 = [.write (c.requestFrame call)]) := by
  cases call with
  | requestTableData tableName =>
    unfold callRequest requestTableData
    dsimp only
    split_ifs with hrefused
    · exact ⟨rfl, Or.inl rfl⟩
    · exact ⟨rfl, Or.inr ⟨(not_refused hrefused).1, rfl⟩⟩
  | requestTableRecordCount tableName =>
    unfold callRequest requestTableRecordCount
    dsimp only
    split_ifs with hrefused
    · exact ⟨rfl, Or.inl rfl⟩
    · exact ⟨rfl, Or.inr ⟨(not_refused hrefused).1, rfl⟩⟩
  | requestRealtimeLog =>
    unfold callRequest requestRealtimeLog
    dsimp only
    by_cases hrefused : (!c.isReady || c.rtLogQueryPending) = true
    · rw [if_pos hrefused]
      exact ⟨rfl, Or.inl rfl⟩
    · rw [if_neg hrefused]
      exact ⟨rfl, Or.inr ⟨(not_refused hrefused).1, rfl⟩⟩
  | control call => cases call <;> exact sendControlRequest_written ..
  | requestDeviceParams parameterNames =>
    unfold callRequest requestDeviceParams
    dsimp only
    split_ifs with hrefused
    · exact ⟨rfl, Or.inl rfl⟩
    · exact ⟨rfl, Or.inr ⟨(not_refused hrefused).1, rfl⟩⟩
  | setDeviceParams values =>
    unfold callRequest setDeviceParams
    dsimp only
    split_ifs with hrefused
    · exact ⟨rfl, Or.inl rfl⟩
    · exact ⟨rfl, Or.inr ⟨(not_refused hrefused).1, rfl⟩⟩

theorem failAttempt_routine (error : QString) (c : C3Connection) :
    Routine c (c.failAttempt error) := by
  unfold failAttempt
  dsimp only
  split_ifs <;> exact routine_of rfl rfl (Or.inr rfl) rfl

theorem connectFn_routine (launch : Launch) (c : C3Connection) :
    Routine c (c.connectFn launch) := by
  cases launch with
  | started => exact routine_of rfl rfl (Or.inl rfl) rfl
  | failed error =>
    have hfailed := failAttempt_routine error { c with
      error := ""
      readBuffer := []
      connectAttemptPending := true
      socket := c.socket.connectToHost (.failed error) }
    exact hfailed.of_same rfl rfl rfl

/-- A routine handler, or one up to an operation on `state_` that comes last. -/
def Settling (c : C3Connection) (r : Reaction C3Connection Effect) : Prop :=
  Routine c r ∨ ∃ q op, Routine c q ∧ r = q.andThen (onState fun s => s.perform op)

theorem Routine.thenState {q : Reaction C3Connection Effect} (h : Routine c q) (op : Operation) :
    Settling c (q.andThen (onState fun s => s.perform op)) :=
  Or.inr ⟨q, op, h, rfl⟩

theorem Settling.of_same {r : Reaction C3Connection Effect} (h : Settling d r)
    (hconnected : d.state.connected = c.state.connected)
    (hcommand : d.rtlogCommand = c.rtlogCommand) (hstep : d.rtLogQueryStep = c.rtLogQueryStep) :
    Settling c r := by
  rcases h with hroutine | ⟨q, op, hq, hr⟩
  · exact Or.inl (hroutine.of_same hconnected hcommand hstep)
  · exact Or.inr ⟨q, op, hq.of_same hconnected hcommand hstep, hr⟩

theorem onHandshakeData_settling (c : C3Connection) : Settling c c.onHandshakeData := by
  unfold onHandshakeData
  cases c.handshakeStep with
  | none => exact Or.inl (routine_of rfl rfl (Or.inl rfl) rfl)
  | awaitingSessionReply =>
    dsimp only
    unfold onSessionReply
    dsimp only
    split
    · exact Or.inl (routine_of rfl rfl (Or.inl rfl) rfl)
    · refine Routine.thenState ?_ (.reportPendingConnectResult true)
      exact routine_of rfl rfl (Or.inl rfl) rfl
    · exact Or.inl (routine_of rfl rfl (Or.inl rfl) rfl)
    · refine Routine.thenState ?_ (.reportPendingConnectResult false)
      exact routine_of rfl rfl (Or.inl rfl) rfl
  | awaitingSessionLessReply =>
    dsimp only
    unfold onSessionLessReply
    dsimp only
    split_ifs
    · exact Or.inl (routine_of rfl rfl (Or.inl rfl) rfl)
    · refine Routine.thenState ?_ (.reportPendingConnectResult true)
      exact routine_of rfl rfl (Or.inl rfl) rfl
    · refine Routine.thenState ?_ (.reportPendingConnectResult false)
      exact routine_of rfl rfl (Or.inl rfl) rfl

/-- An answer to a request for the realtime log, after what the branch of table data does. -/
def Logging (c : C3Connection) (r : Reaction C3Connection Effect) : Prop :=
  ∃ q, Routine c q ∧ r = q.andThen fun d => d.readAll.onRtLogQueryData

theorem onSocketReadyRead_cases (c : C3Connection) :
    Settling c c.onSocketReadyRead ∨ Logging c c.onSocketReadyRead := by
  by_cases hattempt : c.connectAttemptPending = true
  · rw [show c.onSocketReadyRead = c.readAll.onHandshakeData from if_pos hattempt]
    exact Or.inl ((onHandshakeData_settling c.readAll).of_same rfl rfl rfl)
  · have hroutine : Routine c c.readAll.onDataQueryData.reaction :=
      onDataQueryData_routine.of_same rfl rfl rfl
    have hothers : ∀ q, Routine c q → Settling c (q.andThen onOtherData) ∨
        Logging c (q.andThen onOtherData) := by
      intro q hq
      rcases onOtherData_cases q.1 with hlog | hrest
      · exact Or.inr ⟨q, hq, by rw [Reaction.andThen, hlog]; rfl⟩
      · exact Or.inl (Or.inl (hq.andThen hrest))
    unfold onSocketReadyRead
    rw [if_neg hattempt]
    split_ifs
    · dsimp only
      split_ifs
      · exact Or.inl (Or.inl hroutine)
      · exact hothers _ hroutine
    · exact hothers (c, []) (routine_of rfl rfl (Or.inl rfl) rfl)

theorem onSocketError_settling (error : QString) (dropped : Bool) (c : C3Connection) :
    Settling c (c.onSocketError error dropped) := by
  have hfailed : Routine c (failAttempt error
      { c with socket := if dropped then c.socket.drop else c.socket }) :=
    (failAttempt_routine error _).of_same rfl rfl rfl
  unfold onSocketError
  dsimp only
  by_cases hattempt : c.connectAttemptPending = true
  · rw [if_pos hattempt]
    exact hfailed.thenState (.reportPendingConnectResult false)
  · rw [if_neg hattempt]
    exact Or.inl hfailed

theorem onHandshakeTimeout_settling (c : C3Connection) : Settling c c.onHandshakeTimeout := by
  unfold onHandshakeTimeout
  dsimp only
  split_ifs
  · refine Routine.thenState ?_ (.reportPendingConnectResult false)
    exact routine_of rfl rfl (Or.inl rfl) rfl
  · exact Or.inl (routine_of rfl rfl (Or.inl rfl) rfl)

theorem disconnectNow_settling (c : C3Connection) : Settling c c.disconnectNow := by
  have hframes : c.disconnectFrames.all
      (fun effect => effect.isAside && !effect.isLog) = true := by
    unfold disconnectFrames
    split_ifs <;> rfl
  refine Routine.thenState ?_ .disconnectNow
  split_ifs <;> exact routine_of rfl rfl (Or.inr rfl) hframes

theorem onReconnectTick_settling (launch : Launch) (c : C3Connection) :
    Settling c (c.onReconnectTick launch) := by
  unfold onReconnectTick
  refine Routine.thenState ?_ (.reconnectTick (connectCall launch))
  split_ifs
  · exact (connectFn_routine launch c.disconnectFn).of_same rfl rfl rfl
  · exact routine_of rfl rfl (Or.inl rfl) rfl
  · exact connectFn_routine launch c
  · exact routine_of rfl rfl (Or.inl rfl) rfl

/-- **What an event can do.** Request calls and answers of the realtime log aside, an
event is settled without them. -/
theorem handle_cases (c : C3Connection) (e : Event) :
    (∃ call, e = .request call) ∨ Settling c (c.handle e) ∨ Logging c (c.handle e) := by
  cases e with
  | connectToHost host port launch =>
    have hconnect : Routine c (connectFn launch { c with
        error := ""
        host := host
        port := port
        state := c.state.setHandlers true true true true }) :=
      (connectFn_routine launch _).of_same rfl rfl rfl
    exact Or.inr (Or.inl (hconnect.thenState (.beginAutoConnect (connectCall launch))))
  | disconnectNow => exact Or.inr (Or.inl (disconnectNow_settling c))
  | request call => exact Or.inl ⟨call, rfl⟩
  | socketConnected => exact Or.inr (Or.inl (Or.inl (routine_of rfl rfl (Or.inl rfl) rfl)))
  | socketError error dropped => exact Or.inr (Or.inl (onSocketError_settling error dropped c))
  | socketDisconnected => exact Or.inr (Or.inl (Or.inl (routine_of rfl rfl (Or.inl rfl) rfl)))
  | readyRead chunk =>
    rcases onSocketReadyRead_cases { c with socket := c.socket.receive chunk } with
      hsettling | ⟨q, hq, hr⟩
    · exact Or.inr (Or.inl (hsettling.of_same rfl rfl rfl))
    · exact Or.inr (Or.inr ⟨q, hq.of_same rfl rfl rfl, hr⟩)
  | handshakeTimeout =>
    have htimeout := onHandshakeTimeout_settling { c with handshakeTimer := none }
    exact Or.inr (Or.inl (htimeout.of_same rfl rfl rfl))
  | requestTimeout k => exact Or.inr (Or.inl (Or.inl (fireTimeout_routine k c)))
  | heartbeatTick =>
    have hnothing : Routine c (c, []) := routine_of rfl rfl (Or.inl rfl) rfl
    exact Or.inr (Or.inl (hnothing.thenState (.heartbeatTick c.probeFn)))
  | reconnectTick launch => exact Or.inr (Or.inl (onReconnectTick_settling launch c))

/-- Seen from outside, an answer of the realtime log is aside too. -/
theorem handle_aside (c : C3Connection) {e : Event} (he : ∀ call, e ≠ .request call) :
    Aside c (c.handle e) ∨
      ∃ q op, Aside c q ∧ c.handle e = q.andThen (onState fun s => s.perform op) := by
  rcases handle_cases c e with ⟨call, hcall⟩ | (hroutine | ⟨q, op, hq, hr⟩) | ⟨q, hq, hr⟩
  · exact absurd hcall (he call)
  · exact Or.inl hroutine.toAside
  · exact Or.inr ⟨q, op, hq.toAside, hr⟩
  · rw [hr]
    have hlog := onRtLogQueryData_aside q.1.readAll
    exact Or.inl (hq.toAside.andThen ⟨hlog.connected, hlog.effects⟩)

/-- **Where frames come from.** A frame on the wire is the driver's own, or that of a
request call on a ready connection. -/
theorem handle_written {e : Event} {frame : QByteArray} (h : .write frame ∈ (c.handle e).2) :
    frameCommand frame ∈ ownCommands ∨
      ∃ call, e = .request call ∧ c.isReady = true ∧ frame = c.requestFrame call := by
  by_cases hcall : ∃ call, e = .request call
  · obtain ⟨call, rfl⟩ := hcall
    obtain ⟨-, hnothing | ⟨hready, hwritten⟩⟩ := callRequest_written call c
    · rw [show (c.handle (.request call)).2 = [] from hnothing] at h
      cases h
    · rw [show (c.handle (.request call)).2 = _ from hwritten] at h
      exact Or.inr ⟨call, rfl, hready, Effect.write.inj (List.mem_singleton.mp h)⟩
  · refine Or.inl ?_
    have haside {q : Reaction C3Connection Effect} (hq : Aside c q) (hframe : .write frame ∈ q.2) :
        frameCommand frame ∈ ownCommands := by
      have hown : Effect.isAside (.write frame) = true := hq.effects _ hframe
      exact of_decide_eq_true hown
    rcases handle_aside c (fun call he => hcall ⟨call, he⟩) with hsettled | ⟨q, op, hq, hr⟩
    · exact haside hsettled h
    · rw [hr] at h
      rcases List.mem_append.mp h with hfirst | hlater
      · exact haside hq hfirst
      · obtain ⟨connected, hsignal⟩ := onState_forwards hlater
        cases hsignal

end C3Connection

end QtAppBase.C3
