import QtAppBase.C3.Answers

/-!
# What the other events do to the requests

A request call is refused without any effect, or accepted with one frame; a
timeout ends its request; and an event that belongs to the connection makes no
request pending and adds nothing to the buffers.
-/

namespace QtAppBase.C3

open Library QtAppBase.Core Qt

namespace C3Connection

variable {c d : C3Connection}

/-! ### Requests and timeouts -/

/-- Whether a call is accepted. -/
def Accepts (c : C3Connection) (call : RequestCall) : Prop :=
  c.isReady = true ∧ c.pending call.kind = false

instance (c : C3Connection) (call : RequestCall) : Decidable (c.Accepts call) :=
  inferInstanceAs (Decidable (_ ∧ _))

/-- A ready connection without requests and without unread bytes. -/
structure ReadyIdle (c : C3Connection) : Prop where
  ready : c.isReady = true
  attempt : c.connectAttemptPending = false
  idle : c.dispatch = none
  unread : c.socket.unread = []

instance (c : C3Connection) : Decidable (ReadyIdle c) :=
  decidable_of_iff (c.isReady = true ∧ c.connectAttemptPending = false ∧ c.dispatch = none ∧
    c.socket.unread = [])
    ⟨fun h => ⟨h.1, h.2.1, h.2.2.1, h.2.2.2⟩, fun h => ⟨h.ready, h.attempt, h.idle, h.unread⟩⟩

/-- What an accepted call of a kind leads to. -/
structure Accepted (k : Kind) (c : C3Connection) (r : Reaction C3Connection Effect) : Prop where
  /-- Only a ready connection accepts requests. -/
  ready : c.isReady = true
  /-- A request of this kind was not pending, and now is. -/
  fresh : c.pending k = false
  pending : r.1.pending k = true
  /-- The read buffer is cleared, but not the socket. -/
  readBuffer : r.1.readBuffer = []
  socket : r.1.socket = c.socket
  /-- The connection and its session are untouched. -/
  lifecycle : r.1.lifecycle = c.lifecycle
  /-- Requests of other kinds are untouched. -/
  others : ∀ j, j ≠ k → r.1.pending j = c.pending j
  /-- Pending queries know which reply they wait for. -/
  stepping : Stepping c → Stepping r.1
  /-- One frame is written. -/
  result : ∃ frame, r.2 = [.write frame]

/-- A call is not refused on a ready connection without a request of its kind. -/
theorem not_refused {pending : Bool} (h : ¬ (!c.isReady || pending) = true) :
    c.isReady = true ∧ pending = false := by
  simpa using h

theorem requestTableData_spec (tableName : QString) :
    requestTableData tableName c = (c, []) ∨
      Accepted .tableData c (requestTableData tableName c) := by
  unfold requestTableData
  split_ifs with hrefused
  · exact Or.inl rfl
  · obtain ⟨hready, hfresh⟩ := not_refused hrefused
    refine Or.inr ⟨hready, hfresh, rfl, rfl, rfl, rfl, ?_, ?_, ⟨_, rfl⟩⟩
    · intro j hj
      cases j <;> first | rfl | exact absurd rfl hj
    · exact fun h => ⟨fun _ hnone => DataQueryStep.noConfusion hnone, h.recordCount, h.realtimeLog⟩

theorem requestTableRecordCount_spec (tableName : QString) :
    requestTableRecordCount tableName c = (c, []) ∨
      Accepted .recordCount c (requestTableRecordCount tableName c) := by
  unfold requestTableRecordCount
  split_ifs with hrefused
  · exact Or.inl rfl
  · obtain ⟨hready, hfresh⟩ := not_refused hrefused
    refine Or.inr ⟨hready, hfresh, rfl, rfl, rfl, rfl, ?_, ?_, ⟨_, rfl⟩⟩
    · intro j hj
      cases j <;> first | rfl | exact absurd rfl hj
    · exact fun h => ⟨h.tableData, fun _ hnone => CountQueryStep.noConfusion hnone, h.realtimeLog⟩

theorem requestRealtimeLog_spec :
    requestRealtimeLog c = (c, []) ∨ Accepted .realtimeLog c (requestRealtimeLog c) := by
  unfold requestRealtimeLog
  split_ifs with hrefused
  · exact Or.inl rfl
  · obtain ⟨hready, hfresh⟩ := not_refused hrefused
    refine Or.inr ⟨hready, hfresh, rfl, rfl, rfl, rfl, ?_, ?_, ⟨_, rfl⟩⟩
    · intro j hj
      cases j <;> first | rfl | exact absurd rfl hj
    · refine fun h => ⟨h.tableData, h.recordCount, fun _ => ?_⟩
      dsimp only
      split_ifs <;> decide

theorem sendControlRequest_spec (operation : ControlOperation) (param1 param2 param3 : UInt8) :
    sendControlRequest operation param1 param2 param3 c = (c, []) ∨
      Accepted .control c (sendControlRequest operation param1 param2 param3 c) := by
  unfold sendControlRequest
  split_ifs with hrefused
  · exact Or.inl rfl
  · obtain ⟨hready, hfresh⟩ := not_refused hrefused
    refine Or.inr ⟨hready, hfresh, rfl, rfl, rfl, rfl, ?_, fun h => ⟨h.1, h.2, h.3⟩, ⟨_, rfl⟩⟩
    intro j hj
    cases j <;> first | rfl | exact absurd rfl hj

theorem requestDeviceParams_spec (parameterNames : List QString) :
    requestDeviceParams parameterNames c = (c, []) ∨
      Accepted .getParam c (requestDeviceParams parameterNames c) := by
  unfold requestDeviceParams
  split_ifs with hrefused
  · exact Or.inl rfl
  · obtain ⟨hready, hfresh⟩ := not_refused hrefused
    refine Or.inr ⟨hready, hfresh, rfl, rfl, rfl, rfl, ?_, fun h => ⟨h.1, h.2, h.3⟩, ⟨_, rfl⟩⟩
    intro j hj
    cases j <;> first | rfl | exact absurd rfl hj

theorem setDeviceParams_spec (values : QVariantMap) :
    setDeviceParams values c = (c, []) ∨ Accepted .setParam c (setDeviceParams values c) := by
  unfold setDeviceParams
  split_ifs with hrefused
  · exact Or.inl rfl
  · obtain ⟨hready, hfresh⟩ := not_refused hrefused
    refine Or.inr ⟨hready, hfresh, rfl, rfl, rfl, rfl, ?_, fun h => ⟨h.1, h.2, h.3⟩, ⟨_, rfl⟩⟩
    intro j hj
    cases j <;> first | rfl | exact absurd rfl hj

/-- A request call is refused without any effect, or accepted. -/
theorem callRequest_spec (call : RequestCall) (c : C3Connection) :
    callRequest call c = (c, []) ∨ Accepted call.kind c (callRequest call c) := by
  cases call with
  | requestTableData tableName => exact requestTableData_spec tableName
  | requestTableRecordCount tableName => exact requestTableRecordCount_spec tableName
  | requestRealtimeLog => exact requestRealtimeLog_spec
  | control call => cases call <;> exact sendControlRequest_spec _ _ _ _
  | requestDeviceParams parameterNames => exact requestDeviceParams_spec parameterNames
  | setDeviceParams values => exact setDeviceParams_spec values

/-- What the timeout of a kind of request leads to. -/
structure TimedOut (k : Kind) (c : C3Connection) (r : Reaction C3Connection Effect) : Prop where
  /-- The request is over. -/
  pending : r.1.pending k = false
  /-- Received bytes stay where they are. -/
  readBuffer : r.1.readBuffer = c.readBuffer
  socket : r.1.socket = c.socket
  /-- The connection and its session are untouched. -/
  lifecycle : r.1.lifecycle = c.lifecycle
  /-- Requests of other kinds are untouched. -/
  others : ∀ j, j ≠ k → r.1.pending j = c.pending j
  /-- Pending queries know which reply they wait for. -/
  stepping : Stepping c → Stepping r.1
  /-- The outcome is a failure. -/
  result : ∃ outcome, r.2 = [outcome] ∧ outcome.outcomeKind = some k ∧
    outcome ≠ .controlAcknowledged

/-- Every timeout ends its request. -/
theorem fireTimeout_spec (k : Kind) (c : C3Connection) : TimedOut k c (fireTimeout k c) := by
  have hothers : ∀ j, j ≠ k → (fireTimeout k c).1.pending j = c.pending j := by
    intro j hj
    cases k <;> cases j <;> first | rfl | exact absurd rfl hj
  have hstepping : Stepping c → Stepping (fireTimeout k c).1 := by
    intro h
    cases k <;> constructor <;>
      first
      | exact h.tableData
      | exact h.recordCount
      | exact h.realtimeLog
      | exact fun hp => absurd hp Bool.false_ne_true
  cases k <;> exact ⟨rfl, rfl, rfl, rfl, hothers, hstepping, _, rfl, rfl, by simp⟩

/-! ### The connection lifecycle -/

/-- What an event that belongs to the connection and not to a request leads to. -/
structure Unrequested (c : C3Connection) (r : Reaction C3Connection Effect) : Prop where
  /-- No request becomes pending. -/
  pending : ∀ k, r.1.pending k = true → c.pending k = true
  /-- The read buffer is kept or cleared. -/
  readBuffer : r.1.readBuffer = c.readBuffer ∨ r.1.readBuffer = []
  /-- Unread bytes stay or are discarded. -/
  unread : r.1.socket.unread = c.socket.unread ∨ r.1.socket.unread = []
  /-- Pending queries know which reply they wait for. -/
  stepping : Stepping c → Stepping r.1

theorem Unrequested.refl (c : C3Connection) (effects : List Effect) : Unrequested c (c, effects) :=
  ⟨fun _ => id, Or.inl rfl, Or.inl rfl, id⟩

/-- One such event after another. -/
theorem Unrequested.andThen {r : Reaction C3Connection Effect}
    {f : C3Connection → Reaction C3Connection Effect} (h : Unrequested c r)
    (hf : ∀ d, Unrequested d (f d)) : Unrequested c (r.andThen f) := by
  have hnext := hf r.1
  refine ⟨fun k hk => h.pending k (hnext.pending k hk), ?_, ?_,
    fun hc => hnext.stepping (h.stepping hc)⟩
  · rcases hnext.readBuffer with hsame | hnil
    · exact h.readBuffer.imp hsame.trans hsame.trans
    · exact Or.inr hnil
  · rcases hnext.unread with hsame | hnil
    · exact h.unread.imp hsame.trans hsame.trans
    · exact Or.inr hnil

/-- An operation on `state_` leaves the rest alone. -/
theorem onState_unrequested (f : ConnectionState → Reaction ConnectionState Signal)
    (c : C3Connection) : Unrequested c (onState f c) :=
  ⟨fun k hk => by cases k <;> exact hk, Or.inl rfl, Or.inl rfl, fun h => ⟨h.1, h.2, h.3⟩⟩

theorem failAttempt_unrequested (error : QString) (c : C3Connection) :
    Unrequested c (c.failAttempt error) := by
  have hpending : ∀ k, (c.failAttempt error).1.pending k = false := by
    intro k
    unfold failAttempt
    dsimp only
    split_ifs <;> cases k <;> rfl
  have hstepping : Stepping (c.failAttempt error).1 := by
    unfold failAttempt
    dsimp only
    split_ifs <;> constructor <;> exact fun hp => absurd hp Bool.false_ne_true
  refine ⟨fun k hk => absurd (hpending k) (by simp [hk]), Or.inl ?_, Or.inl ?_, fun _ => hstepping⟩
  · unfold failAttempt
    dsimp only
    split_ifs <;> rfl
  · unfold failAttempt
    dsimp only
    split_ifs <;> rfl

/-- Starting to connect keeps the unread bytes or discards them. -/
theorem connectToHost_unread (launch : Launch) (s : TcpSocket) :
    (s.connectToHost launch).unread = s.unread ∨ (s.connectToHost launch).unread = [] := by
  unfold TcpSocket.connectToHost
  split
  · cases launch <;> exact Or.inr rfl
  · exact Or.inl rfl

theorem connectFn_unrequested (launch : Launch) (c : C3Connection) :
    Unrequested c (c.connectFn launch) := by
  have hstarted : Unrequested c
      ({ c with
        error := ""
        readBuffer := []
        connectAttemptPending := true
        socket := c.socket.connectToHost launch }, []) :=
    ⟨fun k hk => by cases k <;> exact hk, Or.inr rfl, connectToHost_unread launch c.socket,
      fun h => ⟨h.1, h.2, h.3⟩⟩
  cases launch with
  | started => exact hstarted
  | failed error => exact hstarted.andThen (failAttempt_unrequested error)

theorem disconnectFn_unrequested (c : C3Connection) : Unrequested c (c.disconnectFn, []) :=
  ⟨fun k hk => by cases k <;> exact hk, Or.inl rfl, Or.inr rfl, fun h => ⟨h.1, h.2, h.3⟩⟩

theorem onSocketError_unrequested (error : QString) (dropped : Bool) (c : C3Connection) :
    Unrequested c (c.onSocketError error dropped) := by
  have hdropped : Unrequested c
      ({ c with socket := if dropped then c.socket.drop else c.socket }, []) := by
    refine ⟨fun k hk => by cases k <;> exact hk, Or.inl rfl, Or.inl ?_, fun h => ⟨h.1, h.2, h.3⟩⟩
    cases dropped <;> rfl
  have hfailed := hdropped.andThen (failAttempt_unrequested error)
  by_cases hattempt : c.connectAttemptPending = true
  · have hreported := hfailed.andThen
      (onState_unrequested (ConnectionState.reportPendingConnectResult false))
    rwa [show c.onSocketError error dropped = _ from if_pos hattempt]
  · rwa [show c.onSocketError error dropped = _ from if_neg hattempt]

theorem onHandshakeTimeout_unrequested (c : C3Connection) :
    Unrequested c (onHandshakeTimeout { c with handshakeTimer := none }) := by
  unfold onHandshakeTimeout
  dsimp only
  split_ifs
  · refine Unrequested.andThen ?_ (onState_unrequested _)
    exact ⟨fun k hk => by cases k <;> exact hk, Or.inl rfl, Or.inr rfl, fun h => ⟨h.1, h.2, h.3⟩⟩
  · exact ⟨fun k hk => by cases k <;> exact hk, Or.inl rfl, Or.inr rfl, fun h => ⟨h.1, h.2, h.3⟩⟩

theorem disconnectNow_unrequested (c : C3Connection) : Unrequested c c.disconnectNow := by
  unfold disconnectNow
  dsimp only
  refine Unrequested.andThen ?_ (onState_unrequested _)
  have hdropped : ∀ d : C3Connection, (∀ k, d.pending k = false) → Stepping d →
      d.readBuffer = c.readBuffer →
      (d.socket.unread = c.socket.unread ∨ d.socket.unread = []) →
      Unrequested c (d, c.disconnectFrames) :=
    fun d hpending hstepping hbuffer hunread =>
      ⟨fun k hk => absurd (hpending k) (by simp [hk]), Or.inl hbuffer, hunread, fun _ => hstepping⟩
  split_ifs
  · refine hdropped _ (fun k => by cases k <;> rfl) ?_ rfl (Or.inr rfl)
    constructor <;> exact fun hp => absurd hp Bool.false_ne_true
  · refine hdropped _ (fun k => by cases k <;> rfl) ?_ rfl (Or.inl rfl)
    constructor <;> exact fun hp => absurd hp Bool.false_ne_true

theorem onReconnectTick_unrequested (launch : Launch) (c : C3Connection) :
    Unrequested c (c.onReconnectTick launch) := by
  have hdisconnected : Unrequested c ((if c.state.disconnect then c.disconnectFn else c), []) := by
    split_ifs
    · exact disconnectFn_unrequested c
    · exact Unrequested.refl c []
  have hconnecting : ∀ d : C3Connection,
      Unrequested d (if d.state.connect then d.connectFn launch else (d, [])) := by
    intro d
    split_ifs
    · exact connectFn_unrequested launch d
    · exact Unrequested.refl d []
  exact (hdisconnected.andThen hconnecting).andThen (onState_unrequested _)

theorem establishSession_unrequested (sessionId : UInt16) (c : C3Connection) :
    Unrequested c (c.establishSession sessionId) := by
  refine Unrequested.andThen ?_ (onState_unrequested _)
  exact ⟨fun k hk => by cases k <;> exact hk, Or.inl rfl, Or.inl rfl, fun h => ⟨h.1, h.2, h.3⟩⟩

theorem failSession_unrequested (error : QString) (c : C3Connection) :
    Unrequested c (c.failSession error) := by
  refine Unrequested.andThen ?_ (onState_unrequested _)
  exact ⟨fun k hk => by cases k <;> exact hk, Or.inl rfl, Or.inl rfl, fun h => ⟨h.1, h.2, h.3⟩⟩

/-- A handshake reply may be taken from the buffer first. -/
theorem Unrequested.of_taken {r : Reaction C3Connection Effect} (h : Unrequested d r)
    (hpending : d.pending = c.pending) (hbuffer : d.readBuffer = []) (hsocket : d.socket = c.socket)
    (hstepping : Stepping c → Stepping d) : Unrequested c r := by
  refine ⟨fun k hk => ?_, Or.inr ?_, ?_, fun hc => h.stepping (hstepping hc)⟩
  · rw [← hpending]
    exact h.pending k hk
  · exact h.readBuffer.elim (fun hsame => hsame.trans hbuffer) id
  · rw [← hsocket]
    exact h.unread

/-- The handshake makes no request pending and keeps or clears the buffer. -/
theorem onHandshakeData_unrequested (c : C3Connection) : Unrequested c c.onHandshakeData := by
  unfold onHandshakeData
  split
  · unfold onSessionReply
    dsimp only
    split
    · exact Unrequested.refl c []
    · exact (establishSession_unrequested _ _).of_taken rfl rfl rfl fun h => ⟨h.1, h.2, h.3⟩
    · exact (Unrequested.refl _ _).of_taken rfl rfl rfl fun h => ⟨h.1, h.2, h.3⟩
    · exact (failSession_unrequested _ _).of_taken rfl rfl rfl fun h => ⟨h.1, h.2, h.3⟩
  · unfold onSessionLessReply
    dsimp only
    split_ifs
    · exact Unrequested.refl c []
    · exact (establishSession_unrequested _ _).of_taken rfl rfl rfl fun h => ⟨h.1, h.2, h.3⟩
    · exact (failSession_unrequested _ _).of_taken rfl rfl rfl fun h => ⟨h.1, h.2, h.3⟩
  · exact Unrequested.refl c []

/-- Events that belong to the connection and not to a request. -/
def IsLifecycle : Event → Prop
  | .request _ | .readyRead _ | .requestTimeout _ => False
  | _ => True

/-- Such an event makes no request pending and keeps or clears the buffers. -/
theorem handle_unrequested (c : C3Connection) {e : Event} (he : IsLifecycle e) :
    Unrequested c (c.handle e) := by
  cases e with
  | connectToHost host port launch =>
    have hhandlers : Unrequested c
        ({ c with
          error := ""
          host := host
          port := port
          state := c.state.setHandlers true true true true }, []) :=
      ⟨fun k hk => by cases k <;> exact hk, Or.inl rfl, Or.inl rfl, fun h => ⟨h.1, h.2, h.3⟩⟩
    exact (hhandlers.andThen (connectFn_unrequested launch)).andThen (onState_unrequested _)
  | disconnectNow => exact disconnectNow_unrequested c
  | socketConnected =>
    exact ⟨fun k hk => by cases k <;> exact hk, Or.inr rfl, Or.inl rfl, fun h => ⟨h.1, h.2, h.3⟩⟩
  | socketError error dropped => exact onSocketError_unrequested error dropped c
  | socketDisconnected =>
    exact ⟨fun k hk => by cases k <;> exact hk, Or.inl rfl, Or.inl rfl, fun h => ⟨h.1, h.2, h.3⟩⟩
  | handshakeTimeout => exact onHandshakeTimeout_unrequested c
  | heartbeatTick => exact onState_unrequested _ c
  | reconnectTick launch => exact onReconnectTick_unrequested launch c
  | request _ | readyRead _ | requestTimeout _ => exact he.elim

end C3Connection

/-- A session with id 1 is established. -/
def openSession : List Event :=
  [.connectToHost "panel" 4370 .started, .socketConnected,
    .readyRead (encodeFrame kReplyOk 1 0 [] true)]

/-- The connection right after that. -/
def sessionOpen : C3Connection := C3Connection.machine.after {} openSession

end QtAppBase.C3
