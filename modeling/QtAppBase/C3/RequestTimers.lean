import QtAppBase.C3.Events

/-!
# The timers of pending requests

For each kind of request there are a flag and a timer, and for the three
queries a step. Every handler moves them together: it leaves a kind as it is,
or ends it, or goes on with its timer started again. So a request that is
pending always has a timer that will release it.
-/

namespace QtAppBase.C3

open Library QtAppBase.Core Qt

/-- What the driver holds for a kind of request: its flag, its timer, and
whether it waits for a reply at some step. Kinds without steps wait while their
flag is set. -/
structure RequestState where
  pending : Bool
  timer : Option ℤ
  waiting : Bool

/-- Flag, timer and step agree. -/
structure RequestState.Consistent (r : RequestState) : Prop where
  timer : r.timer.isSome = r.pending
  waiting : r.waiting = r.pending

namespace C3Connection

variable {c d : C3Connection}

/-- The state of a kind of request. -/
def request (c : C3Connection) : Kind → RequestState
  | .tableData => ⟨c.dataQueryPending, c.dataQueryTimer, c.dataQueryStep ≠ .none⟩
  | .recordCount => ⟨c.countQueryPending, c.countQueryTimer, c.countQueryStep ≠ .none⟩
  | .realtimeLog => ⟨c.rtLogQueryPending, c.rtLogQueryTimer, c.rtLogQueryStep ≠ .none⟩
  | .control => ⟨c.controlPending, c.controlTimer, c.controlPending⟩
  | .getParam => ⟨c.getParamPending, c.getParamTimer, c.getParamPending⟩
  | .setParam => ⟨c.setParamPending, c.setParamTimer, c.setParamPending⟩

/-- Flags, timers and steps agree for every kind. -/
def Consistent (c : C3Connection) : Prop := ∀ k, (c.request k).Consistent

/-- A handler moved one kind of request, if any, to a consistent state. -/
structure Moved (k : Kind) (c d : C3Connection) : Prop where
  /-- The kind is untouched, or its flag, timer and step agree. -/
  moved : d.request k = c.request k ∨ (d.request k).Consistent
  /-- The other kinds are untouched. -/
  others : ∀ j, j ≠ k → d.request j = c.request j

theorem Moved.refl (k : Kind) (c : C3Connection) : Moved k c c := ⟨Or.inl rfl, fun _ _ => rfl⟩

/-- The state a handler starts from matters only for the requests it keeps. -/
theorem Moved.of_same {k : Kind} {e : C3Connection} (h : Moved k d e)
    (hsame : ∀ j, j ≠ k → d.request j = c.request j) (hend : (e.request k).Consistent) :
    Moved k c e := ⟨Or.inr hend, fun j hj => (h.others j hj).trans (hsame j hj)⟩

/-- A move keeps the agreement. -/
theorem Consistent.moved {k : Kind} (h : Consistent c) (hmoved : Moved k c d) : Consistent d := by
  intro j
  by_cases hj : j = k
  · subst hj
    rcases hmoved.moved with hsame | hconsistent
    · rw [hsame]
      exact h j
    · exact hconsistent
  · rw [hmoved.others j hj]
    exact h j

/-- So does a step that touches no request. -/
theorem Consistent.of_same (h : Consistent c) (hsame : ∀ k, d.request k = c.request k) :
    Consistent d := fun k => (hsame k).symm ▸ h k

/-! ### Requests and timeouts -/

/-- A request call moves its own kind. -/
theorem callRequest_moved (call : RequestCall) (c : C3Connection) :
    Moved call.kind c (callRequest call c).1 := by
  have hcontrol : ∀ operation param1 param2 param3,
      Moved .control c (sendControlRequest operation param1 param2 param3 c).1 := by
    intro operation param1 param2 param3
    unfold sendControlRequest
    split_ifs
    · exact Moved.refl _ c
    · exact ⟨Or.inr ⟨rfl, rfl⟩, fun j hj => by cases j <;> first | rfl | exact absurd rfl hj⟩
  cases call with
  | requestTableData tableName =>
    change Moved _ c (requestTableData tableName c).1
    unfold requestTableData
    split_ifs
    · exact Moved.refl _ c
    · exact ⟨Or.inr ⟨rfl, rfl⟩, fun j hj => by cases j <;> first | rfl | exact absurd rfl hj⟩
  | requestTableRecordCount tableName =>
    change Moved _ c (requestTableRecordCount tableName c).1
    unfold requestTableRecordCount
    split_ifs
    · exact Moved.refl _ c
    · exact ⟨Or.inr ⟨rfl, rfl⟩, fun j hj => by cases j <;> first | rfl | exact absurd rfl hj⟩
  | requestRealtimeLog =>
    change Moved _ c (requestRealtimeLog c).1
    unfold requestRealtimeLog
    split_ifs
    · exact Moved.refl _ c
    · refine ⟨Or.inr ⟨rfl, ?_⟩, fun j hj => by cases j <;> first | rfl | exact absurd rfl hj⟩
      change decide ((if _ then _ else _ : RtLogQueryStep) ≠ .none) = true
      split_ifs <;> rfl
  | control call => cases call <;> exact hcontrol _ _ _ _
  | requestDeviceParams parameterNames =>
    change Moved _ c (requestDeviceParams parameterNames c).1
    unfold requestDeviceParams
    split_ifs
    · exact Moved.refl _ c
    · exact ⟨Or.inr ⟨rfl, rfl⟩, fun j hj => by cases j <;> first | rfl | exact absurd rfl hj⟩
  | setDeviceParams values =>
    change Moved _ c (setDeviceParams values c).1
    unfold setDeviceParams
    split_ifs
    · exact Moved.refl _ c
    · exact ⟨Or.inr ⟨rfl, rfl⟩, fun j hj => by cases j <;> first | rfl | exact absurd rfl hj⟩

/-- A timeout ends its own kind. -/
theorem fireTimeout_moved (k : Kind) (c : C3Connection) : Moved k c (fireTimeout k c).1 := by
  refine ⟨Or.inr ?_, fun j hj => ?_⟩
  · cases k <;> exact ⟨rfl, rfl⟩
  · cases k <;> cases j <;> first | rfl | exact absurd rfl hj

/-! ### The connection lifecycle -/

/-- A step that touches no request and reports no outcome. -/
structure Kept (c : C3Connection) (r : Reaction C3Connection Effect) : Prop where
  same : ∀ k, r.1.request k = c.request k
  quiet : ∀ effect ∈ r.2, effect.outcomeKind = none

/-- A step that ends all requests and reports no outcome. -/
structure Dropped (r : Reaction C3Connection Effect) : Prop where
  ended : ∀ k, r.1.request k = ⟨false, none, false⟩
  quiet : ∀ effect ∈ r.2, effect.outcomeKind = none

/-- A silent step that touches no request. -/
theorem Kept.silent (h : ∀ k, d.request k = c.request k) : Kept c (d, []) := ⟨h, by simp⟩

/-- Steps that touch no request, one after the other. -/
theorem Kept.andThen {r : Reaction C3Connection Effect}
    {f : C3Connection → Reaction C3Connection Effect} (h : Kept c r) (hf : ∀ d, Kept d (f d)) :
    Kept c (r.andThen f) := by
  refine ⟨fun k => ((hf r.1).same k).trans (h.same k), fun effect heffect => ?_⟩
  rcases List.mem_append.mp heffect with heffect | heffect
  · exact h.quiet effect heffect
  · exact (hf r.1).quiet effect heffect

/-- What touches no request may come after the end of all of them. -/
theorem Dropped.andThen {r : Reaction C3Connection Effect}
    {f : C3Connection → Reaction C3Connection Effect} (h : Dropped r) (hf : ∀ d, Kept d (f d)) :
    Dropped (r.andThen f) := by
  refine ⟨fun k => ((hf r.1).same k).trans (h.ended k), fun effect heffect => ?_⟩
  rcases List.mem_append.mp heffect with heffect | heffect
  · exact h.quiet effect heffect
  · exact (hf r.1).quiet effect heffect

/-- An operation on `state_` touches no request. -/
theorem onState_kept (f : ConnectionState → Reaction ConnectionState Signal) (c : C3Connection) :
    Kept c (onState f c) := by
  refine ⟨fun k => by cases k <;> rfl, fun effect heffect => ?_⟩
  obtain ⟨connected, rfl⟩ := onState_forwards heffect
  rfl

/-- The error handler ends all requests. -/
theorem failAttempt_dropped (error : QString) (c : C3Connection) :
    Dropped (c.failAttempt error) := by
  unfold failAttempt
  dsimp only
  split_ifs <;> exact ⟨fun k => by cases k <;> rfl, by simp [Effect.outcomeKind]⟩

theorem establishSession_kept (sessionId : UInt16) (c : C3Connection) :
    Kept c (c.establishSession sessionId) :=
  Kept.andThen ⟨fun k => by cases k <;> rfl, by simp [Effect.outcomeKind]⟩ (onState_kept _)

theorem failSession_kept (error : QString) (c : C3Connection) : Kept c (c.failSession error) :=
  Kept.andThen ⟨fun k => by cases k <;> rfl, by simp [Effect.outcomeKind]⟩ (onState_kept _)

/-- The state a handshake reply was taken from matters only for its requests. -/
theorem Kept.of_same {r : Reaction C3Connection Effect} (h : Kept d r)
    (hsame : ∀ k, d.request k = c.request k) : Kept c r :=
  ⟨fun k => (h.same k).trans (hsame k), h.quiet⟩

/-- The handshake touches no request. -/
theorem onHandshakeData_kept (c : C3Connection) : Kept c c.onHandshakeData := by
  unfold onHandshakeData
  split
  · unfold onSessionReply
    dsimp only
    split
    · exact Kept.silent fun _ => rfl
    · exact (establishSession_kept _ _).of_same fun k => by cases k <;> rfl
    · exact ⟨fun k => by cases k <;> rfl, by simp [Effect.outcomeKind]⟩
    · exact (failSession_kept _ _).of_same fun k => by cases k <;> rfl
  · unfold onSessionLessReply
    dsimp only
    split_ifs
    · exact Kept.silent fun _ => rfl
    · exact (establishSession_kept _ _).of_same fun k => by cases k <;> rfl
    · exact (failSession_kept _ _).of_same fun k => by cases k <;> rfl
  · exact Kept.silent fun _ => rfl

/-- A socket error strikes: on its own, or from inside a connect call that fails at once. -/
def SocketFails (c : C3Connection) : Event → Prop
  | .socketError _ _ => True
  | .connectToHost _ _ (.failed _) => True
  | .reconnectTick (.failed _) => c.state.connect = true
  | _ => False

instance (c : C3Connection) : ∀ e, Decidable (c.SocketFails e)
  | .socketError .. | .connectToHost _ _ (.failed _) => isTrue trivial
  | .reconnectTick (.failed _) => inferInstanceAs (Decidable (_ = true))
  | .connectToHost _ _ .started | .reconnectTick .started | .disconnectNow | .request _
  | .socketConnected | .socketDisconnected | .readyRead _ | .handshakeTimeout | .requestTimeout _
  | .heartbeatTick => isFalse id

/-- A socket error ends all requests, and says nothing about them. -/
theorem handle_socketFails {e : Event} (h : c.SocketFails e) : Dropped (c.handle e) := by
  have hconnect : ∀ (error : QString) (c : C3Connection),
      Dropped (c.connectFn (.failed error)) := by
    intro error c
    unfold connectFn
    exact failAttempt_dropped error _
  unfold SocketFails at h
  split at h
  · next error dropped =>
    change Dropped (c.onSocketError error dropped)
    by_cases hattempt : c.connectAttemptPending = true
    · rw [show c.onSocketError error dropped = _ from if_pos hattempt]
      exact (failAttempt_dropped error _).andThen (onState_kept _)
    · rw [show c.onSocketError error dropped = _ from if_neg hattempt]
      exact failAttempt_dropped error _
  · next host port error => exact (hconnect error _).andThen (onState_kept _)
  · next error =>
    change Dropped (c.onReconnectTick (.failed error))
    unfold onReconnectTick
    have hhandler : (if c.state.disconnect then c.disconnectFn else c).state = c.state := by
      split_ifs <;> rfl
    dsimp only
    rw [if_pos (hhandler.symm ▸ h)]
    exact (hconnect error _).andThen (onState_kept _)
  · exact h.elim

/-- `disconnectNow` ends all requests. -/
theorem disconnectNow_dropped (c : C3Connection) : Dropped c.disconnectNow := by
  have hframes : ∀ effect ∈ c.disconnectFrames, effect.outcomeKind = none := by
    unfold disconnectFrames
    split_ifs <;> simp [Effect.outcomeKind]
  unfold disconnectNow
  refine Dropped.andThen ?_ (onState_kept _)
  split_ifs <;> exact ⟨fun k => by cases k <;> rfl, hframes⟩

/-- The other events of the connection touch no request. -/
theorem handle_kept {e : Event} (he : IsLifecycle e) (hfails : ¬ c.SocketFails e)
    (hdisconnect : e ≠ .disconnectNow) : Kept c (c.handle e) := by
  cases e with
  | connectToHost host port launch =>
    cases launch with
    | started => exact Kept.andThen (Kept.silent fun k => by cases k <;> rfl) (onState_kept _)
    | failed error => exact absurd trivial hfails
  | disconnectNow => exact absurd rfl hdisconnect
  | socketConnected =>
    exact ⟨fun k => by cases k <;> rfl, by simp [handle, onSocketConnected, Effect.outcomeKind]⟩
  | socketError error dropped => exact absurd trivial hfails
  | socketDisconnected => exact Kept.silent fun k => by cases k <;> rfl
  | handshakeTimeout =>
    change Kept c (onHandshakeTimeout { c with handshakeTimer := none })
    unfold onHandshakeTimeout
    dsimp only
    split_ifs
    · exact Kept.andThen ⟨fun k => by cases k <;> rfl, by simp [Effect.outcomeKind]⟩
        (onState_kept _)
    · exact Kept.silent fun k => by cases k <;> rfl
  | heartbeatTick => exact onState_kept _ c
  | reconnectTick launch =>
    change Kept c (c.onReconnectTick launch)
    unfold onReconnectTick
    dsimp only
    refine Kept.andThen ?_ (onState_kept _)
    split_ifs with hdisconnect hconnect hconnect
    · cases launch with
      | started => exact Kept.silent fun k => by cases k <;> rfl
      | failed error => exact absurd hconnect hfails
    · exact Kept.silent fun k => by cases k <;> rfl
    · cases launch with
      | started => exact Kept.silent fun k => by cases k <;> rfl
      | failed error => exact absurd hconnect hfails
    · exact Kept.silent fun _ => rfl
  | request _ | readyRead _ | requestTimeout _ => exact he.elim

/-! ### Received bytes -/

/-- The end of the table data query. -/
theorem endDataQuery_moved (hsame : ∀ j, j ≠ .tableData → d.request j = c.request j)
    (htimer : d.dataQueryTimer = none) {effects : List Effect} :
    Moved .tableData c
      (({ d with dataQueryPending := false, dataQueryStep := .none }, effects) :
        Reaction C3Connection Effect).1 := by
  refine ⟨Or.inr ⟨by simp [request, htimer], rfl⟩, fun j hj => ?_⟩
  rw [← hsame j hj]
  cases j <;> first | rfl | exact absurd rfl hj

/-- The table data query goes on. -/
theorem continueDataQuery_moved (hsame : ∀ j, j ≠ .tableData → d.request j = c.request j)
    (hpending : d.dataQueryPending = true) (step : DataQueryStep) (hstep : step ≠ .none)
    (frame : QByteArray) : Moved .tableData c (d.continueDataQuery step frame).1 := by
  refine ⟨Or.inr ⟨hpending.symm, ?_⟩, fun j hj => ?_⟩
  · simp [request, continueDataQuery, hstep, hpending]
  · rw [← hsame j hj]
    cases j <;> first | rfl | exact absurd rfl hj

/-- The branch of the table data query moves it. -/
theorem onDataQueryData_moved (hpending : c.dataQueryPending = true) :
    Moved .tableData c c.onDataQueryData.reaction.1 := by
  have htaken : ∀ j, j ≠ .tableData → c.takeDataReply.request j = c.request j := by
    intro j hj
    cases j <;> first | rfl | exact absurd rfl hj
  have hnext : ∀ d : C3Connection, (∀ j, j ≠ .tableData → d.request j = c.takeDataReply.request j) →
      d.dataQueryPending = true → ∀ step, step ≠ DataQueryStep.none → ∀ frame,
        Moved .tableData c (d.continueDataQuery step frame).1 :=
    fun d hd hp step hstep frame =>
      continueDataQuery_moved (fun j hj => (hd j hj).trans (htaken j hj)) hp step hstep frame
  unfold onDataQueryData
  split
  · unfold onDataTableConfig
    dsimp only
    split_ifs
    · exact Moved.refl _ c
    · exact endDataQuery_moved htaken rfl
    · split
      · exact endDataQuery_moved htaken rfl
      · apply hnext
        · intro j _
          cases j <;> rfl
        · exact hpending
        · decide
  · unfold onTableData
    dsimp only
    split
    · exact Moved.refl _ c
    · split_ifs
      · exact endDataQuery_moved htaken rfl
      · apply hnext
        · intro j _
          cases j <;> rfl
        · exact hpending
        · decide
    · exact endDataQuery_moved htaken rfl
    · exact endDataQuery_moved htaken rfl
  · unfold onBigDataChunk
    dsimp only
    split_ifs
    · exact Moved.refl _ c
    · exact endDataQuery_moved htaken rfl
    · apply hnext
      · intro j _
        cases j <;> rfl
      · exact hpending
      · decide
    · apply hnext
      · intro j _
        cases j <;> rfl
      · exact hpending
      · decide
  · unfold onFreeDataAck
    dsimp only
    split_ifs
    · exact Moved.refl _ c
    · refine endDataQuery_moved ?_ rfl
      exact fun j hj => by cases j <;> first | rfl | exact absurd rfl hj
    · refine endDataQuery_moved ?_ rfl
      exact fun j hj => by cases j <;> first | rfl | exact absurd rfl hj
  · exact Moved.refl _ c

/-- The branch of the realtime log moves it. -/
theorem onRtLogQueryData_moved (c : C3Connection) : Moved .realtimeLog c c.onRtLogQueryData.1 := by
  have hended : Moved .realtimeLog c c.takeRtLogReply :=
    ⟨Or.inr ⟨rfl, rfl⟩, fun j hj => by cases j <;> first | rfl | exact absurd rfl hj⟩
  unfold onRtLogQueryData
  split
  · unfold onRtLogBinaryReply
    dsimp only
    split
    · exact Moved.refl _ c
    · exact hended
    · exact ⟨Or.inr ⟨rfl, rfl⟩, fun j hj => by cases j <;> first | rfl | exact absurd rfl hj⟩
    · exact hended
  · unfold onRtLogKeyValueReply
    dsimp only
    split_ifs
    · exact Moved.refl _ c
    · exact hended
    · exact hended
  · exact Moved.refl _ c

/-- The branch of the record count moves it. -/
theorem onCountQueryData_moved (hpending : c.countQueryPending = true) :
    Moved .recordCount c c.onCountQueryData.1 := by
  have hended : ∀ error, Moved .recordCount c (c.takeCountReply.failCountQuery error).1 :=
    fun error =>
      ⟨Or.inr ⟨rfl, rfl⟩, fun j hj => by cases j <;> first | rfl | exact absurd rfl hj⟩
  unfold onCountQueryData
  split
  · unfold onCountTableConfig
    dsimp only
    split_ifs
    · exact Moved.refl _ c
    · exact hended _
    · split
      · exact hended _
      · refine ⟨Or.inr ⟨hpending.symm, ?_⟩, fun j hj => ?_⟩
        · exact hpending.symm
        · cases j <;> first | rfl | exact absurd rfl hj
  · unfold onCount
    dsimp only
    split_ifs
    · exact Moved.refl _ c
    · exact ⟨Or.inr ⟨rfl, rfl⟩, fun j hj => by cases j <;> first | rfl | exact absurd rfl hj⟩
    · exact hended _
  · exact Moved.refl _ c

/-- The branches after table data keep the agreement. -/
theorem onOtherData_consistent (h : Consistent c) : Consistent c.onOtherData.1 := by
  have hread : Consistent c.readAll := h.of_same fun k => by cases k <;> rfl
  unfold onOtherData
  split_ifs with h1 h2 h3 h4 h5
  · exact hread.moved (onRtLogQueryData_moved _)
  · refine hread.moved (k := .control) ?_
    unfold onControlData
    dsimp only
    split_ifs
    · exact Moved.refl _ _
    · exact ⟨Or.inr ⟨rfl, rfl⟩, fun j hj => by cases j <;> first | rfl | exact absurd rfl hj⟩
    · exact ⟨Or.inr ⟨rfl, rfl⟩, fun j hj => by cases j <;> first | rfl | exact absurd rfl hj⟩
  · refine hread.moved (k := .getParam) ?_
    unfold onGetParamData
    dsimp only
    split_ifs
    · exact Moved.refl _ _
    · exact ⟨Or.inr ⟨rfl, rfl⟩, fun j hj => by cases j <;> first | rfl | exact absurd rfl hj⟩
    · exact ⟨Or.inr ⟨rfl, rfl⟩, fun j hj => by cases j <;> first | rfl | exact absurd rfl hj⟩
  · refine hread.moved (k := .setParam) ?_
    unfold onSetParamData
    dsimp only
    split_ifs
    · exact Moved.refl _ _
    · exact ⟨Or.inr ⟨rfl, rfl⟩, fun j hj => by cases j <;> first | rfl | exact absurd rfl hj⟩
    · exact ⟨Or.inr ⟨rfl, rfl⟩, fun j hj => by cases j <;> first | rfl | exact absurd rfl hj⟩
  · exact hread.moved (onCountQueryData_moved h5)
  · exact h

/-- Received bytes keep the agreement. -/
theorem onSocketReadyRead_consistent (h : Consistent c) : Consistent c.onSocketReadyRead.1 := by
  have hread : Consistent c.readAll := h.of_same fun k => by cases k <;> rfl
  unfold onSocketReadyRead
  split_ifs with hattempt hdata
  · exact hread.of_same (onHandshakeData_kept _).same
  · have hbranch := hread.moved (onDataQueryData_moved (c := c.readAll) hdata)
    dsimp only
    split_ifs
    · exact hbranch
    · exact onOtherData_consistent hbranch
  · exact onOtherData_consistent h

/-! ### Every run -/

/-- Every event keeps the agreement. -/
theorem Consistent.next (h : Consistent c) (e : Event) : Consistent (machine.next c e) := by
  by_cases hlifecycle : IsLifecycle e
  · by_cases hfails : c.SocketFails e
    · intro k
      rw [show (machine.next c e).request k = _ from (handle_socketFails hfails).ended k]
      exact ⟨rfl, rfl⟩
    · by_cases hdisconnect : e = .disconnectNow
      · subst hdisconnect
        intro k
        rw [show (machine.next c .disconnectNow).request k = _ from
          (disconnectNow_dropped c).ended k]
        exact ⟨rfl, rfl⟩
      · exact h.of_same (handle_kept hlifecycle hfails hdisconnect).same
  · cases e with
    | request call => exact h.moved (callRequest_moved call c)
    | readyRead chunk =>
      refine onSocketReadyRead_consistent ?_
      exact h.of_same fun k => by cases k <;> rfl
    | requestTimeout k => exact h.moved (fireTimeout_moved k c)
    | _ => exact absurd trivial hlifecycle

/-- The timers guard the requests: a kind is pending exactly while its timer is
active, a query has a step exactly while it is pending, and the timer of a
pending kind releases it. -/
structure Guarded (c : C3Connection) : Prop where
  timer : ∀ k, c.pending k = true ↔ (c.timer k).isSome = true
  dataQueryStep : c.dataQueryStep = .none ↔ c.dataQueryPending = false
  countQueryStep : c.countQueryStep = .none ↔ c.countQueryPending = false
  rtLogQueryStep : c.rtLogQueryStep = .none ↔ c.rtLogQueryPending = false
  released : ∀ k, c.pending k = true →
    c.Enabled (.requestTimeout k) ∧ (machine.next c (.requestTimeout k)).pending k = false

/-- Where flags, timers and steps agree, the timers guard the requests. -/
theorem Consistent.guarded (h : Consistent c) : Guarded c := by
  have htimer : ∀ k, c.pending k = true ↔ (c.timer k).isSome = true := by
    intro k
    have hk := (h k).timer
    cases k <;> exact ⟨fun hp => hk.trans hp, fun ht => hk.symm.trans ht⟩
  refine ⟨htimer, ?_, ?_, ?_, fun k hk => ⟨(htimer k).mp hk, (fireTimeout_spec k c).pending⟩⟩
  · simpa [request] using congrArg (· = false) (h .tableData).waiting
  · simpa [request] using congrArg (· = false) (h .recordCount).waiting
  · simpa [request] using congrArg (· = false) (h .realtimeLog).waiting

/-- **No request is refused forever.** In every state of every run the timers
guard the requests. -/
theorem guarded_always (events : List Event) : machine.EachState Guarded {} events := by
  refine Mealy.eachState_of_kept (I := Consistent) (fun _ e h => h.next e) (fun _ h => h.guarded) ?_
  intro k
  cases k <;> exact ⟨rfl, rfl⟩

end C3Connection

end QtAppBase.C3
