import QtAppBase.C3.Events

/-!
# When the connection is ready

`isReady` is derived from the session members and the socket state. The machine
here keeps, beside the driver, the state of the handshake on the current TCP
connection, as an observer of the events and signals sees it: pending from the
moment the connection is made until the session is reported as established or
failed. A call of `connectToHost` on a connection is refused by the socket: it
starts no handshake, and the failure it reports ends one that is pending.
-/

namespace QtAppBase.C3

open Library QtAppBase.Core Qt

/-- The handshake on the current TCP connection; none without a connection. -/
inductive Handshake where
  | none
  | pending
  | completed
  | failed
  deriving DecidableEq, Repr

/-- The signal of a completed handshake. -/
def Effect.isEstablished : Effect → Bool
  | .sessionEstablished _ => true
  | _ => false

/-- The signal of a failed handshake. -/
def Effect.isFailed : Effect → Bool
  | .sessionFailed _ => true
  | _ => false

/-- What an observer concludes from an event, what it led to, and its signals. -/
def Handshake.next (before : Handshake) (e : Event) (r : Reaction C3Connection Effect) :
    Handshake :=
  if r.1.socket.state ≠ .connected then .none
  else if e = .socketConnected then .pending
  else if r.2.any Effect.isEstablished then .completed
  else if r.2.any Effect.isFailed ∧ before = .pending then .failed
  else before

/-- A `C3Connection` with the handshake an observer sees. -/
structure Observed where
  conn : C3Connection := {}
  handshake : Handshake := .none

namespace Observed

open C3Connection

/-- One event. -/
def step (t : Observed) (e : Event) : Reaction Observed Effect :=
  let r := t.conn.handle e
  (⟨r.1, t.handshake.next e r⟩, r.2)

/-- The observed machine. -/
def machine : Mealy Observed Event Effect := ⟨step⟩

/-- The events come from the socket and the timers as they can. -/
def Enabled (t : Observed) (e : Event) : Prop := t.conn.Enabled e

instance (t : Observed) (e : Event) : Decidable (t.Enabled e) :=
  inferInstanceAs (Decidable (t.conn.Enabled e))

/-- `isReady` says exactly that the handshake on the current TCP connection completed. -/
def ReadyAsObserved (t : Observed) : Prop :=
  t.conn.isReady = true ↔ t.conn.socket.state = .connected ∧ t.handshake = .completed

instance (t : Observed) : Decidable t.ReadyAsObserved := inferInstanceAs (Decidable (_ ↔ _))

/-- The bytes awaited as the reply to CONNECT_SESSION establish a session with id zero. -/
def GrantsSessionZero (c : C3Connection) (chunk : QByteArray) : Prop :=
  c.connectAttemptPending = true ∧ c.handshakeStep = .awaitingSessionReply ∧
    decodeConnectSessionResponse (c.readBuffer ++ (c.socket.receive chunk).unread) = ⟨.ok, 0⟩

instance (c : C3Connection) (chunk : QByteArray) : Decidable (GrantsSessionZero c chunk) :=
  inferInstanceAs (Decidable (_ ∧ _ ∧ _))

/-- The socket connects without an old session, and no session id is zero. -/
def StartsFresh (t : Observed) : Event → Prop
  | .socketConnected => t.conn.hasSession = false
  | .readyRead chunk => ¬ GrantsSessionZero t.conn chunk
  | _ => True

instance (t : Observed) : ∀ e, Decidable (t.StartsFresh e)
  | .socketConnected => inferInstanceAs (Decidable (_ = false))
  | .readyRead _ => inferInstanceAs (Decidable (¬ _))
  | .connectToHost .. | .disconnectNow | .request _ | .socketError .. | .socketDisconnected
  | .handshakeTimeout | .requestTimeout _ | .heartbeatTick | .reconnectTick _ => isTrue trivial

/-- The readiness invariant. -/
structure Inv (t : Observed) : Prop where
  /-- Pending queries know which reply they wait for. -/
  stepping : Stepping t.conn
  /-- The driver aborts its socket, and never closes it. -/
  not_closing : t.conn.socket.state ≠ .closing
  /-- A socket is used only after the handlers were set. -/
  handlers_set : t.conn.state.connect = true ∨ t.conn.state.disconnect = true ∨
    t.conn.socket.state ≠ .unconnected →
      t.conn.state.connect = true ∧ t.conn.state.disconnect = true
  /-- Without a connection there is no handshake. -/
  none_of_unconnected : t.conn.socket.state ≠ .connected → t.handshake = .none
  /-- A session on a connection belongs to a completed handshake. -/
  completed_of_session : t.conn.socket.state = .connected → t.conn.hasSession = true →
    t.handshake = .completed
  /-- A completed handshake has left a session, and no attempt is pending. -/
  session_of_completed : t.handshake = .completed →
    t.conn.socket.state = .connected ∧ t.conn.hasSession = true ∧
      t.conn.connectAttemptPending = false

/-- A new object is not connected. -/
theorem inv_init : Inv {} := by
  constructor
  · constructor <;> simp
  all_goals simp

/-- The invariant makes readiness what an observer sees. -/
theorem Inv.readyAsObserved {t : Observed} (h : Inv t) : t.ReadyAsObserved := by
  unfold ReadyAsObserved isReady
  constructor
  · intro hready
    obtain ⟨hsession, hstate⟩ : t.conn.hasSession = true ∧ t.conn.socket.state = .connected := by
      simpa using hready
    exact ⟨hstate, h.completed_of_session hstate hsession⟩
  · rintro ⟨hstate, hcompleted⟩
    simp [hstate, (h.session_of_completed hcompleted).2.1]

/-! ### Steps that leave the connection alone -/

variable {t : Observed}

/-- Signals of no handshake. -/
def Unrelated (effects : List Effect) : Prop :=
  effects.any Effect.isEstablished = false ∧ effects.any Effect.isFailed = false

/-- The signals of `state_` are of no handshake. -/
theorem onState_unrelated (f : ConnectionState → Reaction ConnectionState Signal)
    (c : C3Connection) : Unrelated (onState f c).2 := by
  constructor
  · rw [List.any_eq_false]
    intro effect heffect
    obtain ⟨connected, rfl⟩ := onState_forwards heffect
    exact Bool.false_ne_true
  · rw [List.any_eq_false]
    intro effect heffect
    obtain ⟨connected, rfl⟩ := onState_forwards heffect
    exact Bool.false_ne_true

/-- On a connection that has been made before, a handshake that does not complete stays, or
fails if it is pending. -/
theorem next_connected {e : Event} {r : Reaction C3Connection Effect}
    (hstate : r.1.socket.state = .connected) (hother : e ≠ .socketConnected)
    (hestablished : r.2.any Effect.isEstablished = false) (before : Handshake) :
    before.next e r =
      if r.2.any Effect.isFailed ∧ before = .pending then .failed else before := by
  rw [Handshake.next, if_neg (not_not.mpr hstate), if_neg hother, hestablished]
  rfl

/-- Without signals of a handshake, its state stays, or ends with the connection. -/
theorem next_unrelated {e : Event} {r : Reaction C3Connection Effect}
    (hstart : e ≠ .socketConnected) (hunrelated : Unrelated r.2) (before : Handshake) :
    before.next e r = if r.1.socket.state = .connected then before else .none := by
  unfold Handshake.next
  simp [hstart, hunrelated.1, hunrelated.2]

/-- A step that keeps the lifecycle members and signals nothing about a
handshake keeps the invariant. -/
theorem inv_of_lifecycle (h : Inv t) {e : Event} (hstart : e ≠ .socketConnected)
    (hstepping : Stepping (t.conn.handle e).1)
    (hlifecycle : (t.conn.handle e).1.lifecycle = t.conn.lifecycle)
    (hunrelated : Unrelated (t.conn.handle e).2) : Inv (t.step e).1 := by
  have hsocket : (t.step e).1.conn.socket.state = t.conn.socket.state :=
    congrArg Lifecycle.socketState hlifecycle
  have hstate : (t.step e).1.conn.state = t.conn.state := congrArg Lifecycle.state hlifecycle
  have hid : (t.step e).1.conn.sessionId = t.conn.sessionId :=
    congrArg Lifecycle.sessionId hlifecycle
  have hless : (t.step e).1.conn.sessionLess = t.conn.sessionLess :=
    congrArg Lifecycle.sessionLess hlifecycle
  have hattempt : (t.step e).1.conn.connectAttemptPending = t.conn.connectAttemptPending :=
    congrArg Lifecycle.connectAttemptPending hlifecycle
  have hsession : (t.step e).1.conn.hasSession = t.conn.hasSession := by
    rw [hasSession, hasSession, hid, hless]
  have hhandshake : (t.step e).1.handshake = t.handshake := by
    have hnext := next_unrelated (r := t.conn.handle e) hstart hunrelated t.handshake
    by_cases hconnected : t.conn.socket.state = .connected
    · rw [show (t.step e).1.handshake = _ from hnext]
      exact if_pos (hsocket.trans hconnected)
    · rw [show (t.step e).1.handshake = _ from hnext, h.none_of_unconnected hconnected]
      exact ite_self _
  refine ⟨hstepping, ?_, ?_, ?_, ?_, ?_⟩
  · rw [hsocket]
    exact h.not_closing
  · rw [hstate, hsocket]
    exact h.handlers_set
  · rw [hsocket, hhandshake]
    exact h.none_of_unconnected
  · rw [hsocket, hsession, hhandshake]
    exact h.completed_of_session
  · rw [hsocket, hsession, hhandshake, hattempt]
    exact h.session_of_completed

/-- An outcome of a request is of no handshake. -/
theorem outcome_unrelated {outcome : Effect} {k : Kind} (h : outcome.outcomeKind = some k) :
    Unrelated [outcome] := by
  cases outcome <;> first | exact ⟨rfl, rfl⟩ | cases h

/-- Requests, their timeouts and their replies keep the invariant. -/
theorem inv_request (h : Inv t) (call : RequestCall) : Inv (t.step (.request call)).1 := by
  rcases callRequest_spec call t.conn with hrefused | haccepted
  · have hhandle : t.conn.handle (.request call) = (t.conn, []) := hrefused
    exact inv_of_lifecycle h nofun (by rw [hhandle]; exact h.stepping) (by rw [hhandle])
      (by rw [hhandle]; exact ⟨rfl, rfl⟩)
  · obtain ⟨frame, hresult⟩ := haccepted.result
    have heffects : (t.conn.handle (.request call)).2 = [.write frame] := hresult
    exact inv_of_lifecycle h nofun (haccepted.stepping h.stepping) haccepted.lifecycle
      (by rw [heffects]; exact ⟨rfl, rfl⟩)

theorem inv_requestTimeout (h : Inv t) (kind : Kind) : Inv (t.step (.requestTimeout kind)).1 := by
  have hspec := fireTimeout_spec kind t.conn
  obtain ⟨outcome, hresult, houtcome, _⟩ := hspec.result
  have heffects : (t.conn.handle (.requestTimeout kind)).2 = [outcome] := hresult
  exact inv_of_lifecycle h nofun (hspec.stepping h.stepping) hspec.lifecycle
    (by rw [heffects]; exact outcome_unrelated houtcome)

/-- Bytes that go to a request, or to nothing, keep the invariant. -/
theorem inv_reply (h : Inv t) (chunk : QByteArray)
    (hattempt : t.conn.connectAttemptPending = false) : Inv (t.step (.readyRead chunk)).1 := by
  let c : C3Connection := { t.conn with socket := t.conn.socket.receive chunk }
  have hattempt : c.connectAttemptPending = false := hattempt
  have hstepping : Stepping c := ⟨h.stepping.1, h.stepping.2, h.stepping.3⟩
  have hhandle : t.conn.handle (.readyRead chunk) = c.onSocketReadyRead := rfl
  cases hk : c.dispatch with
  | none =>
    have hidle := onSocketReadyRead_idle hattempt hk
    rw [← hhandle] at hidle
    exact inv_of_lifecycle h nofun (by rw [hidle]; exact hstepping) (by rw [hidle]; rfl)
      (by rw [hidle]; exact ⟨rfl, rfl⟩)
  | some k =>
    by_cases hPartial : Partial (c.readBuffer ++ c.socket.unread)
    · have hread := onSocketReadyRead_ofPartial hattempt hk hstepping hPartial
      rw [← hhandle] at hread
      exact inv_of_lifecycle h nofun (by rw [hread]; exact readAll_stepping hstepping)
        (by rw [hread]; rfl) (by rw [hread]; exact ⟨rfl, rfl⟩)
    · have hanswered := onSocketReadyRead_complete hattempt hk hstepping hPartial
      rw [← hhandle] at hanswered
      refine inv_of_lifecycle h nofun hanswered.stepping hanswered.lifecycle ?_
      rcases hanswered.result with ⟨_, frame, hresult⟩ | ⟨_, outcome, hresult, houtcome⟩
      · rw [hresult]
        exact ⟨rfl, rfl⟩
      · rw [hresult]
        exact outcome_unrelated houtcome

/-! ### The handshake -/

/-- What a piece of a handshake on a connection leads to: it goes on or fails
without a session, or it completes with one. -/
structure Advanced (c : C3Connection) (r : Reaction C3Connection Effect) : Prop where
  /-- The socket stays connected. -/
  connected : r.1.socket.state = c.socket.state
  /-- The handlers stay set. -/
  handlers : r.1.state.handlers = c.state.handlers
  /-- Pending queries know which reply they wait for. -/
  stepping : Stepping c → Stepping r.1
  /-- A session exists exactly after the handshake completed in this step. -/
  session : r.1.hasSession = r.2.any Effect.isEstablished
  /-- A completed handshake ends the attempt. -/
  attempt : r.2.any Effect.isEstablished = true → r.1.connectAttemptPending = false

/-- Signals of `state_` do not complete a handshake. -/
theorem any_established_append (effects : List Effect)
    (f : ConnectionState → Reaction ConnectionState Signal) (c : C3Connection) :
    (effects ++ (onState f c).2).any Effect.isEstablished =
      effects.any Effect.isEstablished := by
  rw [List.any_append, (onState_unrelated f c).1, Bool.or_false]

/-- A completed handshake with a session advances. -/
theorem establishSession_advanced {c d : C3Connection} {sessionId : UInt16}
    (hsocket : d.socket.state = c.socket.state) (hstate : d.state = c.state)
    (hstepping : Stepping c → Stepping d) (hsession : d.hasSession = true)
    (hattempt : d.connectAttemptPending = false) :
    Advanced c (d.establishSession sessionId) := by
  have hany : (d.establishSession sessionId).2.any Effect.isEstablished = true :=
    any_established_append [.sessionEstablished sessionId] _ _
  refine ⟨hsocket, ?_, ?_, ?_, fun _ => hattempt⟩
  · have hhandlers :=
      ConnectionState.perform_handlers d.state (.reportPendingConnectResult true)
    exact hhandlers.trans (congrArg _ hstate)
  · exact fun h => ⟨(hstepping h).1, (hstepping h).2, (hstepping h).3⟩
  · rw [hany]
    exact hsession

/-- A failed handshake without a session advances. -/
theorem failSession_advanced {c d : C3Connection} {error : QString}
    (hsocket : d.socket.state = c.socket.state) (hstate : d.state = c.state)
    (hstepping : Stepping c → Stepping d) (hsession : d.hasSession = false) :
    Advanced c (d.failSession error) := by
  have hany : (d.failSession error).2.any Effect.isEstablished = false :=
    any_established_append [.sessionFailed error] _ _
  refine ⟨hsocket, ?_, ?_, ?_, ?_⟩
  · have hhandlers :=
      ConnectionState.perform_handlers d.state (.reportPendingConnectResult false)
    exact hhandlers.trans (congrArg _ hstate)
  · exact fun h => ⟨(hstepping h).1, (hstepping h).2, (hstepping h).3⟩
  · rw [hany]
    exact hsession
  · intro hestablished
    rw [hany] at hestablished
    cases hestablished

/-- Without an old session, handshake data advances the handshake, unless it
grants the session id zero. -/
theorem onHandshakeData_advanced {c : C3Connection} (hsession : c.hasSession = false)
    (hzero : c.handshakeStep = .awaitingSessionReply →
      decodeConnectSessionResponse c.readBuffer ≠ ⟨.ok, 0⟩) : Advanced c c.onHandshakeData := by
  have hwaiting : Advanced c (c, []) :=
    ⟨rfl, rfl, id, hsession, fun h => absurd h Bool.false_ne_true⟩
  unfold onHandshakeData
  cases hstep : c.handshakeStep with
  | none => exact hwaiting
  | awaitingSessionReply =>
    dsimp only
    unfold onSessionReply
    dsimp only
    split
    · exact hwaiting
    · next hok =>
      refine establishSession_advanced rfl rfl (fun h => ⟨h.1, h.2, h.3⟩) ?_ rfl
      have hid : (decodeConnectSessionResponse c.readBuffer).sessionId ≠ 0 := by
        intro hid
        apply hzero hstep
        cases hresponse : decodeConnectSessionResponse c.readBuffer
        rw [hresponse] at hok hid
        simp_all
      simp [hasSession, hid]
    · exact ⟨rfl, rfl, fun h => ⟨h.1, h.2, h.3⟩, hsession, fun h => absurd h Bool.false_ne_true⟩
    · exact failSession_advanced rfl rfl (fun h => ⟨h.1, h.2, h.3⟩) hsession
  | awaitingSessionLessReply =>
    dsimp only
    unfold onSessionLessReply
    dsimp only
    split_ifs
    · exact hwaiting
    · exact establishSession_advanced rfl rfl (fun h => ⟨h.1, h.2, h.3⟩) (by simp [hasSession]) rfl
    · exact failSession_advanced rfl rfl (fun h => ⟨h.1, h.2, h.3⟩) hsession

/-- Bytes that go to the handshake keep the invariant, unless they grant the
session id zero. -/
theorem inv_handshake (h : Inv t) {chunk : QByteArray}
    (hconnected : t.conn.socket.state = .connected)
    (hattempt : t.conn.connectAttemptPending = true)
    (hzero : ¬ GrantsSessionZero t.conn chunk) : Inv (t.step (.readyRead chunk)).1 := by
  have hsession : t.conn.hasSession = false := by
    by_contra hsession
    have hcompleted := h.completed_of_session hconnected (by simpa using hsession)
    have hdone := (h.session_of_completed hcompleted).2.2
    rw [hattempt] at hdone
    cases hdone
  let c : C3Connection := { t.conn with socket := t.conn.socket.receive chunk }
  have hbranch : c.onSocketReadyRead = c.readAll.onHandshakeData := if_pos hattempt
  have hadvanced : Advanced c.readAll c.readAll.onHandshakeData :=
    onHandshakeData_advanced hsession fun hstep hgrants => hzero ⟨hattempt, hstep, hgrants⟩
  rw [← hbranch] at hadvanced
  have hstate : (t.step (.readyRead chunk)).1.conn.socket.state = .connected :=
    hadvanced.connected.trans hconnected
  have hhandlers : (t.step (.readyRead chunk)).1.conn.state.handlers = t.conn.state.handlers :=
    hadvanced.handlers
  simp only [ConnectionState.handlers, Prod.mk.injEq] at hhandlers
  have hset := h.handlers_set (Or.inr (Or.inr (by rw [hconnected]; decide)))
  have hnext : (t.step (.readyRead chunk)).1.handshake =
      if c.onSocketReadyRead.2.any Effect.isEstablished then .completed
      else if c.onSocketReadyRead.2.any Effect.isFailed ∧ t.handshake = .pending then .failed
      else t.handshake := if_neg (not_not.mpr hstate)
  refine ⟨hadvanced.stepping ⟨h.stepping.1, h.stepping.2, h.stepping.3⟩, ?_, ?_, ?_, ?_, ?_⟩
  · rw [hstate]
    decide
  · intro _
    rw [hhandlers.1, hhandlers.2.2.1]
    exact hset
  · exact fun hunconnected => absurd hstate hunconnected
  · intro _ hnew
    rw [hnext, if_pos (hadvanced.session.symm.trans hnew)]
  · intro hcompleted
    have hestablished : c.onSocketReadyRead.2.any Effect.isEstablished = true := by
      by_contra hnot
      rw [hnext, if_neg hnot] at hcompleted
      split_ifs at hcompleted
      have hdone := (h.session_of_completed hcompleted).2.2
      rw [hattempt] at hdone
      cases hdone
    exact ⟨hstate, hadvanced.session.trans hestablished, hadvanced.attempt hestablished⟩

/-! ### The connection -/

/-- A step that leaves the socket unconnected or connecting keeps the invariant. -/
theorem inv_of_unconnected {e : Event}
    (hstate : (t.conn.handle e).1.socket.state = .unconnected ∨
      (t.conn.handle e).1.socket.state = .connecting)
    (hstepping : Stepping (t.conn.handle e).1)
    (hset : (t.conn.handle e).1.state.connect = true ∨
      (t.conn.handle e).1.state.disconnect = true ∨
      (t.conn.handle e).1.socket.state ≠ .unconnected →
        (t.conn.handle e).1.state.connect = true ∧
          (t.conn.handle e).1.state.disconnect = true) :
    Inv (t.step e).1 := by
  have hunconnected : (t.conn.handle e).1.socket.state ≠ .connected := by
    rcases hstate with hstate | hstate <;> rw [hstate] <;> decide
  have hnone : (t.step e).1.handshake = .none := if_pos hunconnected
  refine ⟨hstepping, ?_, hset, fun _ => hnone, ?_, ?_⟩
  · change (t.conn.handle e).1.socket.state ≠ .closing
    rcases hstate with hstate | hstate <;> rw [hstate] <;> decide
  · exact fun hconnected => absurd hconnected hunconnected
  · intro hcompleted
    rw [hnone] at hcompleted
    cases hcompleted

/-- A step that ends the attempt, with the socket and the session as they are, keeps the
invariant: it can only end a handshake that is pending. -/
theorem inv_of_ended (h : Inv t) {e : Event} (hstart : e ≠ .socketConnected)
    (hstepping : Stepping (t.conn.handle e).1)
    (hset : (t.conn.handle e).1.state.connect = true ∨
      (t.conn.handle e).1.state.disconnect = true ∨
      (t.conn.handle e).1.socket.state ≠ .unconnected →
        (t.conn.handle e).1.state.connect = true ∧
          (t.conn.handle e).1.state.disconnect = true)
    (hstate : (t.conn.handle e).1.socket.state = t.conn.socket.state)
    (hsession : (t.conn.handle e).1.hasSession = t.conn.hasSession)
    (hattempt : (t.conn.handle e).1.connectAttemptPending = false)
    (hestablished : (t.conn.handle e).2.any Effect.isEstablished = false) :
    Inv (t.step e).1 := by
  have hnone (hunconnected : t.conn.socket.state ≠ .connected) :
      (t.step e).1.handshake = .none :=
    if_pos fun hconnected => hunconnected (hstate.symm.trans hconnected)
  have hnext (hconnected : t.conn.socket.state = .connected) : (t.step e).1.handshake =
      if (t.conn.handle e).2.any Effect.isFailed ∧ t.handshake = .pending then .failed
      else t.handshake :=
    next_connected (e := e) (hstate.trans hconnected) hstart hestablished t.handshake
  refine ⟨hstepping, ?_, hset, ?_, ?_, ?_⟩
  · rw [show (t.step e).1.conn.socket.state = _ from hstate]
    exact h.not_closing
  · exact fun hunconnected => hnone fun hconnected => hunconnected (hstate.trans hconnected)
  · intro hconnected hnew
    have hconnected := hstate.symm.trans hconnected
    -- a session means a completed handshake, which no failure ends
    have hcompleted := h.completed_of_session hconnected (hsession.symm.trans hnew)
    rw [hnext hconnected, if_neg fun hends => Handshake.noConfusion (hcompleted.symm.trans hends.2)]
    exact hcompleted
  · intro hcompleted
    by_cases hconnected : t.conn.socket.state = .connected
    · rw [hnext hconnected] at hcompleted
      split_ifs at hcompleted
      have hold := h.session_of_completed hcompleted
      exact ⟨hstate.trans hold.1, hsession.trans hold.2.1, hattempt⟩
    · rw [hnone hconnected] at hcompleted
      cases hcompleted

/-- A step that keeps the handlers keeps them set while the socket is in use. -/
theorem Inv.handlers_kept (h : Inv t) {c : C3Connection}
    (hkept : c.state.connect = t.conn.state.connect ∧
      c.state.disconnect = t.conn.state.disconnect)
    (hused : c.socket.state ≠ .unconnected →
      t.conn.state.connect = true ∨ t.conn.socket.state ≠ .unconnected) :
    c.state.connect = true ∨ c.state.disconnect = true ∨ c.socket.state ≠ .unconnected →
      c.state.connect = true ∧ c.state.disconnect = true := by
  rw [hkept.1, hkept.2]
  rintro (hconnect | hdisconnect | hnew)
  · exact h.handlers_set (Or.inl hconnect)
  · exact h.handlers_set (Or.inr (Or.inl hdisconnect))
  · exact h.handlers_set ((hused hnew).imp_right Or.inr)

/-- An operation of `state_` leaves the handlers set. -/
theorem onState_set (op : Operation) (c : C3Connection) :
    (c.state.perform op).1.connect = c.state.connect ∧
      (c.state.perform op).1.disconnect = c.state.disconnect := by
  have hhandlers := ConnectionState.perform_handlers c.state op
  simp only [ConnectionState.handlers, Prod.mk.injEq] at hhandlers
  exact ⟨hhandlers.1, hhandlers.2.2.1⟩

/-- What the connect callable leaves of the socket, `state_` and the session. -/
theorem connectFn_spec (launch : Launch) (c : C3Connection) :
    (c.connectFn launch).1.socket = c.socket.connectToHost launch ∧
      (c.connectFn launch).1.state = c.state ∧
      (c.connectFn launch).1.hasSession = c.hasSession := by
  cases launch with
  | started => exact ⟨rfl, rfl, rfl⟩
  | failed error => exact ⟨rfl, rfl, rfl⟩

/-- An unconnected socket stays unconnected or starts connecting. -/
theorem connectToHost_state {s : TcpSocket} (h : s.state = .unconnected) (launch : Launch) :
    (s.connectToHost launch).state = .unconnected ∨
      (s.connectToHost launch).state = .connecting := by
  unfold TcpSocket.connectToHost
  rw [if_pos h]
  cases launch with
  | started => exact Or.inr rfl
  | failed error => exact Or.inl rfl

/-- A socket in use refuses the call, and the attempt is over. -/
theorem connectFn_refused {launch : Launch} {c : C3Connection} (hadmits : c.socket.Admits launch)
    (hused : c.socket.state ≠ .unconnected) :
    (c.connectFn launch).1.socket = c.socket ∧
      (c.connectFn launch).1.connectAttemptPending = false ∧
      (c.connectFn launch).2.any Effect.isEstablished = false := by
  cases launch with
  | started => exact absurd (hadmits rfl) hused
  | failed error => exact ⟨if_neg hused, rfl, rfl⟩

/-- `connectToHost` keeps the invariant: on a connection, it can only end a handshake
that is pending. -/
theorem inv_connectToHost (h : Inv t) {host : QString} {port : UInt16} {launch : Launch}
    (hadmits : t.conn.socket.Admits launch) : Inv (t.step (.connectToHost host port launch)).1 := by
  let e : Event := .connectToHost host port launch
  let c : C3Connection := { t.conn with
    error := ""
    host := host
    port := port
    state := t.conn.state.setHandlers true true true true }
  have hspec := connectFn_spec launch c
  have hstepping : Stepping (t.conn.handle e).1 :=
    (handle_unrequested t.conn (e := e) trivial).stepping h.stepping
  have hset : (t.conn.handle e).1.state.connect = true ∧
      (t.conn.handle e).1.state.disconnect = true := by
    have hkept := onState_set (.beginAutoConnect (connectCall launch)) (c.connectFn launch).1
    rw [hspec.2.1] at hkept
    have hstate : (t.conn.handle e).1.state =
        (c.state.perform (.beginAutoConnect (connectCall launch))).1 := by
      rw [← hspec.2.1]
      rfl
    rw [hstate]
    exact hkept
  by_cases hunconnected : t.conn.socket.state = .unconnected
  · refine inv_of_unconnected ?_ hstepping fun _ => hset
    rw [show (t.conn.handle e).1.socket = _ from hspec.1]
    exact connectToHost_state hunconnected launch
  · obtain ⟨hsame, hattempt, hquiet⟩ := connectFn_refused (c := c) hadmits hunconnected
    exact inv_of_ended h nofun hstepping (fun _ => hset) (congrArg TcpSocket.state hsame) hspec.2.2
      hattempt ((any_established_append _ _ _).trans hquiet)

/-- `disconnectNow` aborts the socket, if it is in use. -/
theorem inv_disconnectNow (h : Inv t) : Inv (t.step .disconnectNow).1 := by
  have hstepping : Stepping (t.conn.handle .disconnectNow).1 :=
    (handle_unrequested t.conn (e := .disconnectNow) trivial).stepping h.stepping
  have hkept : (t.conn.handle .disconnectNow).1.state.connect = t.conn.state.connect ∧
      (t.conn.handle .disconnectNow).1.state.disconnect = t.conn.state.disconnect := by
    have hperform := onState_set .disconnectNow t.conn
    have hstate : (t.conn.handle .disconnectNow).1.state =
        (t.conn.state.perform .disconnectNow).1 := by
      change (onState ConnectionState.disconnectNow _).1.state = _
      dsimp only [onState]
      split_ifs <;> rfl
    rw [hstate]
    exact hperform
  have hsocket : (t.conn.handle .disconnectNow).1.socket.state = .unconnected := by
    change (onState ConnectionState.disconnectNow _).1.socket.state = _
    dsimp only [onState]
    split_ifs with hdisconnect
    · rfl
    · change t.conn.socket.state = .unconnected
      by_contra hused
      exact hdisconnect (h.handlers_set (Or.inr (Or.inr hused))).2
  exact inv_of_unconnected (Or.inl hsocket) hstepping
    (h.handlers_kept hkept fun hused => absurd hsocket hused)

/-- The socket connects without an old session. -/
theorem inv_socketConnected (h : Inv t) (henabled : t.conn.socket.state = .connecting)
    (hsession : t.conn.hasSession = false) : Inv (t.step .socketConnected).1 := by
  have hset := h.handlers_set (Or.inr (Or.inr (by rw [henabled]; decide)))
  refine ⟨⟨h.stepping.1, h.stepping.2, h.stepping.3⟩, ?_, fun _ => hset, ?_, ?_, ?_⟩
  · exact fun hclosing => SocketState.noConfusion hclosing
  · exact fun hnot => absurd rfl hnot
  · intro _ hnew
    rw [show (t.step .socketConnected).1.conn.hasSession = _ from hsession] at hnew
    cases hnew
  · exact fun hcompleted => Handshake.noConfusion hcompleted

/-- What the error handler leaves of the socket, `state_` and the session. -/
theorem onSocketError_spec (error : QString) (dropped : Bool) (c : C3Connection) :
    (c.onSocketError error dropped).1.socket = (if dropped then c.socket.drop else c.socket) ∧
      (c.onSocketError error dropped).1.hasSession = c.hasSession ∧
      (c.onSocketError error dropped).1.connectAttemptPending = false ∧
      (c.onSocketError error dropped).2.any Effect.isEstablished = false ∧
      (c.onSocketError error dropped).1.state.connect = c.state.connect ∧
      (c.onSocketError error dropped).1.state.disconnect = c.state.disconnect := by
  let d : C3Connection := { c with socket := if dropped then c.socket.drop else c.socket }
  by_cases hattempt : c.connectAttemptPending = true
  · have hfailed : d.failAttempt error =
        ({ d.dropRequests with
          error := error
          handshakeTimer := none
          connectAttemptPending := false
          handshakeStep := .none }, [.sessionFailed error]) := if_pos hattempt
    rw [show c.onSocketError error dropped = (d.failAttempt error).andThen _ from if_pos hattempt,
      hfailed]
    have hset := onState_set (.reportPendingConnectResult false) d
    exact ⟨rfl, rfl, rfl, any_established_append [.sessionFailed error] _ _, hset.1, hset.2⟩
  · have hquiet : d.failAttempt error =
        ({ d.dropRequests with error := error, handshakeTimer := none }, []) := if_neg hattempt
    rw [show c.onSocketError error dropped = d.failAttempt error from if_neg hattempt, hquiet]
    exact ⟨rfl, rfl, eq_false_of_ne_true hattempt, rfl, rfl, rfl⟩

/-- The error handler keeps the invariant. -/
theorem inv_socketError (h : Inv t) (error : QString) (dropped : Bool) :
    Inv (t.step (.socketError error dropped)).1 := by
  let e : Event := .socketError error dropped
  have hstepping : Stepping (t.conn.handle e).1 :=
    (handle_unrequested t.conn (e := e) trivial).stepping h.stepping
  obtain ⟨hsocket, hsession, hattempt, hestablished, hconnect, hdisconnect⟩ :=
    onSocketError_spec error dropped t.conn
  have hset := fun hused => h.handlers_kept (c := (t.conn.handle e).1) ⟨hconnect, hdisconnect⟩ hused
  cases dropped with
  | true =>
    have hstate : (t.conn.handle e).1.socket.state = .unconnected :=
      congrArg TcpSocket.state hsocket
    exact inv_of_unconnected (Or.inl hstate) hstepping (hset fun hused => absurd hstate hused)
  | false =>
    have hstate : (t.conn.handle e).1.socket.state = t.conn.socket.state :=
      congrArg TcpSocket.state hsocket
    exact inv_of_ended h nofun hstepping (hset fun hused => Or.inr (hstate ▸ hused)) hstate hsession
      hattempt hestablished

/-- Losing the connection keeps the invariant. -/
theorem inv_socketDisconnected (h : Inv t) (hopen : t.conn.socket.IsOpen) :
    Inv (t.step .socketDisconnected).1 := by
  refine inv_of_unconnected (Or.inl rfl) ⟨h.stepping.1, h.stepping.2, h.stepping.3⟩ ?_
  intro _
  refine h.handlers_set (Or.inr (Or.inr ?_))
  rcases hopen with hstate | hstate <;> rw [hstate] <;> decide

/-- The handshake timeout aborts the socket. -/
theorem inv_handshakeTimeout (h : Inv t) : Inv (t.step .handshakeTimeout).1 := by
  have hstepping : Stepping (t.conn.handle .handshakeTimeout).1 :=
    (handle_unrequested t.conn (e := .handshakeTimeout) trivial).stepping h.stepping
  by_cases hattempt : t.conn.connectAttemptPending = true
  · have hset := onState_set (.reportPendingConnectResult false) t.conn
    have hhandle : t.conn.handle .handshakeTimeout = Reaction.andThen _ _ := if_pos hattempt
    refine inv_of_unconnected (Or.inl (by rw [hhandle]; rfl)) hstepping ?_
    rw [hhandle]
    exact h.handlers_kept hset fun hused => absurd rfl hused
  · have hhandle : t.conn.handle .handshakeTimeout = (_, []) := if_neg hattempt
    refine inv_of_unconnected (Or.inl (by rw [hhandle]; rfl)) hstepping ?_
    rw [hhandle]
    exact h.handlers_kept ⟨rfl, rfl⟩ fun hused => absurd rfl hused

/-- A heartbeat tick concerns `state_` only. -/
theorem inv_heartbeatTick (h : Inv t) : Inv (t.step .heartbeatTick).1 := by
  have hunrelated := onState_unrelated (ConnectionState.onHeartbeatTick t.conn.probeFn) t.conn
  have hset := onState_set (.heartbeatTick t.conn.probeFn) t.conn
  have hhandshake : (t.step .heartbeatTick).1.handshake = t.handshake := by
    have hnext := next_unrelated (e := .heartbeatTick) (r := t.conn.handle .heartbeatTick) nofun
      hunrelated t.handshake
    rw [show (t.step .heartbeatTick).1.handshake = _ from hnext]
    by_cases hconnected : t.conn.socket.state = .connected
    · exact if_pos hconnected
    · rw [h.none_of_unconnected hconnected]
      exact ite_self _
  refine ⟨⟨h.stepping.1, h.stepping.2, h.stepping.3⟩, h.not_closing,
    h.handlers_kept hset Or.inr, ?_, ?_, ?_⟩
  · rw [hhandshake]
    exact h.none_of_unconnected
  · rw [hhandshake]
    exact h.completed_of_session
  · rw [hhandshake]
    exact h.session_of_completed

/-- A retry aborts the socket before it connects again. -/
theorem inv_reconnectTick (h : Inv t) (launch : Launch) :
    Inv (t.step (.reconnectTick launch)).1 := by
  let e : Event := .reconnectTick launch
  have hstepping : Stepping (t.conn.handle e).1 :=
    (handle_unrequested t.conn (e := e) trivial).stepping h.stepping
  let d : C3Connection := if t.conn.state.disconnect then t.conn.disconnectFn else t.conn
  have haborted : d.socket.state = .unconnected ∧ d.state = t.conn.state := by
    dsimp only [d]
    split_ifs with hdisconnect
    · exact ⟨rfl, rfl⟩
    · refine ⟨?_, rfl⟩
      by_contra hused
      exact hdisconnect (h.handlers_set (Or.inr (Or.inr hused))).2
  let r : Reaction C3Connection Effect :=
    if d.state.connect then d.connectFn launch else (d, [])
  have hretried : (r.1.socket.state = .unconnected ∨ r.1.socket.state = .connecting) ∧
      r.1.state = t.conn.state ∧
      (r.1.socket.state ≠ .unconnected → t.conn.state.connect = true) := by
    dsimp only [r]
    split_ifs with hconnect
    · obtain ⟨hsocket, hstate, _⟩ := connectFn_spec launch d
      rw [hsocket, hstate, haborted.2]
      rw [haborted.2] at hconnect
      exact ⟨connectToHost_state haborted.1 launch, rfl, fun _ => hconnect⟩
    · exact ⟨Or.inl haborted.1, haborted.2, fun hused => absurd haborted.1 hused⟩
  have hset : (t.conn.handle e).1.state.connect = t.conn.state.connect ∧
      (t.conn.handle e).1.state.disconnect = t.conn.state.disconnect := by
    have hkept := onState_set (.reconnectTick (connectCall launch)) r.1
    rw [hretried.2.1] at hkept
    have hstate : (t.conn.handle e).1.state =
        (t.conn.state.perform (.reconnectTick (connectCall launch))).1 := by
      rw [← hretried.2.1]
      rfl
    rw [hstate]
    exact hkept
  exact inv_of_unconnected hretried.1 hstepping
    (h.handlers_kept hset fun hused => Or.inl (hretried.2.2 hused))

/-- A step that starts fresh keeps the invariant. -/
theorem inv_next {e : Event} (h : Inv t) (henabled : t.Enabled e) (hfresh : t.StartsFresh e) :
    Inv (machine.next t e) := by
  cases e with
  | connectToHost host port launch => exact inv_connectToHost h henabled
  | disconnectNow => exact inv_disconnectNow h
  | request call => exact inv_request h call
  | socketConnected => exact inv_socketConnected h henabled hfresh
  | socketError error dropped => exact inv_socketError h error dropped
  | socketDisconnected => exact inv_socketDisconnected h henabled
  | readyRead chunk =>
    have hconnected : t.conn.socket.state = .connected :=
      Or.resolve_right henabled h.not_closing
    by_cases hattempt : t.conn.connectAttemptPending = true
    · exact inv_handshake h hconnected hattempt hfresh
    · exact inv_reply h chunk (eq_false_of_ne_true hattempt)
  | handshakeTimeout => exact inv_handshakeTimeout h
  | requestTimeout kind => exact inv_requestTimeout h kind
  | heartbeatTick => exact inv_heartbeatTick h
  | reconnectTick launch => exact inv_reconnectTick h launch

/-- A connection that keeps its old session is ready before its handshake completed. -/
theorem not_ready_of_pending (hready : t.conn.isReady = true) (hpending : t.handshake = .pending) :
    ¬ t.ReadyAsObserved := by
  intro hobserved
  have hcompleted := (hobserved.mp hready).2
  rw [hpending] at hcompleted
  cases hcompleted

/-- A reply that grants the session id zero completes the handshake without a session. -/
theorem not_ready_of_zeroSession (hconnected : t.conn.socket.state = .connected)
    {chunk : QByteArray} (hstale : ¬ t.StartsFresh (.readyRead chunk)) :
    ¬ (machine.next t (.readyRead chunk)).ReadyAsObserved := by
  obtain ⟨hattempt, hstep, hgrants⟩ := not_not.mp hstale
  let c : C3Connection := { t.conn with socket := t.conn.socket.receive chunk }
  let d : C3Connection := { c.readAll with
    readBuffer := []
    handshakeTimer := none
    connectAttemptPending := false
    sessionId := 0
    sessionLess := false
    requestNr := kPreSessionRequestNr + 1 }
  -- the signal is emitted, but no session exists
  have hhandle : t.conn.handle (.readyRead chunk) = d.establishSession 0 := by
    have hdecoded : decodeConnectSessionResponse c.readAll.readBuffer = ⟨.ok, 0⟩ := hgrants
    have hbranch : c.onSocketReadyRead = c.readAll.onHandshakeData := if_pos hattempt
    have hreply : c.readAll.onHandshakeData = c.readAll.onSessionReply := by
      unfold onHandshakeData
      rw [show c.readAll.handshakeStep = _ from hstep]
    rw [show t.conn.handle (.readyRead chunk) = _ from hbranch, hreply, onSessionReply, hdecoded]
  intro hobserved
  have hstate : (machine.next t (.readyRead chunk)).conn.socket.state = .connected := by
    change (t.conn.handle (.readyRead chunk)).1.socket.state = _
    rw [hhandle]
    exact hconnected
  have hestablished : (t.conn.handle (.readyRead chunk)).2.any Effect.isEstablished = true := by
    rw [hhandle]
    exact any_established_append [.sessionEstablished 0] _ _
  have hcompleted : (machine.next t (.readyRead chunk)).handshake = .completed := by
    have hnext : (machine.next t (.readyRead chunk)).handshake =
        if (t.conn.handle (.readyRead chunk)).2.any Effect.isEstablished then .completed
        else if (t.conn.handle (.readyRead chunk)).2.any Effect.isFailed ∧ t.handshake = .pending
          then .failed
        else t.handshake := if_neg (not_not.mpr hstate)
    rw [hnext, if_pos hestablished]
  have hready := hobserved.mpr ⟨hstate, hcompleted⟩
  change (t.conn.handle (.readyRead chunk)).1.isReady = true at hready
  rw [hhandle] at hready
  cases hready

/-- A step that does not start fresh makes readiness differ from what is observed. -/
theorem not_ready_of_stale {e : Event} (h : Inv t) (henabled : t.Enabled e)
    (hstale : ¬ t.StartsFresh e) : ¬ (machine.next t e).ReadyAsObserved := by
  cases e with
  | socketConnected =>
    have hsession : t.conn.hasSession = true := by simpa [StartsFresh] using hstale
    refine not_ready_of_pending ?_ rfl
    change (t.conn.hasSession && decide (SocketState.connected = .connected)) = true
    rw [hsession]
    rfl
  | readyRead chunk =>
    have hconnected : t.conn.socket.state = .connected :=
      Or.resolve_right henabled h.not_closing
    exact not_ready_of_zeroSession hconnected hstale
  | _ => exact absurd trivial hstale

/-- **Readiness.** In every run, `isReady` says in every state that the handshake
on the current TCP connection completed, exactly when the socket never connects
over an old session and no CONNECT_SESSION reply grants the session id zero. -/
theorem readyAsObserved_iff_startsFresh (events : List Event)
    (henabled : machine.EachStep Enabled {} events) :
    machine.EachState ReadyAsObserved {} events ↔ machine.EachStep StartsFresh {} events :=
  Mealy.eachState_iff_eachStep (I := Inv) (fun _ h => h.readyAsObserved)
    (fun _ _ h he hP => inv_next h he hP) (fun _ _ h he hP => not_ready_of_stale h he hP)
    inv_init henabled

/-- A session, on which a second call of `connectToHost` is refused, its regular end, and a
session-less connection after it. -/
theorem twoSessions_readyAsObserved :
    machine.EachState ReadyAsObserved {}
      [.connectToHost "panel" 4370 .started, .socketConnected,
        .readyRead (encodeFrame kReplyOk 1 0 [] true),
        .connectToHost "panel" 4370 (.failed "connection is in progress"), .disconnectNow,
        .connectToHost "panel" 4370 .started, .socketConnected,
        .readyRead (encodeFrame kReplyError 0 0 [] false),
        .readyRead (encodeFrame kReplyOk 0 0 [] false)] :=
  (readyAsObserved_iff_startsFresh _ (by decide +kernel)).mpr (by decide +kernel)

/-- An established session is lost, and the reconnect loop connects again. -/
def reconnectedRun : List Event :=
  [.connectToHost "panel" 4370 .started, .socketConnected,
    .readyRead (encodeFrame kReplyOk 1 0 [] true), .socketError "remote host closed" true,
    .heartbeatTick, .reconnectTick .started, .socketConnected]

/-- The connection is ready while its new handshake is pending. -/
theorem reconnectedRun_readyEarly :
    ¬ ∀ events, machine.EachStep Enabled {} events →
      machine.EachState ReadyAsObserved {} events := by
  intro h
  exact absurd (h reconnectedRun (by decide +kernel)) (by decide +kernel)

end Observed

end QtAppBase.C3
