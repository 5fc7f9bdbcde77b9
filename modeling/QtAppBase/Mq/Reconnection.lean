import QtAppBase.Core.LoopPersistence
import QtAppBase.Mq.Acknowledgement
import QtAppBase.Mq.Consumer
import QtAppBase.Mq.FrameOwnership
import QtAppBase.Mq.System

/-!
# Consuming again after a reconnect

Each time the connection comes up there is a new AMQP connection, and the service needs
a new channel and a new consumer on it. It gets them if it let go of the old ones when
the connection went, and took hold of nothing while it was down.
-/

namespace QtAppBase.Mq

open Library QtAppBase.Core Qt

variable {α : Type*} {lib : AmqpLibrary α}

/-! ### The connection -/

namespace MqConnection

variable {c d : MqConnection α} {e : Event}

/-- What a connection that is ready rests on. -/
structure Steady (c : MqConnection α) : Prop where
  asyncResult : c.state.connect = true → c.state.asyncResult = true
  connection : c.isReady = true → c.connection.isSome = true
  socket : c.isReady = true → c.socket.state ≠ .connecting
  timer : c.isReady = true → c.state.reconnectTimer = none

/-- A connect callable leaves `state_` alone. -/
theorem connectFn_state (launch : Launch) (d : MqConnection α) :
    (d.connectFn launch).state = d.state := by
  cases launch <;> rfl

/-- A retry is one of `state_`, after the callables. -/
theorem onReconnectTick_eq (launch : Launch) (c : MqConnection α) : ∃ d : MqConnection α,
    d.state = c.state ∧ c.onReconnectTick launch =
      d.onState (ConnectionState.reconnectTimeout (connectCall launch)) := by
  refine ⟨_, ?_, rfl⟩
  split_ifs <;> cases launch <;> rfl

/-- A connect callable settles no success. -/
theorem settles_connectCall (launch : Launch) (s : ConnectionState) :
    ConnectionState.settles s (connectCall launch) ≠ some true := by
  intro h
  obtain ⟨-, -, hhead⟩ := ConnectionState.settles_some h
  cases launch <;> cases hhead

/-- The signal is forwarded if `state_` connects. -/
theorem comesUp_iff (f : ConnectionState → Reaction ConnectionState Signal) :
    .connectionStateChanged true ∈ (onState f c).2 ↔ Looped.connects (f c.state).2 = true := by
  unfold onState Looped.connects
  rw [List.contains_iff_mem, List.mem_filterMap]
  constructor
  · rintro ⟨signal, hmem, hforward⟩
    cases signal with
    | connectionStateChanged connected =>
      obtain rfl : connected = true := by simpa [forward] using hforward
      exact hmem
    | reconnectingChanged reconnecting => cases hforward
  · exact fun hmem => ⟨_, hmem, rfl⟩

/-- The report of a failure connects nothing. -/
theorem connects_failure (s : ConnectionState) :
    Looped.connects (ConnectionState.reportPendingConnectResult false s).2 = false := by
  by_cases hignored : s.asyncResult = false ∨ s.awaitingAsyncResult = false
  · rw [ConnectionState.reportPendingConnectResult_ignored hignored]
    rfl
  · simp only [not_or, Bool.not_eq_false] at hignored
    rw [Looped.connects_report hignored.1 hignored.2, Bool.false_and]

/-- Nor does a failed probe. -/
theorem connects_probe (alive : Bool) (s : ConnectionState) :
    Looped.connects (ConnectionState.onHeartbeatTick alive s).2 = false := by
  unfold ConnectionState.onHeartbeatTick
  split_ifs
  · rfl
  · simp

/-- **Only the library makes a connection ready.** -/
theorem comesUp_ready (hasync : c.state.connect = true → c.state.asyncResult = true)
    (hup : .connectionStateChanged true ∈ (c.handle lib e).2) : e = .amqpReady := by
  have hfailure {d : MqConnection α} :
      .connectionStateChanged true ∉
        (onState (ConnectionState.reportPendingConnectResult false) d).2 := by
    rw [comesUp_iff, connects_failure]
    exact Bool.false_ne_true
  have hlaunched (launch : Launch) (s : ConnectionState) :
      (ConnectionState.settles s (connectCall launch) == some true && !s.connected) = false := by
    rw [beq_eq_false_iff_ne.mpr (settles_connectCall launch s), Bool.false_and]
  cases e with
  | amqpReady => rfl
  | connectToHost host port vhost user password launch =>
    have hmem := (comesUp_iff _).mp hup
    have hconnects := (Looped.connects_async (s := c.state.setHandlers true true true true) rfl
      rfl (connectCall launch)).2.1
    rw [connectFn_state, hconnects, hlaunched] at hmem
    cases hmem
  | socketError error dropped =>
    change _ ∈ (c.onSocketError error dropped).2 at hup
    unfold onSocketError at hup
    dsimp only at hup
    by_cases hpending : c.connectAttemptPending = true
    · rw [if_pos hpending] at hup
      exact absurd hup hfailure
    · rw [if_neg hpending] at hup
      cases hup
  | amqpError message =>
    change _ ∈ (c.onError message).2 at hup
    unfold onError at hup
    split_ifs at hup
    · exact absurd hup hfailure
    · cases hup
  | heartbeatTick =>
    have hmem := (comesUp_iff _).mp hup
    rw [connects_probe] at hmem
    cases hmem
  | reconnectTick launch =>
    obtain ⟨d, hstate, hretry⟩ := onReconnectTick_eq launch c
    change _ ∈ (c.onReconnectTick launch).2 at hup
    rw [hretry, comesUp_iff, hstate] at hup
    cases hconnect : c.state.connect with
    | false =>
      rw [ConnectionState.reconnectTimeout_unset hconnect] at hup
      cases hup
    | true =>
      rw [(Looped.connects_async hconnect (hasync hconnect) (connectCall launch)).2.2,
        hlaunched] at hup
      cases hup
  | readyRead chunk =>
    have hquiet := readSocket_quiet { c with socket := c.socket.receive chunk } _ hup
    cases hquiet
  | heartbeatTimeout =>
    change _ ∈ c.onHeartbeatTimeout.2 at hup
    unfold onHeartbeatTimeout at hup
    split_ifs at hup <;> simp at hup
  | amqpData data => simp [handle] at hup
  | socketConnected | socketDisconnected | amqpClosed | amqpNegotiate interval => cases hup

/-- A connection that is ready after an event was ready before, unless the library has just
made it so. -/
theorem ready_before (h : Steady c) (hother : e ≠ .amqpReady)
    (hready : (c.handle lib e).1.isReady = true) : c.isReady = true := by
  by_contra hdown
  have hne : c.state.connected ≠ (c.handle lib e).1.state.connected := fun hsame =>
    hdown (hsame.trans hready)
  have htells : Announces c.state.connected ((c.handle lib e).2.filterMap Effect.connected?)
      (c.handle lib e).1.state.connected := c.handle_tells e
  have hmem := htells.mem hne
  obtain ⟨effect, heffect, hsays⟩ := List.mem_filterMap.mp hmem
  have htrue : (c.handle lib e).1.state.connected = true := hready
  change effect.connected? = some (c.handle lib e).1.state.connected at hsays
  rw [htrue] at hsays
  cases effect with
  | connectionStateChanged connected =>
    obtain rfl : connected = true := Option.some.inj hsays
    exact hother (comesUp_ready h.asyncResult heffect)
  | _ => cases hsays

/-- A connection that stays ready keeps what this rests on. -/
theorem Steady.stays (h : Steady c) (henabled : c.Enabled e)
    (hconnect : e.isConnect = true → c.isReady = false) (hother : e ≠ .amqpReady)
    (hready : (c.handle lib e).1.isReady = true) :
    (c.handle lib e).1.connection.isSome = true ∧
      (c.handle lib e).1.socket.state ≠ .connecting ∧
      (c.handle lib e).1.state.reconnectTimer = none := by
  have hbefore := ready_before h hother hready
  have hthere := h.connection hbefore
  have hsocket := h.socket hbefore
  have htimer := h.timer hbefore
  have hreport {s : ConnectionState}
      (hup : (ConnectionState.reportPendingConnectResult false s).1.connected = true) :
      (ConnectionState.reportPendingConnectResult false s).1.reconnectTimer =
        s.reconnectTimer := by
    rw [ConnectionState.reportPendingConnectResult_false_up hup]
  cases e with
  | connectToHost host port vhost user password launch =>
    rw [hconnect rfl] at hbefore
    cases hbefore
  | socketConnected => exact absurd henabled hsocket
  | amqpReady => exact absurd rfl hother
  | reconnectTick launch =>
    -- the retry timer does not run while the connection is up
    have hactive : c.state.reconnectTimer.isSome = true := henabled
    rw [htimer] at hactive
    cases hactive
  | socketError error dropped =>
    have hdropped : (if dropped then c.socket.drop else c.socket).state ≠ .connecting := by
      cases dropped with
      | true => exact SocketState.noConfusion
      | false => exact hsocket
    change (c.onSocketError error dropped).1.isReady = true at hready
    change (c.onSocketError error dropped).1.connection.isSome = true ∧
      (c.onSocketError error dropped).1.socket.state ≠ .connecting ∧
      (c.onSocketError error dropped).1.state.reconnectTimer = none
    unfold onSocketError at hready ⊢
    dsimp only at hready ⊢
    by_cases hpending : c.connectAttemptPending = true
    · rw [if_pos hpending] at hready ⊢
      exact ⟨hthere, hdropped, (hreport hready).trans htimer⟩
    · rw [if_neg hpending]
      exact ⟨hthere, hdropped, htimer⟩
  | amqpError message =>
    change (c.onError message).1.isReady = true at hready
    change (c.onError message).1.connection.isSome = true ∧
      (c.onError message).1.socket.state ≠ .connecting ∧
      (c.onError message).1.state.reconnectTimer = none
    unfold onError at hready ⊢
    by_cases hpending : c.connectAttemptPending = true
    · rw [if_pos hpending] at hready ⊢
      exact ⟨hthere, hsocket, (hreport hready).trans htimer⟩
    · rw [if_neg hpending]
      exact ⟨hthere, hsocket, htimer⟩
  | heartbeatTick =>
    refine ⟨hthere, hsocket, ?_⟩
    change (ConnectionState.onHeartbeatTick c.probeFn c.state).1.connected = true at hready
    change (ConnectionState.onHeartbeatTick c.probeFn c.state).1.reconnectTimer = none
    unfold ConnectionState.onHeartbeatTick at hready ⊢
    split_ifs at hready ⊢
    · exact htimer
    · simp at hready
  | readyRead chunk =>
    refine ⟨?_, hsocket, htimer⟩
    exact (readSocket_suffix lib { c with socket := c.socket.receive chunk }).2.1.trans hthere
  | heartbeatTimeout =>
    change c.onHeartbeatTimeout.1.connection.isSome = true ∧
      c.onHeartbeatTimeout.1.socket.state ≠ .connecting ∧
      c.onHeartbeatTimeout.1.state.reconnectTimer = none
    rw [onHeartbeatTimeout, if_pos hthere]
    exact ⟨hthere, hsocket, htimer⟩
  | amqpClosed =>
    refine ⟨hthere, ?_, htimer⟩
    change c.socket.disconnectFromHost.state ≠ .connecting
    unfold TcpSocket.disconnectFromHost
    split
    · exact SocketState.noConfusion
    · exact SocketState.noConfusion
    · exact hsocket
  | socketDisconnected => exact ⟨hthere, SocketState.noConfusion, htimer⟩
  | amqpData data | amqpNegotiate interval => exact ⟨hthere, hsocket, htimer⟩

/-- Once there is a connect callable, its results come later. -/
theorem handle_async (hasync : c.state.connect = true → c.state.asyncResult = true) (e : Event) :
    (c.handle lib e).1.state.connect = true → (c.handle lib e).1.state.asyncResult = true := by
  have hkept (s : ConnectionState) (op : Operation) :
      (s.perform op).1.connect = s.connect ∧ (s.perform op).1.asyncResult = s.asyncResult := by
    have hsame := s.perform_handlers op
    simp only [ConnectionState.handlers, Prod.mk.injEq] at hsame
    exact ⟨hsame.1, hsame.2.2.2⟩
  have hperform (op : Operation) : (c.state.perform op).1.connect = true →
      (c.state.perform op).1.asyncResult = true := by
    rw [(hkept c.state op).1, (hkept c.state op).2]
    exact hasync
  cases e with
  | connectToHost host port vhost user password launch =>
    intro
    have hset := (hkept (c.state.setHandlers true true true true)
      (.beginAutoConnect (connectCall launch))).2
    cases launch <;> exact hset
  | socketError error dropped =>
    change (c.onSocketError error dropped).1.state.connect = true →
      (c.onSocketError error dropped).1.state.asyncResult = true
    unfold onSocketError
    dsimp only
    split_ifs
    · exact hperform (.reportPendingConnectResult false)
    · exact hperform (.reportPendingConnectResult false)
    · exact hasync
    · exact hasync
  | amqpReady => exact hperform (.reportPendingConnectResult true)
  | amqpError message =>
    change (c.onError message).1.state.connect = true →
      (c.onError message).1.state.asyncResult = true
    unfold onError
    split_ifs
    · exact hperform (.reportPendingConnectResult false)
    · exact hasync
  | heartbeatTick => exact hperform (.heartbeatTick c.probeFn)
  | reconnectTick launch =>
    obtain ⟨d, hstate, hretry⟩ := onReconnectTick_eq launch c
    change (c.onReconnectTick launch).1.state.connect = true →
      (c.onReconnectTick launch).1.state.asyncResult = true
    rw [hretry]
    change (d.state.perform (.reconnectTick (connectCall launch))).1.connect = true →
      (d.state.perform (.reconnectTick (connectCall launch))).1.asyncResult = true
    rw [hstate]
    exact hperform _
  | heartbeatTimeout =>
    change c.onHeartbeatTimeout.1.state.connect = true →
      c.onHeartbeatTimeout.1.state.asyncResult = true
    unfold onHeartbeatTimeout
    split_ifs <;> exact hasync
  | socketConnected | socketDisconnected | readyRead chunk | amqpData data | amqpClosed
  | amqpNegotiate interval => exact hasync

/-- **What a connection that is ready rests on lasts as long as it is ready.** -/
theorem Steady.handle (h : Steady c) (henabled : c.Enabled e)
    (hopen : e = .amqpReady → c.socket.IsOpen) (hconnect : e.isConnect = true → c.isReady = false) :
    Steady (c.handle lib e).1 := by
  by_cases hother : e = .amqpReady
  · subst hother
    have hthere : c.connection.isSome = true := henabled
    have hsocket : c.socket.state ≠ .connecting := by
      intro hconnecting
      rcases hopen rfl with hopen | hopen
      · rw [hconnecting] at hopen
        cases hopen
      · rw [hconnecting] at hopen
        cases hopen
    refine ⟨handle_async h.asyncResult _, fun _ => hthere, fun _ => hsocket, fun hready => ?_⟩
    change (ConnectionState.reportPendingConnectResult true c.state).1.connected = true at hready
    change (ConnectionState.reportPendingConnectResult true c.state).1.reconnectTimer = none
    by_cases hignored : c.state.asyncResult = false ∨ c.state.awaitingAsyncResult = false
    · rw [ConnectionState.reportPendingConnectResult_ignored hignored] at hready ⊢
      exact h.timer hready
    · simp only [not_or, Bool.not_eq_false] at hignored
      rw [ConnectionState.reportPendingConnectResult_true hignored.1 hignored.2,
        ConnectionState.startHeartbeat_eq]
  · refine ⟨handle_async h.asyncResult e, fun hready => ?_, fun hready => ?_, fun hready => ?_⟩
    · exact (h.stays henabled hconnect hother hready).1
    · exact (h.stays henabled hconnect hother hready).2.1
    · exact (h.stays henabled hconnect hother hready).2.2

end MqConnection

/-! ### The service -/

namespace MqService

variable {s d : MqService} {amqp : AmqpAnswers} {faulted : Bool}

/-- The service holds nothing of a connection. -/
structure Detached (s : MqService) : Prop where
  channel : s.channel = none
  members : s.consumerMembers = {}
  pending : s.pendingDeliveries = ∅
  committed : s.committedDeliveries = ∅

/-- The service has a consumer or has asked for one, unless it is paused or something has
failed. -/
structure Serving (faulted : Bool) (s : MqService) : Prop where
  /-- A consumer with a tag is there, and so is one that is being cancelled. -/
  tagged : s.consumerTag ≠ "" → s.consuming = true
  cancelling : s.cancelPending = true → s.consuming = true
  consumes : s.paused = false → faulted = false →
    s.consuming = true ∨ s.consumerStarting = true

/-- A reset detaches the service. -/
theorem resetConnectionState_detached (s : MqService) : Detached s.resetConnectionState :=
  ⟨rfl, rfl, rfl, rfl⟩

/-- Without a channel there is nothing to cancel in a pause. -/
theorem Detached.pauseConsuming (h : s.Detached) (order : IterationOrder) :
    s.pauseConsuming order amqp true = ({ s with paused := true }, []) := by
  unfold MqService.pauseConsuming cancelConsumer
  dsimp only
  rw [if_pos rfl]
  split
  · rfl
  · next channel hsome =>
    rw [h.channel] at hsome
    cases hsome

/-- Nothing is pending that could be acknowledged. -/
theorem Detached.confirmInserted (h : s.Detached) (tag : ℕ) :
    s.confirmInserted amqp tag = (s, []) := by
  unfold MqService.confirmInserted
  rw [h.pending, if_pos (Finset.notMem_empty tag)]

/-- Members of the consumer decide, and the pause. -/
theorem Serving.of_same (h : Serving faulted s) (hmembers : d.consumerMembers = s.consumerMembers)
    (hpaused : d.paused = s.paused) : Serving faulted d := by
  simp only [consumerMembers, ConsumerMembers.mk.injEq] at hmembers
  obtain ⟨hstarting, hconsuming, hpending, htag⟩ := hmembers
  refine ⟨?_, ?_, ?_⟩
  · rw [htag, hconsuming]
    exact h.tagged
  · rw [hpending, hconsuming]
    exact h.cancelling
  · rw [hpaused, hconsuming, hstarting]
    exact h.consumes

/-- With a channel, or a connection to make one on, a service that is not paused has or
starts a consumer. -/
theorem startConsuming_serving (htag : s.consumerTag ≠ "" → s.consuming = true)
    (hcancel : s.cancelPending = true → s.consuming = true)
    (huse : s.channel.isSome = true ∨ amqp.connection = true) :
    Serving faulted (s.startConsuming amqp).2.1 := by
  unfold startConsuming
  split_ifs with hidle
  · refine ⟨htag, hcancel, fun (hpaused : s.paused = false) _ => ?_⟩
    simpa [hpaused] using hidle
  · cases hensured : s.ensureChannel amqp with
    | error message =>
      unfold ensureChannel at hensured
      split at hensured
      · cases hensured
      · next hnone =>
        rcases huse with huse | huse
        · rw [hnone] at huse
          cases huse
        · rw [if_pos huse] at hensured
          cases hensured
    | ok made =>
      obtain ⟨channel, d⟩ := made
      have hsame : d.consumerMembers = s.consumerMembers := by
        unfold ensureChannel at hensured
        split at hensured
        · cases hensured
          rfl
        · split_ifs at hensured
          cases hensured
          rfl
      simp only [consumerMembers, ConsumerMembers.mk.injEq] at hsame
      obtain ⟨-, hconsuming, hpending, hname⟩ := hsame
      refine ⟨?_, ?_, fun _ _ => Or.inr rfl⟩
      · change d.consumerTag ≠ "" → d.consuming = true
        rw [hname, hconsuming]
        exact htag
      · change d.cancelPending = true → d.consuming = true
        rw [hpending, hconsuming]
        exact hcancel

/-- Publishing leaves the consumer alone. -/
theorem publish_serving (h : Serving faulted s) (decoded : Option Envelope) :
    Serving faulted (s.publish amqp decoded).2.1 := by
  have hsame : (s.publish amqp decoded).2.1.consumerMembers = s.consumerMembers ∧
      (s.publish amqp decoded).2.1.paused = s.paused := by
    unfold publish ensureChannel
    cases s.channel <;> cases amqp.connection <;> cases decoded <;> cases amqp.publish <;>
      exact ⟨rfl, rfl⟩
  exact h.of_same hsame.1 hsame.2

/-- Only a consumer with a tag is cancelled. -/
theorem cancelConsumer_serving (htag : s.consumerTag ≠ "" → s.consuming = true)
    (hcancel : s.cancelPending = true → s.consuming = true)
    (hconsumes : s.paused = true ∨ s.consuming = true) :
    Serving faulted s.cancelConsumer.1 := by
  have hends {d : MqService} (hpaused : d.paused = s.paused) (hsame : d.consuming = s.consuming) :
      d.paused = false → faulted = false → d.consuming = true ∨ d.consumerStarting = true := by
    intro hrunning _
    rcases hconsumes with hstopped | hconsuming
    · rw [hpaused, hstopped] at hrunning
      cases hrunning
    · exact Or.inl (hsame.trans hconsuming)
  unfold cancelConsumer
  split
  · exact ⟨htag, hcancel, hends rfl rfl⟩
  · split_ifs with hidle
    · exact ⟨htag, hcancel, hends rfl rfl⟩
    · have hnamed : s.consumerTag ≠ "" := fun hempty => hidle (Or.inl hempty)
      exact ⟨htag, fun _ => htag hnamed, hends rfl rfl⟩

/-- The end of a pause gets the consumer back. -/
theorem pauseConsuming_serving (order : IterationOrder) (paused : Bool) (h : Serving faulted s)
    (hconnection : amqp.connection = true) :
    Serving faulted (s.pauseConsuming order amqp paused).1 := by
  cases paused with
  | true =>
    exact cancelConsumer_serving (s := { s with paused := true }) h.tagged h.cancelling
      (Or.inl rfl)
  | false =>
    obtain ⟨hmembers, -, hpaused, -⟩ :=
      confirmAll_stays amqp (order.toList s.committedDeliveries) { s with paused := false }
    rw [pauseConsuming_false, Reaction.andThen_fst]
    generalize (confirmAll amqp _ _).1 = d at hmembers hpaused ⊢
    simp only [consumerMembers, ConsumerMembers.mk.injEq] at hmembers
    obtain ⟨-, hconsuming, hpending, htag⟩ := hmembers
    have htagged : d.consumerTag ≠ "" → d.consuming = true := by
      rw [htag, hconsuming]
      exact h.tagged
    have hcancelling : d.cancelPending = true → d.consuming = true := by
      rw [hpending, hconsuming]
      exact h.cancelling
    split_ifs with hidle
    · exact startConsuming_serving htagged hcancelling (Or.inr hconnection)
    · refine ⟨htagged, hcancelling, fun _ _ => Or.inl ?_⟩
      by_contra hnot
      have hnone : d.consuming = false := Bool.eq_false_iff.mpr hnot
      have hpends : d.cancelPending = true := by simpa [hnone] using hidle
      exact hnot (hcancelling hpends)

/-- A fault more asks for less. -/
theorem Serving.or (h : Serving faulted s) (more : Bool) : Serving (faulted || more) s :=
  ⟨h.tagged, h.cancelling, fun hpaused hnone =>
    h.consumes hpaused (Bool.or_eq_false_iff.mp hnone).1⟩

/-- A rejection leaves the consumer and the pause alone, and so does a delivery. -/
theorem rejectDelivery_same (amqp : AmqpAnswers) (tag : ℕ) (reason : QString) (s : MqService) :
    (s.rejectDelivery amqp tag reason).1.consumerMembers = s.consumerMembers ∧
      (s.rejectDelivery amqp tag reason).1.paused = s.paused := by
  unfold rejectDelivery
  split
  · exact ⟨rfl, rfl⟩
  · split_ifs <;> exact ⟨rfl, rfl⟩

theorem deliver_same (amqp : AmqpAnswers) (message : Message) (s : MqService) :
    (s.deliver amqp message).1.consumerMembers = s.consumerMembers ∧
      (s.deliver amqp message).1.paused = s.paused := by
  unfold deliver
  split
  · exact ⟨rfl, rfl⟩
  · unfold onReceived
    split_ifs
    · exact rejectDelivery_same amqp _ _ _
    · split
      · exact rejectDelivery_same amqp _ _ _
      · exact ⟨rfl, rfl⟩

/-- A service that has a channel and made none had it before. -/
theorem Carried.had {r : Reaction MqService ServiceEffect} (h : Carried s r)
    (hsome : r.1.channel.isSome = true) (hmade : r.1.channelsMade = s.channelsMade) :
    s.channel.isSome = true := by
  rcases h.channel with ⟨hsame, -⟩ | ⟨-, -, hnew⟩
  · exact hsame ▸ hsome
  · omega

end MqService

/-! ### The system -/

/-- The pause is ended. -/
def MqEvent.endsPause : MqEvent → Bool
  | .pauseToggled false _ => true
  | _ => false

namespace MqSystem

open MqService

variable {presenter : Option (QString → QString → PresentedMessage)} {order : IterationOrder}
  {w : MqSystem α} {up : Bool}

/-- The application keeps to a connection that is up or down. -/
structure Attends (up : Bool) (w : MqSystem α) : Prop where
  detached : up = false → w.app.service.Detached
  serving : up = true → w.app.service.Serving w.faulted
  /-- A channel is one of the connection there is. -/
  owner : w.app.service.channel.isSome = true → w.channelOwner = w.connectionsMade

/-- The handlers of the tab leave the service to itself. -/
theorem onService_service (f : MqService → Reaction MqService ServiceEffect) (a : MqApp) :
    (a.onService presenter f).1.service = (f a.service).1 :=
  (MqApp.onSignals_spec presenter _ _).1

/-- There is a channel only on a connection that is up. -/
theorem Attends.up_of_channel (h : Attends up w)
    (hsome : w.app.service.channel.isSome = true) : up = true := by
  by_contra hdown
  rw [(h.detached (Bool.eq_false_iff.mpr hdown)).channel] at hsome
  cases hsome

/-- What an event makes of the service decides. -/
theorem attends_of {event : MqEvent} {d : MqService}
    (howner : w.app.service.channel.isSome = true → w.channelOwner = w.connectionsMade)
    (hstep : (w.app.step presenter order
      (event.onConnection w.connection.connection.isSome)).1.service = d)
    (hdetached : up = false → d.Detached)
    (hserving : up = true → d.Serving (w.faulted || event.isFault))
    (hhad : d.channel.isSome = true → d.channelsMade = w.app.service.channelsMade →
      w.app.service.channel.isSome = true) :
    Attends up (onApp presenter order event w).1 := by
  unfold onApp
  refine ⟨?_, ?_, ?_⟩
  · dsimp only
    rw [hstep]
    exact hdetached
  · dsimp only
    rw [hstep]
    exact hserving
  · dsimp only
    rw [hstep]
    intro hsome
    split_ifs with hmade
    · exact howner (hhad hsome hmade)
    · rfl

/-- A call of the service. -/
theorem attends_call {event : MqEvent} {f : MqService → Reaction MqService ServiceEffect}
    (howner : w.app.service.channel.isSome = true → w.channelOwner = w.connectionsMade)
    (hstep : w.app.step presenter order (event.onConnection w.connection.connection.isSome) =
      w.app.onService presenter f)
    (hdetached : up = false → (f w.app.service).1.Detached)
    (hserving : up = true → (f w.app.service).1.Serving (w.faulted || event.isFault))
    (hhad : (f w.app.service).1.channel.isSome = true →
      (f w.app.service).1.channelsMade = w.app.service.channelsMade →
      w.app.service.channel.isSome = true) :
    Attends up (onApp presenter order event w).1 := by
  refine attends_of howner ?_ hdetached hserving hhad
  rw [hstep, onService_service]

/-- A call while the connection is up leaves it to the service to serve it. -/
theorem attends_up {event : MqEvent} {f : MqService → Reaction MqService ServiceEffect}
    (h : Attends up w) (hup : up = true)
    (hstep : w.app.step presenter order (event.onConnection w.connection.connection.isSome) =
      w.app.onService presenter f)
    (hserving : w.app.service.Serving w.faulted →
      (f w.app.service).1.Serving (w.faulted || event.isFault))
    (hhad : (f w.app.service).1.channel.isSome = true →
      (f w.app.service).1.channelsMade = w.app.service.channelsMade →
      w.app.service.channel.isSome = true) :
    Attends up (onApp presenter order event w).1 := by
  refine attends_call h.owner hstep (fun hdown => ?_) (fun hup => hserving (h.serving hup)) hhad
  rw [hup] at hdown
  cases hdown

/-- **Every event of the application keeps to the connection**, if the tab publishes and ends a
pause only while it is up, and the channel brings only what is its own. -/
theorem onApp_attends (h : Attends up w)
    (hthere : up = true → w.connection.connection.isSome = true)
    {event : MqEvent} (hstate : ∀ connected amqp, event ≠ .connectionStateChanged connected amqp)
    (hchannel : event.ofChannel = true → w.app.service.channel.isSome = true)
    (hpublish : ∀ decoded amqp, event = .publish decoded amqp → up = true)
    (hlifted : event.endsPause = true → up = true) :
    Attends up (onApp presenter order event w).1 := by
  have hsame : w.app.service.channel.isSome = true →
      w.app.service.channelsMade = w.app.service.channelsMade →
      w.app.service.channel.isSome = true := fun hsome _ => hsome
  cases event with
  | connectionStateChanged connected amqp => exact absurd rfl (hstate connected amqp)
  | publish decoded amqp =>
    exact attends_up (f := fun s => (s.publish { amqp with
      connection := w.connection.connection.isSome } decoded).2) h (hpublish decoded amqp rfl) rfl
      (fun hserving => (publish_serving hserving decoded).or _)
      (publish_quiet _ _ _).toCarried.had
  | pauseToggled paused amqp =>
    refine attends_call h.owner rfl (fun hdown => ?_) (fun hready => ?_)
      (pauseConsuming_carried _ _ _ _).had
    · have hpaused : paused = true := by
        by_contra hrunning
        obtain rfl : paused = false := Bool.eq_false_iff.mpr hrunning
        rw [hlifted rfl] at hdown
        cases hdown
      have hdetached := h.detached hdown
      rw [hpaused, hdetached.pauseConsuming]
      exact ⟨hdetached.channel, hdetached.members, hdetached.pending, hdetached.committed⟩
    · exact (pauseConsuming_serving order paused (h.serving hready) (hthere hready)).or _
  | delivered message amqp =>
    have hsome := hchannel rfl
    obtain ⟨hmembers, hpaused⟩ := deliver_same
      { amqp with connection := w.connection.connection.isSome } message w.app.service
    exact attends_up h (h.up_of_channel hsome) rfl
      (fun hserving => (hserving.of_same hmembers hpaused).or _) fun _ _ => hsome
  | consumeSucceeded tag =>
    have hsome := hchannel rfl
    refine attends_up h (h.up_of_channel hsome) rfl (fun _ => ?_) fun _ _ => hsome
    unfold onConsumeSuccess
    dsimp only
    split_ifs with hpaused
    · exact cancelConsumer_serving (fun _ => rfl) (fun _ => rfl) (Or.inr rfl)
    · exact ⟨fun _ => rfl, fun _ => rfl, fun _ _ => Or.inl rfl⟩
  | consumeFailed message =>
    refine attends_up h (h.up_of_channel (hchannel rfl)) rfl (fun hserving => ?_) hsame
    exact ⟨hserving.tagged, hserving.cancelling, fun _ hnone => by simp [MqEvent.isFault] at hnone⟩
  | consumerCancelled amqp | cancelSucceeded amqp =>
    have hsome := hchannel rfl
    refine attends_up h (h.up_of_channel hsome) rfl (fun _ => ?_) fun _ _ => hsome
    first | unfold onConsumerCancelled | unfold onCancelSuccess
    dsimp only
    split_ifs with hpaused
    · exact startConsuming_serving (fun hnamed => absurd rfl hnamed) nofun (Or.inl hsome)
    · refine ⟨fun hnamed => absurd rfl hnamed, nofun, fun hrunning _ => ?_⟩
      exact absurd hrunning (by simpa using hpaused)
  | cancelFailed message =>
    refine attends_up h (h.up_of_channel (hchannel rfl)) rfl (fun hserving => ?_) hsame
    have hkept : Serving w.faulted { w.app.service with cancelPending := false } :=
      ⟨hserving.tagged, nofun, hserving.consumes⟩
    exact hkept.or _
  | channelFailed message =>
    exact attends_call (f := fun s => (s, [.errorOccurred message])) h.owner rfl h.detached
      (fun hready => (h.serving hready).or _) hsame
  | messageReturned routingKey description =>
    exact attends_call (f := fun s => (s, [.messageReturned routingKey description])) h.owner rfl
      h.detached (fun hready => (h.serving hready).or _) hsame
  | jobFinished now =>
    exact attends_of h.owner rfl h.detached (fun hready => (h.serving hready).or _) hsame
  | jobDone amqp =>
    obtain ⟨there, hanswers⟩ : ∃ there : AmqpAnswers,
        there = { amqp with connection := w.connection.connection.isSome } := ⟨_, rfl⟩
    obtain ⟨d, hstep, hd⟩ : ∃ d, (w.app.step presenter order (.jobDone there)).1.service = d ∧
        (d = w.app.service ∨ ∃ tag, d = (w.app.service.confirmInserted there tag).1) := by
      refine ⟨_, rfl, ?_⟩
      change (w.app.onJobDone presenter there).1.service = _ ∨
        ∃ tag, (w.app.onJobDone presenter there).1.service = _
      unfold MqApp.onJobDone
      dsimp only
      split
      · next delivery envelope presented result htaken =>
        refine Or.inr ⟨delivery.tag, ?_⟩
        unfold MqApp.onInserted
        exact onService_service _ _
      · exact Or.inl rfl
    rw [hanswers] at hstep
    rcases hd with rfl | ⟨tag, rfl⟩
    · exact attends_of h.owner hstep h.detached (fun hready => (h.serving hready).or _) hsame
    · refine attends_of h.owner hstep (fun hdown => ?_) (fun hready => ?_)
        (confirmInserted_carried _ _ _).had
      · rw [(h.detached hdown).confirmInserted]
        exact h.detached hdown
      · obtain ⟨hmembers, -, hpaused, -⟩ := confirmInserted_stays there tag w.app.service
        exact ((h.serving hready).of_same hmembers hpaused).or _

variable (presenter order) in
/-- **The service follows the connection**: it lets go of everything when the connection goes,
and starts anew when it comes. -/
theorem announced_attends {connected : Bool} (amqp : AmqpAnswers) (h : Attends up w)
    (hchange : up ≠ connected)
    (hthere : connected = true → w.connection.connection.isSome = true) :
    Attends connected (announced presenter order connected amqp w).1 := by
  unfold announced
  cases connected with
  | false =>
    refine attends_call (f := fun s => (s.resetConnectionState, [])) h.owner rfl
      (fun _ => resetConnectionState_detached _) (fun hup => absurd hup Bool.false_ne_true)
      fun hsome => ?_
    cases hsome
  | true =>
    have hdown : up = false := Bool.eq_false_iff.mpr hchange
    have hdetached := h.detached hdown
    have hmembers := hdetached.members
    simp only [consumerMembers, ConsumerMembers.mk.injEq] at hmembers
    obtain ⟨-, -, hpending, hname⟩ := hmembers
    refine attends_call (f := fun s => (s.startConsuming { amqp with
      connection := w.connection.connection.isSome }).2) h.owner rfl
      (fun hnot => absurd hnot.symm Bool.false_ne_true) (fun _ => ?_)
      (startConsuming_quiet _ _).toCarried.had
    refine startConsuming_serving (fun hnamed => absurd hname hnamed) (fun hcancel => ?_)
      (Or.inr (hthere rfl))
    have hcancelling : w.app.service.cancelPending = true := hcancel
    rw [hpending] at hcancelling
    cases hcancelling

variable (presenter order) in
theorem deliver_attends {after : Bool} (amqp : AmqpAnswers) {effects : List Effect}
    (hannounced : Announces up (effects.filterMap Effect.connected?) after) (h : Attends up w)
    (hthere : .connectionStateChanged true ∈ effects → w.connection.connection.isSome = true) :
    Attends after (deliver presenter order amqp effects w).1 := by
  induction effects generalizing up w with
  | nil =>
    obtain rfl : up = after := hannounced
    exact h
  | cons effect effects ih =>
    cases effect with
    | connectionStateChanged connected =>
      have hheard := announced_attends presenter order amqp h hannounced.1 fun hup =>
        hthere (hup ▸ List.mem_cons_self)
      exact ih hannounced.2 hheard fun hmem => hthere (List.mem_cons_of_mem _ hmem)
    | write data | parse data | heartbeat =>
      exact ih hannounced h fun hmem => hthere (List.mem_cons_of_mem _ hmem)

/-- The window connects while it is not connected, and the pause is not ended while the
connection is down. -/
def Orderly (w : MqSystem α) : SystemEvent → Prop
  | .connection event _ => event.isConnect = true → w.connection.isReady = false
  | .app event => event.endsPause = true → w.connection.isReady = true

instance (w : MqSystem α) : (e : SystemEvent) → Decidable (w.Orderly e)
  | .connection event _ =>
    inferInstanceAs (Decidable (event.isConnect = true → w.connection.isReady = false))
  | .app event => inferInstanceAs (Decidable (event.endsPause = true → w.connection.isReady = true))

/-- The connection rests on what it needs, and the service keeps to it. -/
structure Inv (w : MqSystem α) : Prop where
  steady : w.connection.Steady
  attends : Attends w.connection.isReady w

theorem opened_inv : Inv (opened : MqSystem α) where
  steady := ⟨nofun, nofun, nofun, nofun⟩
  attends := ⟨fun _ => ⟨rfl, rfl, rfl, rfl⟩, nofun, nofun⟩

/-- A connection that answers the connect is not up yet. -/
theorem onConnection_inv {event : Event} (amqp : AmqpAnswers) (h : Inv w)
    (henabled : w.connection.Enabled event)
    (hopen : event = .amqpReady → w.connection.socket.IsOpen)
    (hconnect : event.isConnect = true → w.connection.isReady = false) :
    Inv (onConnection lib presenter order event amqp w).1 := by
  have hsteady : (w.connection.handle lib event).1.Steady :=
    h.steady.handle henabled hopen hconnect
  obtain ⟨v, hv⟩ : ∃ v : MqSystem α, v = { w with
      connection := (w.connection.handle lib event).1
      connectionsMade :=
        if event = .socketConnected then w.connectionsMade + 1 else w.connectionsMade } :=
    ⟨_, rfl⟩
  have hresult : onConnection lib presenter order event amqp w =
      deliver presenter order amqp (w.connection.handle lib event).2 v := by
    rw [hv]
    rfl
  have htells : Announces w.connection.isReady
      ((w.connection.handle lib event).2.filterMap Effect.connected?)
      (w.connection.handle lib event).1.isReady := w.connection.handle_tells event
  have hshown : v.connection = (w.connection.handle lib event).1 := by
    rw [hv]
  have hbefore : Attends w.connection.isReady v := by
    rw [hv]
    refine ⟨h.attends.detached, h.attends.serving, fun hsome => ?_⟩
    dsimp only at hsome ⊢
    have howner := h.attends.owner hsome
    split_ifs with hmade
    · -- a new connection takes the place of one that no channel is left of
      subst hmade
      have hconnecting : w.connection.socket.state = .connecting := henabled
      have hdown : w.connection.isReady = false := by
        by_contra hup
        exact h.steady.socket (by simpa using hup) hconnecting
      rw [(h.attends.detached hdown).channel] at hsome
      cases hsome
    · exact howner
  have hthere : .connectionStateChanged true ∈ (w.connection.handle lib event).2 →
      v.connection.connection.isSome = true := by
    intro hup
    obtain rfl := MqConnection.comesUp_ready h.steady.asyncResult hup
    rw [hshown]
    exact henabled
  have hafter := deliver_attends presenter order amqp htells hbefore hthere
  have hconnection := (deliver_shows presenter order (w := v) amqp htells).connection
  rw [hresult]
  refine ⟨?_, ?_⟩
  · rw [hconnection, hshown]
    exact hsteady
  · rw [hconnection, hshown]
    exact hafter

theorem onApp_inv {event : MqEvent} (h : Inv w)
    (hstate : ∀ connected amqp, event ≠ .connectionStateChanged connected amqp)
    (hchannel : event.ofChannel = true → w.app.service.channel.isSome = true)
    (hpublish : ∀ decoded amqp, event = .publish decoded amqp → w.connection.isReady = true)
    (hlifted : event.endsPause = true → w.connection.isReady = true) :
    Inv (onApp presenter order event w).1 :=
  ⟨h.steady, onApp_attends h.attends h.steady.connection hstate hchannel hpublish hlifted⟩

theorem handle_inv {e : SystemEvent} (h : Inv w) (henabled : w.Enabled e)
    (horderly : w.Orderly e) : Inv (w.handle lib presenter order e).1 := by
  cases e with
  | connection event amqp => exact onConnection_inv amqp h henabled.1 henabled.2 horderly
  | app event =>
    cases event with
    | connectionStateChanged connected amqp => exact absurd henabled id
    | publish decoded amqp =>
      change Inv (if _ then _ else _ : Reaction (MqSystem α) SystemEffect).1
      split_ifs with hready
      · exact onApp_inv h nofun nofun (fun _ _ _ => hready) nofun
      · exact h
    | pauseToggled paused amqp => exact onApp_inv h nofun nofun nofun horderly
    | _ => exact onApp_inv h nofun henabled nofun nofun

/-- What the window can rely on. -/
structure Consumes (w : MqSystem α) : Prop where
  /-- While the connection is down, nothing of an earlier one is held. -/
  detached : w.connection.isReady = false → w.app.service.Detached
  /-- A channel is of the AMQP connection there is, which is up. -/
  channel : w.app.service.channel.isSome = true →
    w.connection.isReady = true ∧ w.connection.connection.isSome = true ∧
      w.channelOwner = w.connectionsMade
  /-- On a connection without a fault, messages are consumed or about to be. -/
  consumes : w.connection.isReady = true → w.app.service.paused = false → w.faulted = false →
    w.app.service.consuming = true ∨ w.app.service.consumerStarting = true

theorem Inv.consumes (h : Inv w) : Consumes w := by
  refine ⟨h.attends.detached, fun hsome => ?_, fun hready => (h.attends.serving hready).consumes⟩
  have hready := h.attends.up_of_channel hsome
  exact ⟨hready, h.steady.connection hready, h.attends.owner hsome⟩

variable (lib presenter order) in
/-- **Every reconnect gets its consumer.** In every state of every run in which the pause is not
ended while the connection is down, the service holds nothing of an AMQP connection that is
gone, and it consumes on the one that is up. -/
theorem consumes_connected (events : List SystemEvent)
    (henabled : (machine lib presenter order).EachStep Enabled opened events)
    (horderly : (machine lib presenter order).EachStep Orderly opened events) :
    (machine lib presenter order).EachState Consumes opened events := by
  have hstep (w : MqSystem α) (e : SystemEvent) (h : Inv w) (he : w.Enabled e ∧ w.Orderly e) :
      Inv ((machine lib presenter order).next w e) :=
    handle_inv h he.1 he.2
  exact Mealy.eachState_of_invariant hstep (fun _ h => h.consumes) opened_inv
    (henabled.and horderly)

/-- The first connection of a run, up to the consumer. -/
def consumingRun : List SystemEvent :=
  [.connection (.connectToHost "localhost" 5672 "/" "lab" "lab" .started) {},
    .connection .socketConnected {}, .connection .amqpReady {}, .app (.consumeSucceeded "lab")]

/-- The connection is lost: the next probe tells. -/
def lostRun : List SystemEvent :=
  [.connection .socketDisconnected {}, .connection .heartbeatTick {}]

/-- A retry succeeds. -/
def retriedRun : List SystemEvent :=
  [.connection (.reconnectTick .started) {}, .connection .socketConnected {},
    .connection .amqpReady {}]

theorem consumes_retried :
    (machine MqSettingsDialog.idleLibrary none .increasing).EachState Consumes opened
      (consumingRun ++ lostRun ++ retriedRun) :=
  consumes_connected MqSettingsDialog.idleLibrary none .increasing
    (consumingRun ++ lostRun ++ retriedRun) (by decide) (by decide)

/-- A pause ended while the connection is down makes a channel on the AMQP connection that is
gone, and the service keeps to it on the next one. -/
example :
    let w := (machine MqSettingsDialog.idleLibrary none .increasing).after opened
      (consumingRun ++ lostRun ++ [.app (.pauseToggled true {}), .app (.pauseToggled false {})] ++
        retriedRun)
    w.connection.isReady = true ∧ w.connectionsMade = 2 ∧ w.channelOwner = 1 ∧
      w.app.service.channel.isSome = true ∧ w.app.service.consumerStarting = true := by
  decide +kernel

end MqSystem

end QtAppBase.Mq
