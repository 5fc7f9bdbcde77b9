import QtAppBase.Core.SyncSteps

/-!
# The heartbeat timer follows the connection

The heartbeat probes a connection that is up. Its timer is started wherever the
connection is set up; of the places that set it down, `disconnectNow` and the
heartbeat slot stop the timer, and the failure paths of the attempts do not.
-/

namespace QtAppBase.Core

open Library

namespace ConnectionState

/-- The heartbeat timer is active exactly while the connection is up and the
cadence is positive. -/
def HeartbeatFollows (s : ConnectionState) : Prop :=
  s.heartbeatTimer.isSome ↔ s.connected ∧ s.heartbeatIntervalMs > 0

/-- With a positive cadence, no attempt fails while the connection is up: neither
by what the callable returns, after what it reports, nor by a report. -/
def KeepsHeartbeat (s : ConnectionState) : Operation → Prop
  | .connectNow call | .beginAutoConnect call =>
    s.connect → s.heartbeatIntervalMs > 0 →
      (s.connected → settles s call ≠ some false) ∧
      (s.connected ∨ settles s call = some true → call.started)
  | .reconnectTick call =>
    s.connect → s.heartbeatIntervalMs > 0 → s.connected → settles s call ≠ some false
  | .reportPendingConnectResult succeeded =>
    s.asyncResult → s.awaitingAsyncResult → s.heartbeatIntervalMs > 0 → s.connected → succeeded
  | _ => True

instance (s : ConnectionState) : Decidable s.HeartbeatFollows := by
  unfold HeartbeatFollows; infer_instance

instance (s : ConnectionState) : ∀ op, Decidable (s.KeepsHeartbeat op)
  | .connectNow _ | .beginAutoConnect _ | .reconnectTick _ | .reportPendingConnectResult _ =>
    inferInstanceAs (Decidable (_ → _))
  | .disconnectNow | .setHeartbeatIntervalMs _ | .heartbeatTick _ => isTrue trivial

/-- A manual attempt stops the timer in none of its failures. -/
theorem connectNow_follows {s : ConnectionState} (h : s.HeartbeatFollows) (call : ConnectCall) :
    (connectNow call s).2.1.HeartbeatFollows ↔ s.KeepsHeartbeat (.connectNow call) := by
  unfold HeartbeatFollows at h ⊢
  cases hconnect : s.connect with
  | false =>
    rw [connectNow_unset hconnect]
    grind [KeepsHeartbeat, stopReconnecting_fst]
  | true =>
    cases hasync : s.asyncResult with
    | false =>
      rw [connectNow_sync hconnect hasync]
      grind [KeepsHeartbeat, settles, startHeartbeat_eq, stopReconnecting_fst]
    | true =>
      have hstopped := settles_stopReconnecting s call
      rw [connectNow_async hconnect hasync]
      -- the callable settles nothing, a failure, or a success
      rcases hsettles : settles s call with _ | _ | _
      · rw [returned_none (hstopped.trans hsettles)]
        grind [KeepsHeartbeat, stopReconnecting_fst]
      · rw [returned_false (hstopped.trans hsettles)]
        grind [KeepsHeartbeat, startReconnecting_fst, stopReconnecting_fst]
      · rw [returned_true (hstopped.trans hsettles), startHeartbeat_eq]
        grind [KeepsHeartbeat, stopReconnecting_fst]

/-- Nor does the automatic one, which enters the loop instead. -/
theorem beginAutoConnect_follows {s : ConnectionState} (h : s.HeartbeatFollows)
    (call : ConnectCall) :
    (beginAutoConnect call s).1.HeartbeatFollows ↔ s.KeepsHeartbeat (.beginAutoConnect call) := by
  unfold HeartbeatFollows at h ⊢
  cases hconnect : s.connect with
  | false =>
    rw [beginAutoConnect_unset hconnect]
    grind [KeepsHeartbeat, Reaction.andThen_fst, startReconnecting_fst, stopReconnecting_fst]
  | true =>
    cases hasync : s.asyncResult with
    | false =>
      rw [beginAutoConnect_sync hconnect hasync]
      grind [KeepsHeartbeat, settles, startHeartbeat_eq, startReconnecting_fst,
        stopReconnecting_fst]
    | true =>
      have hstopped := settles_stopReconnecting s call
      rw [beginAutoConnect_async hconnect hasync]
      rcases hsettles : settles s call with _ | _ | _
      · rw [returned_none (hstopped.trans hsettles)]
        grind [KeepsHeartbeat, startReconnecting_fst, stopReconnecting_fst]
      · rw [returned_false (hstopped.trans hsettles)]
        grind [KeepsHeartbeat, startReconnecting_fst, stopReconnecting_fst]
      · rw [returned_true (hstopped.trans hsettles), startHeartbeat_eq]
        grind [KeepsHeartbeat, startReconnecting_fst, stopReconnecting_fst]

/-- A retry that fails leaves the connection as it is, apart from what it settles. -/
theorem reconnectTimeout_follows {s : ConnectionState} (h : s.HeartbeatFollows)
    (call : ConnectCall) :
    (reconnectTimeout call s).1.HeartbeatFollows ↔ s.KeepsHeartbeat (.reconnectTick call) := by
  unfold HeartbeatFollows at h ⊢
  cases hconnect : s.connect with
  | false =>
    rw [reconnectTimeout_unset hconnect]
    grind [KeepsHeartbeat, Reaction.silently_fst, armNextRung]
  | true =>
    cases hasync : s.asyncResult with
    | false =>
      rw [reconnectTimeout_sync hconnect hasync]
      grind [KeepsHeartbeat, settles, startHeartbeat_eq, armNextRung, stopReconnecting_fst]
    | true =>
      rw [reconnectTimeout_async hconnect hasync]
      rcases hsettles : settles s call with _ | _ | _
      · rw [returned_none (s := { s with reconnectTimer := none }) hsettles]
        grind [KeepsHeartbeat, armNextRung]
      · rw [returned_false (s := { s with reconnectTimer := none }) hsettles]
        grind [KeepsHeartbeat, armNextRung, startReconnecting_fst]
      · rw [returned_true (s := { s with reconnectTimer := none }) hsettles, startHeartbeat_eq]
        grind [KeepsHeartbeat, armNextRung]

/-- An accepted failure sets the connection down and leaves the timer alone. -/
theorem report_follows {s : ConnectionState} (h : s.HeartbeatFollows) (succeeded : Bool) :
    (reportPendingConnectResult succeeded s).1.HeartbeatFollows ↔
      s.KeepsHeartbeat (.reportPendingConnectResult succeeded) := by
  unfold HeartbeatFollows at h ⊢
  by_cases hignored : s.asyncResult = false ∨ s.awaitingAsyncResult = false
  · rw [reportPendingConnectResult_ignored hignored]
    grind [KeepsHeartbeat]
  · simp only [not_or, Bool.not_eq_false] at hignored
    obtain ⟨hasync, hawaiting⟩ := hignored
    cases succeeded with
    | true =>
      rw [reportPendingConnectResult_true hasync hawaiting, startHeartbeat_eq]
      grind [KeepsHeartbeat]
    | false =>
      rw [reportPendingConnectResult_false hasync hawaiting]
      grind [KeepsHeartbeat, armNextRung, startReconnecting_fst]

/-- The timer follows the connection through a step exactly when the step keeps it. -/
theorem perform_follows {s : ConnectionState} (h : s.HeartbeatFollows) (op : Operation) :
    (s.perform op).1.HeartbeatFollows ↔ s.KeepsHeartbeat op := by
  cases op with
  | connectNow call => exact connectNow_follows h call
  | beginAutoConnect call => exact beginAutoConnect_follows h call
  | disconnectNow => simp [HeartbeatFollows, KeepsHeartbeat, perform, disconnectNow]
  | setHeartbeatIntervalMs intervalMs =>
    unfold HeartbeatFollows at h ⊢
    simp only [KeepsHeartbeat, perform, setHeartbeatIntervalMs, Reaction.silently_fst]
    grind
  | reportPendingConnectResult succeeded => exact report_follows h succeeded
  | heartbeatTick alive =>
    unfold HeartbeatFollows at h ⊢
    simp only [KeepsHeartbeat, perform, onHeartbeatTick]
    grind [Reaction.andThen_fst, setConnected_fst, startReconnecting_fst]
  | reconnectTick call => exact reconnectTimeout_follows h call

/-- A fresh object has no connection and no heartbeat. -/
theorem setHandlers_follows (connect probe disconnect asyncResult : Bool) :
    (setHandlers connect probe disconnect asyncResult {}).HeartbeatFollows := by
  simp [HeartbeatFollows, setHandlers]

/-- **When the heartbeat follows the connection.** In every run, in either mode, the
heartbeat timer is active in exactly the states with a connection and a positive
cadence, if and only if no attempt fails while the connection is up. -/
theorem heartbeatFollows_iff_keepsHeartbeat (connect probe disconnect asyncResult : Bool)
    (ops : List Operation) :
    machine.EachState HeartbeatFollows (setHandlers connect probe disconnect asyncResult {}) ops ↔
      machine.EachStep KeepsHeartbeat (setHandlers connect probe disconnect asyncResult {}) ops :=
  Mealy.eachState_iff_eachStep (M := machine) (I := HeartbeatFollows) (A := fun _ _ => True)
    (fun _ h => h)
    (fun _ op h _ hkeeps => (perform_follows h op).mpr hkeeps)
    (fun _ op h _ hfails => mt (perform_follows h op).mp hfails)
    (setHandlers_follows connect probe disconnect asyncResult) (Mealy.eachStep_trivial _ ops)

/-- A connection, and a second manual attempt that fails. -/
def reattemptRun : List Operation := [.connectNow ⟨[], true⟩, .connectNow ⟨[], false⟩]

/-- The heartbeat goes on probing what is known to be down. -/
theorem reattemptRun_probes :
    ¬ ∀ connect probe disconnect asyncResult ops,
      machine.EachStep Enabled (setHandlers connect probe disconnect asyncResult {}) ops →
      machine.EachState HeartbeatFollows
        (setHandlers connect probe disconnect asyncResult {}) ops := by
  intro h
  have hrun := h true true true false reattemptRun (by decide)
  exact absurd hrun (by decide)

end ConnectionState

end QtAppBase.Core
