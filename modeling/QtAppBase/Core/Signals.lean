import QtAppBase.Core.ConnectionState
import QtAppBase.Library.Announcing

/-!
# The two signals of the connection lifecycle

Everything downstream of `ConnectionState` listens to `connectionStateChanged`,
and shows the reconnect loop by `reconnectingChanged`. Both are emitted by
guarded setters only, however the operations nest them and however often the
connect callable reports from inside.
-/

namespace QtAppBase.Core

open Library

/-- The value a `connectionStateChanged` carries. -/
def Signal.connected? : Signal → Option Bool
  | .connectionStateChanged connected => some connected
  | .reconnectingChanged _ => none

/-- The value a `reconnectingChanged` carries. -/
def Signal.reconnecting? : Signal → Option Bool
  | .connectionStateChanged _ => none
  | .reconnectingChanged reconnecting => some reconnecting

namespace ConnectionState

variable {s t : ConnectionState} {r : Reaction ConnectionState Signal}

/-- `m_connected` is announced by `connectionStateChanged`. -/
def connectedAnnouncer : Announcer ConnectionState Signal Bool where
  shown := connected
  announced := Signal.connected?

/-- `m_reconnecting` is announced by `reconnectingChanged`. -/
def reconnectingAnnouncer : Announcer ConnectionState Signal Bool where
  shown := reconnecting
  announced := Signal.reconnecting?

/-- A reaction announces what it changes of either. -/
structure Tells (s : ConnectionState) (r : Reaction ConnectionState Signal) : Prop where
  connected : connectedAnnouncer.Tells s r
  reconnecting : reconnectingAnnouncer.Tells s r

theorem Tells.silently (hconnected : t.connected = s.connected)
    (hreconnecting : t.reconnecting = s.reconnecting) : Tells s (.silently t) :=
  ⟨Announcer.tells_silently hconnected, Announcer.tells_silently hreconnecting⟩

theorem Tells.andThen {f : ConnectionState → Reaction ConnectionState Signal} (h : Tells s r)
    (hf : ∀ t, Tells t (f t)) : Tells s (r.andThen f) :=
  ⟨h.connected.andThen (hf _).connected, h.reconnecting.andThen (hf _).reconnecting⟩

/-- The state a reaction starts from matters only for what it shows. -/
theorem Tells.of_shown (h : Tells t r) (hconnected : t.connected = s.connected)
    (hreconnecting : t.reconnecting = s.reconnecting) : Tells s r :=
  ⟨h.connected.of_shown hconnected, h.reconnecting.of_shown hreconnecting⟩

/-! ### The setters and what is built from them -/

theorem setConnected_tells (connected : Bool) (s : ConnectionState) :
    Tells s (setConnected connected s) := by
  refine ⟨Announcer.tells_set rfl rfl, ?_⟩
  unfold setConnected
  split
  · exact Announcer.tells_silently rfl
  · refine Announcer.tells_quiet rfl fun signal hsignal => ?_
    rw [List.mem_singleton.mp hsignal]
    rfl

theorem setReconnecting_tells (reconnecting : Bool) (s : ConnectionState) :
    Tells s (setReconnecting reconnecting s) := by
  refine ⟨?_, Announcer.tells_set rfl rfl⟩
  unfold setReconnecting
  split
  · exact Announcer.tells_silently rfl
  · refine Announcer.tells_quiet rfl fun signal hsignal => ?_
    rw [List.mem_singleton.mp hsignal]
    rfl

theorem startReconnecting_tells (s : ConnectionState) : Tells s (startReconnecting s) :=
  (setReconnecting_tells true s).andThen fun _ => .silently rfl rfl

theorem stopReconnecting_tells (s : ConnectionState) : Tells s (stopReconnecting s) :=
  (setReconnecting_tells false _).of_shown rfl rfl

/-- Starting the heartbeat shows the same. -/
theorem startHeartbeat_tells (s : ConnectionState) : Tells s (.silently (startHeartbeat s)) := by
  rw [startHeartbeat_eq]
  exact .silently rfl rfl

theorem reportPendingConnectResult_tells (succeeded : Bool) (s : ConnectionState) :
    Tells s (reportPendingConnectResult succeeded s) := by
  unfold reportPendingConnectResult
  dsimp only
  split_ifs
  · exact .silently rfl rfl
  · have hstopped := (stopReconnecting_tells { s with awaitingAsyncResult := false }).andThen
      (setConnected_tells true)
    exact (hstopped.andThen startHeartbeat_tells).of_shown rfl rfl
  · have hdown := setConnected_tells false { s with awaitingAsyncResult := false }
    refine (hdown.andThen fun t => ?_).of_shown rfl rfl
    split_ifs
    · exact .silently rfl rfl
    · exact .silently rfl rfl
    · exact startReconnecting_tells t

/-- The reports made from inside a call announce what they change, one by one. -/
theorem callConnect_tells (call : ConnectCall) (s : ConnectionState) :
    Tells s (callConnect call s) := by
  unfold callConnect
  induction call.reports generalizing s with
  | nil => exact .silently rfl rfl
  | cons succeeded rest ih => exact (reportPendingConnectResult_tells succeeded s).andThen ih

/-! ### The operations -/

theorem connectNow_tells (call : ConnectCall) (s : ConnectionState) :
    Tells s (connectNow call s).2 := by
  have hstopped := stopReconnecting_tells s
  have hcalled := hstopped.andThen (callConnect_tells call)
  have hset := hcalled.andThen (setConnected_tells call.started)
  unfold connectNow
  dsimp only
  -- without a callable; asynchronous, started or not; synchronous, connected or not
  split_ifs
  · exact hstopped
  · dsimp only
    exact hcalled.andThen fun t => (setConnected_tells false _).of_shown rfl rfl
  · dsimp only
    exact hcalled.andThen fun t => .silently rfl rfl
  · exact hset.andThen startHeartbeat_tells
  · exact hset.andThen fun t => .silently rfl rfl

theorem beginAutoConnect_tells (call : ConnectCall) (s : ConnectionState) :
    Tells s (beginAutoConnect call s) := by
  have hstopped := stopReconnecting_tells s
  have hcalled := hstopped.andThen (callConnect_tells call)
  have hset := hcalled.andThen (setConnected_tells call.started)
  unfold beginAutoConnect
  dsimp only
  -- without a callable; asynchronous, started or not; synchronous, connected or not
  split_ifs
  · exact hstopped.andThen startReconnecting_tells
  · exact hcalled.andThen fun t => .silently rfl rfl
  · exact hcalled.andThen fun t =>
      ((setConnected_tells false _).andThen startReconnecting_tells).of_shown rfl rfl
  · exact hset.andThen startHeartbeat_tells
  · exact hset.andThen startReconnecting_tells

theorem disconnectNow_tells (s : ConnectionState) : Tells s (disconnectNow s) := by
  have hstopped : Tells s (stopReconnecting { s with heartbeatTimer := none }) :=
    (stopReconnecting_tells _).of_shown rfl rfl
  exact hstopped.andThen fun t => (setConnected_tells false _).of_shown rfl rfl

theorem onHeartbeatTick_tells (alive : Bool) (s : ConnectionState) :
    Tells s (onHeartbeatTick alive s) := by
  unfold onHeartbeatTick
  split_ifs
  · exact .silently rfl rfl
  · exact ((setConnected_tells false _).andThen startReconnecting_tells).of_shown rfl rfl

theorem reconnectTimeout_tells (call : ConnectCall) (s : ConnectionState) :
    Tells s (reconnectTimeout call s) := by
  have hcalled : Tells s (callConnect call { s with reconnectTimer := none }) :=
    (callConnect_tells call _).of_shown rfl rfl
  unfold reconnectTimeout onReconnectTick
  dsimp only
  split_ifs
  · exact hcalled.andThen fun t => .silently rfl rfl
  · exact hcalled.andThen fun t => .silently rfl rfl
  · have hstopped := hcalled.andThen stopReconnecting_tells
    exact (hstopped.andThen (setConnected_tells true)).andThen startHeartbeat_tells
  · exact hcalled.andThen fun t => .silently rfl rfl
  · exact .silently rfl rfl

/-- Every operation announces what it changes. -/
theorem perform_tells (s : ConnectionState) (op : Operation) : Tells s (s.perform op) := by
  cases op with
  | connectNow call => exact connectNow_tells call s
  | beginAutoConnect call => exact beginAutoConnect_tells call s
  | disconnectNow => exact disconnectNow_tells s
  | setHeartbeatIntervalMs intervalMs =>
    refine .silently ?_ ?_ <;> unfold setHeartbeatIntervalMs <;> dsimp only <;> split_ifs <;> rfl
  | reportPendingConnectResult succeeded => exact reportPendingConnectResult_tells succeeded s
  | heartbeatTick alive => exact onHeartbeatTick_tells alive s
  | reconnectTick call => exact reconnectTimeout_tells call s

/-- **Signals keep their listeners up to date.** Over every sequence of operations the
values of each of the two signals alternate, beginning with the opposite of the value in
force before, and the last one is in force at the end. -/
theorem signals_alternate (s : ConnectionState) (ops : List Operation) :
    let connectedValues := s.connected :: (machine.emitted s ops).filterMap Signal.connected?
    let reconnectingValues :=
      s.reconnecting :: (machine.emitted s ops).filterMap Signal.reconnecting?
    (connectedValues.IsChain (· ≠ ·) ∧
      connectedValues.getLast? = some (machine.after s ops).connected) ∧
    (reconnectingValues.IsChain (· ≠ ·) ∧
      reconnectingValues.getLast? = some (machine.after s ops).reconnecting) :=
  ⟨Announcer.tells_run (A := connectedAnnouncer) (fun t op => (perform_tells t op).connected) s ops,
    Announcer.tells_run (A := reconnectingAnnouncer) (fun t op => (perform_tells t op).reconnecting)
      s ops⟩

end ConnectionState

end QtAppBase.Core
