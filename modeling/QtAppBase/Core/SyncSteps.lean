import QtAppBase.Core.AsyncSteps

/-!
# The operations in synchronous mode

With synchronous results the value a connect callable returns is the outcome of
the attempt. These are the states each launching operation leads to then, and
those it leads to without a callable.
-/

namespace QtAppBase.Core

open Library

namespace ConnectionState

/-- A synchronous callable does nothing to this object. -/
theorem callConnect_sync {s : ConnectionState} (hsync : s.asyncResult = false)
    (call : ConnectCall) : callConnect call s = (s, []) :=
  reportAll_ignored (Or.inl hsync) call.reports

/-- `connectNow` leaves the loop and takes the outcome as it is. -/
theorem connectNow_sync {s : ConnectionState} (hconnect : s.connect = true)
    (hsync : s.asyncResult = false) (call : ConnectCall) :
    (connectNow call s).2.1 =
      let t := { (stopReconnecting s).1 with connected := call.started }
      if call.started then startHeartbeat t else t := by
  have hcall := callConnect_sync (s := (stopReconnecting s).1) (by simpa using hsync) call
  cases hstarted : call.started <;> simp_all [connectNow]

/-- `beginAutoConnect` enters the loop when its attempt fails. -/
theorem beginAutoConnect_sync {s : ConnectionState} (hconnect : s.connect = true)
    (hsync : s.asyncResult = false) (call : ConnectCall) :
    (beginAutoConnect call s).1 =
      let t := { (stopReconnecting s).1 with connected := call.started }
      if call.started then startHeartbeat t else (startReconnecting t).1 := by
  have hcall := callConnect_sync (s := (stopReconnecting s).1) (by simpa using hsync) call
  cases hstarted : call.started <;> simp_all [beginAutoConnect]

/-- A retry leaves the loop when it succeeds and climbs a rung when it fails. -/
theorem reconnectTimeout_sync {s : ConnectionState} (hconnect : s.connect = true)
    (hsync : s.asyncResult = false) (call : ConnectCall) :
    (reconnectTimeout call s).1 =
      let t := { s with reconnectTimer := none }
      if call.started then startHeartbeat { (stopReconnecting t).1 with connected := true }
      else armNextRung t := by
  have hcall := callConnect_sync (s := { s with reconnectTimer := none }) hsync call
  cases hstarted : call.started <;> simp_all [reconnectTimeout, onReconnectTick]

/-- Without a connect callable, `connectNow` only leaves the loop. -/
theorem connectNow_unset {s : ConnectionState} (hconnect : s.connect = false)
    (call : ConnectCall) : (connectNow call s).2 = stopReconnecting s := by
  simp [connectNow, hconnect, -stopReconnecting_snd]

/-- Without a connect callable, `beginAutoConnect` enters the loop anew. -/
theorem beginAutoConnect_unset {s : ConnectionState} (hconnect : s.connect = false)
    (call : ConnectCall) :
    beginAutoConnect call s = (stopReconnecting s).andThen startReconnecting := by
  simp [beginAutoConnect, hconnect]

/-- Without a connect callable, a retry climbs a rung. -/
theorem reconnectTimeout_unset {s : ConnectionState} (hconnect : s.connect = false)
    (call : ConnectCall) :
    reconnectTimeout call s = .silently (armNextRung { s with reconnectTimer := none }) := by
  simp [reconnectTimeout, onReconnectTick, hconnect]

end ConnectionState

end QtAppBase.Core
