import QtAppBase.Library.Mealy
import Mathlib.Data.Int.Basic

/-!
# The connection lifecycle

`ConnectionState` keeps a connection it knows nothing about: it calls the
connect, probe and disconnect callables it was given, runs the heartbeat and
the reconnect ladder, and reports through two signals. A call of the connect
callable is described by what it does to this object (the reports made from
inside the call, and the value returned); a probe by its answer.
-/

namespace QtAppBase.Core

open Library

/-- `kReconnectDelaysMs`: the backoff ladder, indexed by consecutive failures. -/
def reconnectDelaysMs : List ℤ := [5000, 5000, 5000, 15000, 15000, 30000, 60000]

/-- Delay before the next attempt after that many consecutive failures; the
ladder clamps below its first rung and holds at its last. -/
def reconnectDelayMs (consecutiveFailures : ℤ) : ℤ :=
  if consecutiveFailures < 0 then reconnectDelaysMs.head!
  else if consecutiveFailures ≥ reconnectDelaysMs.length then reconnectDelaysMs.getLast!
  else reconnectDelaysMs[consecutiveFailures.toNat]!

/-- The two signals of the object. -/
inductive Signal where
  | connectionStateChanged (connected : Bool)
  | reconnectingChanged (reconnecting : Bool)
  deriving DecidableEq, Repr

/-- The members of `ConnectionState`. Whether a callable is set is all that is
kept of it. A timer is `none` while inactive, and otherwise the interval it was
last started with. -/
structure ConnectionState where
  connect : Bool := false
  probe : Bool := false
  disconnect : Bool := false
  connected : Bool := false
  reconnecting : Bool := false
  asyncResult : Bool := false
  awaitingAsyncResult : Bool := false
  asyncAutoRetryOnFailure : Bool := false
  reconnectFailures : ℕ := 0
  heartbeatIntervalMs : ℤ := 5000
  heartbeatTimer : Option ℤ := none
  reconnectTimer : Option ℤ := none
  deriving DecidableEq, Repr

/-- One call of the connect callable: the results it passes to
`reportPendingConnectResult` before it returns, and the value it returns. -/
structure ConnectCall where
  reports : List Bool := []
  started : Bool
  deriving DecidableEq, Repr

namespace ConnectionState

/-- Emits `connectionStateChanged` exactly when the value changes. -/
def setConnected (connected : Bool) (s : ConnectionState) : Reaction ConnectionState Signal :=
  if connected = s.connected then (s, [])
  else ({ s with connected := connected }, [.connectionStateChanged connected])

/-- Emits `reconnectingChanged` exactly when the value changes. -/
def setReconnecting (reconnecting : Bool) (s : ConnectionState) :
    Reaction ConnectionState Signal :=
  if reconnecting = s.reconnecting then (s, [])
  else ({ s with reconnecting := reconnecting }, [.reconnectingChanged reconnecting])

/-- Enter the reconnect loop on its first rung. -/
def startReconnecting (s : ConnectionState) : Reaction ConnectionState Signal :=
  (setReconnecting true s).andThen fun s =>
    .silently { s with reconnectFailures := 0, reconnectTimer := some (reconnectDelayMs 0) }

/-- Leave the reconnect loop. -/
def stopReconnecting (s : ConnectionState) : Reaction ConnectionState Signal :=
  setReconnecting false { s with reconnectTimer := none, reconnectFailures := 0 }

/-- Count a failed retry and arm the next rung. -/
def armNextRung (s : ConnectionState) : ConnectionState :=
  { s with
    reconnectFailures := s.reconnectFailures + 1
    reconnectTimer := some (reconnectDelayMs (s.reconnectFailures + 1)) }

/-- Start probing, unless the cadence disables it. -/
def startHeartbeat (s : ConnectionState) : ConnectionState :=
  if s.heartbeatIntervalMs > 0 then { s with heartbeatTimer := some s.heartbeatIntervalMs } else s

/-! ### What the helpers do to the state

Each guarded update equals the unguarded one, so the states are closed forms
and only the emitted signals depend on the old value. -/

@[simp] theorem setConnected_fst (connected : Bool) (s : ConnectionState) :
    (setConnected connected s).1 = { s with connected := connected } := by
  unfold setConnected
  split
  · next h => subst h; rfl
  · rfl

/-- The signal of `setConnected`, if any. -/
@[simp] theorem setConnected_snd (connected : Bool) (s : ConnectionState) :
    (setConnected connected s).2 =
      if connected = s.connected then [] else [.connectionStateChanged connected] := by
  unfold setConnected
  split <;> rfl

@[simp] theorem setReconnecting_fst (reconnecting : Bool) (s : ConnectionState) :
    (setReconnecting reconnecting s).1 = { s with reconnecting := reconnecting } := by
  unfold setReconnecting
  split
  · next h => subst h; rfl
  · rfl

/-- The signal of `setReconnecting`, if any. -/
@[simp] theorem setReconnecting_snd (reconnecting : Bool) (s : ConnectionState) :
    (setReconnecting reconnecting s).2 =
      if reconnecting = s.reconnecting then [] else [.reconnectingChanged reconnecting] := by
  unfold setReconnecting
  split <;> rfl

@[simp] theorem startReconnecting_fst (s : ConnectionState) :
    (startReconnecting s).1 =
      { s with
        reconnecting := true
        reconnectFailures := 0
        reconnectTimer := some (reconnectDelayMs 0) } := by
  simp [startReconnecting]

@[simp] theorem startReconnecting_snd (s : ConnectionState) :
    (startReconnecting s).2 = if s.reconnecting then [] else [.reconnectingChanged true] := by
  simp [startReconnecting]

@[simp] theorem stopReconnecting_fst (s : ConnectionState) :
    (stopReconnecting s).1 =
      { s with reconnecting := false, reconnectFailures := 0, reconnectTimer := none } := by
  simp [stopReconnecting]

@[simp] theorem stopReconnecting_snd (s : ConnectionState) :
    (stopReconnecting s).2 = if s.reconnecting then [.reconnectingChanged false] else [] := by
  cases h : s.reconnecting <;> simp [stopReconnecting, h]

/-- Starting the heartbeat touches the heartbeat timer only. -/
theorem startHeartbeat_eq (s : ConnectionState) :
    startHeartbeat s =
      { s with
        heartbeatTimer :=
          if s.heartbeatIntervalMs > 0 then some s.heartbeatIntervalMs else s.heartbeatTimer } := by
  unfold startHeartbeat
  split <;> rfl

/-- Replace the callables; a result still awaited is forgotten. -/
def setHandlers (connect probe disconnect asyncResult : Bool) (s : ConnectionState) :
    ConnectionState :=
  { s with
    connect := connect
    probe := probe
    disconnect := disconnect
    asyncResult := asyncResult
    awaitingAsyncResult := false
    asyncAutoRetryOnFailure := false }

/-- The outcome of an asynchronously launched attempt; ignored unless one is awaited. -/
def reportPendingConnectResult (succeeded : Bool) (s : ConnectionState) :
    Reaction ConnectionState Signal :=
  if !s.asyncResult || !s.awaitingAsyncResult then (s, [])
  else
    let s := { s with awaitingAsyncResult := false }
    if succeeded then
      ((stopReconnecting s).andThen (setConnected true)).andThen
        fun s => .silently (startHeartbeat s)
    else
      (setConnected false s).andThen fun s =>
        if !s.asyncAutoRetryOnFailure then (s, [])
        else if s.reconnecting then .silently (armNextRung s)
        else startReconnecting s

/-- The reports a callable makes before it returns, in order. -/
def reportAll : List Bool → ConnectionState → Reaction ConnectionState Signal
  | [], s => (s, [])
  | succeeded :: rest, s => (reportPendingConnectResult succeeded s).andThen (reportAll rest)

/-- Run the connect callable. Its return value is read off the call. -/
def callConnect (call : ConnectCall) (s : ConnectionState) : Reaction ConnectionState Signal :=
  reportAll call.reports s

/-- A user-initiated attempt. Returns what the callable returned. -/
def connectNow (call : ConnectCall) (s : ConnectionState) :
    Bool × Reaction ConnectionState Signal :=
  let stopped := stopReconnecting s
  if !stopped.1.connect then (false, stopped)
  else
    let called := stopped.andThen (callConnect call)
    if called.1.asyncResult then
      (call.started, called.andThen fun s =>
        let s := { s with
          awaitingAsyncResult := call.started
          asyncAutoRetryOnFailure := false }
        if !call.started then setConnected false s else (s, []))
    else
      (call.started, (called.andThen (setConnected call.started)).andThen fun s =>
        .silently (if call.started then startHeartbeat s else s))

/-- Startup path: one attempt, and the reconnect loop when it fails. -/
def beginAutoConnect (call : ConnectCall) (s : ConnectionState) :
    Reaction ConnectionState Signal :=
  let stopped := stopReconnecting s
  if !stopped.1.connect then stopped.andThen startReconnecting
  else
    let called := stopped.andThen (callConnect call)
    if called.1.asyncResult then
      called.andThen fun s =>
        let s := { s with
          awaitingAsyncResult := call.started
          asyncAutoRetryOnFailure := true }
        if call.started then (s, []) else (setConnected false s).andThen startReconnecting
    else
      (called.andThen (setConnected call.started)).andThen fun s =>
        if call.started then .silently (startHeartbeat s) else startReconnecting s

/-- End the connection and any reconnect loop. The disconnect callable does
nothing to this object. -/
def disconnectNow (s : ConnectionState) : Reaction ConnectionState Signal :=
  (stopReconnecting { s with heartbeatTimer := none }).andThen fun s =>
    setConnected false { s with awaitingAsyncResult := false, asyncAutoRetryOnFailure := false }

/-- Heartbeat cadence; zero or less disables probing. -/
def setHeartbeatIntervalMs (intervalMs : ℤ) (s : ConnectionState) : ConnectionState :=
  let s := { s with heartbeatIntervalMs := intervalMs }
  if intervalMs ≤ 0 then { s with heartbeatTimer := none }
  else if s.connected then { s with heartbeatTimer := some intervalMs }
  else s

/-- The heartbeat slot, with the answer of the probe. -/
def onHeartbeatTick (alive : Bool) (s : ConnectionState) : Reaction ConnectionState Signal :=
  if !s.probe || alive then (s, [])
  else (setConnected false { s with heartbeatTimer := none }).andThen startReconnecting

/-- The reconnect slot. A failed or unlaunched attempt climbs one rung. -/
def onReconnectTick (call : ConnectCall) (s : ConnectionState) :
    Reaction ConnectionState Signal :=
  if s.connect then
    let called := callConnect call s
    if called.1.asyncResult then
      called.andThen fun s =>
        let s := { s with
          awaitingAsyncResult := call.started
          asyncAutoRetryOnFailure := true }
        if call.started then (s, []) else .silently (armNextRung s)
    else if call.started then
      ((called.andThen stopReconnecting).andThen (setConnected true)).andThen fun s =>
        .silently (startHeartbeat s)
    else called.andThen fun s => .silently (armNextRung s)
  else .silently (armNextRung s)

/-- The reconnect timer fires. It is single-shot, so it is inactive while its slot runs. -/
def reconnectTimeout (call : ConnectCall) (s : ConnectionState) :
    Reaction ConnectionState Signal :=
  onReconnectTick call { s with reconnectTimer := none }

end ConnectionState

/-- Everything that can happen to a `ConnectionState` whose handlers are set. -/
inductive Operation where
  | connectNow (call : ConnectCall)
  | beginAutoConnect (call : ConnectCall)
  | disconnectNow
  | setHeartbeatIntervalMs (intervalMs : ℤ)
  | reportPendingConnectResult (succeeded : Bool)
  | heartbeatTick (alive : Bool)
  | reconnectTick (call : ConnectCall)
  deriving DecidableEq, Repr

namespace ConnectionState

/-- What one operation does. -/
def perform (s : ConnectionState) : Operation → Reaction ConnectionState Signal
  | .connectNow call => (connectNow call s).2
  | .beginAutoConnect call => beginAutoConnect call s
  | .disconnectNow => disconnectNow s
  | .setHeartbeatIntervalMs intervalMs => .silently (setHeartbeatIntervalMs intervalMs s)
  | .reportPendingConnectResult succeeded => reportPendingConnectResult succeeded s
  | .heartbeatTick alive => onHeartbeatTick alive s
  | .reconnectTick call => reconnectTimeout call s

/-- A tick happens only while its timer is active. -/
def Enabled (s : ConnectionState) : Operation → Prop
  | .heartbeatTick _ => s.heartbeatTimer.isSome
  | .reconnectTick _ => s.reconnectTimer.isSome
  | _ => True

instance (s : ConnectionState) (op : Operation) : Decidable (s.Enabled op) := by
  cases op <;> unfold Enabled <;> infer_instance

/-- The state machine driven by its operations. -/
def machine : Mealy ConnectionState Operation Signal := ⟨perform⟩

/-! ### The handlers

Only `setHandlers` changes them. -/

/-- Which callables are set, and the mode. -/
def handlers (s : ConnectionState) : Bool × Bool × Bool × Bool :=
  (s.connect, s.probe, s.disconnect, s.asyncResult)

/-- A report leaves the handlers alone. -/
theorem reportPendingConnectResult_handlers (succeeded : Bool) (s : ConnectionState) :
    (reportPendingConnectResult succeeded s).1.handlers = s.handlers := by
  unfold reportPendingConnectResult
  dsimp only
  split_ifs
  · rfl
  · simp [handlers, startHeartbeat_eq]
  · simp only [Reaction.andThen_fst, setConnected_fst]
    split_ifs <;> simp [handlers, armNextRung]

/-- So do the reports made inside a call. -/
theorem callConnect_handlers (call : ConnectCall) (s : ConnectionState) :
    (callConnect call s).1.handlers = s.handlers := by
  unfold callConnect
  induction call.reports generalizing s with
  | nil => rfl
  | cons succeeded rest ih =>
    rw [reportAll, Reaction.andThen_fst, ih, reportPendingConnectResult_handlers]

/-- Every operation leaves the handlers alone. -/
theorem perform_handlers (s : ConnectionState) (op : Operation) :
    (s.perform op).1.handlers = s.handlers := by
  have hcall := callConnect_handlers
  unfold handlers at hcall ⊢
  cases op with
  | connectNow call =>
    have hcalled := hcall call (stopReconnecting s).1
    simp only [perform, connectNow]
    split_ifs <;> simp_all [startHeartbeat_eq]
  | beginAutoConnect call =>
    have hcalled := hcall call (stopReconnecting s).1
    simp only [perform, beginAutoConnect]
    split_ifs <;> simp_all [startHeartbeat_eq]
  | disconnectNow => simp [perform, disconnectNow]
  | setHeartbeatIntervalMs intervalMs =>
    simp only [perform, setHeartbeatIntervalMs, Reaction.silently_fst]
    split_ifs <;> rfl
  | reportPendingConnectResult succeeded => exact reportPendingConnectResult_handlers succeeded s
  | heartbeatTick alive =>
    simp only [perform, onHeartbeatTick]
    split_ifs <;> simp
  | reconnectTick call =>
    have hcalled := hcall call { s with reconnectTimer := none }
    simp only [perform, reconnectTimeout, onReconnectTick]
    split_ifs <;> simp_all [startHeartbeat_eq, armNextRung]

end ConnectionState

end QtAppBase.Core
