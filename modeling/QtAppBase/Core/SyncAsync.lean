import QtAppBase.Core.AsyncSteps

/-!
# Synchronous and asynchronous results agree

A synchronous connect callable returns the outcome of its attempt. An
asynchronous one returns `true` and has the outcome reported afterwards. The
two paths are written separately in every launching operation; here the machine
that reports immediately simulates the synchronous one.
-/

namespace QtAppBase.Core

open Library

/-- An operation together with the outcome of the attempt or probe it makes. -/
inductive Action where
  | connectNow (succeeds : Bool)
  | beginAutoConnect (succeeds : Bool)
  | disconnectNow
  | setHeartbeatIntervalMs (intervalMs : ℤ)
  | heartbeatTick (alive : Bool)
  | reconnectTick (succeeds : Bool)
  deriving DecidableEq, Repr

namespace ConnectionState

/-- The synchronous machine: the callable returns the outcome. -/
def syncStep (s : ConnectionState) : Action → Reaction ConnectionState Signal
  | .connectNow succeeds => s.perform (.connectNow ⟨[], succeeds⟩)
  | .beginAutoConnect succeeds => s.perform (.beginAutoConnect ⟨[], succeeds⟩)
  | .disconnectNow => s.perform .disconnectNow
  | .setHeartbeatIntervalMs intervalMs => s.perform (.setHeartbeatIntervalMs intervalMs)
  | .heartbeatTick alive => s.perform (.heartbeatTick alive)
  | .reconnectTick succeeds => s.perform (.reconnectTick ⟨[], succeeds⟩)

/-- The asynchronous machine: the callable returns `true`, and the outcome is
reported immediately afterwards. -/
def asyncStep (s : ConnectionState) : Action → Reaction ConnectionState Signal
  | .connectNow succeeds =>
    (s.perform (.connectNow ⟨[], true⟩)).andThen (reportPendingConnectResult succeeds)
  | .beginAutoConnect succeeds =>
    (s.perform (.beginAutoConnect ⟨[], true⟩)).andThen (reportPendingConnectResult succeeds)
  | .disconnectNow => s.perform .disconnectNow
  | .setHeartbeatIntervalMs intervalMs => s.perform (.setHeartbeatIntervalMs intervalMs)
  | .heartbeatTick alive => s.perform (.heartbeatTick alive)
  | .reconnectTick succeeds =>
    (s.perform (.reconnectTick ⟨[], true⟩)).andThen (reportPendingConnectResult succeeds)

/-- The synchronous machine over whole actions. -/
def syncMachine : Mealy ConnectionState Action Signal := ⟨syncStep⟩

/-- The asynchronous machine over whole actions. -/
def asyncMachine : Mealy ConnectionState Action Signal := ⟨asyncStep⟩

/-- Ticks come from active timers only. -/
def Admits (s : ConnectionState) : Action → Prop
  | .heartbeatTick _ => s.heartbeatTimer.isSome
  | .reconnectTick _ => s.reconnectTimer.isSome
  | _ => True

/-- The asynchronous counterpart of a synchronous state between two actions;
only the retry flag, which no observer sees, is free. -/
def toAsync (retry : Bool) (s : ConnectionState) : ConnectionState :=
  { s with asyncResult := true, awaitingAsyncResult := false, asyncAutoRetryOnFailure := retry }

/-- The two machines are in corresponding states. The last two fields are the
invariants of the loop that make the asynchronous failure path, which sets the
connection down first, agree with the synchronous one. -/
structure Agree (s t : ConnectionState) : Prop where
  /-- The connect callable is set. -/
  connect_set : s.connect
  /-- The first machine is synchronous. -/
  sync : s.asyncResult = false
  /-- The second machine is its asynchronous counterpart. -/
  counterpart : ∃ retry, t = toAsync retry s
  /-- An active reconnect timer belongs to the loop. -/
  timer_in_loop : s.reconnectTimer.isSome → s.reconnecting
  /-- Inside the loop the connection is down. -/
  loop_is_down : s.reconnecting → s.connected = false

/-- One action keeps the machines in correspondence and emits the same signals
on both sides. Every launching operation is split by its outcome. -/
theorem agree_step {s t : ConnectionState} (h : Agree s t) (a : Action) (ha : s.Admits a) :
    Agree (syncMachine.next s a) (asyncMachine.next t a) ∧
      (syncMachine.step s a).2 = (asyncMachine.step t a).2 := by
  obtain ⟨hconnect, hsync, ⟨retry, rfl⟩, htimer, hdown⟩ := h
  cases a with
  | connectNow succeeds =>
    cases succeeds <;> refine ⟨⟨?_, ?_, ⟨false, ?_⟩, ?_, ?_⟩, ?_⟩ <;>
      simp_all [syncMachine, asyncMachine, Mealy.next, syncStep, asyncStep, perform, connectNow,
        callConnect, reportAll, toAsync, reportPendingConnectResult, startHeartbeat_eq]
  | beginAutoConnect succeeds =>
    cases succeeds <;> refine ⟨⟨?_, ?_, ⟨true, ?_⟩, ?_, ?_⟩, ?_⟩ <;>
      simp_all [syncMachine, asyncMachine, Mealy.next, syncStep, asyncStep, perform,
        beginAutoConnect, callConnect, reportAll, toAsync, reportPendingConnectResult,
        startHeartbeat_eq]
  | disconnectNow =>
    refine ⟨⟨?_, ?_, ⟨false, ?_⟩, ?_, ?_⟩, ?_⟩ <;>
      simp_all [syncMachine, asyncMachine, Mealy.next, syncStep, asyncStep, perform,
        disconnectNow, toAsync]
  | setHeartbeatIntervalMs intervalMs =>
    refine ⟨⟨?_, ?_, ⟨retry, ?_⟩, ?_, ?_⟩, ?_⟩ <;>
      simp only [syncMachine, asyncMachine, Mealy.next, syncStep, asyncStep, perform,
        setHeartbeatIntervalMs, toAsync, Reaction.silently_fst, Reaction.silently_snd] <;>
      split_ifs <;> simp_all
  | heartbeatTick alive =>
    refine ⟨⟨?_, ?_, ⟨retry, ?_⟩, ?_, ?_⟩, ?_⟩ <;>
      simp only [syncMachine, asyncMachine, Mealy.next, syncStep, asyncStep, perform,
        onHeartbeatTick, toAsync] <;>
      split_ifs <;> simp_all
  | reconnectTick succeeds =>
    -- only here the failure path of the asynchronous machine sets the connection down
    have hin : s.reconnecting = true := htimer ha
    have hdown' : s.connected = false := hdown hin
    cases succeeds <;> refine ⟨⟨?_, ?_, ⟨true, ?_⟩, ?_, ?_⟩, ?_⟩ <;>
      simp_all [syncMachine, asyncMachine, Mealy.next, syncStep, asyncStep, perform,
        reconnectTimeout, onReconnectTick, callConnect, reportAll, toAsync,
        reportPendingConnectResult, startHeartbeat_eq, armNextRung]

/-- What an observer can tell about a `ConnectionState`: the connection, the
loop and its failure count, and both timers with the delays they are armed with. -/
structure View where
  connected : Bool
  reconnecting : Bool
  reconnectFailures : ℕ
  heartbeatTimer : Option ℤ
  reconnectTimer : Option ℤ
  deriving DecidableEq, Repr

/-- The observable part of a state. -/
def view (s : ConnectionState) : View :=
  ⟨s.connected, s.reconnecting, s.reconnectFailures, s.heartbeatTimer, s.reconnectTimer⟩

/-- A fresh object with its connect and disconnect callables set. -/
def handled (probe asyncResult : Bool) : ConnectionState :=
  setHandlers true probe true asyncResult {}

/-- Fresh objects correspond. -/
theorem handled_agree (probe : Bool) : Agree (handled probe false) (handled probe true) := by
  refine ⟨?_, ?_, ⟨false, ?_⟩, ?_, ?_⟩ <;> simp [handled, setHandlers, toAsync]

/-- **Both modes are the same machine.** Driven by the same actions with the
same outcomes, the synchronous machine and the asynchronous machine whose
outcome is reported immediately go through the same observable states and emit
the same signals. -/
theorem sync_async_same (probe : Bool) (actions : List Action)
    (hticks : syncMachine.EachStep Admits (handled probe false) actions) :
    syncMachine.trajectory view (handled probe false) actions =
        asyncMachine.trajectory view (handled probe true) actions ∧
      syncMachine.emitted (handled probe false) actions =
        asyncMachine.emitted (handled probe true) actions := by
  refine Mealy.simulation (R := Agree) ?_ (fun _ _ a h ha => agree_step h a ha)
    (handled_agree probe) hticks
  rintro s _ ⟨_, _, ⟨retry, rfl⟩, _, _⟩
  rfl

/-- A failed start, two retries, and a lost heartbeat, in both modes. -/
theorem sync_async_retries :
    syncMachine.trajectory view (handled true false)
        [.beginAutoConnect false, .reconnectTick false, .reconnectTick true,
          .heartbeatTick false] =
      asyncMachine.trajectory view (handled true true)
        [.beginAutoConnect false, .reconnectTick false, .reconnectTick true,
          .heartbeatTick false] :=
  (sync_async_same true _ (by simp only [Mealy.EachStep, Admits]; decide)).1

end ConnectionState

end QtAppBase.Core
