import QtAppBase.Core.AsyncSteps

/-!
# What wakes the reconnect loop

With asynchronous results the reconnect loop waits either for its single-shot
timer or for the report of a launched attempt. The machine here adds one
observation to `ConnectionState`: whether the attempt launched last is still
unreported. A callable that reports before it returns is the case that decides
whether the loop can stall.
-/

namespace QtAppBase.Core

open Library ConnectionState

/-- A `ConnectionState`, watched for an attempt that was launched and whose
outcome has not been reported yet. -/
structure Watched where
  state : ConnectionState
  unreported : Bool := false
  deriving DecidableEq, Repr

namespace Watched

/-- A launch leaves its attempt unreported unless its own callable reported it;
a report or a disconnect leaves none. -/
def observe (w : Watched) : Operation → Bool
  | .connectNow call | .beginAutoConnect call | .reconnectTick call =>
    call.started && call.reports.isEmpty
  | .disconnectNow | .reportPendingConnectResult _ => false
  | .setHeartbeatIntervalMs _ | .heartbeatTick _ => w.unreported

/-- The watched machine. -/
def machine : Mealy Watched Operation Signal where
  step w op :=
    let r := w.state.perform op
    (⟨r.1, w.observe op⟩, r.2)

/-- An object on which asynchronous handlers have just been set. -/
def fresh (probe disconnect : Bool) : Watched :=
  ⟨setHandlers true probe disconnect true {}, false⟩

/-- Ticks come from active timers only. -/
def Enabled (w : Watched) (op : Operation) : Prop := w.state.Enabled op

/-- While the loop runs, its timer is active or an attempt is unreported. -/
def CanWake (w : Watched) : Prop :=
  w.state.reconnecting → w.state.reconnectTimer.isSome ∨ w.unreported

/-- A retry inside the loop does not report before returning `true`, unless the
first report settles a result that was still awaited: a success, or a failure
with automatic retry on. -/
def ReportsAfterReturn (w : Watched) : Operation → Prop
  | .reconnectTick call =>
    w.state.reconnecting → call.started → call.reports = [] ∨
      (w.state.awaitingAsyncResult ∧
        (call.reports.head? = some true ∨ w.state.asyncAutoRetryOnFailure))
  | _ => True

/-- The loop invariant: a loop without an active timer awaits an unreported
attempt whose failure re-arms the timer. -/
structure Inv (w : Watched) : Prop where
  /-- The connect callable is set. -/
  connect_set : w.state.connect
  /-- Results are asynchronous. -/
  async : w.state.asyncResult
  /-- Nothing but an awaited, retried attempt stands in for the timer. -/
  awaiting : w.state.reconnecting → w.state.reconnectTimer = none →
    w.state.awaitingAsyncResult ∧ w.state.asyncAutoRetryOnFailure ∧ w.unreported

/-- The invariant holds on a fresh object. -/
theorem fresh_inv (probe disconnect : Bool) : Inv (fresh probe disconnect) := by
  constructor <;> simp [fresh, setHandlers]

/-- The invariant leaves something that wakes the loop. -/
theorem Inv.canWake {w : Watched} (h : Inv w) : CanWake w := by
  intro hloop
  cases htimer : w.state.reconnectTimer with
  | none => exact Or.inr (h.awaiting hloop htimer).2.2
  | some ms => exact Or.inl rfl

/-- What the reports made inside a connect call do to the loop: nothing, or a
settled success ends it, or a settled failure arms it or leaves it alone. -/
theorem returned_loop {s : ConnectionState} (hasync : s.asyncResult = true) (call : ConnectCall) :
    ((call.reports = [] ∨ s.awaitingAsyncResult = false) ∧ returned call s = s) ∨
    (s.awaitingAsyncResult ∧ call.reports.head? = some true ∧
      (returned call s).reconnecting = false) ∨
    (s.awaitingAsyncResult ∧ call.reports.head? = some false ∧ s.asyncAutoRetryOnFailure ∧
      (returned call s).reconnectTimer.isSome) ∨
    (s.awaitingAsyncResult ∧ call.reports.head? = some false ∧ s.asyncAutoRetryOnFailure = false ∧
      (returned call s).reconnecting = s.reconnecting ∧
      (returned call s).reconnectTimer = s.reconnectTimer) := by
  cases hsettles : settles s call with
  | none =>
    refine Or.inl ⟨?_, returned_none hsettles⟩
    cases hawaiting : s.awaitingAsyncResult with
    | false => exact Or.inr rfl
    | true => simpa [settles, hasync, hawaiting] using hsettles
  | some succeeded =>
    obtain ⟨-, hawaiting, hhead⟩ := settles_some hsettles
    cases succeeded with
    | true =>
      refine Or.inr (Or.inl ⟨hawaiting, hhead, ?_⟩)
      simp [returned_true hsettles, startHeartbeat_eq]
    | false =>
      rw [returned_false hsettles]
      cases hretry : s.asyncAutoRetryOnFailure with
      | true =>
        refine Or.inr (Or.inr (Or.inl ⟨hawaiting, hhead, rfl, ?_⟩))
        cases s.reconnecting <;> simp [armNextRung]
      | false =>
        refine Or.inr (Or.inr (Or.inr ⟨hawaiting, hhead, rfl, ?_⟩))
        simp

/-- Outside the loop, a connect call leaves the loop idle or its timer active. -/
theorem returned_of_idle {s : ConnectionState} (hasync : s.asyncResult = true)
    (hidle : s.reconnecting = false) (call : ConnectCall) :
    (returned call s).reconnecting = true → (returned call s).reconnectTimer ≠ none := by
  intro hloop htimer
  rcases returned_loop hasync call with ⟨_, h⟩ | ⟨_, _, h⟩ | ⟨_, _, _, h⟩ | ⟨_, _, _, h, _⟩
  · simp_all
  · simp_all
  · simp_all
  · simp_all

/-- A retry whose callable does not report too early keeps the loop awake. -/
theorem reconnectTick_awaiting {w : Watched} {call : ConnectCall} (h : Inv w)
    (ht : w.ReportsAfterReturn (.reconnectTick call)) :
    let t := returned call { w.state with reconnectTimer := none }
    call.started → t.reconnecting → t.reconnectTimer = none → call.reports = [] := by
  intro t hstarted hloop htimer
  rcases returned_loop (s := { w.state with reconnectTimer := none }) h.async call with
    ⟨hquiet, ht'⟩ | ⟨_, _, ht'⟩ | ⟨_, _, _, ht'⟩ | ⟨hawaiting, hhead, hretry, ht', _⟩
  · have hin : w.state.reconnecting := by rw [show t = _ from ht'] at hloop; exact hloop
    rcases ht hin hstarted with hnil | ⟨hawaiting, _⟩
    · exact hnil
    · rcases hquiet with hnil | hnone
      · exact hnil
      · simp_all
  · simp_all [t]
  · simp_all [t]
  · have hin : w.state.reconnecting := by rw [← show t.reconnecting = _ from ht']; exact hloop
    rcases ht hin hstarted with hnil | ⟨_, hsome | hauto⟩ <;> simp_all

/-- A report, which is accepted only while awaited, keeps the loop invariant. -/
theorem report_inv {w : Watched} (h : Inv w) (succeeded : Bool) :
    Inv (machine.next w (.reportPendingConnectResult succeeded)) := by
  obtain ⟨hconnect, hasync, hloop⟩ := h
  cases hawaiting : w.state.awaitingAsyncResult with
  | false =>
    have hsame := reportPendingConnectResult_ignored (Or.inr hawaiting) succeeded
    constructor <;> simp_all [machine, Mealy.next, perform]
  | true =>
    cases succeeded with
    | true =>
      have hstate := reportPendingConnectResult_true hasync hawaiting
      constructor <;> simp_all [machine, Mealy.next, perform, startHeartbeat_eq]
    | false =>
      have hstate := reportPendingConnectResult_false hasync hawaiting
      cases hretry : w.state.asyncAutoRetryOnFailure <;> cases hin : w.state.reconnecting <;>
        constructor <;> simp_all [machine, Mealy.next, perform, armNextRung]

/-- A step whose callable does not report too early keeps the invariant. -/
theorem inv_next {w : Watched} {op : Operation} (h : Inv w) (ht : w.ReportsAfterReturn op) :
    Inv (machine.next w op) := by
  have hstopped : (stopReconnecting w.state).1.asyncResult = true := by simpa using h.async
  cases op with
  | connectNow call =>
    have hstate := connectNow_async h.connect_set h.async call
    have hset := returned_handlers hstopped call
    have hidle := returned_of_idle hstopped (by simp) call
    have hconnect := h.connect_set
    constructor <;> simp_all [machine, Mealy.next, perform]
  | beginAutoConnect call =>
    have hstate := beginAutoConnect_async h.connect_set h.async call
    have hset := returned_handlers hstopped call
    have hidle := returned_of_idle hstopped (by simp) call
    have hconnect := h.connect_set
    cases hstarted : call.started <;> constructor <;> simp_all [machine, Mealy.next, perform]
  | disconnectNow =>
    have hconnect := h.connect_set
    have hasync := h.async
    constructor <;> simp_all [machine, Mealy.next, perform, disconnectNow]
  | setHeartbeatIntervalMs intervalMs =>
    obtain ⟨hconnect, hasync, hloop⟩ := h
    constructor <;> simp only [machine, Mealy.next, perform, setHeartbeatIntervalMs, observe,
      Reaction.silently_fst] <;> split_ifs <;> simp_all
  | reportPendingConnectResult succeeded => exact report_inv h succeeded
  | heartbeatTick alive =>
    obtain ⟨hconnect, hasync, hloop⟩ := h
    constructor <;> simp only [machine, Mealy.next, perform, onHeartbeatTick, observe] <;>
      split_ifs <;> simp_all
  | reconnectTick call =>
    have hstate := reconnectTimeout_async h.connect_set h.async call
    have hset := returned_handlers (s := { w.state with reconnectTimer := none }) h.async call
    have hquiet := reconnectTick_awaiting h ht
    have hconnect := h.connect_set
    cases hstarted : call.started <;> constructor <;>
      simp_all [machine, Mealy.next, perform, armNextRung, observe]

/-- A retry inside the loop that reports before returning `true`, with no
awaited result it could settle, leaves the loop asleep. -/
theorem asleep_of_early_report {w : Watched} {op : Operation} (h : Inv w)
    (ht : ¬ w.ReportsAfterReturn op) : ¬ CanWake (machine.next w op) := by
  cases op with
  | reconnectTick call =>
    simp only [ReportsAfterReturn, not_forall, not_or, not_and] at ht
    obtain ⟨hin, hstarted, hreports, hsettles⟩ := ht
    have hstate := reconnectTimeout_async h.connect_set h.async call
    rcases returned_loop (s := { w.state with reconnectTimer := none }) h.async call with
      ⟨_, ht'⟩ | ⟨hawaiting, hhead, _⟩ | ⟨hawaiting, _, hretry, _⟩ | ⟨_, _, _, hloop, htimer⟩
    · simp_all [CanWake, machine, Mealy.next, perform, observe]
    · exact absurd hhead (hsettles hawaiting).1
    · exact absurd hretry (hsettles hawaiting).2
    · simp_all [CanWake, machine, Mealy.next, perform, observe]
  | _ => simp [ReportsAfterReturn] at ht

/-- **The reconnect loop is always woken.** In every run of an asynchronous
object, something that wakes the loop exists in every state exactly when no
retry inside the loop reports before its callable returns `true`, apart from a
report that settles an earlier result. -/
theorem canWake_iff_reportsAfterReturn (probe disconnect : Bool) (ops : List Operation)
    (henabled : machine.EachStep Enabled (fresh probe disconnect) ops) :
    machine.EachState CanWake (fresh probe disconnect) ops ↔
      machine.EachStep ReportsAfterReturn (fresh probe disconnect) ops :=
  Mealy.eachState_iff_eachStep (I := Inv) (fun _ h => h.canWake)
    (fun _ _ h _ ht => inv_next h ht) (fun _ _ h _ ht => asleep_of_early_report h ht)
    (fresh_inv probe disconnect) henabled

/-- A first attempt and a retry, both failing through a report made afterwards. -/
theorem quietRetry_canWake :
    machine.EachState CanWake (fresh true true)
      [.beginAutoConnect ⟨[], true⟩, .reportPendingConnectResult false,
        .reconnectTick ⟨[], true⟩, .reportPendingConnectResult false] :=
  (canWake_iff_reportsAfterReturn true true _
    (by simp only [Mealy.EachStep, Enabled]; decide)).mpr
    (by simp only [Mealy.EachStep, ReportsAfterReturn]; decide)

/-- A failed first attempt, then a retry whose callable reports the failure
before it returns. -/
def stallingRun : List Operation :=
  [.beginAutoConnect ⟨[], true⟩, .reportPendingConnectResult false, .reconnectTick ⟨[false], true⟩]

/-- The loop that reports its retry from inside the callable is left asleep:
reconnecting, with neither an active timer nor an unreported attempt. -/
theorem stallingRun_asleep :
    ¬ ∀ probe disconnect ops, machine.EachStep Enabled (fresh probe disconnect) ops →
      machine.EachState CanWake (fresh probe disconnect) ops := by
  intro h
  have hrun := h true true stallingRun
    (by simp only [stallingRun, Mealy.EachStep, Enabled]; decide)
  simp only [stallingRun, Mealy.EachState, CanWake] at hrun
  exact absurd hrun (by decide)

end Watched

end QtAppBase.Core
