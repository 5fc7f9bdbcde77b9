import QtAppBase.Core.LoopPersistence
import Mathlib.Order.Monotone.Basic

/-!
# The retry ladder

Inside the reconnect loop a retry fails in one of two places: the tick finds out that
it cannot be launched, or that it has failed at once, and a report brings the failure
of one that was launched. Each failure is one rung of the ladder, wherever it is
counted, and a report that nobody waits for is none.
-/

namespace QtAppBase.Core

open Library ConnectionState

/-! ### The delays -/

/-- The ladder goes up and ends at one minute. -/
theorem reconnectDelayMs_le_succ (n : ℕ) :
    reconnectDelayMs n ≤ reconnectDelayMs (n + 1 : ℕ) ∧ reconnectDelayMs (n + 1 : ℕ) ≤ 60000 := by
  have hclimbs : ∀ n < 7, reconnectDelayMs (n : ℕ) ≤ reconnectDelayMs (n + 1 : ℕ) ∧
      reconnectDelayMs (n + 1 : ℕ) ≤ 60000 := by decide
  rcases Nat.lt_or_ge n 7 with hlow | hhigh
  · exact hclimbs n hlow
  · have htop : ∀ m : ℕ, 7 ≤ m → reconnectDelayMs m = 60000 := by
      intro m hm
      have hnonneg : ¬ (m : ℤ) < 0 := by omega
      have hlength : (m : ℤ) ≥ reconnectDelaysMs.length := by
        change (m : ℤ) ≥ (7 : ℕ)
        omega
      rw [reconnectDelayMs, if_neg hnonneg, if_pos hlength]
      rfl
    rw [htop n hhigh, htop (n + 1) (by omega)]
    omega

theorem reconnectDelayMs_mono {m n : ℕ} (h : m ≤ n) :
    reconnectDelayMs m ≤ reconnectDelayMs n :=
  monotone_nat_of_le_succ (fun n => (reconnectDelayMs_le_succ n).1) h

theorem reconnectDelayMs_le (n : ℕ) : reconnectDelayMs n ≤ 60000 := by
  cases n with
  | zero => decide
  | succ n => exact (reconnectDelayMs_le_succ n).2

/-- The delays of the first rungs, one after the other. -/
def rungs (failedRetries : ℕ) : List ℤ :=
  (List.range (failedRetries + 1)).map fun n : ℕ => reconnectDelayMs n

theorem rungs_succ (failedRetries : ℕ) :
    rungs (failedRetries + 1) = rungs failedRetries ++ [reconnectDelayMs (failedRetries + 1)] := by
  unfold rungs
  rw [List.range_succ, List.map_append, List.map_singleton]
  rfl

/-- They never decrease. -/
theorem rungs_pairwise (failedRetries : ℕ) : (rungs failedRetries).Pairwise (· ≤ ·) := by
  unfold rungs
  rw [List.pairwise_map]
  apply List.pairwise_lt_range.imp
  intro m n hlt
  exact reconnectDelayMs_mono (Nat.le_of_lt hlt)

/-- Nor do they exceed a minute. -/
theorem rungs_le {failedRetries : ℕ} {delay : ℤ} (h : delay ∈ rungs failedRetries) :
    delay ≤ 60000 := by
  obtain ⟨n, -, rfl⟩ := List.mem_map.mp h
  exact reconnectDelayMs_le n

/-! ### How the loop is entered -/

/-- The objects that have never been connected. -/
inductive NeverConnected : ConnectionState → Prop
  | fresh : NeverConnected {}
  | setHandlers {s : ConnectionState} (connect probe disconnect asyncResult : Bool) :
      NeverConnected s → NeverConnected (s.setHandlers connect probe disconnect asyncResult)
  | perform {s : ConnectionState} {op : Operation} : NeverConnected s → s.Enabled op →
      Looped.connects (s.perform op).2 = false → NeverConnected (s.perform op).1

/-- Such an object after a `beginAutoConnect` that has launched its attempt, and outside
the loop. Nothing happens to it that would cancel or settle the attempt. -/
inductive AutoConnecting : ConnectionState → Prop
  | launched {s : ConnectionState} {call : ConnectCall} : NeverConnected s → s.connect →
      s.asyncResult → call.started → Looped.connects (beginAutoConnect call s).2 = false →
      (beginAutoConnect call s).1.reconnecting = false →
      AutoConnecting (beginAutoConnect call s).1
  | setHeartbeatIntervalMs {s : ConnectionState} (intervalMs : ℤ) : AutoConnecting s →
      AutoConnecting (s.setHeartbeatIntervalMs intervalMs)

/-- The states in which the reconnect loop is entered. -/
inductive EntersLoop : ConnectionState → Prop
  /-- `beginAutoConnect` finds no callable, or the callable fails at once. -/
  | refused {s : ConnectionState} {call : ConnectCall} : NeverConnected s →
      (s.connect → call.started = false) → Looped.connects (beginAutoConnect call s).2 = false →
      EntersLoop (beginAutoConnect call s).1
  /-- The attempt that `beginAutoConnect` has launched is reported as a failure. -/
  | reported {s : ConnectionState} : AutoConnecting s →
      EntersLoop (s.reportPendingConnectResult false).1
  /-- The heartbeat probe fails while no attempt is outstanding. -/
  | heartbeat {s : ConnectionState} : s.Enabled (.heartbeatTick false) → s.probe →
      s.awaitingAsyncResult = false → EntersLoop (s.onHeartbeatTick false).1

/-! ### What never-connected objects are like -/

/-- Nothing is up, no heartbeat runs, and only an asynchronous object with a callable
awaits a result. -/
structure Idle (s : ConnectionState) : Prop where
  connected : s.connected = false
  heartbeat : s.heartbeatTimer = none
  awaiting : s.awaitingAsyncResult → s.connect ∧ s.asyncResult

/-- The cadence starts no heartbeat while the connection is down. -/
theorem setHeartbeatIntervalMs_down {s : ConnectionState} (hconnected : s.connected = false)
    (hheartbeat : s.heartbeatTimer = none) (intervalMs : ℤ) :
    setHeartbeatIntervalMs intervalMs s = { s with heartbeatIntervalMs := intervalMs } := by
  unfold setHeartbeatIntervalMs
  dsimp only
  split_ifs with hoff hup
  · rw [← hheartbeat]
  · rw [hconnected] at hup
    exact absurd hup (by decide)
  · rfl

/-- A callable that settles no success leaves everything down. -/
theorem returned_idle {s : ConnectionState} (h : Idle s) {call : ConnectCall}
    (hdown : settles s call ≠ some true) :
    (returned call s).connected = false ∧ (returned call s).heartbeatTimer = none := by
  obtain ⟨hconnected, hheartbeat, -⟩ := h
  rcases hsettles : settles s call with _ | _ | _
  · rw [returned_none hsettles]
    exact ⟨hconnected, hheartbeat⟩
  · rw [returned_false hsettles]
    grind [armNextRung, startReconnecting_fst]
  · exact absurd hsettles hdown

/-- Leaving the loop does not raise anything. -/
theorem Idle.stopReconnecting {s : ConnectionState} (h : Idle s) :
    Idle (ConnectionState.stopReconnecting s).1 := by
  obtain ⟨hconnected, hheartbeat, hawaiting⟩ := h
  constructor <;> simpa

/-- An attempt that does not connect settles no success. -/
theorem settles_ne_success {s : ConnectionState} (h : Idle s) {call : ConnectCall}
    (hdown : (settles s call == some true && !s.connected) = false) :
    settles s call ≠ some true := by
  intro hsettles
  rw [hsettles, h.connected] at hdown
  exact absurd hdown (by decide)

/-- A manual attempt that does not connect leaves the object idle. -/
theorem connectNow_idle {s : ConnectionState} (h : Idle s) (call : ConnectCall)
    (hdown : Looped.connects (connectNow call s).2.2 = false) : Idle (connectNow call s).2.1 := by
  have hstopped := h.stopReconnecting
  cases hconnect : s.connect with
  | false =>
    rw [connectNow_unset hconnect]
    exact hstopped
  | true =>
    cases hasync : s.asyncResult with
    | false =>
      obtain ⟨hconnected, hheartbeat, hawaiting⟩ := h
      rw [(Looped.connects_sync hconnect hasync call).1] at hdown
      rw [connectNow_sync hconnect hasync]
      constructor <;> simp_all
    | true =>
      rw [(Looped.connects_async hconnect hasync call).1] at hdown
      have hsettles := settles_ne_success h hdown
      rw [← settles_stopReconnecting] at hsettles
      have hreturned := returned_idle hstopped hsettles
      have hset := returned_handlers (s := (ConnectionState.stopReconnecting s).1)
        (by simpa using hasync) call
      rw [connectNow_async hconnect hasync]
      constructor <;> simp_all

/-- So does an automatic one. -/
theorem beginAutoConnect_idle {s : ConnectionState} (h : Idle s) (call : ConnectCall)
    (hdown : Looped.connects (beginAutoConnect call s).2 = false) :
    Idle (beginAutoConnect call s).1 := by
  have hstopped := h.stopReconnecting
  cases hconnect : s.connect with
  | false =>
    obtain ⟨hconnected, hheartbeat, hawaiting⟩ := h
    rw [beginAutoConnect_unset hconnect]
    constructor <;> simp_all
  | true =>
    cases hasync : s.asyncResult with
    | false =>
      obtain ⟨hconnected, hheartbeat, hawaiting⟩ := h
      rw [(Looped.connects_sync hconnect hasync call).2.1] at hdown
      rw [beginAutoConnect_sync hconnect hasync]
      constructor <;> simp_all
    | true =>
      rw [(Looped.connects_async hconnect hasync call).2.1] at hdown
      have hsettles := settles_ne_success h hdown
      rw [← settles_stopReconnecting] at hsettles
      have hreturned := returned_idle hstopped hsettles
      have hset := returned_handlers (s := (ConnectionState.stopReconnecting s).1)
        (by simpa using hasync) call
      rw [beginAutoConnect_async hconnect hasync]
      cases hstarted : call.started <;> constructor <;> simp_all

/-- And a retry. -/
theorem reconnectTimeout_idle {s : ConnectionState} (h : Idle s) (call : ConnectCall)
    (hdown : Looped.connects (reconnectTimeout call s).2 = false) :
    Idle (reconnectTimeout call s).1 := by
  cases hconnect : s.connect with
  | false =>
    obtain ⟨hconnected, hheartbeat, hawaiting⟩ := h
    rw [reconnectTimeout_unset hconnect]
    constructor <;> simp_all [armNextRung]
  | true =>
    cases hasync : s.asyncResult with
    | false =>
      obtain ⟨hconnected, hheartbeat, hawaiting⟩ := h
      rw [(Looped.connects_sync hconnect hasync call).2.2] at hdown
      rw [reconnectTimeout_sync hconnect hasync]
      constructor <;> simp_all [armNextRung]
    | true =>
      rw [(Looped.connects_async hconnect hasync call).2.2] at hdown
      have hfired : Idle { s with reconnectTimer := none } := ⟨h.connected, h.heartbeat, h.awaiting⟩
      have hreturned := returned_idle hfired (settles_ne_success h hdown)
      have hset := returned_handlers (s := { s with reconnectTimer := none }) hasync call
      rw [reconnectTimeout_async hconnect hasync]
      cases hstarted : call.started <;> constructor <;> simp_all [armNextRung]

/-- And a report. -/
theorem report_idle {s : ConnectionState} (h : Idle s) (succeeded : Bool)
    (hdown : Looped.connects (reportPendingConnectResult succeeded s).2 = false) :
    Idle (reportPendingConnectResult succeeded s).1 := by
  obtain ⟨hconnected, hheartbeat, hawaiting⟩ := h
  by_cases hignored : s.asyncResult = false ∨ s.awaitingAsyncResult = false
  · rw [reportPendingConnectResult_ignored hignored]
    exact ⟨hconnected, hheartbeat, hawaiting⟩
  · simp only [not_or, Bool.not_eq_false] at hignored
    obtain ⟨hasync, hwaits⟩ := hignored
    rw [Looped.connects_report hasync hwaits, hconnected] at hdown
    obtain rfl : succeeded = false := by simpa using hdown
    rw [reportPendingConnectResult_false hasync hwaits]
    constructor <;> grind [armNextRung, startReconnecting_fst]

/-- Objects that have never been connected are idle. -/
theorem NeverConnected.idle {s : ConnectionState} (h : NeverConnected s) : Idle s := by
  induction h with
  | fresh => constructor <;> simp
  | setHandlers connect probe disconnect asyncResult _ ih =>
    obtain ⟨hconnected, hheartbeat, -⟩ := ih
    exact ⟨hconnected, hheartbeat, nofun⟩
  | @perform s op _ henabled hdown ih =>
    cases op with
    | connectNow call => exact connectNow_idle ih call hdown
    | beginAutoConnect call => exact beginAutoConnect_idle ih call hdown
    | disconnectNow =>
      obtain ⟨hconnected, hheartbeat, -⟩ := ih
      constructor <;> simp [ConnectionState.perform, disconnectNow]
    | setHeartbeatIntervalMs intervalMs =>
      rw [ConnectionState.perform, Reaction.silently_fst,
        setHeartbeatIntervalMs_down ih.connected ih.heartbeat]
      exact ⟨ih.connected, ih.heartbeat, ih.awaiting⟩
    | reportPendingConnectResult succeeded => exact report_idle ih succeeded hdown
    | heartbeatTick alive =>
      -- no heartbeat runs
      simp [Enabled, ih.heartbeat] at henabled
    | reconnectTick call => exact reconnectTimeout_idle ih call hdown

/-- What is launched by `beginAutoConnect` is awaited, and retried when it fails. -/
theorem AutoConnecting.awaits {s : ConnectionState} (h : AutoConnecting s) :
    Idle s ∧ s.asyncResult ∧ s.awaitingAsyncResult ∧ s.asyncAutoRetryOnFailure ∧
      s.reconnecting = false := by
  induction h with
  | @launched s call hnever hconnect hasync hstarted hdown hidle =>
    have hhandlers := perform_handlers s (.beginAutoConnect call)
    simp only [handlers, Prod.mk.injEq] at hhandlers
    refine ⟨beginAutoConnect_idle hnever.idle call hdown, ?_, ?_, ?_, hidle⟩
    · exact hhandlers.2.2.2.trans hasync
    · rw [beginAutoConnect_async hconnect hasync]
      simp [hstarted]
    · rw [beginAutoConnect_async hconnect hasync]
      simp [hstarted]
  | @setHeartbeatIntervalMs s intervalMs _ ih =>
    obtain ⟨hidle, hawaits⟩ := ih
    rw [setHeartbeatIntervalMs_down hidle.connected hidle.heartbeat]
    exact ⟨⟨hidle.connected, hidle.heartbeat, hidle.awaiting⟩, hawaits⟩

/-! ### Inside the loop -/

/-- A `ConnectionState` inside the reconnect loop, watched for failed retries, for an
attempt whose callable has returned `true` and that no report has followed yet, and for
the delays with which the reconnect timer is started. -/
structure Climbing where
  state : ConnectionState
  failedRetries : ℕ := 0
  outstanding : Bool := false
  armed : List ℤ
  deriving DecidableEq, Repr

namespace Climbing

/-- A retry fails at the tick, when it is not launched or comes back as failed, or by
the report of its failure. -/
def failsRetry (w : Climbing) : Operation → Bool
  | .reconnectTick call => !(w.state.connect && call.started)
  | .reportPendingConnectResult succeeded => w.outstanding && !succeeded
  | _ => false

/-- An asynchronous launch leaves its attempt outstanding, and a report leaves none. -/
def observeAttempt (w : Climbing) : Operation → Bool
  | .reconnectTick call => w.state.connect && w.state.asyncResult && call.started
  | .reportPendingConnectResult _ => false
  | _ => w.outstanding

/-- The timer is single-shot: after its tick it is active only if it was started again. -/
def observeTimer (w : Climbing) (t : ConnectionState) : Operation → List ℤ
  | .reconnectTick _ => t.reconnectTimer.toList
  | _ => if t.reconnectTimer = w.state.reconnectTimer then [] else t.reconnectTimer.toList

/-- The watched machine. -/
def machine : Mealy Climbing Operation Signal where
  step w op :=
    let r := w.state.perform op
    ({ state := r.1
       failedRetries := if w.failsRetry op then w.failedRetries + 1 else w.failedRetries
       outstanding := w.observeAttempt op
       armed := w.armed ++ w.observeTimer r.1 op }, r.2)

/-- The loop has just been entered. -/
def entered (s : ConnectionState) : Climbing := { state := s, armed := s.reconnectTimer.toList }

/-- What may happen inside the loop: ticks of active timers, retries that do not succeed,
reports of failures, any reports while no attempt is outstanding, and any cadence. -/
def Inside (w : Climbing) (op : Operation) : Prop :=
  w.state.Enabled op ∧
    match op with
    | .connectNow _ | .beginAutoConnect _ | .disconnectNow => False
    | .reconnectTick call => w.state.connect → w.state.asyncResult = false → call.started = false
    | .reportPendingConnectResult succeeded => w.outstanding → succeeded = false
    | .setHeartbeatIntervalMs _ | .heartbeatTick _ => True

instance (w : Climbing) : ∀ op, Decidable (w.Inside op)
  | .connectNow _ | .beginAutoConnect _ | .disconnectNow | .reconnectTick _
  | .reportPendingConnectResult _ | .setHeartbeatIntervalMs _ | .heartbeatTick _ =>
    inferInstanceAs (Decidable (_ ∧ _))

/-- Where the ladder stands: the timer was started once for each failed retry and once
on entering, with the delays of the rungs in order, and while no attempt is outstanding
it is active with the last of them. -/
structure OnRung (w : Climbing) : Prop where
  reconnecting : w.state.reconnecting
  timer : w.outstanding = false → w.state.reconnectTimer = some (reconnectDelayMs w.failedRetries)
  armed : w.armed = rungs w.failedRetries
  increasing : w.armed.Pairwise (· ≤ ·)
  bounded : ∀ delay ∈ w.armed, delay ≤ 60000

/-- A failed retry climbs one rung, nothing else starts the timer, and a report while no
attempt is outstanding does nothing at all. -/
def ClimbsOnce (w : Climbing) (op : Operation) : Prop :=
  (machine.next w op).armed =
      (if w.failsRetry op then w.armed ++ [reconnectDelayMs (w.failedRetries + 1)] else w.armed) ∧
    ∀ succeeded, op = .reportPendingConnectResult succeeded → w.outstanding = false →
      machine.step w op = (w, [])

/-- What every step inside the loop keeps. -/
structure Inv (w : Climbing) : Prop where
  /-- The loop goes on. -/
  running : w.state.reconnecting
  /-- Nothing probes a connection that is down. -/
  connected : w.state.connected = false
  heartbeat : w.state.heartbeatTimer = none
  /-- The object awaits what is outstanding, and retries it when it fails. -/
  awaiting : w.state.awaitingAsyncResult = w.outstanding
  retried : w.outstanding → w.state.asyncResult ∧ w.state.asyncAutoRetryOnFailure
  /-- The object has counted every failed retry once. -/
  counted : w.state.reconnectFailures = w.failedRetries
  timer : w.state.reconnectTimer =
    if w.outstanding then none else some (reconnectDelayMs w.failedRetries)
  armed : w.armed = rungs w.failedRetries

theorem Inv.onRung {w : Climbing} (h : Inv w) : OnRung w := by
  refine ⟨h.running, fun hquiet => ?_, h.armed, ?_, ?_⟩
  · rw [h.timer, hquiet]
    rfl
  · rw [h.armed]
    exact rungs_pairwise w.failedRetries
  · rw [h.armed]
    exact fun delay => rungs_le

/-- The first rung. -/
theorem entered_inv_of_first {s : ConnectionState} (hidle : Idle s) (hrunning : s.reconnecting)
    (hquiet : s.awaitingAsyncResult = false) (hcounted : s.reconnectFailures = 0)
    (htimer : s.reconnectTimer = some (reconnectDelayMs 0)) : Inv (entered s) where
  running := hrunning
  connected := hidle.connected
  heartbeat := hidle.heartbeat
  awaiting := hquiet
  retried := nofun
  counted := hcounted
  timer := htimer
  armed := by
    rw [entered, htimer]
    rfl

/-- An attempt of `beginAutoConnect` that fails at once enters the loop. -/
theorem refused_first {s : ConnectionState} (h : Idle s) {call : ConnectCall}
    (hrefused : s.connect → call.started = false) :
    (beginAutoConnect call s).1.reconnecting ∧
      (beginAutoConnect call s).1.awaitingAsyncResult = false ∧
      (beginAutoConnect call s).1.reconnectFailures = 0 ∧
      (beginAutoConnect call s).1.reconnectTimer = some (reconnectDelayMs 0) := by
  obtain ⟨-, -, hawaiting⟩ := h
  cases hconnect : s.connect with
  | false =>
    rw [beginAutoConnect_unset hconnect]
    simp_all
  | true =>
    cases hasync : s.asyncResult with
    | false =>
      rw [beginAutoConnect_sync hconnect hasync, hrefused hconnect]
      simp_all
    | true =>
      rw [beginAutoConnect_async hconnect hasync, hrefused hconnect]
      simp

/-- Entering the loop puts the object on the first rung. -/
theorem entered_inv {s : ConnectionState} (h : EntersLoop s) : Inv (entered s) := by
  cases h with
  | @refused s call hnever hrefused hdown =>
    have hidle := beginAutoConnect_idle hnever.idle call hdown
    obtain ⟨hrunning, hquiet, hcounted, htimer⟩ := refused_first hnever.idle hrefused
    exact entered_inv_of_first hidle hrunning hquiet hcounted htimer
  | @reported s hawaits =>
    obtain ⟨hidle, hasync, hwaits, hretry, hloop⟩ := hawaits.awaits
    have hreported := report_idle hidle false (by
      rw [Looped.connects_report hasync hwaits]
      rfl)
    rw [reportPendingConnectResult_false hasync hwaits] at hreported ⊢
    simp only [hretry, hloop, if_true, Bool.false_eq_true, if_false] at hreported ⊢
    apply entered_inv_of_first hreported <;> simp
  | @heartbeat s henabled hprobe hquiet =>
    have hfailed : (onHeartbeatTick false s).1 =
        (startReconnecting { s with heartbeatTimer := none, connected := false }).1 := by
      simp [onHeartbeatTick, hprobe]
    have hidle : Idle (onHeartbeatTick false s).1 := by
      rw [hfailed]
      constructor <;> simp [hquiet]
    apply entered_inv_of_first hidle <;> simp [hfailed, hquiet]

theorem next_eq (w : Climbing) (op : Operation) :
    machine.next w op =
      { state := (w.state.perform op).1
        failedRetries := if w.failsRetry op then w.failedRetries + 1 else w.failedRetries
        outstanding := w.observeAttempt op
        armed := w.armed ++ w.observeTimer (w.state.perform op).1 op } := rfl

/-- A tick comes while no attempt is outstanding. -/
theorem Inv.quiet_of_tick {w : Climbing} (h : Inv w) (hactive : w.state.reconnectTimer.isSome) :
    w.outstanding = false := by
  cases houtstanding : w.outstanding with
  | false => rfl
  | true =>
    rw [h.timer, houtstanding] at hactive
    cases hactive

/-- **A failed retry climbs one rung.** However it fails, the object is down, awaits
nothing, counts the retry and arms the next rung. -/
theorem climbs_of_failed {w : Climbing} (h : Inv w) {op : Operation} {t : ConnectionState}
    (hfails : w.failsRetry op = true) (hattempt : w.observeAttempt op = false)
    (hstate : (w.state.perform op).1 = armNextRung t)
    (hstarted : w.observeTimer (armNextRung t) op = (armNextRung t).reconnectTimer.toList)
    (hrunning : t.reconnecting) (hconnected : t.connected = false)
    (hheartbeat : t.heartbeatTimer = none) (hawaiting : t.awaitingAsyncResult = false)
    (hcounted : t.reconnectFailures = w.failedRetries) :
    Inv (machine.next w op) ∧
      (machine.next w op).armed = w.armed ++ [reconnectDelayMs (w.failedRetries + 1)] := by
  have htimer : (armNextRung t).reconnectTimer = some (reconnectDelayMs (w.failedRetries + 1)) := by
    rw [← hcounted]
    rfl
  have harmed : w.armed ++ [reconnectDelayMs (w.failedRetries + 1)] =
      rungs (w.failedRetries + 1) := by
    rw [h.armed, rungs_succ]
  have hnext : machine.next w op =
      { state := armNextRung t
        failedRetries := w.failedRetries + 1
        outstanding := false
        armed := w.armed ++ [reconnectDelayMs (w.failedRetries + 1)] } := by
    rw [next_eq, hstate, hfails, hattempt, hstarted, htimer]
    rfl
  rw [hnext]
  refine ⟨⟨hrunning, hconnected, hheartbeat, hawaiting, nofun, ?_, htimer, harmed⟩, rfl⟩
  change t.reconnectFailures + 1 = _
  rw [hcounted]

/-- A retry that fails at once climbs a rung, and one that is launched waits for its report. -/
theorem reconnectTick_climbs {w : Climbing} (h : Inv w) {call : ConnectCall}
    (hinside : w.Inside (.reconnectTick call)) :
    Inv (machine.next w (.reconnectTick call)) ∧ w.ClimbsOnce (.reconnectTick call) := by
  obtain ⟨hactive, hfails⟩ := hinside
  have hawaiting : w.state.awaitingAsyncResult = false :=
    h.awaiting.trans (h.quiet_of_tick hactive)
  -- a tick whose retry fails at once, with what may be left of the attempt
  have hclimbs : ∀ retry : Bool, w.failsRetry (.reconnectTick call) = true →
      w.observeAttempt (.reconnectTick call) = false →
      (reconnectTimeout call w.state).1 = armNextRung { w.state with
        reconnectTimer := none, awaitingAsyncResult := false, asyncAutoRetryOnFailure := retry } →
      Inv (machine.next w (.reconnectTick call)) ∧ w.ClimbsOnce (.reconnectTick call) := by
    intro retry hfailed hattempt hstate
    obtain ⟨hinv, harmed⟩ := climbs_of_failed h hfailed hattempt hstate rfl h.running h.connected
      h.heartbeat rfl h.counted
    refine ⟨hinv, ?_, by rintro _ ⟨⟩⟩
    rw [harmed, if_pos hfailed]
  cases hconnect : w.state.connect with
  | false =>
    apply hclimbs w.state.asyncAutoRetryOnFailure
    · simp [failsRetry, hconnect]
    · simp [observeAttempt, hconnect]
    · conv_rhs => rw [← hawaiting]
      rw [reconnectTimeout_unset hconnect]
      rfl
  | true =>
    cases hasync : w.state.asyncResult with
    | false =>
      have hstarted := hfails hconnect hasync
      apply hclimbs w.state.asyncAutoRetryOnFailure
      · simp [failsRetry, hstarted]
      · simp [observeAttempt, hstarted]
      · conv_rhs => rw [← hawaiting]
        rw [reconnectTimeout_sync hconnect hasync, hstarted]
        rfl
    | true =>
      -- nothing is awaited that a report from inside the callable could settle
      have hsettles : settles { w.state with reconnectTimer := none } call = none := by
        simp [settles, hawaiting]
      have hstate := reconnectTimeout_async hconnect hasync call
      rw [returned_none hsettles] at hstate
      cases hstarted : call.started with
      | false =>
        rw [hstarted] at hstate
        apply hclimbs true
        · simp [failsRetry, hstarted]
        · simp [observeAttempt, hstarted]
        · exact hstate
      | true =>
        rw [hstarted] at hstate
        unfold ClimbsOnce
        rw [next_eq, perform, hstate]
        obtain ⟨hrunning, hconnected, hheartbeat, -, -, hcounted, -, harmed⟩ := h
        refine ⟨?_, ?_, by rintro _ ⟨⟩⟩
        · constructor <;> simp_all [failsRetry, observeAttempt, observeTimer]
        · simp [failsRetry, observeTimer, hconnect, hstarted]

/-- A report while no attempt is outstanding is ignored. -/
theorem report_ignored {w : Climbing} (h : Inv w) (hquiet : w.outstanding = false)
    (succeeded : Bool) : machine.step w (.reportPendingConnectResult succeeded) = (w, []) := by
  have hignored := reportPendingConnectResult_ignored (.inr (h.awaiting.trans hquiet)) succeeded
  cases w
  simp_all [machine, perform, failsRetry, observeAttempt, observeTimer]

/-- The report of a failure climbs a rung. -/
theorem report_climbs {w : Climbing} (h : Inv w) {succeeded : Bool}
    (hinside : w.Inside (.reportPendingConnectResult succeeded)) :
    Inv (machine.next w (.reportPendingConnectResult succeeded)) ∧
      w.ClimbsOnce (.reportPendingConnectResult succeeded) := by
  cases houtstanding : w.outstanding with
  | false =>
    have hignored := report_ignored h houtstanding
    have hnext : machine.next w (.reportPendingConnectResult succeeded) = w :=
      congrArg Prod.fst (hignored succeeded)
    unfold ClimbsOnce
    rw [hnext]
    refine ⟨h, ?_, ?_⟩
    · simp [failsRetry, houtstanding]
    · rintro other ⟨⟩ -
      exact hignored succeeded
  | true =>
    obtain ⟨hasync, hretry⟩ := h.retried houtstanding
    obtain rfl := hinside.2 houtstanding
    have hstate := reportPendingConnectResult_false hasync (h.awaiting.trans houtstanding)
    dsimp only at hstate
    rw [if_pos hretry, if_pos h.running] at hstate
    have hfailed : w.failsRetry (.reportPendingConnectResult false) = true := by
      simp [failsRetry, houtstanding]
    -- the timer was off while the attempt was outstanding
    have htimer : w.state.reconnectTimer = none := by
      rw [h.timer, houtstanding]
      rfl
    obtain ⟨hinv, harmed⟩ := climbs_of_failed h hfailed rfl hstate (by simp [observeTimer, htimer,
      armNextRung]) h.running rfl h.heartbeat rfl h.counted
    refine ⟨hinv, ?_, ?_⟩
    · rw [harmed, if_pos hfailed]
    · rintro _ - hquiet
      rw [houtstanding] at hquiet
      cases hquiet

/-- The cadence moves nothing. -/
theorem setHeartbeatIntervalMs_climbs {w : Climbing} (h : Inv w) (intervalMs : ℤ) :
    Inv (machine.next w (.setHeartbeatIntervalMs intervalMs)) ∧
      w.ClimbsOnce (.setHeartbeatIntervalMs intervalMs) := by
  unfold ClimbsOnce
  rw [next_eq, perform, Reaction.silently_fst, setHeartbeatIntervalMs_down h.connected h.heartbeat]
  obtain ⟨hrunning, hconnected, hheartbeat, hawaiting, hretried, hcounted, htimer, harmed⟩ := h
  refine ⟨?_, ?_, by rintro _ ⟨⟩⟩
  · constructor <;> simp_all [failsRetry, observeAttempt, observeTimer]
  · simp [failsRetry, observeTimer]

/-- Every step inside the loop. -/
theorem inside_climbs {w : Climbing} (h : Inv w) {op : Operation} (hinside : w.Inside op) :
    Inv (machine.next w op) ∧ w.ClimbsOnce op := by
  cases op with
  | connectNow call => exact hinside.2.elim
  | beginAutoConnect call => exact hinside.2.elim
  | disconnectNow => exact hinside.2.elim
  | setHeartbeatIntervalMs intervalMs => exact setHeartbeatIntervalMs_climbs h intervalMs
  | reportPendingConnectResult succeeded => exact report_climbs h hinside
  | heartbeatTick alive =>
    have hactive := hinside.1
    rw [Enabled, h.heartbeat] at hactive
    exact absurd hactive (by decide)
  | reconnectTick call => exact reconnectTick_climbs h hinside

/-- **The ladder is climbed one rung for each failed retry.** However the loop is entered,
in every run inside it, with any reports while no attempt is outstanding and any cadence,
the timer is active with the delay of the number of failed retries whenever no attempt is
outstanding, it was started once for each of them, and its delays increase up to a minute. -/
theorem climbs_inside {s : ConnectionState} (h : EntersLoop s) {ops : List Operation}
    (hinside : machine.EachStep Inside (entered s) ops) :
    machine.EachState OnRung (entered s) ops ∧ machine.EachStep ClimbsOnce (entered s) ops :=
  ⟨Mealy.eachState_of_invariant (fun _ _ h hinside => (inside_climbs h hinside).1)
      (fun _ h => h.onRung) (entered_inv h) hinside,
    Mealy.eachStep_of_invariant (fun _ _ h hinside => (inside_climbs h hinside).1)
      (fun _ _ h hinside => (inside_climbs h hinside).2) (entered_inv h) hinside⟩

/-- An attempt that is launched and reported as failed, a stray success, a retry that
fails at once, one that is launched by a callable that reports too early, and the report
of its failure, twice. -/
theorem climbs_mixed :
    machine.EachState OnRung
      (entered (reportPendingConnectResult false
        (beginAutoConnect ⟨[], true⟩ (setHandlers true true true true {})).1).1)
      [.reportPendingConnectResult true, .reconnectTick ⟨[], false⟩, .setHeartbeatIntervalMs 0,
        .reconnectTick ⟨[false], true⟩, .reportPendingConnectResult false,
        .reportPendingConnectResult false] ∧
    machine.EachStep ClimbsOnce
      (entered (reportPendingConnectResult false
        (beginAutoConnect ⟨[], true⟩ (setHandlers true true true true {})).1).1)
      [.reportPendingConnectResult true, .reconnectTick ⟨[], false⟩, .setHeartbeatIntervalMs 0,
        .reconnectTick ⟨[false], true⟩, .reportPendingConnectResult false,
        .reportPendingConnectResult false] :=
  climbs_inside
    (.reported (.launched (.setHandlers true true true true .fresh) rfl rfl rfl (by decide)
      (by decide)))
    (by decide)

end Climbing

end QtAppBase.Core
