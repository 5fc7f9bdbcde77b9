import QtAppBase.Core.SyncSteps

/-!
# What ends the reconnect loop

A reconnect loop is meant to go on until a connection succeeds or
`disconnectNow` is called. The machine here remembers whether such a loop is
still due, in both modes, and the result says which attempts end it silently:
both user-initiated entry points leave the loop before they know the outcome.
-/

namespace QtAppBase.Core

open Library ConnectionState

/-- A `ConnectionState`, watched for a reconnect loop that neither a success nor
`disconnectNow` has ended, and for an attempt whose outcome is still to come. -/
structure Looped where
  state : ConnectionState
  loop : Bool := false
  outstanding : Bool := false
  deriving DecidableEq, Repr

namespace Looped

/-- Whether the connection comes up among these signals. -/
def connects (signals : List Signal) : Bool := signals.contains (.connectionStateChanged true)

/-- The loop starts when the state says so, and is then due until the connection
comes up or `disconnectNow` is called. -/
def observeLoop (w : Looped) (op : Operation) (r : Reaction ConnectionState Signal) : Bool :=
  op != .disconnectNow &&
    (r.1.reconnecting || (w.loop && !connects r.2))

/-- An asynchronous launch leaves its attempt outstanding unless its own callable
reported it; a report or a disconnect leaves none. -/
def observeAttempt (w : Looped) : Operation → Bool
  | .connectNow call | .beginAutoConnect call | .reconnectTick call =>
    w.state.connect && w.state.asyncResult && call.started && call.reports.isEmpty
  | .disconnectNow | .reportPendingConnectResult _ => false
  | .setHeartbeatIntervalMs _ | .heartbeatTick _ => w.outstanding

/-- The watched machine. -/
def machine : Mealy Looped Operation Signal where
  step w op :=
    let r := w.state.perform op
    (⟨r.1, w.observeLoop op r, w.observeAttempt op⟩, r.2)

/-- An object on which handlers have just been set. -/
def fresh (connect probe disconnect asyncResult : Bool) : Looped :=
  { state := setHandlers connect probe disconnect asyncResult {} }

/-- Ticks come from active timers only. -/
def Enabled (w : Looped) (op : Operation) : Prop := w.state.Enabled op

/-- While the loop is due and no attempt is outstanding, the object is reconnecting. -/
def Persists (w : Looped) : Prop := w.loop → ¬ w.outstanding → w.state.reconnecting

/-- An asynchronous attempt carries the loop on: it is launched and not reported
from inside its own callable, or the callable settles an awaited result, by a
success or by a failure that is retried. -/
def Carries (s : ConnectionState) (call : ConnectCall) : Prop :=
  (call.started ∧ call.reports = []) ∨
    settles s call = some true ∨ (settles s call = some false ∧ s.asyncAutoRetryOnFailure)

/-- Inside the loop, a manual attempt succeeds or carries the loop on, so does an
automatic one that was launched, and no failure is reported of a manual attempt
that has replaced the loop. -/
def KeepsLoop (w : Looped) : Operation → Prop
  | .connectNow call =>
    w.loop → w.state.connect ∧
      if w.state.asyncResult then Carries w.state call else call.started
  | .beginAutoConnect call =>
    w.loop → w.state.connect → w.state.asyncResult → call.started → Carries w.state call
  | .reportPendingConnectResult succeeded =>
    w.loop → w.state.asyncResult → w.state.awaitingAsyncResult →
      succeeded ∨ w.state.reconnecting ∨ w.state.asyncAutoRetryOnFailure
  | _ => True

instance (w : Looped) (op : Operation) : Decidable (w.Enabled op) :=
  inferInstanceAs (Decidable (w.state.Enabled op))

instance (w : Looped) : Decidable w.Persists := by unfold Persists; infer_instance

instance (s : ConnectionState) (call : ConnectCall) : Decidable (Carries s call) := by
  unfold Carries; infer_instance

instance (w : Looped) : ∀ op, Decidable (w.KeepsLoop op)
  | .connectNow _ | .beginAutoConnect _ | .reportPendingConnectResult _ =>
    inferInstanceAs (Decidable (_ → _))
  | .disconnectNow | .setHeartbeatIntervalMs _ | .heartbeatTick _ | .reconnectTick _ =>
    isTrue trivial

/-- What every step keeps. -/
structure Inv (w : Looped) : Prop where
  /-- A due loop is a lost or never made connection. -/
  loop_is_down : w.loop → w.state.connected = false
  /-- The timer of a due loop belongs to a running one. -/
  timer_in_loop : w.loop → w.state.reconnectTimer.isSome → w.state.reconnecting
  /-- A running loop is due. -/
  running_due : w.state.reconnecting → w.loop
  /-- An outstanding attempt is awaited. -/
  awaited : w.outstanding → w.state.asyncResult ∧ w.state.awaitingAsyncResult
  /-- Without a connect callable nothing ever connects. -/
  unset : w.state.connect = false →
    w.state.connected = false ∧ w.state.awaitingAsyncResult = false

theorem fresh_inv (connect probe disconnect asyncResult : Bool) :
    Inv (fresh connect probe disconnect asyncResult) := by
  constructor <;> simp [fresh, setHandlers]

theorem next_eq (w : Looped) (op : Operation) :
    machine.next w op =
      ⟨(w.state.perform op).1, w.observeLoop op (w.state.perform op), w.observeAttempt op⟩ := rfl

/-- A step keeps the invariant, and after it the loop still persists exactly when
the step keeps the loop. -/
def Decides (w : Looped) (op : Operation) : Prop :=
  Inv (machine.next w op) ∧ (Persists w → (Persists (machine.next w op) ↔ w.KeepsLoop op))

/-! ### When the connection comes up -/

@[simp] theorem connects_nil : connects [] = false := rfl

@[simp] theorem connects_append (first second : List Signal) :
    connects (first ++ second) = (connects first || connects second) := by
  simp [connects]

@[simp] theorem connects_connectionStateChanged (connected : Bool) (rest : List Signal) :
    connects (.connectionStateChanged connected :: rest) = (connected || connects rest) := by
  cases connected <;> rfl

@[simp] theorem connects_reconnectingChanged (reconnecting : Bool) (rest : List Signal) :
    connects (.reconnectingChanged reconnecting :: rest) = connects rest := rfl

@[simp] theorem connects_ite (p : Prop) [Decidable p] (first second : List Signal) :
    connects (if p then first else second) = if p then connects first else connects second :=
  apply_ite connects p first second

/-- An accepted report connects when it is a success and the connection is down. -/
theorem connects_report {s : ConnectionState} (hasync : s.asyncResult = true)
    (hawaiting : s.awaitingAsyncResult = true) (succeeded : Bool) :
    connects (reportPendingConnectResult succeeded s).2 = (succeeded && !s.connected) := by
  cases succeeded with
  | true => cases hold : s.connected <;> simp [reportPendingConnectResult, hasync, hawaiting, hold]
  | false =>
    cases hretry : s.asyncAutoRetryOnFailure <;> cases hloop : s.reconnecting <;>
      simp [reportPendingConnectResult, hasync, hawaiting, hretry, hloop]

/-- A connect call connects when it settles a success and the connection is down. -/
theorem connects_callConnect (call : ConnectCall) (s : ConnectionState) :
    connects (callConnect call s).2 = (settles s call == some true && !s.connected) := by
  rw [callConnect_eq]
  rcases hsettles : settles s call with _ | succeeded
  · rfl
  · obtain ⟨hasync, hawaiting, -⟩ := settles_some hsettles
    rw [connects_report hasync hawaiting]
    cases succeeded <;> rfl

/-- An asynchronous launch connects through the reports made inside it only. -/
theorem connects_async {s : ConnectionState} (hconnect : s.connect = true)
    (hasync : s.asyncResult = true) (call : ConnectCall) :
    let connected := settles s call == some true && !s.connected
    connects (connectNow call s).2.2 = connected ∧
    connects (beginAutoConnect call s).2 = connected ∧
    connects (reconnectTimeout call s).2 = connected := by
  have hstopped := (returned_handlers (s := (stopReconnecting s).1) (by simpa using hasync) call).2
  have hfired := (returned_handlers (s := { s with reconnectTimer := none }) hasync call).2
  have hcall := connects_callConnect call (stopReconnecting s).1
  have hretry : connects (callConnect call { s with reconnectTimer := none }).2 =
      (settles s call == some true && !s.connected) := connects_callConnect call _
  rw [settles_stopReconnecting] at hcall
  unfold returned at hstopped hfired
  refine ⟨?_, ?_, ?_⟩
  · cases hstarted : call.started <;> simp_all [connectNow]
  · cases hstarted : call.started <;> simp_all [beginAutoConnect]
  · cases hstarted : call.started <;> simp_all [reconnectTimeout, onReconnectTick]

/-- A synchronous attempt connects when it succeeds and the connection is down. -/
theorem connects_sync {s : ConnectionState} (hconnect : s.connect = true)
    (hsync : s.asyncResult = false) (call : ConnectCall) :
    connects (connectNow call s).2.2 = (call.started && !s.connected) ∧
    connects (beginAutoConnect call s).2 = (call.started && !s.connected) ∧
    connects (reconnectTimeout call s).2 = (call.started && !s.connected) := by
  have hstopped := callConnect_sync (s := (stopReconnecting s).1) (by simpa using hsync) call
  have hfired := callConnect_sync (s := { s with reconnectTimer := none }) hsync call
  cases hstarted : call.started <;> cases hold : s.connected <;>
    simp_all [connectNow, beginAutoConnect, reconnectTimeout, onReconnectTick]

/-- `connectNow` leaves the loop at once, and nothing but its attempt brings it back. -/
theorem connectNow_decides {w : Looped} (h : Inv w) (call : ConnectCall) :
    Decides w (.connectNow call) := by
  obtain ⟨hdown, htimer, hrunning, hawaited, hunset⟩ := h
  simp only [Decides, next_eq, observeLoop, observeAttempt, perform]
  cases hconnect : w.state.connect with
  | false =>
    rw [connectNow_unset hconnect]
    refine ⟨?_, fun hpersists => ?_⟩
    · constructor <;> grind [connects, stopReconnecting_fst, stopReconnecting_snd]
    · grind [KeepsLoop, Persists, connects, stopReconnecting_fst, stopReconnecting_snd]
  | true =>
    cases hasync : w.state.asyncResult with
    | false =>
      rw [(connects_sync hconnect hasync call).1, connectNow_sync hconnect hasync]
      refine ⟨?_, fun hpersists => ?_⟩
      · constructor <;> grind [startHeartbeat_eq, stopReconnecting_fst]
      · grind [KeepsLoop, Persists, startHeartbeat_eq, stopReconnecting_fst]
    | true =>
      have hstopped := settles_stopReconnecting w.state call
      rw [(connects_async hconnect hasync call).1, connectNow_async hconnect hasync]
      -- the callable settles nothing, a failure, or a success
      rcases hsettles : settles w.state call with _ | _ | _
      · rw [returned_none (hstopped.trans hsettles)]
        refine ⟨?_, fun hpersists => ?_⟩
        · constructor <;> grind [stopReconnecting_fst]
        · grind [KeepsLoop, Persists, Carries, settles, stopReconnecting_fst]
      · rw [returned_false (hstopped.trans hsettles)]
        refine ⟨?_, fun hpersists => ?_⟩
        · constructor <;> grind [startReconnecting_fst, stopReconnecting_fst]
        · grind [KeepsLoop, Persists, Carries, startReconnecting_fst, stopReconnecting_fst]
      · rw [returned_true (hstopped.trans hsettles), startHeartbeat_eq]
        refine ⟨?_, fun hpersists => ?_⟩
        · constructor <;> grind [stopReconnecting_fst]
        · grind [KeepsLoop, Persists, Carries, stopReconnecting_fst]

/-- `beginAutoConnect` leaves the loop too, but enters it again when its attempt fails. -/
theorem beginAutoConnect_decides {w : Looped} (h : Inv w) (call : ConnectCall) :
    Decides w (.beginAutoConnect call) := by
  obtain ⟨hdown, htimer, hrunning, hawaited, hunset⟩ := h
  simp only [Decides, next_eq, observeLoop, observeAttempt, perform]
  cases hconnect : w.state.connect with
  | false =>
    rw [beginAutoConnect_unset hconnect]
    refine ⟨?_, fun hpersists => ?_⟩
    · constructor <;> grind [Reaction.andThen_fst, startReconnecting_fst, stopReconnecting_fst]
    · grind [KeepsLoop, Persists, Reaction.andThen_fst, startReconnecting_fst, stopReconnecting_fst]
  | true =>
    cases hasync : w.state.asyncResult with
    | false =>
      rw [(connects_sync hconnect hasync call).2.1, beginAutoConnect_sync hconnect hasync]
      refine ⟨?_, fun hpersists => ?_⟩
      · constructor <;> grind [startHeartbeat_eq, startReconnecting_fst, stopReconnecting_fst]
      · grind [KeepsLoop, Persists, startHeartbeat_eq, startReconnecting_fst, stopReconnecting_fst]
    | true =>
      have hstopped := settles_stopReconnecting w.state call
      rw [(connects_async hconnect hasync call).2.1, beginAutoConnect_async hconnect hasync]
      rcases hsettles : settles w.state call with _ | _ | _
      · rw [returned_none (hstopped.trans hsettles)]
        refine ⟨?_, fun hpersists => ?_⟩
        · constructor <;> grind [startReconnecting_fst, stopReconnecting_fst]
        · grind [KeepsLoop, Persists, Carries, settles, startReconnecting_fst, stopReconnecting_fst]
      · rw [returned_false (hstopped.trans hsettles)]
        refine ⟨?_, fun hpersists => ?_⟩
        · constructor <;> grind [startReconnecting_fst, stopReconnecting_fst]
        · grind [KeepsLoop, Persists, Carries, startReconnecting_fst, stopReconnecting_fst]
      · rw [returned_true (hstopped.trans hsettles), startHeartbeat_eq]
        refine ⟨?_, fun hpersists => ?_⟩
        · constructor <;> grind [startReconnecting_fst, stopReconnecting_fst]
        · grind [KeepsLoop, Persists, Carries, startReconnecting_fst, stopReconnecting_fst]

/-- A retry leaves the loop only when it connects. -/
theorem reconnectTick_decides {w : Looped} (h : Inv w) (call : ConnectCall)
    (henabled : w.Enabled (.reconnectTick call)) : Decides w (.reconnectTick call) := by
  obtain ⟨hdown, htimer, hrunning, hawaited, hunset⟩ := h
  change w.state.reconnectTimer.isSome at henabled
  simp only [Decides, next_eq, observeLoop, observeAttempt, perform]
  cases hconnect : w.state.connect with
  | false =>
    rw [reconnectTimeout_unset hconnect]
    refine ⟨?_, fun hpersists => ?_⟩
    · constructor <;>
        grind [Reaction.silently_fst, Reaction.silently_snd, connects_nil, armNextRung]
    · grind [KeepsLoop, Persists, Reaction.silently_fst, armNextRung]
  | true =>
    cases hasync : w.state.asyncResult with
    | false =>
      rw [(connects_sync hconnect hasync call).2.2, reconnectTimeout_sync hconnect hasync]
      refine ⟨?_, fun hpersists => ?_⟩
      · constructor <;> grind [startHeartbeat_eq, armNextRung, stopReconnecting_fst]
      · grind [KeepsLoop, Persists, startHeartbeat_eq, armNextRung, stopReconnecting_fst]
    | true =>
      rw [(connects_async hconnect hasync call).2.2, reconnectTimeout_async hconnect hasync]
      rcases hsettles : settles w.state call with _ | _ | _
      · rw [returned_none (s := { w.state with reconnectTimer := none }) hsettles]
        refine ⟨?_, fun hpersists => ?_⟩
        · constructor <;> grind [armNextRung]
        · grind [KeepsLoop, Persists, armNextRung]
      · rw [returned_false (s := { w.state with reconnectTimer := none }) hsettles]
        refine ⟨?_, fun hpersists => ?_⟩
        · constructor <;> grind [armNextRung, startReconnecting_fst]
        · grind [KeepsLoop, Persists, armNextRung, startReconnecting_fst]
      · rw [returned_true (s := { w.state with reconnectTimer := none }) hsettles,
          startHeartbeat_eq]
        refine ⟨?_, fun hpersists => ?_⟩
        · constructor <;> grind [armNextRung]
        · grind [KeepsLoop, Persists, armNextRung]

/-- A report settles the awaited result, or is ignored. -/
theorem report_decides {w : Looped} (h : Inv w) (succeeded : Bool) :
    Decides w (.reportPendingConnectResult succeeded) := by
  obtain ⟨hdown, htimer, hrunning, hawaited, hunset⟩ := h
  simp only [Decides, next_eq, observeLoop, observeAttempt, perform]
  by_cases hignored : w.state.asyncResult = false ∨ w.state.awaitingAsyncResult = false
  · rw [reportPendingConnectResult_ignored hignored]
    refine ⟨?_, fun hpersists => ?_⟩
    · constructor <;> grind [connects_nil]
    · grind [KeepsLoop, Persists, connects_nil]
  · simp only [not_or, Bool.not_eq_false] at hignored
    obtain ⟨hasync, hawaiting⟩ := hignored
    rw [connects_report hasync hawaiting]
    cases succeeded with
    | true =>
      rw [reportPendingConnectResult_true hasync hawaiting, startHeartbeat_eq]
      refine ⟨?_, fun hpersists => ?_⟩
      · constructor <;> grind
      · grind [KeepsLoop, Persists]
    | false =>
      rw [reportPendingConnectResult_false hasync hawaiting]
      refine ⟨?_, fun hpersists => ?_⟩
      · constructor <;> grind [armNextRung, startReconnecting_fst]
      · grind [KeepsLoop, Persists, armNextRung, startReconnecting_fst]

/-- `disconnectNow` leaves no loop due. -/
theorem disconnectNow_decides (w : Looped) : Decides w .disconnectNow := by
  refine ⟨?_, fun _ => ?_⟩
  · constructor <;> simp [next_eq, observeLoop, observeAttempt, perform, disconnectNow]
  · simp [Persists, KeepsLoop, next_eq, observeLoop]

/-- The cadence has nothing to do with the loop. -/
theorem setHeartbeatIntervalMs_decides {w : Looped} (h : Inv w) (intervalMs : ℤ) :
    Decides w (.setHeartbeatIntervalMs intervalMs) := by
  obtain ⟨hdown, htimer, hrunning, hawaited, hunset⟩ := h
  simp only [Decides, next_eq, observeLoop, observeAttempt, perform, setHeartbeatIntervalMs,
    Reaction.silently_fst, Reaction.silently_snd, connects_nil]
  refine ⟨?_, fun hpersists => ?_⟩
  · constructor <;> grind
  · grind [KeepsLoop, Persists]

/-- A dead probe starts a loop, or starts it over. -/
theorem heartbeatTick_decides {w : Looped} (h : Inv w) (alive : Bool) :
    Decides w (.heartbeatTick alive) := by
  obtain ⟨hdown, htimer, hrunning, hawaited, hunset⟩ := h
  simp only [Decides, next_eq, observeLoop, observeAttempt, perform, onHeartbeatTick]
  refine ⟨?_, fun hpersists => ?_⟩
  · constructor <;>
      grind [connects_nil, Reaction.andThen_fst, startReconnecting_fst, setConnected_fst]
  · grind [KeepsLoop, Persists, connects_nil, Reaction.andThen_fst, startReconnecting_fst]

/-- Every enabled step decides whether the loop persists. -/
theorem decides_of_enabled {w : Looped} (h : Inv w) (op : Operation) (henabled : w.Enabled op) :
    Decides w op := by
  cases op with
  | connectNow call => exact connectNow_decides h call
  | beginAutoConnect call => exact beginAutoConnect_decides h call
  | disconnectNow => exact disconnectNow_decides w
  | setHeartbeatIntervalMs intervalMs => exact setHeartbeatIntervalMs_decides h intervalMs
  | reportPendingConnectResult succeeded => exact report_decides h succeeded
  | heartbeatTick alive => exact heartbeatTick_decides h alive
  | reconnectTick call => exact reconnectTick_decides h call henabled

/-- **What ends the loop.** In every run, in either mode, a loop that is due is running
in every state without an outstanding attempt if and only if every step keeps it. -/
theorem persists_iff_keepsLoop (connect probe disconnect asyncResult : Bool)
    (ops : List Operation)
    (henabled : machine.EachStep Enabled (fresh connect probe disconnect asyncResult) ops) :
    machine.EachState Persists (fresh connect probe disconnect asyncResult) ops ↔
      machine.EachStep KeepsLoop (fresh connect probe disconnect asyncResult) ops := by
  refine Mealy.eachState_iff_eachStep (I := fun w => Inv w ∧ Persists w) (fun _ h => h.2)
    (fun w op h hA hP => ?_) (fun w op h hA hnot => ?_)
    ⟨fresh_inv connect probe disconnect asyncResult, ?_⟩ henabled
  · have hdecides := decides_of_enabled h.1 op hA
    exact ⟨hdecides.1, (hdecides.2 h.2).mpr hP⟩
  · rwa [(decides_of_enabled h.1 op hA).2 h.2]
  · intro hloop
    simp [fresh] at hloop

/-- A failed start, and a manual attempt reported as a success. -/
theorem persists_retried :
    machine.EachState Persists (fresh true true true true)
      [.beginAutoConnect ⟨[], false⟩, .connectNow ⟨[], true⟩, .reportPendingConnectResult true] :=
  (persists_iff_keepsLoop true true true true _ (by decide)).mpr (by decide)

/-- A failed start, and a manual attempt that fails as well. -/
def impatientRun : List Operation := [.beginAutoConnect ⟨[], false⟩, .connectNow ⟨[], false⟩]

/-- The failed manual attempt has ended the loop for good. -/
theorem impatientRun_ends :
    ¬ ∀ connect probe disconnect asyncResult ops,
      machine.EachStep Enabled (fresh connect probe disconnect asyncResult) ops →
      machine.EachState Persists (fresh connect probe disconnect asyncResult) ops := by
  intro h
  have hrun := h true true true false impatientRun (by decide)
  exact absurd hrun (by decide)

end Looped

end QtAppBase.Core
