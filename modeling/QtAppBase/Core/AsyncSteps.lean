import QtAppBase.Core.ConnectionState

/-!
# The operations in asynchronous mode

With asynchronous results a launch leaves its outcome to a later report. These
are the states each report and each launching operation leads to, written as
closed forms over the state in which the connect callable returned.
-/

namespace QtAppBase.Core

open Library

namespace ConnectionState

/-- A report that nobody awaits is ignored. -/
theorem reportPendingConnectResult_ignored {s : ConnectionState}
    (h : s.asyncResult = false ∨ s.awaitingAsyncResult = false) (succeeded : Bool) :
    reportPendingConnectResult succeeded s = (s, []) := by
  rcases h with h | h <;> simp [reportPendingConnectResult, h]

/-- So are all the reports of a callable then. -/
theorem reportAll_ignored {s : ConnectionState}
    (h : s.asyncResult = false ∨ s.awaitingAsyncResult = false) (reports : List Bool) :
    reportAll reports s = (s, []) := by
  induction reports with
  | nil => rfl
  | cons succeeded rest ih =>
    simp [reportAll, reportPendingConnectResult_ignored h, ih, Reaction.andThen]

/-- An accepted success ends the loop and its timer. -/
theorem reportPendingConnectResult_true {s : ConnectionState} (hasync : s.asyncResult = true)
    (hawaiting : s.awaitingAsyncResult = true) :
    (reportPendingConnectResult true s).1 =
      startHeartbeat { s with
        awaitingAsyncResult := false
        reconnecting := false
        reconnectFailures := 0
        reconnectTimer := none
        connected := true } := by
  simp [reportPendingConnectResult, hasync, hawaiting]

/-- An accepted failure arms a rung exactly when automatic retry is on. -/
theorem reportPendingConnectResult_false {s : ConnectionState} (hasync : s.asyncResult = true)
    (hawaiting : s.awaitingAsyncResult = true) :
    (reportPendingConnectResult false s).1 =
      let down := { s with awaitingAsyncResult := false, connected := false }
      if s.asyncAutoRetryOnFailure then
        if s.reconnecting then armNextRung down else (startReconnecting down).1
      else down := by
  cases hretry : s.asyncAutoRetryOnFailure <;> cases hloop : s.reconnecting <;>
    simp [reportPendingConnectResult, hasync, hawaiting, hretry, hloop]

/-- After the report of a failure the connection is up only if the report was ignored. -/
theorem reportPendingConnectResult_false_up {s : ConnectionState}
    (h : (reportPendingConnectResult false s).1.connected = true) :
    (reportPendingConnectResult false s).1 = s := by
  by_cases hignored : s.asyncResult = false ∨ s.awaitingAsyncResult = false
  · rw [reportPendingConnectResult_ignored hignored]
  · simp only [not_or, Bool.not_eq_false] at hignored
    rw [reportPendingConnectResult_false hignored.1 hignored.2] at h
    dsimp only at h
    split_ifs at h <;> simp [armNextRung] at h

/-- After an accepted report nothing is awaited. -/
theorem reportPendingConnectResult_settled {s : ConnectionState} (hasync : s.asyncResult = true)
    (hawaiting : s.awaitingAsyncResult = true) (succeeded : Bool) :
    (reportPendingConnectResult succeeded s).1.awaitingAsyncResult = false := by
  cases succeeded with
  | true => simp [reportPendingConnectResult_true hasync hawaiting, startHeartbeat_eq]
  | false =>
    rw [reportPendingConnectResult_false hasync hawaiting]
    dsimp only
    split_ifs <;> simp [armNextRung]

/-- The awaited result that a connect callable settles from inside its call, if any. -/
def settles (s : ConnectionState) (call : ConnectCall) : Option Bool :=
  if s.asyncResult && s.awaitingAsyncResult then call.reports.head? else none

/-- Leaving the loop does not change what a call settles. -/
theorem settles_stopReconnecting (s : ConnectionState) (call : ConnectCall) :
    settles (stopReconnecting s).1 call = settles s call := by
  simp [settles]

/-- Only an asynchronous object that awaits a result has one settled. -/
theorem settles_some {s : ConnectionState} {call : ConnectCall} {succeeded : Bool}
    (h : settles s call = some succeeded) :
    s.asyncResult = true ∧ s.awaitingAsyncResult = true ∧ call.reports.head? = some succeeded := by
  unfold settles at h
  split at h
  · next hawaits => simp_all
  · cases h

/-- A connect call does no more to this object than settle the result that was awaited. -/
theorem callConnect_eq (call : ConnectCall) (s : ConnectionState) :
    callConnect call s =
      match settles s call with
      | none => (s, [])
      | some succeeded => reportPendingConnectResult succeeded s := by
  obtain ⟨reports, started⟩ := call
  unfold callConnect
  by_cases hignored : s.asyncResult = false ∨ s.awaitingAsyncResult = false
  · rw [reportAll_ignored hignored]
    rcases hignored with h | h <;> simp [settles, h]
  · simp only [not_or, Bool.not_eq_false] at hignored
    obtain ⟨hasync, hawaiting⟩ := hignored
    match reports with
    | [] => simp [settles, reportAll]
    | succeeded :: rest =>
      have hsettled := reportPendingConnectResult_settled hasync hawaiting succeeded
      simp [settles, hasync, hawaiting, reportAll, Reaction.andThen,
        reportAll_ignored (Or.inr hsettled)]

/-- The state when the connect callable of an operation returns. -/
def returned (call : ConnectCall) (s : ConnectionState) : ConnectionState := (callConnect call s).1

/-- A callable that settles nothing returns to the same state. -/
theorem returned_none {s : ConnectionState} {call : ConnectCall} (h : settles s call = none) :
    returned call s = s := by
  rw [returned, callConnect_eq, h]

/-- One that settles a success has ended the loop. -/
theorem returned_true {s : ConnectionState} {call : ConnectCall} (h : settles s call = some true) :
    returned call s =
      startHeartbeat { s with
        awaitingAsyncResult := false
        reconnecting := false
        reconnectFailures := 0
        reconnectTimer := none
        connected := true } := by
  obtain ⟨hasync, hawaiting, _⟩ := settles_some h
  rw [returned, callConnect_eq, h, ← reportPendingConnectResult_true hasync hawaiting]

/-- One that settles a failure has armed a rung exactly when automatic retry is on. -/
theorem returned_false {s : ConnectionState} {call : ConnectCall}
    (h : settles s call = some false) :
    returned call s =
      let down := { s with awaitingAsyncResult := false, connected := false }
      if s.asyncAutoRetryOnFailure then
        if s.reconnecting then armNextRung down else (startReconnecting down).1
      else down := by
  obtain ⟨hasync, hawaiting, _⟩ := settles_some h
  rw [returned, callConnect_eq, h, ← reportPendingConnectResult_false hasync hawaiting]

/-- Reports made from inside a call leave the handlers and the mode alone. -/
theorem returned_handlers {s : ConnectionState} (hasync : s.asyncResult = true)
    (call : ConnectCall) :
    (returned call s).connect = s.connect ∧ (returned call s).asyncResult = true := by
  have hhandlers := callConnect_handlers call s
  simp only [handlers, Prod.mk.injEq, hasync] at hhandlers
  exact ⟨hhandlers.1, hhandlers.2.2.2⟩

/-- `connectNow` leaves the loop, calls, and awaits without automatic retry. -/
theorem connectNow_async {s : ConnectionState} (hconnect : s.connect = true)
    (hasync : s.asyncResult = true) (call : ConnectCall) :
    (connectNow call s).2.1 =
      let t := returned call (stopReconnecting s).1
      { t with
        awaitingAsyncResult := call.started
        asyncAutoRetryOnFailure := false
        connected := call.started && t.connected } := by
  have hstopped : (stopReconnecting s).1.asyncResult = true := by simpa using hasync
  have hmode := (returned_handlers hstopped call).2
  unfold returned at hmode ⊢
  cases hstarted : call.started <;> simp_all [connectNow]

/-- `beginAutoConnect` leaves the loop, calls, and awaits with automatic retry;
an attempt that was not launched enters the loop at once. -/
theorem beginAutoConnect_async {s : ConnectionState} (hconnect : s.connect = true)
    (hasync : s.asyncResult = true) (call : ConnectCall) :
    (beginAutoConnect call s).1 =
      let t := returned call (stopReconnecting s).1
      let t := { t with awaitingAsyncResult := call.started, asyncAutoRetryOnFailure := true }
      if call.started then t else (startReconnecting { t with connected := false }).1 := by
  have hstopped : (stopReconnecting s).1.asyncResult = true := by simpa using hasync
  have hmode := (returned_handlers hstopped call).2
  unfold returned at hmode ⊢
  cases hstarted : call.started <;> simp_all [beginAutoConnect]

/-- A retry awaits with automatic retry; one that was not launched climbs a rung. -/
theorem reconnectTimeout_async {s : ConnectionState} (hconnect : s.connect = true)
    (hasync : s.asyncResult = true) (call : ConnectCall) :
    (reconnectTimeout call s).1 =
      let t := returned call { s with reconnectTimer := none }
      let t := { t with awaitingAsyncResult := call.started, asyncAutoRetryOnFailure := true }
      if call.started then t else armNextRung t := by
  have hmode := (returned_handlers (s := { s with reconnectTimer := none }) hasync call).2
  unfold returned at hmode ⊢
  cases hstarted : call.started <;> simp_all [reconnectTimeout, onReconnectTick]

end ConnectionState

end QtAppBase.Core
