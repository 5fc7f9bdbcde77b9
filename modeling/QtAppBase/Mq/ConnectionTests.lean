import QtAppBase.Core.AsyncSteps
import QtAppBase.Mq.SettingsDialog

/-!
# Connection tests

Between two polls the connection under test connects, fails, retries and is dropped
as the broker and the network will have it. Whatever they do, a test comes to one
verdict, in time, and the verdict says what was reported on this very connection.
-/

namespace QtAppBase.Mq

open Library QtAppBase.Core Qt

variable {α : Type*}

/-! ### The connection under test -/

/-- The text of the error that an event reports. -/
def Event.error? : Event → Option QString
  | .socketError error _ => some error
  | .amqpError message => some message
  | .reconnectTick (.failed error) => some error
  | _ => none

/-- The error reported last among some events, if any. -/
def lastError (events : List Event) : QString := (events.filterMap Event.error?).getLastD ""

/-- The text of the error that a launch fails with. -/
def launchError? : Launch → Option QString
  | .started => none
  | .failed error => some error

/-- The error reported last since the launch, if any. -/
def lastErrorSince (launch : Launch) (events : List Event) : QString :=
  ((launchError? launch).toList ++ events.filterMap Event.error?).getLastD ""

theorem lastError_quiet {events : List Event} {e : Event} (he : e.error? = none) :
    lastError (events ++ [e]) = lastError events := by
  rw [lastError, List.filterMap_append, List.filterMap_cons_none he, List.filterMap_nil,
    List.append_nil, lastError]

theorem lastError_reported {events : List Event} {e : Event} {error : QString}
    (he : e.error? = some error) : lastError (events ++ [e]) = error := by
  rw [lastError, List.filterMap_append, List.filterMap_cons_some he, List.filterMap_nil,
    List.getLastD_concat]

theorem lastErrorSince_quiet {launch : Launch} {events : List Event} {e : Event}
    (he : e.error? = none) :
    lastErrorSince launch (events ++ [e]) = lastErrorSince launch events := by
  rw [lastErrorSince, List.filterMap_append, List.filterMap_cons_none he, List.filterMap_nil,
    List.append_nil, lastErrorSince]

theorem lastErrorSince_reported {launch : Launch} {events : List Event} {e : Event}
    {error : QString} (he : e.error? = some error) :
    lastErrorSince launch (events ++ [e]) = error := by
  rw [lastErrorSince, List.filterMap_append, List.filterMap_cons_some he, List.filterMap_nil,
    ← List.append_assoc, List.getLastD_concat]

/-- The library reported that the connection is ready, and this error is the last since. -/
def Readied (events : List Event) (error : QString) : Prop :=
  ∃ before after, events = before ++ .amqpReady :: after ∧ lastError after = error

/-- What the events since its launch have made of a connection under test. -/
structure Tested (launch : Launch) (past : List Event) (c : MqConnection α) : Prop where
  connect : c.state.connect = true
  asyncResult : c.state.asyncResult = true
  /-- One that is ready retries nothing and awaits nothing. -/
  settled : c.isReady = true →
    c.state.reconnectTimer = none ∧ c.state.awaitingAsyncResult = false
  readied : c.isReady = true → Readied past c.error
  reported : c.error = "" ∨ c.error = lastErrorSince launch past

section Steps

variable {launch : Launch} {past : List Event} {c d : MqConnection α} {e : Event}

/-- Only reports make a connection ready, and nothing but an error and a retry touches its text:
this is all that the other events do. -/
theorem Tested.moved (h : Tested launch past c) (hconnect : d.state.connect = true)
    (hasync : d.state.asyncResult = true)
    (herror : e.error? = none ∧ d.error = c.error ∨ e.error? = some d.error)
    (hready : d.isReady = true → c.isReady = true ∧
      d.state.reconnectTimer = none ∧ d.state.awaitingAsyncResult = false) :
    Tested launch (past ++ [e]) d := by
  refine ⟨hconnect, hasync, fun hd => (hready hd).2, fun hd => ?_, ?_⟩
  · obtain ⟨before, after, hpast, hlast⟩ := h.readied (hready hd).1
    refine ⟨before, after ++ [e], by rw [hpast, List.append_assoc, List.cons_append], ?_⟩
    rcases herror with ⟨hquiet, hsame⟩ | hreported
    · rw [lastError_quiet hquiet, hlast, hsame]
    · exact lastError_reported hreported
  · rcases herror with ⟨hquiet, hsame⟩ | hreported
    · rw [hsame, lastErrorSince_quiet hquiet]
      exact h.reported
    · exact Or.inr (lastErrorSince_reported hreported).symm

/-- An event that leaves `state_` and the error alone. -/
theorem Tested.same (h : Tested launch past c) (hstate : d.state = c.state)
    (herror : d.error = c.error) (he : e.error? = none) : Tested launch (past ++ [e]) d := by
  have hready : d.isReady = c.isReady := congrArg ConnectionState.connected hstate
  refine h.moved (by rw [hstate, h.connect]) (by rw [hstate, h.asyncResult])
    (Or.inl ⟨he, herror⟩) fun hd => ?_
  rw [hready] at hd
  rw [hstate]
  exact ⟨hd, h.settled hd⟩

/-- A report leaves the handlers alone. -/
theorem report_kept (succeeded : Bool) (s : ConnectionState) :
    (ConnectionState.reportPendingConnectResult succeeded s).1.connect = s.connect ∧
    (ConnectionState.reportPendingConnectResult succeeded s).1.asyncResult = s.asyncResult := by
  have hkept := ConnectionState.reportPendingConnectResult_handlers succeeded s
  simp only [ConnectionState.handlers, Prod.mk.injEq] at hkept
  exact ⟨hkept.1, hkept.2.2.2⟩

/-- An error, with or without the report of a failure. -/
theorem Tested.failure (h : Tested launch past c) {f : MqConnection α} {error : QString}
    (hstate : f.state = c.state) (herror : f.error = error) (he : e.error? = some error)
    (pending : Bool) :
    Tested launch (past ++ [e]) (if pending then
        MqConnection.onState (ConnectionState.reportPendingConnectResult false) f
      else (f, [])).1 := by
  have hready : f.isReady = c.isReady := congrArg ConnectionState.connected hstate
  cases pending with
  | false =>
    refine h.moved (by simpa [hstate] using h.connect) (by simpa [hstate] using h.asyncResult)
      (Or.inr (by simpa [herror] using he)) fun hd => ?_
    have hc : c.isReady = true := by simpa [hready] using hd
    exact ⟨hc, by simpa [hstate] using h.settled hc⟩
  | true =>
    obtain ⟨hconnect, hasync⟩ := report_kept false c.state
    refine h.moved ?_ ?_ (Or.inr (by simpa [MqConnection.onState, herror] using he)) fun hd => ?_
    · simpa [MqConnection.onState, hstate, hconnect] using h.connect
    · simpa [MqConnection.onState, hstate, hasync] using h.asyncResult
    · have hreport : (ConnectionState.reportPendingConnectResult false c.state).1.connected =
          true := by simpa [MqConnection.isReady, MqConnection.onState, hstate] using hd
      have hsame := ConnectionState.reportPendingConnectResult_false_up hreport
      have hc : c.isReady = true := by rw [MqConnection.isReady, ← hsame, hreport]
      refine ⟨hc, ?_⟩
      simpa [MqConnection.onState, hstate, hsame] using h.settled hc

/-- A connect call makes no connection ready. -/
theorem returned_down (launch : Launch) {s : ConnectionState} (hdown : s.connected = false) :
    (ConnectionState.returned (MqConnection.connectCall launch) s).connected = false := by
  cases hsettles : ConnectionState.settles s (MqConnection.connectCall launch) with
  | none => rw [ConnectionState.returned_none hsettles, hdown]
  | some succeeded =>
    cases succeeded with
    | true =>
      obtain ⟨-, -, hhead⟩ := ConnectionState.settles_some hsettles
      cases launch <;> cases hhead
    | false =>
      rw [ConnectionState.returned_false hsettles]
      dsimp only
      split_ifs <;> simp [ConnectionState.armNextRung]

/-- A connect callable leaves `state_` alone, and its error is that of the launch. -/
theorem connectFn_kept (launch : Launch) (c : MqConnection α) :
    (c.connectFn launch).state = c.state ∧
    (c.connectFn launch).error = (launchError? launch).getD "" := by
  cases launch <;> exact ⟨rfl, rfl⟩

/-- A connection whose connect callable has just returned is not ready, and it has no error but
that of the launch. -/
theorem tested_attempt {t : ConnectionState} (hdown : t.connected = false)
    (hconnect : t.connect = true) (hasync : t.asyncResult = true) {attempt : Launch}
    (hstate : d.state = { ConnectionState.returned (MqConnection.connectCall attempt) t with
      awaitingAsyncResult := true, asyncAutoRetryOnFailure := true })
    (herror : d.error = (launchError? attempt).getD "")
    (hlast : ∀ error, launchError? attempt = some error → lastErrorSince launch past = error) :
    Tested launch past d := by
  obtain ⟨hset, hmode⟩ :=
    ConnectionState.returned_handlers hasync (MqConnection.connectCall attempt)
  have hnot : d.isReady = false := by
    rw [MqConnection.isReady, hstate]
    exact returned_down attempt hdown
  refine ⟨?_, ?_, fun hready => ?_, fun hready => ?_, ?_⟩
  · rw [hstate]
    exact hset.trans hconnect
  · rw [hstate]
    exact hmode
  · rw [hnot] at hready
    cases hready
  · rw [hnot] at hready
    cases hready
  · rw [herror]
    cases hfailed : launchError? attempt with
    | none => exact Or.inl rfl
    | some error => exact Or.inr (hlast error hfailed).symm

/-- The library reports that the connection is ready. -/
theorem Tested.onReady (h : Tested launch past c) :
    Tested launch (past ++ [.amqpReady]) c.onReady.1 := by
  obtain ⟨hconnect, hasync⟩ := report_kept true c.state
  refine ⟨by rw [← h.connect, ← hconnect]; rfl, by rw [← h.asyncResult, ← hasync]; rfl, ?_,
    fun _ => ⟨past, [], rfl, rfl⟩, Or.inl rfl⟩
  intro hready
  change (ConnectionState.reportPendingConnectResult true c.state).1.connected = true at hready
  change (ConnectionState.reportPendingConnectResult true c.state).1.reconnectTimer = none ∧
    (ConnectionState.reportPendingConnectResult true c.state).1.awaitingAsyncResult = false
  cases hawaiting : c.state.awaitingAsyncResult with
  | false =>
    rw [ConnectionState.reportPendingConnectResult_ignored (Or.inr hawaiting)] at hready ⊢
    exact h.settled hready
  | true =>
    rw [ConnectionState.reportPendingConnectResult_true h.asyncResult hawaiting]
    simp [ConnectionState.startHeartbeat_eq]

/-- A failed probe enters the reconnect loop. -/
theorem Tested.heartbeatTick (h : Tested launch past c) (alive : Bool) :
    Tested launch (past ++ [.heartbeatTick])
      (MqConnection.onState (ConnectionState.onHeartbeatTick alive) c).1 := by
  by_cases hkept : (!c.state.probe || alive) = true
  · refine h.same ?_ rfl rfl
    change (ConnectionState.onHeartbeatTick alive c.state).1 = c.state
    rw [ConnectionState.onHeartbeatTick, if_pos hkept]
  · have hlost : (ConnectionState.onHeartbeatTick alive c.state).1 =
        { c.state with
          heartbeatTimer := none
          connected := false
          reconnecting := true
          reconnectFailures := 0
          reconnectTimer := some (reconnectDelayMs 0) } := by
      rw [ConnectionState.onHeartbeatTick, if_neg hkept]
      simp
    refine h.moved ?_ ?_ (Or.inl ⟨rfl, rfl⟩) fun hd => ?_
    · change (ConnectionState.onHeartbeatTick alive c.state).1.connect = true
      rw [hlost, ← h.connect]
    · change (ConnectionState.onHeartbeatTick alive c.state).1.asyncResult = true
      rw [hlost, ← h.asyncResult]
    · change (ConnectionState.onHeartbeatTick alive c.state).1.connected = true at hd
      rw [hlost] at hd
      cases hd

/-- A retry clears the error, or reports its own. -/
theorem Tested.reconnectTick (h : Tested launch past c) (hactive : c.state.reconnectTimer.isSome)
    (retry : Launch) :
    Tested launch (past ++ [.reconnectTick retry]) (c.onReconnectTick retry).1 := by
  have hdown : c.state.connected = false := by
    by_contra hready
    rw [(h.settled (Bool.not_eq_false _ ▸ hready)).1] at hactive
    cases hactive
  -- the disconnect callable, if there is one
  obtain ⟨f, hf, hstate⟩ : ∃ f : MqConnection α,
      f = (if c.state.disconnect then c.disconnectFn else c) ∧ f.state = c.state := by
    refine ⟨_, rfl, ?_⟩
    split_ifs <;> rfl
  have hconnect : f.state.connect = true := by rw [hstate, h.connect]
  obtain ⟨hkept, herror⟩ := connectFn_kept retry f
  have hr : c.onReconnectTick retry =
      MqConnection.onState (ConnectionState.reconnectTimeout (MqConnection.connectCall retry))
        (f.connectFn retry) := by
    unfold MqConnection.onReconnectTick
    rw [← hf]
    dsimp only
    rw [if_pos hconnect]
  have hlaunched : (MqConnection.connectCall retry).started = true := by cases retry <;> rfl
  have hafter : (c.onReconnectTick retry).1.state =
      { ConnectionState.returned (MqConnection.connectCall retry)
          { c.state with reconnectTimer := none } with
        awaitingAsyncResult := true
        asyncAutoRetryOnFailure := true } := by
    rw [hr]
    change (ConnectionState.reconnectTimeout _ (f.connectFn retry).state).1 = _
    rw [hkept, hstate, ConnectionState.reconnectTimeout_async h.connect h.asyncResult]
    dsimp only
    rw [hlaunched, if_pos rfl]
  refine tested_attempt (t := { c.state with reconnectTimer := none }) hdown h.connect
    h.asyncResult hafter (by rw [hr]; exact herror) fun error hfailed => ?_
  cases retry with
  | started => cases hfailed
  | failed text =>
    cases hfailed
    exact lastErrorSince_reported rfl

/-- What can happen to a connection under test keeps it that. -/
theorem Tested.handle (lib : AmqpLibrary α) (h : Tested launch past c) (henabled : c.Enabled e)
    (hown : e.isConnect = false) : Tested launch (past ++ [e]) (c.handle lib e).1 := by
  cases e with
  | connectToHost host port vhost user password launch => cases hown
  | socketConnected => exact h.same rfl rfl rfl
  | socketError error dropped =>
    exact h.failure
      (f := { c.failed error with socket := if dropped then c.socket.drop else c.socket })
      rfl rfl rfl c.connectAttemptPending
  | socketDisconnected => exact h.same rfl rfl rfl
  | readyRead chunk => exact h.same rfl rfl rfl
  | heartbeatTimeout =>
    refine h.same ?_ ?_ rfl
    · change c.onHeartbeatTimeout.1.state = c.state
      unfold MqConnection.onHeartbeatTimeout
      split_ifs <;> rfl
    · change c.onHeartbeatTimeout.1.error = c.error
      unfold MqConnection.onHeartbeatTimeout
      split_ifs <;> rfl
  | amqpData data => exact h.same rfl rfl rfl
  | amqpReady => exact h.onReady
  | amqpError message =>
    exact h.failure (f := c.failed message) rfl rfl rfl c.connectAttemptPending
  | amqpClosed => exact h.same rfl rfl rfl
  | amqpNegotiate interval => exact h.same rfl rfl rfl
  | heartbeatTick => exact h.heartbeatTick c.probeFn
  | reconnectTick retry => exact h.reconnectTick henabled retry

end Steps

/-- A connection that has just been launched. -/
theorem tested_launched (host : QString) (port : UInt16) (vhost user password : QString)
    (launch : Launch) :
    Tested launch []
      (({} : MqConnection α).connectToHost host port vhost user password launch).1 := by
  obtain ⟨c, hc⟩ : ∃ c : MqConnection α, c =
      { host := host, port := port, vhost := vhost, user := user, password := password
        state := ({} : ConnectionState).setHandlers true true true true } := ⟨_, rfl⟩
  have hstate : c.state = ({} : ConnectionState).setHandlers true true true true := by rw [hc]
  obtain ⟨hkept, herror⟩ := connectFn_kept launch c
  have hr : ({} : MqConnection α).connectToHost host port vhost user password launch =
      MqConnection.onState (ConnectionState.beginAutoConnect (MqConnection.connectCall launch))
        (c.connectFn launch) := by
    rw [hc]
    rfl
  have hlaunched : (MqConnection.connectCall launch).started = true := by cases launch <;> rfl
  have hconnect : c.state.connect = true := by rw [hstate]; rfl
  have hasync : c.state.asyncResult = true := by rw [hstate]; rfl
  have hafter : (({} : MqConnection α).connectToHost host port vhost user password launch).1.state =
      { ConnectionState.returned (MqConnection.connectCall launch)
          (ConnectionState.stopReconnecting c.state).1 with
        awaitingAsyncResult := true
        asyncAutoRetryOnFailure := true } := by
    rw [hr]
    change (ConnectionState.beginAutoConnect _ (c.connectFn launch).state).1 = _
    rw [hkept, ConnectionState.beginAutoConnect_async hconnect hasync]
    dsimp only
    rw [hlaunched, if_pos rfl]
  refine tested_attempt (t := (ConnectionState.stopReconnecting c.state).1) ?_ ?_ ?_ hafter
    (by rw [hr]; exact herror) fun error hfailed => ?_
  · rw [hstate]
    rfl
  · simpa using hconnect
  · simpa using hasync
  · rw [lastErrorSince, hfailed]
    rfl

/-! ### Tests -/

/-- The event of the connection under test. -/
def DialogEvent.connection? : DialogEvent → Option Event
  | .connection event => some event
  | _ => none

/-- The poll timer fires. -/
def DialogEvent.isPoll : DialogEvent → Bool
  | .pollTimeout => true
  | _ => false

/-- A test is started. -/
def DialogEvent.isStart : DialogEvent → Bool
  | .testClicked _ => true
  | _ => false

/-- The verdict on a test. -/
def DialogEffect.verdict? : DialogEffect → Option (Bool × QString)
  | .finishTest ok message => some (ok, message)
  | .connection _ => none

/-- What happened to the connection under test. -/
def connectionEvents (past : List DialogEvent) : List Event :=
  past.filterMap DialogEvent.connection?

/-- How often it was polled. -/
def polls (past : List DialogEvent) : ℕ := past.countP DialogEvent.isPoll

/-- What a verdict rests on, when these events have happened since the test was started: the
library has reported that the connection is ready, and no error since; or this is the error
reported last; or 24 polls have found neither. -/
inductive Founded (launch : Launch) (past : List DialogEvent) : Bool → QString → Prop where
  | succeeded (h : Readied (connectionEvents past) "") :
    Founded launch past true MqSettingsDialog.succeededText
  | failed (h : lastErrorSince launch (connectionEvents past) ≠ "") :
    Founded launch past false (lastErrorSince launch (connectionEvents past))
  | timedOut (h : polls past = 24) : Founded launch past false MqSettingsDialog.timedOutText

theorem polls_concat (past : List DialogEvent) (e : DialogEvent) :
    polls (past ++ [e]) = polls past + if e.isPoll then 1 else 0 := by
  rw [polls, List.countP_append, List.countP_singleton, polls]

theorem connectionEvents_concat (past : List DialogEvent) (e : DialogEvent) :
    connectionEvents (past ++ [e]) = connectionEvents past ++ e.connection?.toList := by
  rw [connectionEvents, List.filterMap_append, connectionEvents]
  cases h : e.connection? <;> simp [h]

namespace MqSettingsDialog

/-- A test is under way since these events. -/
structure Testing (launch : Launch) (past : List DialogEvent) (d : MqSettingsDialog α) : Prop where
  tested : ∃ c, d.testConnection = some c ∧ Tested launch (connectionEvents past) c
  testPoll : d.testPoll = true
  elapsed : d.testElapsedMs = kTestPollIntervalMs * polls past
  within : polls past < 25

/-- No test is under way. -/
structure Over (d : MqSettingsDialog α) : Prop where
  testConnection : d.testConnection = none
  testPoll : d.testPoll = false

variable {launch : Launch} {past : List DialogEvent} {d f : MqSettingsDialog α} {e : DialogEvent}

/-- An event that has nothing to do with the test. -/
theorem Testing.same (h : Testing launch past d) (hconnection : f.testConnection = d.testConnection)
    (hpoll : f.testPoll = d.testPoll) (helapsed : f.testElapsedMs = d.testElapsedMs)
    (he : e.connection? = none) (hquiet : e.isPoll = false) : Testing launch (past ++ [e]) f := by
  have hpolls : polls (past ++ [e]) = polls past := by
    rw [polls_concat, hquiet]
    rfl
  have hevents : connectionEvents (past ++ [e]) = connectionEvents past := by
    rw [connectionEvents_concat, he]
    exact List.append_nil _
  constructor
  · rw [hconnection, hevents]
    exact h.tested
  · rw [hpoll, h.testPoll]
  · rw [helapsed, h.elapsed, hpolls]
  · rw [hpolls]
    exact h.within

/-- A poll finishes the test, with a verdict that it has a reason for, or counts. -/
theorem Testing.pollTest (h : Testing launch past d) :
    Testing launch (past ++ [.pollTimeout]) d.pollTest.1 ∧ d.pollTest.2 = [] ∨
    Over d.pollTest.1 ∧
      ∃ ok message, d.pollTest.2 = [.finishTest ok message] ∧ Founded launch past ok message := by
  obtain ⟨c, hc, htested⟩ := h.tested
  have helapsed := h.elapsed
  have hwithin := h.within
  have hpolls : polls (past ++ [.pollTimeout]) = polls past + 1 := polls_concat past .pollTimeout
  unfold MqSettingsDialog.pollTest
  rw [hc]
  dsimp only
  by_cases herror : c.error = ""
  · rw [if_neg (not_not.mpr herror)]
    by_cases hready : c.isReady = true
    · rw [if_pos hready]
      have hreadied := htested.readied hready
      rw [herror] at hreadied
      exact Or.inr ⟨⟨rfl, rfl⟩, true, succeededText, rfl, .succeeded hreadied⟩
    · rw [if_neg hready]
      have htimeout : kTestTimeoutMs = 5000 := rfl
      have hinterval : kTestPollIntervalMs = 200 := rfl
      by_cases hlate : kTestTimeoutMs ≤ d.testElapsedMs + kTestPollIntervalMs
      · rw [if_pos hlate]
        rw [helapsed, htimeout, hinterval] at hlate
        exact Or.inr ⟨⟨rfl, rfl⟩, false, timedOutText, rfl, .timedOut (by omega)⟩
      · rw [if_neg hlate]
        refine Or.inl ⟨⟨⟨c, rfl, ?_⟩, h.testPoll, ?_, ?_⟩, rfl⟩
        · rw [connectionEvents_concat]
          exact (List.append_nil _).symm ▸ htested
        · change d.testElapsedMs + kTestPollIntervalMs = _
          rw [hpolls, helapsed, Nat.mul_succ]
        · rw [helapsed, htimeout, hinterval] at hlate
          omega
  · rw [if_pos herror]
    have hlast : c.error = lastErrorSince launch (connectionEvents past) :=
      htested.reported.resolve_left herror
    refine Or.inr ⟨⟨rfl, rfl⟩, false, c.error, rfl, ?_⟩
    rw [hlast] at herror ⊢
    exact .failed herror

/-- The connection under test goes on. -/
theorem Testing.connection (lib : AmqpLibrary α) (h : Testing launch past d) {event : Event}
    (he : d.Enabled (.connection event)) :
    Testing launch (past ++ [.connection event]) (d.handle lib (.connection event)).1 ∧
      (d.handle lib (.connection event)).2.filterMap DialogEffect.verdict? = [] := by
  obtain ⟨c, hc, htested⟩ := h.tested
  obtain ⟨hown, henabled⟩ := he
  rw [hc] at henabled
  have hpolls : polls (past ++ [.connection event]) = polls past :=
    polls_concat past (.connection event)
  unfold handle
  dsimp only
  rw [hc]
  dsimp only
  refine ⟨⟨⟨_, rfl, ?_⟩, h.testPoll, ?_, ?_⟩, ?_⟩
  · rw [connectionEvents_concat]
    exact htested.handle lib henabled hown
  · rw [hpolls, ← h.elapsed]
  · rw [hpolls]
    exact h.within
  · rw [List.filterMap_map]
    exact List.filterMap_eq_nil_iff.mpr fun _ _ => rfl

/-- An event of a test that is under way. -/
theorem Testing.handle (lib : AmqpLibrary α) (h : Testing launch past d) (he : d.Enabled e)
    (hstart : e.isStart = false) :
    Testing launch (past ++ [e]) (d.handle lib e).1 ∧
        (d.handle lib e).2.filterMap DialogEffect.verdict? = [] ∨
      e = .pollTimeout ∧ Over (d.handle lib e).1 ∧ ∃ ok message,
        (d.handle lib e).2 = [.finishTest ok message] ∧ Founded launch past ok message := by
  cases e with
  | testClicked launch => cases hstart
  | pollTimeout =>
    rcases h.pollTest with ⟨htesting, hsilent⟩ | hover
    · refine Or.inl ⟨htesting, ?_⟩
      change d.pollTest.2.filterMap DialogEffect.verdict? = []
      rw [hsilent]
      rfl
    · exact Or.inr ⟨rfl, hover⟩
  | connection event => exact Or.inl (h.connection lib he)
  | edited field text => cases field <;> exact Or.inl ⟨h.same rfl rfl rfl rfl rfl, rfl⟩
  | saveClicked => exact Or.inl ⟨h.same rfl rfl rfl rfl rfl, rfl⟩

/-- Between two tests there is nothing to poll. -/
theorem Over.handle (lib : AmqpLibrary α) (h : Over d) (he : d.Enabled e)
    (hstart : e.isStart = false) :
    Over (d.handle lib e).1 ∧ (d.handle lib e).2 = [] ∧ e.isPoll = false := by
  cases e with
  | testClicked launch => cases hstart
  | pollTimeout =>
    have hpoll : d.testPoll = true := he
    rw [h.testPoll] at hpoll
    cases hpoll
  | connection event =>
    have hnone := he.2
    rw [h.testConnection] at hnone
    exact hnone.elim
  | edited field text => cases field <;> exact ⟨⟨h.testConnection, h.testPoll⟩, rfl, rfl⟩
  | saveClicked => exact ⟨⟨h.testConnection, h.testPoll⟩, rfl, rfl⟩

/-- Without another test, that lasts. -/
theorem Over.after (lib : AmqpLibrary α) {events : List DialogEvent} (h : Over d)
    (hstart : ∀ e ∈ events, e.isStart = false) (hrun : (machine lib).EachStep Enabled d events) :
    Over ((machine lib).after d events) ∧ (machine lib).emitted d events = [] ∧
      polls events = 0 := by
  induction events generalizing d with
  | nil => exact ⟨h, rfl, rfl⟩
  | cons e events ih =>
    obtain ⟨hfirst, hlater⟩ := List.forall_mem_cons.mp hstart
    obtain ⟨hnext, hsilent, hquiet⟩ := h.handle lib hrun.1 hfirst
    obtain ⟨hover, hemitted, hpolls⟩ := ih hnext hlater hrun.2
    refine ⟨hover, ?_, ?_⟩
    · have hlast : (machine lib).emitted ((machine lib).next d e) events = [] := hemitted
      rw [Mealy.emitted_cons, hlast, List.append_nil]
      exact hsilent
    · rw [polls, List.countP_cons_of_neg (by simp [hquiet])]
      exact hpolls

/-- What a test that is under way comes to: it goes on without a verdict, or one of the polls to
come ends it with its only one. -/
theorem Testing.after (lib : AmqpLibrary α) {events : List DialogEvent}
    (h : Testing launch past d) (hstart : ∀ e ∈ events, e.isStart = false)
    (hrun : (machine lib).EachStep Enabled d events) :
    Testing launch (past ++ events) ((machine lib).after d events) ∧
        ((machine lib).emitted d events).filterMap DialogEffect.verdict? = [] ∨
      Over ((machine lib).after d events) ∧ ∃ before after ok message,
        events = before ++ .pollTimeout :: after ∧ polls (past ++ before) < 25 ∧
        polls after = 0 ∧
        ((machine lib).emitted d events).filterMap DialogEffect.verdict? = [(ok, message)] ∧
        Founded launch (past ++ before) ok message := by
  induction events generalizing d past with
  | nil =>
    rw [List.append_nil]
    exact Or.inl ⟨h, rfl⟩
  | cons e events ih =>
    obtain ⟨hfirst, hlater⟩ := List.forall_mem_cons.mp hstart
    rw [Mealy.emitted_cons, List.filterMap_append]
    rcases h.handle lib hrun.1 hfirst with ⟨hnext, hsilent⟩ | ⟨rfl, hover, ok, message, hfinished,
      hfounded⟩
    · have hrest := ih hnext hlater hrun.2
      have hfirstSilent : ((machine lib).step d e).2.filterMap DialogEffect.verdict? = [] := hsilent
      rw [hfirstSilent, List.nil_append]
      rcases hrest with ⟨htesting, hnothing⟩ | ⟨hdone, before, after, ok, message, hsplit, hwithin,
        hpolls, hverdict, hfounded⟩
      · rw [← List.append_cons] at htesting
        exact Or.inl ⟨htesting, hnothing⟩
      · rw [← List.append_cons] at hwithin hfounded
        exact Or.inr ⟨hdone, e :: before, after, ok, message, by rw [hsplit, List.cons_append],
          hwithin, hpolls, hverdict, hfounded⟩
    · obtain ⟨hdone, hemitted, hpolls⟩ := Over.after lib hover hlater hrun.2
      refine Or.inr ⟨hdone, [], events, ok, message, rfl, ?_, hpolls, ?_, ?_⟩
      · rw [List.append_nil]
        exact h.within
      · have hfirst : ((machine lib).step d .pollTimeout).2 = [.finishTest ok message] := hfinished
        have hlast : (machine lib).emitted ((machine lib).next d .pollTimeout) events = [] :=
          hemitted
        rw [hfirst, hlast]
        rfl
      · rw [List.append_nil]
        exact hfounded

/-- A test that has just been started. -/
theorem testing_started (launch : Launch) (d : MqSettingsDialog α) :
    Testing launch [] (d.startTest launch).1 :=
  ⟨⟨_, rfl, tested_launched _ _ _ _ _ launch⟩, rfl, rfl, Nat.zero_lt_succ _⟩

/-- **A test comes to one verdict, in time and with a reason.** Whatever happens after its start,
short of the start of another one: a test that is still under way has been polled less than 25
times, and nothing was said about it. One that is over was ended by a poll, the 25th at the
latest and the last, with a verdict that is founded on what had happened by then. -/
theorem test_concludes (lib : AmqpLibrary α) (d : MqSettingsDialog α) (launch : Launch)
    (events : List DialogEvent) (hstart : ∀ e ∈ events, e.isStart = false)
    (hrun : (machine lib).EachStep Enabled (d.startTest launch).1 events) :
    let last := (machine lib).after (d.startTest launch).1 events
    let verdicts :=
      ((machine lib).emitted (d.startTest launch).1 events).filterMap DialogEffect.verdict?
    (last.testConnection.isSome ∧ verdicts = [] ∧ polls events < 25) ∨
      last.testConnection = none ∧ ∃ before after ok message,
        events = before ++ .pollTimeout :: after ∧ polls before < 25 ∧ polls after = 0 ∧
        verdicts = [(ok, message)] ∧ Founded launch before ok message := by
  intro last verdicts
  rcases (testing_started launch d).after lib hstart hrun with ⟨htesting, hnothing⟩ |
    ⟨hover, before, after, ok, message, hsplit, hwithin, hpolls, hverdict, hfounded⟩
  · obtain ⟨c, hc, -⟩ := htesting.tested
    exact Or.inl ⟨Option.isSome_iff_exists.mpr ⟨c, hc⟩, hnothing, htesting.within⟩
  · exact Or.inr ⟨hover.testConnection, before, after, ok, message, hsplit, hwithin, hpolls,
      hverdict, hfounded⟩

/-- The broker answers between the first and the second poll. -/
def readyRun : List DialogEvent :=
  [.connection .socketConnected, .pollTimeout, .connection .amqpReady,
    .edited .host ⟨"broker", by decide⟩, .pollTimeout, .saveClicked]

/-- So the second poll ends the test. -/
theorem readyRun_concludes :
    ∃ before after ok message, readyRun = before ++ .pollTimeout :: after ∧ polls before < 25 ∧
      polls after = 0 ∧
      ((machine idleLibrary).emitted ((opened ⟨.empty⟩).startTest .started).1
        readyRun).filterMap DialogEffect.verdict? = [(ok, message)] ∧
      Founded .started before ok message :=
  ((test_concludes idleLibrary (opened ⟨.empty⟩) .started readyRun (by decide)
    (by decide +kernel)).resolve_left fun h => absurd h.1 (by decide +kernel)).2

end MqSettingsDialog

end QtAppBase.Mq
