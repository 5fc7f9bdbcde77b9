import QtAppBase.Core.SyncSteps

/-!
# Whose result a report is

A report carries the outcome of one launched attempt, but `ConnectionState`
does not hear which: it keeps a single flag for all attempts. Here attempts are
numbered in the order their callables are entered and every report names its
attempt, so that a run says which outcome was taken for which attempt's.
-/

namespace QtAppBase.Core

open Library ConnectionState

/-- The operations that launch an attempt. -/
inductive Launcher where
  | connectNow
  | beginAutoConnect
  | reconnectTick
  deriving DecidableEq, Repr

/-- An operation whose reports name the attempt they belong to. -/
inductive Incident where
  | launch (how : Launcher) (reports : List (ℕ × Bool)) (started : Bool)
  | disconnectNow
  | setHeartbeatIntervalMs (intervalMs : ℤ)
  | report (attempt : ℕ) (succeeded : Bool)
  | heartbeatTick (alive : Bool)
  deriving DecidableEq, Repr

namespace Launcher

/-- The operation, with a call of the connect callable. -/
def operation : Launcher → ConnectCall → Operation
  | connectNow => .connectNow
  | beginAutoConnect => .beginAutoConnect
  | reconnectTick => .reconnectTick

/-- The state in which the connect callable is entered. -/
def entered (s : ConnectionState) : Launcher → ConnectionState
  | connectNow | beginAutoConnect => (stopReconnecting s).1
  | reconnectTick => { s with reconnectTimer := none }

end Launcher

/-- What `ConnectionState` hears of an incident: not whose report it is. -/
def Incident.heard : Incident → Operation
  | launch how reports started => how.operation ⟨reports.map Prod.snd, started⟩
  | disconnectNow => .disconnectNow
  | setHeartbeatIntervalMs intervalMs => .setHeartbeatIntervalMs intervalMs
  | report _ succeeded => .reportPendingConnectResult succeeded
  | heartbeatTick alive => .heartbeatTick alive

/-- A `ConnectionState` with its attempts numbered from 1: how many there were, the
one launched last unless it was cancelled, and that one again as long as no report
at all has arrived since its launch. -/
structure Attributed where
  state : ConnectionState
  attempts : ℕ := 0
  current : Option ℕ := none
  awaited : Option ℕ := none
  deriving DecidableEq, Repr

namespace Attributed

/-- The numbers after an incident that leads to the state `t`. Without a connect
callable nothing is launched. -/
def observe (w : Attributed) (t : ConnectionState) : Incident → Attributed
  | .launch _ _ started =>
    let launched := if started then some (w.attempts + 1) else none
    if w.state.connect then ⟨t, w.attempts + 1, launched, launched⟩ else { w with state := t }
  | .disconnectNow => { w with state := t, current := none, awaited := none }
  | .report _ _ => { w with state := t, awaited := none }
  | .setHeartbeatIntervalMs _ | .heartbeatTick _ => { w with state := t }

/-- The machine that keeps the numbers. -/
def machine : Mealy Attributed Incident Signal where
  step w incident :=
    let r := w.state.perform incident.heard
    (w.observe r.1 incident, r.2)

/-- An object on which asynchronous handlers have just been set. -/
def fresh (connect probe disconnect : Bool) : Attributed :=
  { state := setHandlers connect probe disconnect true {} }

/-- Of these reports, those of other attempts change nothing and are not signalled. -/
def IgnoresOthers (current : Option ℕ) : List (ℕ × Bool) → ConnectionState → Prop
  | [], _ => True
  | (attempt, succeeded) :: rest, s =>
    (current ≠ some attempt → reportPendingConnectResult succeeded s = (s, [])) ∧
      IgnoresOthers current rest (reportPendingConnectResult succeeded s).1

/-- A report counts only if its attempt is the one launched last and not cancelled; a
callable that is entered makes its own attempt the one launched last. -/
def CountsCurrent (w : Attributed) : Incident → Prop
  | .launch how reports _ =>
    w.state.connect → IgnoresOthers (some (w.attempts + 1)) reports (how.entered w.state)
  | .report attempt succeeded => IgnoresOthers w.current [(attempt, succeeded)] w.state
  | _ => True

/-- The first report after a launch is the one of that attempt. A callable entered
before it arrived reports its own attempt first, if any. -/
def OwnFirst (w : Attributed) : Incident → Prop
  | .launch _ reports _ =>
    w.state.connect → w.awaited.isSome → ∀ r ∈ reports.head?, r.1 = w.attempts + 1
  | .report attempt _ => ∀ launched ∈ w.awaited, attempt = launched
  | _ => True

/-- What the numbers have to do with the flag. -/
structure Inv (w : Attributed) : Prop where
  /-- Results are asynchronous. -/
  async : w.state.asyncResult = true
  /-- The flag is up from a launch until the first report. -/
  flag : w.state.awaitingAsyncResult = w.awaited.isSome
  /-- The attempt waited for is the one launched last. -/
  last : ∀ launched ∈ w.awaited, w.current = some launched

theorem fresh_inv (connect probe disconnect : Bool) : Inv (fresh connect probe disconnect) := by
  constructor <;> simp [fresh, setHandlers]

/-- Reports that nobody awaits are ignored, whosever they are. -/
theorem ignoresOthers_of_settled {s : ConnectionState} (hsettled : s.awaitingAsyncResult = false)
    (current : Option ℕ) (reports : List (ℕ × Bool)) : IgnoresOthers current reports s := by
  induction reports with
  | nil => trivial
  | cons r rest ih =>
    have hignored := reportPendingConnectResult_ignored (Or.inr hsettled) r.2
    refine ⟨fun _ => hignored, ?_⟩
    rw [hignored]
    exact ih

/-- While a result is awaited, the first report counts, so it must be the current
attempt's; the ones behind it are ignored. -/
theorem ignoresOthers_iff {s : ConnectionState} (hasync : s.asyncResult = true)
    (hawaiting : s.awaitingAsyncResult = true) (current : Option ℕ) (reports : List (ℕ × Bool)) :
    IgnoresOthers current reports s ↔ ∀ r ∈ reports.head?, current = some r.1 := by
  cases reports with
  | nil => simp [IgnoresOthers]
  | cons r rest =>
    have hsettled := reportPendingConnectResult_settled hasync hawaiting r.2
    have hcounts : reportPendingConnectResult r.2 s ≠ (s, []) := by
      intro hsame
      rw [hsame, hawaiting] at hsettled
      cases hsettled
    have hrest := ignoresOthers_of_settled hsettled current rest
    simp [IgnoresOthers, hcounts, hrest]

/-- A launch raises the flag by what its callable returns. -/
theorem launch_awaiting {s : ConnectionState} (hconnect : s.connect = true)
    (hasync : s.asyncResult = true) (how : Launcher) (call : ConnectCall) :
    (s.perform (how.operation call)).1.awaitingAsyncResult = call.started := by
  cases how with
  | connectNow => simp [Launcher.operation, perform, connectNow_async hconnect hasync]
  | beginAutoConnect =>
    cases hstarted : call.started <;>
      simp [Launcher.operation, perform, beginAutoConnect_async hconnect hasync, hstarted]
  | reconnectTick =>
    cases hstarted : call.started <;>
      simp [Launcher.operation, perform, reconnectTimeout_async hconnect hasync, hstarted,
        armNextRung]

/-- Without a callable it leaves the flag alone. -/
theorem launch_unset {s : ConnectionState} (hconnect : s.connect = false) (how : Launcher)
    (call : ConnectCall) :
    (s.perform (how.operation call)).1.awaitingAsyncResult = s.awaitingAsyncResult := by
  cases how with
  | connectNow => simp [Launcher.operation, perform, connectNow_unset hconnect]
  | beginAutoConnect => simp [Launcher.operation, perform, beginAutoConnect_unset hconnect]
  | reconnectTick =>
    simp [Launcher.operation, perform, reconnectTimeout_unset hconnect, armNextRung]

/-- After a report nothing is awaited, whether it counted or not. -/
theorem report_awaiting {s : ConnectionState} (hasync : s.asyncResult = true) (succeeded : Bool) :
    (reportPendingConnectResult succeeded s).1.awaitingAsyncResult = false := by
  cases hawaiting : s.awaitingAsyncResult with
  | false => rw [reportPendingConnectResult_ignored (Or.inr hawaiting), hawaiting]
  | true => exact reportPendingConnectResult_settled hasync hawaiting succeeded

/-- The mode never changes. -/
theorem perform_async (s : ConnectionState) (op : Operation) :
    (s.perform op).1.asyncResult = s.asyncResult := by
  have hhandlers := perform_handlers s op
  simp only [handlers, Prod.mk.injEq] at hhandlers
  exact hhandlers.2.2.2

theorem next_eq (w : Attributed) (incident : Incident) :
    machine.next w incident = w.observe (w.state.perform incident.heard).1 incident := rfl

/-- Every incident keeps the numbers in step with the flag. -/
theorem inv_next {w : Attributed} (h : Inv w) (incident : Incident) :
    Inv (machine.next w incident) := by
  obtain ⟨hasync, hflag, hlast⟩ := h
  have hmode := (perform_async w.state incident.heard).trans hasync
  rw [next_eq]
  cases incident with
  | launch how reports started =>
    cases hconnect : w.state.connect with
    | true =>
      have hlaunch := launch_awaiting hconnect hasync how ⟨reports.map Prod.snd, started⟩
      simp only [observe, hconnect, if_true]
      refine ⟨hmode, ?_, fun _ hlaunched => hlaunched⟩
      rw [Incident.heard, hlaunch]
      cases started <;> rfl
    | false =>
      have hunset := launch_unset hconnect how ⟨reports.map Prod.snd, started⟩
      simp only [observe, hconnect, Bool.false_eq_true, if_false]
      exact ⟨hmode, hunset.trans hflag, hlast⟩
  | disconnectNow =>
    refine ⟨hmode, ?_, by rintro _ ⟨⟩⟩
    simp [observe, Incident.heard, perform, disconnectNow]
  | setHeartbeatIntervalMs intervalMs =>
    refine ⟨hmode, Eq.trans ?_ hflag, hlast⟩
    simp only [observe, Incident.heard, perform, setHeartbeatIntervalMs, Reaction.silently_fst]
    split_ifs <;> rfl
  | report attempt succeeded => exact ⟨hmode, report_awaiting hasync succeeded, by rintro _ ⟨⟩⟩
  | heartbeatTick alive =>
    refine ⟨hmode, Eq.trans ?_ hflag, hlast⟩
    simp only [observe, Incident.heard, perform, onHeartbeatTick]
    split_ifs <;> simp

/-- A report that nobody awaits is harmless; an awaited one must be the current attempt's. -/
theorem countsCurrent_iff {w : Attributed} (h : Inv w) (incident : Incident) :
    w.CountsCurrent incident ↔ w.OwnFirst incident := by
  obtain ⟨hasync, hflag, hlast⟩ := h
  cases incident with
  | launch how reports started =>
    have hentered : (how.entered w.state).asyncResult = true ∧
        (how.entered w.state).awaitingAsyncResult = w.awaited.isSome := by
      cases how <;> simp [Launcher.entered, hasync, hflag]
    apply forall_congr'
    intro _
    cases hwaits : w.awaited.isSome with
    | false =>
      have hignored := ignoresOthers_of_settled (hentered.2.trans hwaits)
        (some (w.attempts + 1)) reports
      exact iff_of_true hignored nofun
    | true =>
      rw [ignoresOthers_iff hentered.1 (hentered.2.trans hwaits)]
      simp [eq_comm]
  | report attempt succeeded =>
    cases hawaited : w.awaited with
    | none =>
      have hsettled : w.state.awaitingAsyncResult = false := by rw [hflag, hawaited]; rfl
      refine iff_of_true (ignoresOthers_of_settled hsettled _ _) ?_
      simp [OwnFirst, hawaited]
    | some launched =>
      have hawaiting : w.state.awaitingAsyncResult = true := by rw [hflag, hawaited]; rfl
      have hcurrent := hlast launched hawaited
      rw [CountsCurrent, ignoresOthers_iff hasync hawaiting]
      simp [OwnFirst, hawaited, hcurrent, eq_comm]
  | _ => exact Iff.rfl

/-- **Whose result a report is.** In every run of an asynchronous object, every report
that does not belong to the attempt launched last is ignored if and only if the first
report after each launch is the one of that attempt. -/
theorem countsCurrent_iff_ownFirst (connect probe disconnect : Bool) (incidents : List Incident) :
    machine.EachStep CountsCurrent (fresh connect probe disconnect) incidents ↔
      machine.EachStep OwnFirst (fresh connect probe disconnect) incidents :=
  Mealy.eachStep_congr_of_invariant (fun _ incident h => inv_next h incident)
    (fun _ incident h => countsCurrent_iff h incident) (fresh_inv connect probe disconnect)

/-- Reports come from attempts that were made. -/
def Genuine (w : Attributed) : Incident → Prop
  | .launch _ reports _ => ∀ r ∈ reports, 0 < r.1 ∧ r.1 ≤ w.attempts + 1
  | .report attempt _ => 0 < attempt ∧ attempt ≤ w.attempts
  | _ => True

instance (w : Attributed) (incident : Incident) : Decidable (w.Genuine incident) := by
  cases incident <;> unfold Genuine <;> infer_instance

/-- Two manual attempts, and then the outcome of the first. -/
def lateRun : List Incident :=
  [.launch .connectNow [] true, .launch .connectNow [] true, .report 1 true]

/-- It is taken for the outcome of the second. -/
theorem lateRun_counts :
    ¬ ∀ connect probe disconnect incidents,
      machine.EachStep Genuine (fresh connect probe disconnect) incidents →
      machine.EachStep CountsCurrent (fresh connect probe disconnect) incidents := by
  intro h
  have hrun := h true true true lateRun (by decide)
  have hreport := hrun.2.2.1.1 (by decide)
  exact absurd hreport (by decide)

end Attributed

end QtAppBase.Core
