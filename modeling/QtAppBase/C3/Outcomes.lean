import QtAppBase.C3.RequestTimers
import QtAppBase.Library.Ledger

/-!
# One outcome for every accepted request

The machine here keeps a ledger for each kind of request beside the driver: a
call made while the connection is ready and the kind is not pending is accepted,
a signal of the kind ends the request accepted last, and `disconnectNow`
withdraws what is pending. The error handler forgets all requests without a
signal. In a run the ledgers balance exactly as long as no socket error strikes
while a request is pending.
-/

namespace QtAppBase.C3

open Library QtAppBase.Core Qt

namespace C3Connection

variable {c : C3Connection}

/-- An event is an accepted call of a kind. -/
def AcceptsKind (c : C3Connection) (k : Kind) : Event → Prop
  | .request call => call.kind = k ∧ c.Accepts call
  | _ => False

instance (c : C3Connection) (k : Kind) : ∀ e, Decidable (c.AcceptsKind k e)
  | .request _ => inferInstanceAs (Decidable (_ ∧ _))
  | .connectToHost .. | .disconnectNow | .socketConnected | .socketError ..
  | .socketDisconnected | .readyRead _ | .handshakeTimeout | .requestTimeout _ | .heartbeatTick
  | .reconnectTick _ => isFalse id

/-- A socket error strikes while a request is pending. -/
def LosesRequest (c : C3Connection) (e : Event) : Prop :=
  c.SocketFails e ∧ ∃ k, c.pending k = true

/-- Bytes have somewhere to go exactly while a request is pending. -/
theorem exists_pending : (∃ k, c.pending k = true) ↔ c.dispatch ≠ none := by
  rw [Ne, dispatch_none, not_forall]
  simp

instance (c : C3Connection) (e : Event) : Decidable (c.LosesRequest e) :=
  decidable_of_iff (c.SocketFails e ∧ c.dispatch ≠ none) (and_congr_right' exists_pending.symm)

/-- A call that is not refused makes its kind pending. -/
theorem callRequest_pending {call : RequestCall} (h : c.Accepts call) :
    (callRequest call c).1.pending call.kind = true := by
  obtain ⟨hready, hfresh⟩ := h
  cases call with
  | requestTableData tableName =>
    have hfresh : c.dataQueryPending = false := hfresh
    simp [callRequest, requestTableData, hready, hfresh, pending, RequestCall.kind]
  | requestTableRecordCount tableName =>
    have hfresh : c.countQueryPending = false := hfresh
    simp [callRequest, requestTableRecordCount, hready, hfresh, pending, RequestCall.kind]
  | requestRealtimeLog =>
    have hfresh : c.rtLogQueryPending = false := hfresh
    simp [callRequest, requestRealtimeLog, hready, hfresh, pending, RequestCall.kind]
  | control call =>
    have hfresh : c.controlPending = false := hfresh
    have hsent : ∀ operation param1 param2 param3,
        (sendControlRequest operation param1 param2 param3 c).1.controlPending = true := by
      simp [sendControlRequest, hready, hfresh]
    cases call <;> exact hsent _ _ _ _
  | requestDeviceParams parameterNames =>
    have hfresh : c.getParamPending = false := hfresh
    simp [callRequest, requestDeviceParams, hready, hfresh, pending, RequestCall.kind]
  | setDeviceParams values =>
    have hfresh : c.setParamPending = false := hfresh
    simp [callRequest, setDeviceParams, hready, hfresh, pending, RequestCall.kind]

/-- A call is accepted exactly on a ready connection without a request of its kind;
otherwise it has no effect. -/
theorem callRequest_cases (call : RequestCall) (c : C3Connection) :
    (c.Accepts call ∧ Accepted call.kind c (callRequest call c)) ∨
      (¬ c.Accepts call ∧ callRequest call c = (c, [])) := by
  by_cases haccepts : c.Accepts call
  · refine Or.inl ⟨haccepts, ?_⟩
    rcases callRequest_spec call c with hrefused | haccepted
    · have hpending := callRequest_pending haccepts
      rw [hrefused] at hpending
      exact absurd (haccepts.2.symm.trans hpending) Bool.false_ne_true
    · exact haccepted
  · refine Or.inr ⟨haccepts, ?_⟩
    rcases callRequest_spec call c with hrefused | haccepted
    · exact hrefused
    · exact absurd ⟨haccepted.ready, haccepted.fresh⟩ haccepts

/-- Whether a kind is pending is part of its request state. -/
theorem pending_eq_request (c : C3Connection) (k : Kind) : c.pending k = (c.request k).pending := by
  cases k <;> rfl

/-- Where flags, timers and steps agree, pending queries know which reply they wait for. -/
theorem Consistent.stepping (h : Consistent c) : Stepping c := by
  have hguarded := h.guarded
  refine ⟨fun hp hnone => ?_, fun hp hnone => ?_, fun hp hnone => ?_⟩
  · exact Bool.false_ne_true ((hguarded.dataQueryStep.mp hnone).symm.trans hp)
  · exact Bool.false_ne_true ((hguarded.countQueryStep.mp hnone).symm.trans hp)
  · exact Bool.false_ne_true ((hguarded.rtLogQueryStep.mp hnone).symm.trans hp)

end C3Connection

/-- A `C3Connection` with a ledger for each kind of request. -/
structure Audited where
  conn : C3Connection := {}
  ledger : Kind → Ledger := fun _ => {}

namespace Audited

open C3Connection

/-- The outcomes of a kind among the effects. -/
def settled (k : Kind) (effects : List Effect) : List Effect :=
  effects.filter fun effect => effect.outcomeKind = some k

/-- What an event adds to the ledger of a kind. -/
def record (c : C3Connection) (e : Event) (k : Kind) (l : Ledger) : Ledger :=
  let l := if c.AcceptsKind k e then l.accept else l
  let l := if e = .disconnectNow ∧ c.pending k = true then l.withdraw else l
  (settled k (c.handle e).2).foldl (fun l _ => l.settle) l

/-- One event. -/
def step (t : Audited) (e : Event) : Reaction Audited Effect :=
  let r := t.conn.handle e
  ({ conn := r.1, ledger := fun k => record t.conn e k (t.ledger k) }, r.2)

/-- The machine of both. -/
def machine : Mealy Audited Event Effect := ⟨step⟩

/-- The events come from the socket and the timers as they can. -/
def Enabled (t : Audited) (e : Event) : Prop := t.conn.Enabled e

instance (t : Audited) (e : Event) : Decidable (t.Enabled e) :=
  inferInstanceAs (Decidable (t.conn.Enabled e))

/-- Every request is accounted for. -/
structure AccountedFor (t : Audited) : Prop where
  /-- Every accepted request has exactly one outcome of its kind, except one that is
  pending and those that `disconnectNow` withdrew. -/
  balanced : ∀ k, (t.ledger k).Balanced (t.conn.pending k)
  /-- What is pending has a timer that ends it. -/
  timed : ∀ k, t.conn.pending k = true → (t.conn.timer k).isSome = true

/-- No socket error strikes while a request is pending. -/
def KeepsRequests (t : Audited) (e : Event) : Prop := ¬ t.conn.LosesRequest e

instance (t : Audited) (e : Event) : Decidable (t.KeepsRequests e) :=
  inferInstanceAs (Decidable (¬ t.conn.LosesRequest e))

/-- The audit invariant. -/
structure Inv (t : Audited) : Prop where
  balanced : ∀ k, (t.ledger k).Balanced (t.conn.pending k)
  consistent : t.conn.Consistent

theorem Inv.accountedFor {t : Audited} (h : Inv t) : AccountedFor t :=
  ⟨h.balanced, fun k => (h.consistent.guarded.timer k).mp⟩

/-- A new object has accepted nothing. -/
theorem inv_init : Inv {} := by
  refine ⟨fun k => ?_, fun k => ?_⟩
  · cases k <;> exact Ledger.balanced_init
  · cases k <;> exact ⟨rfl, rfl⟩

variable {t : Audited}

/-! ### What an event adds to a ledger -/

/-- An event without an outcome of a kind, that is no accepted call of the kind and no
`disconnectNow`, adds nothing. -/
theorem record_quiet {e : Event} {k : Kind} (haccepts : ¬ t.conn.AcceptsKind k e)
    (hdisconnect : ¬ (e = .disconnectNow ∧ t.conn.pending k = true))
    (hquiet : ∀ effect ∈ (t.conn.handle e).2, effect.outcomeKind ≠ some k) (l : Ledger) :
    record t.conn e k l = l := by
  have hnone : settled k (t.conn.handle e).2 = [] :=
    List.filter_eq_nil_iff.mpr fun effect heffect => by simp [hquiet effect heffect]
  unfold record
  simp only [if_neg haccepts, if_neg hdisconnect, hnone, List.foldl_nil]

/-- An event that ends a pending kind with an outcome settles it. -/
theorem record_settle {e : Event} {k : Kind} {outcome : Effect}
    (haccepts : ¬ t.conn.AcceptsKind k e) (hdisconnect : e ≠ .disconnectNow)
    (heffects : (t.conn.handle e).2 = [outcome]) (hkind : outcome.outcomeKind = some k)
    (l : Ledger) : record t.conn e k l = l.settle := by
  have hdisconnect : ¬ (e = .disconnectNow ∧ t.conn.pending k = true) := fun h => hdisconnect h.1
  have hone : settled k (t.conn.handle e).2 = [outcome] := by
    rw [heffects, settled]
    simp [hkind]
  unfold record
  simp only [if_neg haccepts, if_neg hdisconnect, hone, List.foldl_cons, List.foldl_nil]

/-- A kind that an event leaves alone keeps its balance. -/
theorem balanced_quiet (h : Inv t) {e : Event} {k : Kind} (haccepts : ¬ t.conn.AcceptsKind k e)
    (hdisconnect : ¬ (e = .disconnectNow ∧ t.conn.pending k = true))
    (hquiet : ∀ effect ∈ (t.conn.handle e).2, effect.outcomeKind ≠ some k)
    (hpending : (t.conn.handle e).1.pending k = t.conn.pending k) :
    (record t.conn e k (t.ledger k)).Balanced ((t.conn.handle e).1.pending k) := by
  rw [record_quiet haccepts hdisconnect hquiet, hpending]
  exact h.balanced k

/-- A kind that an event ends with an outcome keeps its balance. -/
theorem balanced_settle (h : Inv t) {e : Event} {k : Kind} {outcome : Effect}
    (haccepts : ¬ t.conn.AcceptsKind k e) (hdisconnect : e ≠ .disconnectNow)
    (hpending : t.conn.pending k = true) (hended : (t.conn.handle e).1.pending k = false)
    (heffects : (t.conn.handle e).2 = [outcome]) (hkind : outcome.outcomeKind = some k) :
    (record t.conn e k (t.ledger k)).Balanced ((t.conn.handle e).1.pending k) := by
  have hbalanced := h.balanced k
  rw [hpending] at hbalanced
  rw [record_settle haccepts hdisconnect heffects hkind, hended]
  exact hbalanced.settle

/-! ### The events -/

/-- A request call keeps the balance. -/
theorem balanced_request (h : Inv t) (call : RequestCall) (k : Kind) :
    (record t.conn (.request call) k (t.ledger k)).Balanced
      ((t.conn.handle (.request call)).1.pending k) := by
  have hhandle : t.conn.handle (.request call) = callRequest call t.conn := rfl
  have hno : ¬ ((Event.request call) = .disconnectNow ∧ t.conn.pending k = true) := by simp
  rcases callRequest_cases call t.conn with ⟨haccepts, haccepted⟩ | ⟨hrefuses, hrefused⟩
  · obtain ⟨frame, hframe⟩ := haccepted.result
    by_cases hk : call.kind = k
    · subst hk
      have hnone : settled call.kind (t.conn.handle (.request call)).2 = [] := by
        rw [hhandle, hframe]
        rfl
      have hrecord : record t.conn (.request call) call.kind (t.ledger call.kind) =
          (t.ledger call.kind).accept := by
        unfold record
        simp only [if_pos (show t.conn.AcceptsKind call.kind (.request call) from ⟨rfl, haccepts⟩),
          if_neg hno, hnone, List.foldl_nil]
      have hbalanced := h.balanced call.kind
      rw [haccepted.fresh] at hbalanced
      rw [hrecord, hhandle, haccepted.pending]
      exact hbalanced.accept
    · refine balanced_quiet h (fun haccepts => hk haccepts.1) hno ?_ ?_
      · intro effect heffect
        rw [hhandle, hframe, List.mem_singleton] at heffect
        simp [heffect, Effect.outcomeKind]
      · exact haccepted.others k (Ne.symm hk)
  · refine balanced_quiet h (fun haccepts => hrefuses haccepts.2) hno ?_ ?_
    · intro effect heffect
      rw [hhandle, hrefused] at heffect
      cases heffect
    · rw [hhandle, hrefused]

/-- An event that touches no request keeps the balance. -/
theorem balanced_kept (h : Inv t) {e : Event} (hkept : Kept t.conn (t.conn.handle e)) {k : Kind}
    (haccepts : ¬ t.conn.AcceptsKind k e) (hdisconnect : e ≠ .disconnectNow) :
    (record t.conn e k (t.ledger k)).Balanced ((t.conn.handle e).1.pending k) := by
  refine balanced_quiet h haccepts (fun hboth => hdisconnect hboth.1) ?_ ?_
  · intro effect heffect
    simp [hkept.quiet effect heffect]
  · rw [pending_eq_request, hkept.same, pending_eq_request]

/-- A timeout keeps the balance. -/
theorem balanced_requestTimeout (h : Inv t) {kind : Kind}
    (henabled : (t.conn.timer kind).isSome = true) (k : Kind) :
    (record t.conn (.requestTimeout kind) k (t.ledger k)).Balanced
      ((t.conn.handle (.requestTimeout kind)).1.pending k) := by
  have htimedOut := fireTimeout_spec kind t.conn
  obtain ⟨outcome, houtcome, hkind, _⟩ := htimedOut.result
  by_cases hk : k = kind
  · subst hk
    have hpending := (h.consistent.guarded.timer k).mpr henabled
    exact balanced_settle h id (by simp) hpending htimedOut.pending houtcome hkind
  · refine balanced_quiet h id (by simp) ?_ (htimedOut.others k hk)
    intro effect heffect
    rw [show (t.conn.handle (.requestTimeout kind)).2 = _ from houtcome,
      List.mem_singleton] at heffect
    rw [heffect, hkind]
    exact fun heq => hk (Option.some.inj heq).symm

/-- Received bytes keep the balance. -/
theorem balanced_readyRead (h : Inv t) (chunk : QByteArray) (k : Kind) :
    (record t.conn (.readyRead chunk) k (t.ledger k)).Balanced
      ((t.conn.handle (.readyRead chunk)).1.pending k) := by
  let c : C3Connection := { t.conn with socket := t.conn.socket.receive chunk }
  have hhandle : t.conn.handle (.readyRead chunk) = c.onSocketReadyRead := rfl
  have hsame : ∀ j, c.request j = t.conn.request j := fun j => by cases j <;> rfl
  have hpending : ∀ j, c.pending j = t.conn.pending j := fun j => by cases j <;> rfl
  have hstepping : Stepping c := (h.consistent.of_same hsame).stepping
  by_cases hattempt : c.connectAttemptPending = true
  · have hhandshake : t.conn.handle (.readyRead chunk) = c.readAll.onHandshakeData := by
      rw [hhandle, onSocketReadyRead, if_pos hattempt]
    refine balanced_kept h ?_ id (by simp)
    rw [hhandshake]
    exact (onHandshakeData_kept c.readAll).of_same fun j => by cases j <;> rfl
  · have hattempt : c.connectAttemptPending = false := by simpa using hattempt
    cases hdispatch : c.dispatch with
    | none =>
      have hidle := hhandle.trans (onSocketReadyRead_idle hattempt hdispatch)
      refine balanced_kept h ?_ id (by simp)
      rw [hidle]
      exact Kept.silent hsame
    | some kind =>
      have hkindPending : t.conn.pending kind = true :=
        (hpending kind).symm.trans (dispatch_pending hdispatch)
      by_cases hPartial : Partial (c.readBuffer ++ c.socket.unread)
      · have hread := hhandle.trans
          (onSocketReadyRead_ofPartial hattempt hdispatch hstepping hPartial)
        refine balanced_kept h ?_ id (by simp)
        rw [hread]
        exact Kept.silent fun j => by cases j <;> rfl
      · have hanswered := onSocketReadyRead_complete hattempt hdispatch hstepping hPartial
        rw [← hhandle] at hanswered
        have hothers : k ≠ kind →
            (t.conn.handle (.readyRead chunk)).1.pending k = t.conn.pending k :=
          fun hk => (hanswered.others k hk).trans (hpending k)
        rcases hanswered.result with ⟨hgoesOn, frame, hframe⟩ | ⟨hended, outcome, houtcome, hkind⟩
        · refine balanced_quiet h id (by simp) ?_ ?_
          · intro effect heffect
            rw [hframe, List.mem_singleton] at heffect
            simp [heffect, Effect.outcomeKind]
          · by_cases hk : k = kind
            · rw [hk, hgoesOn, hkindPending]
            · exact hothers hk
        · by_cases hk : k = kind
          · subst hk
            exact balanced_settle h id (by simp) hkindPending hended houtcome hkind
          · refine balanced_quiet h id (by simp) ?_ (hothers hk)
            intro effect heffect
            rw [houtcome, List.mem_singleton] at heffect
            rw [heffect, hkind]
            exact fun heq => hk (Option.some.inj heq).symm

/-- A step that ends all requests leaves none pending. -/
theorem pending_dropped {r : Reaction C3Connection Effect} (h : Dropped r) (k : Kind) :
    r.1.pending k = false := by
  rw [pending_eq_request, h.ended]

/-- `disconnectNow` keeps the balance: what was pending is withdrawn. -/
theorem balanced_disconnectNow (h : Inv t) (k : Kind) :
    (record t.conn .disconnectNow k (t.ledger k)).Balanced
      ((t.conn.handle .disconnectNow).1.pending k) := by
  have hdropped : Dropped (t.conn.handle .disconnectNow) := disconnectNow_dropped t.conn
  have hended := pending_dropped hdropped k
  have hquiet : ∀ effect ∈ (t.conn.handle .disconnectNow).2, effect.outcomeKind ≠ some k := by
    intro effect heffect
    simp [hdropped.quiet effect heffect]
  cases hpending : t.conn.pending k with
  | false =>
    have hno : ¬ (Event.disconnectNow = .disconnectNow ∧ t.conn.pending k = true) := by
      simp [hpending]
    exact balanced_quiet h id hno hquiet (hended.trans hpending.symm)
  | true =>
    have hnone : settled k (t.conn.handle .disconnectNow).2 = [] :=
      List.filter_eq_nil_iff.mpr fun effect heffect => by simp [hquiet effect heffect]
    have hrecord : record t.conn .disconnectNow k (t.ledger k) = (t.ledger k).withdraw := by
      unfold record
      simp only [if_neg (show ¬ t.conn.AcceptsKind k .disconnectNow from id),
        hpending, and_self, if_true, hnone, List.foldl_nil]
    have hbalanced := h.balanced k
    rw [hpending] at hbalanced
    rw [hrecord, hended]
    exact hbalanced.withdraw

/-- A socket error adds nothing to a ledger. -/
theorem record_socketFails {e : Event} (hfails : t.conn.SocketFails e) (k : Kind) (l : Ledger) :
    record t.conn e k l = l := by
  have hdropped := handle_socketFails hfails
  refine record_quiet ?_ ?_ ?_ l
  · cases e <;> first | exact id | exact hfails.elim
  · rintro ⟨rfl, _⟩
    exact hfails.elim
  · intro effect heffect
    simp [hdropped.quiet effect heffect]

/-- An event that loses no request keeps the invariant. -/
theorem inv_next (h : Inv t) {e : Event} (henabled : t.Enabled e) (hkeeps : t.KeepsRequests e) :
    Inv (machine.next t e) := by
  refine ⟨fun k => ?_, h.consistent.next e⟩
  change (record t.conn e k (t.ledger k)).Balanced ((t.conn.handle e).1.pending k)
  by_cases hlifecycle : IsLifecycle e
  · by_cases hfails : t.conn.SocketFails e
    · have hidle : t.conn.pending k = false := by
        by_contra hpending
        exact hkeeps ⟨hfails, k, by simpa using hpending⟩
      have hbalanced := h.balanced k
      rw [hidle] at hbalanced
      rw [record_socketFails hfails, pending_dropped (handle_socketFails hfails)]
      exact hbalanced
    · by_cases hdisconnect : e = .disconnectNow
      · subst hdisconnect
        exact balanced_disconnectNow h k
      · refine balanced_kept h (handle_kept hlifecycle hfails hdisconnect) ?_ hdisconnect
        cases e <;> first | exact id | exact hlifecycle.elim
  · cases e with
    | request call => exact balanced_request h call k
    | readyRead chunk => exact balanced_readyRead h chunk k
    | requestTimeout kind => exact balanced_requestTimeout h henabled k
    | _ => exact absurd trivial hlifecycle

/-- A socket error that strikes while a request is pending loses its outcome. -/
theorem not_accountedFor_of_loses (h : Inv t) {e : Event} (hloses : ¬ t.KeepsRequests e) :
    ¬ AccountedFor (machine.next t e) := by
  obtain ⟨hfails, k, hpending⟩ := not_not.mp hloses
  intro haccounted
  have hlost := haccounted.balanced k
  change (record t.conn e k (t.ledger k)).Balanced ((t.conn.handle e).1.pending k) at hlost
  rw [record_socketFails hfails, pending_dropped (handle_socketFails hfails)] at hlost
  have hbalanced := h.balanced k
  rw [hpending] at hbalanced
  exact hbalanced.not_lost hlost

/-- **Requests are accounted for.** In a run, every accepted request of every kind has
exactly one outcome, unless it is still pending, with a timer that ends it, or
`disconnectNow` came first, exactly when no socket error strikes while a request
is pending. -/
theorem accountedFor_iff_keepsRequests (events : List Event)
    (henabled : machine.EachStep Enabled {} events) :
    machine.EachState AccountedFor {} events ↔ machine.EachStep KeepsRequests {} events :=
  Mealy.eachState_iff_eachStep (fun _ h => h.accountedFor) (fun _ _ h hA hP => inv_next h hA hP)
    (fun _ _ h _ hnot => not_accountedFor_of_loses h hnot) inv_init henabled

/-- A control request is answered, the next one times out, a log request is withdrawn,
and only then the socket fails. -/
theorem fourRequests_accountedFor :
    machine.EachState AccountedFor {}
      (openSession ++
        [.request (.control .cancelAlarm), .readyRead (encodeFrame kReplyOk 1 1 [] true),
          .request (.control .restartDevice), .request (.requestTableData "user"),
          .requestTimeout .control, .request .requestRealtimeLog, .disconnectNow,
          .socketError "network unreachable" true]) :=
  (accountedFor_iff_keepsRequests _ (by decide +kernel)).mpr (by decide +kernel)

/-- A control request is accepted, and the panel goes away. -/
def lostRequestRun : List Event :=
  openSession ++ [.request (.control .cancelAlarm), .socketError "remote host closed" true]

/-- The request has no outcome, and none will come: it is no longer pending. -/
theorem lostRequestRun_unaccounted :
    ¬ ∀ events, machine.EachStep Enabled {} events → machine.EachState AccountedFor {} events := by
  intro h
  have hlast := (h lostRequestRun (by decide +kernel)).last.balanced .control
  have hledger : (machine.after {} lostRequestRun).ledger .control = { accepted := 1 } := by
    decide +kernel
  have hpending : (machine.after {} lostRequestRun).conn.pending .control = false := by
    decide +kernel
  rw [hledger, hpending] at hlast
  have hcount := hlast.count_eq 0 Nat.zero_lt_one
  exact absurd hcount (by decide)

end Audited

end QtAppBase.C3
