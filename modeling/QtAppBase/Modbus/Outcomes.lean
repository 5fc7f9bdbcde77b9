import QtAppBase.Modbus.TransactionIds

/-!
# One outcome for a request

The machine here keeps a ledger beside the driver: the kinds of the accepted
requests in their order, who armed the request timer last, and every outcome
with the request it ends and, for a timeout, the owner of the timer. A handler
of an outcome may make requests of its own; an outcome is the last thing every
slot of the driver does, so they come right behind it.
-/

namespace QtAppBase.Modbus

open Library QtAppBase.Core Qt

/-- An outcome of a request. -/
def Effect.isOutcome : Effect → Bool
  | .write _ | .connectionStateChanged _ => false
  | _ => true

/-- The kind of request that a call makes. -/
def RequestCall.kind : RequestCall → PendingRequest
  | .readHoldingRegisters .. => .readHoldingRegisters
  | .readInputRegisters .. => .readInputRegisters
  | .readCoils .. => .readCoils
  | .readDiscreteInputs .. => .readDiscreteInputs
  | .writeSingleRegister .. => .writeSingleRegister
  | .writeMultipleRegisters .. => .writeMultipleRegisters
  | .writeSingleCoil .. => .writeSingleCoil
  | .writeMultipleCoils .. => .writeMultipleCoils

/-- The signal pair of a kind: its success and its failure. -/
def PendingRequest.Owns : PendingRequest → Effect → Prop
  | .none, _ => False
  | .readHoldingRegisters, effect =>
    (∃ registers, effect = .holdingRegistersRead registers) ∨ ∃ error, effect = .readFailed error
  | .readInputRegisters, effect =>
    (∃ registers, effect = .inputRegistersRead registers) ∨ ∃ error, effect = .readFailed error
  | .readCoils, effect =>
    (∃ coils, effect = .coilsRead coils) ∨ ∃ error, effect = .readFailed error
  | .readDiscreteInputs, effect =>
    (∃ inputs, effect = .discreteInputsRead inputs) ∨ ∃ error, effect = .readFailed error
  | .writeSingleRegister, effect =>
    (∃ address value, effect = .singleRegisterWritten address value) ∨
      ∃ error, effect = .writeFailed error
  | .writeMultipleRegisters, effect =>
    (∃ startAddress quantity, effect = .multipleRegistersWritten startAddress quantity) ∨
      ∃ error, effect = .multipleWriteFailed error
  | .writeSingleCoil, effect =>
    (∃ address value, effect = .singleCoilWritten address value) ∨
      ∃ error, effect = .singleCoilWriteFailed error
  | .writeMultipleCoils, effect =>
    (∃ startAddress quantity, effect = .multipleCoilsWritten startAddress quantity) ∨
      ∃ error, effect = .multipleCoilWriteFailed error

/-- The outcome says that the request timed out. -/
def Effect.IsTimeout (effect : Effect) : Prop :=
  effect.errorText? = some ModbusConnection.timedOutText

instance (effect : Effect) : Decidable effect.IsTimeout := inferInstanceAs (Decidable (_ = _))

namespace ModbusConnection

variable {c d : ModbusConnection}

/-! ### Outcomes and the timer -/

/-- A text keeps its first character when it is continued. -/
theorem head?_append_text {s : QString} {first : Char} (h : s.toList.head? = some first)
    (t : QString) : (s ++ t).toList.head? = some first := by
  rw [String.toList_append, List.head?_append, h, Option.some_or]

/-- The text of a Modbus exception is not that of a timeout. -/
theorem exceptionText_ne (exceptionCode : UInt8) : exceptionText exceptionCode ≠ timedOutText := by
  have hmodbus : "Modbus exception code ".toList.head? = some 'M' := by decide +kernel
  have htimedOut : timedOutText.toList.head? = some 't' := by decide +kernel
  have hexception : (exceptionText exceptionCode).toList.head? = some 'M' :=
    head?_append_text hmodbus _
  intro h
  rw [h] at hexception
  cases htimedOut.symm.trans hexception

/-- What a response ends a request with is its success or its failure, and no timeout. -/
theorem outcome_owns {α : Type} {response : Response α}
    {succeeded : α → Effect} {failed : QString → Effect} {outcome : Effect}
    (h : response.outcome succeeded failed = some outcome)
    (hsucceeded : ∀ content, (succeeded content).errorText? = none)
    (hfailed : ∀ error, (failed error).errorText? = some error) :
    ((∃ content, outcome = succeeded content) ∨ ∃ error, outcome = failed error) ∧
      ¬ outcome.IsTimeout := by
  unfold Response.outcome at h
  cases hstatus : response.status with
  | incomplete =>
    rw [hstatus] at h
    cases h
  | ok =>
    rw [hstatus] at h
    obtain rfl := Option.some.inj h
    refine ⟨Or.inl ⟨_, rfl⟩, fun htimeout => ?_⟩
    cases (hsucceeded _).symm.trans htimeout
  | exception =>
    rw [hstatus] at h
    obtain rfl := Option.some.inj h
    refine ⟨Or.inr ⟨_, rfl⟩, fun htimeout => ?_⟩
    exact exceptionText_ne _ (Option.some.inj ((hfailed _).symm.trans htimeout))
  | malformed =>
    rw [hstatus] at h
    obtain rfl := Option.some.inj h
    refine ⟨Or.inr ⟨_, rfl⟩, fun htimeout => ?_⟩
    exact absurd (Option.some.inj ((hfailed _).symm.trans htimeout)) (by decide)

/-- What received bytes end a request with is of its own pair, and no timeout. -/
theorem outcomeOf_owns {k : PendingRequest} {data : QByteArray} {outcome : Effect}
    (h : outcomeOf k data = some outcome) : k.Owns outcome ∧ ¬ outcome.IsTimeout := by
  cases k with
  | none => cases h
  | readHoldingRegisters => exact outcome_owns h (fun _ => rfl) fun _ => rfl
  | readInputRegisters => exact outcome_owns h (fun _ => rfl) fun _ => rfl
  | readCoils => exact outcome_owns h (fun _ => rfl) fun _ => rfl
  | readDiscreteInputs => exact outcome_owns h (fun _ => rfl) fun _ => rfl
  | writeSingleRegister =>
    unfold outcomeOf at h
    obtain ⟨hpair, htimeout⟩ := outcome_owns h (fun _ => rfl) fun _ => rfl
    exact ⟨hpair.imp_left fun ⟨content, heq⟩ => ⟨content.1, content.2, heq⟩, htimeout⟩
  | writeMultipleRegisters =>
    unfold outcomeOf at h
    obtain ⟨hpair, htimeout⟩ := outcome_owns h (fun _ => rfl) fun _ => rfl
    exact ⟨hpair.imp_left fun ⟨content, heq⟩ => ⟨content.1, content.2, heq⟩, htimeout⟩
  | writeSingleCoil =>
    unfold outcomeOf at h
    obtain ⟨hpair, htimeout⟩ := outcome_owns h (fun _ => rfl) fun _ => rfl
    exact ⟨hpair.imp_left fun ⟨content, heq⟩ => ⟨content.1, content.2, heq⟩, htimeout⟩
  | writeMultipleCoils =>
    unfold outcomeOf at h
    obtain ⟨hpair, htimeout⟩ := outcome_owns h (fun _ => rfl) fun _ => rfl
    exact ⟨hpair.imp_left fun ⟨content, heq⟩ => ⟨content.1, content.2, heq⟩, htimeout⟩

/-- The signals of a pair are outcomes. -/
theorem owns_isOutcome {k : PendingRequest} {effect : Effect} (h : k.Owns effect) :
    effect.isOutcome = true := by
  cases k with
  | none => exact h.elim
  | readHoldingRegisters | readInputRegisters | readCoils | readDiscreteInputs =>
    rcases h with ⟨_, rfl⟩ | ⟨_, rfl⟩ <;> rfl
  | writeSingleRegister | writeMultipleRegisters | writeSingleCoil | writeMultipleCoils =>
    rcases h with ⟨_, _, rfl⟩ | ⟨_, rfl⟩ <;> rfl

/-- A timed-out request ends with the failure of its own pair. -/
theorem failure_owns {k : PendingRequest} {failed : QString → Effect} (h : failure k = some failed)
    (error : QString) : k.Owns (failed error) := by
  cases k <;> cases h <;> exact Or.inr ⟨_, rfl⟩

/-- An event without an outcome for the pending request: its timer goes on, or
the request is forgotten. -/
structure Unanswered (c : ModbusConnection) (r : Reaction ModbusConnection Effect) : Prop where
  /-- A request that goes on keeps its timer. -/
  timer : r.1.pendingRequest = .none ∨ r.1.requestTimer = c.requestTimer
  /-- The timeout of later requests stays. -/
  requestTimeoutMs : r.1.requestTimeoutMs = c.requestTimeoutMs
  /-- Nothing is said about a request. -/
  silent : ∀ effect ∈ r.2, effect.isOutcome = false

/-- An operation on `state_` says nothing about a request. -/
theorem onState_unanswered (f : ConnectionState → Reaction ConnectionState Signal)
    (htimer : d.pendingRequest = .none ∨ d.requestTimer = c.requestTimer)
    (hms : d.requestTimeoutMs = c.requestTimeoutMs) : Unanswered c (d.onState f) := by
  refine ⟨?_, hms, ?_⟩
  · rcases htimer with hpending | htimer
    · refine Or.inl ?_
      unfold onState
      dsimp only
      split_ifs
      · rfl
      · exact hpending
    · exact Or.inr htimer
  · intro effect heffect
    obtain ⟨connected, rfl⟩ := onState_forwards heffect
    rfl

/-- Events of the connection say nothing about a request. -/
theorem handle_unanswered (c : ModbusConnection) {e : Event}
    (hbytes : ∀ chunk, e ≠ .readyRead chunk) (hrequest : ∀ call, e ≠ .request call)
    (htimeout : e ≠ .requestTimeout) (hms : ∀ ms, e ≠ .setRequestTimeoutMs ms) :
    Unanswered c (c.handle e) := by
  cases e with
  | connectToHost host port launch => exact onState_unanswered _ (Or.inl rfl) rfl
  | disconnectNow =>
    have hstate : Unanswered c (onState ConnectionState.disconnectNow
        (if c.state.disconnect then c.disconnectFn else c)) := by
      split_ifs <;> exact onState_unanswered _ (Or.inr rfl) rfl
    exact ⟨Or.inl rfl, hstate.requestTimeoutMs, hstate.silent⟩
  | setRequestTimeoutMs ms => exact absurd rfl (hms ms)
  | request call => exact absurd rfl (hrequest call)
  | socketConnected => exact onState_unanswered _ (Or.inr rfl) rfl
  | socketError error dropped => exact onState_unanswered _ (Or.inr rfl) rfl
  | socketDisconnected => exact ⟨Or.inr rfl, rfl, by simp [handle]⟩
  | readyRead chunk => exact absurd rfl (hbytes chunk)
  | requestTimeout => exact absurd rfl htimeout
  | heartbeatTick => exact onState_unanswered _ (Or.inr rfl) rfl
  | reconnectTick launch =>
    change Unanswered c (c.onReconnectTick launch)
    unfold onReconnectTick
    dsimp only
    split_ifs <;> exact onState_unanswered _ (Or.inr rfl) rfl

/-- A request call is refused without any effect, or it arms the timer for its kind. -/
theorem callRequest_arms (call : RequestCall) (c : ModbusConnection) :
    callRequest call c = (c, []) ∨
      c.pendingRequest = .none ∧ ∃ frame, callRequest call c =
        ({ c with
          nextTransactionId := c.nextTransactionId + 1
          pendingRequest := call.kind
          requestTimer := started c.requestTimeoutMs }, [.write frame]) := by
  have hsend : ∀ (k : PendingRequest) (frame : QByteArray), c.sendRequest k frame = (c, []) ∨
      c.pendingRequest = .none ∧ ∃ written, c.sendRequest k frame =
        ({ c with
          nextTransactionId := c.nextTransactionId + 1
          pendingRequest := k
          requestTimer := started c.requestTimeoutMs }, [.write written]) := by
    intro k frame
    unfold sendRequest
    split_ifs with hrefused
    · exact Or.inl rfl
    · refine Or.inr ⟨?_, frame, rfl⟩
      by_contra hpending
      exact hrefused (by simp [hpending])
  cases call <;> exact hsend _ _

end ModbusConnection

/-! ### The ledger -/

/-- An outcome in the ledger: the request it ends, the signal, and for an expired
timer the request it was armed for. -/
structure Entry where
  request : ℕ
  signal : Effect
  timer : Option ℕ := none
  deriving DecidableEq, Repr

/-- A `ModbusConnection` with the ledger of its requests. -/
structure Audited where
  conn : ModbusConnection := {}
  /-- The kinds of the accepted requests, in their order. -/
  accepted : List PendingRequest := []
  /-- The outcomes, in their order. -/
  outcomes : List Entry := []
  /-- The request the timer was last armed for, while it is active. -/
  armedFor : Option ℕ := none

/-- What happens: a request call, or another event of the driver together with
the calls that the handlers of its outcome make. -/
inductive AuditedEvent where
  | call (call : RequestCall)
  | event (e : Event) (inside : List RequestCall)
  deriving DecidableEq

namespace Audited

open ModbusConnection

/-- A request call: an accepted one writes a frame. -/
def request (t : Audited) (call : RequestCall) : Audited :=
  let r := callRequest call t.conn
  if r.2.any fun effect => effect.frame?.isSome then
    { t with
      conn := r.1
      accepted := t.accepted ++ [call.kind]
      armedFor := if r.1.requestTimer.isSome then some t.accepted.length else none }
  else { t with conn := r.1 }

/-- Another event of the driver. Its outcomes end the request accepted last. -/
def observe (t : Audited) (e : Event) : Audited :=
  let r := t.conn.handle e
  { t with
    conn := r.1
    outcomes := t.outcomes ++ (r.2.filter Effect.isOutcome).map fun signal =>
      { request := t.accepted.length - 1
        signal := signal
        timer := if e = .requestTimeout then t.armedFor else none }
    armedFor := if r.1.requestTimer.isSome then t.armedFor else none }

/-- One event, with the calls that its outcomes lead to. -/
def next (t : Audited) : AuditedEvent → Audited
  | .call call => t.request call
  | .event e inside =>
    if (t.conn.handle e).2.any Effect.isOutcome then inside.foldl request (t.observe e)
    else t.observe e

/-- The machine of both. -/
def machine : Mealy Audited AuditedEvent Effect := ⟨fun t e => .silently (t.next e)⟩

/-- The events come from the socket and the timers as they can, and timeouts are
not negative. -/
def Enabled (t : Audited) : AuditedEvent → Prop
  | .call _ => True
  | .event (.request _) _ => False
  | .event (.setRequestTimeoutMs ms) _ => 0 ≤ ms
  | .event e _ => t.conn.Enabled e

instance (t : Audited) : ∀ e, Decidable (t.Enabled e)
  | .call _ => isTrue trivial
  | .event (.request _) _ => isFalse id
  | .event (.setRequestTimeoutMs ms) _ => inferInstanceAs (Decidable (0 ≤ ms))
  | .event .disconnectNow _ | .event (.socketError ..) _ => isTrue trivial
  | .event (.connectToHost _ _ launch) _ =>
    inferInstanceAs (Decidable (t.conn.socket.Admits launch))
  | .event .socketConnected _ => inferInstanceAs (Decidable (_ = SocketState.connecting))
  | .event .socketDisconnected _ | .event (.readyRead _) _ =>
    inferInstanceAs (Decidable t.conn.socket.IsOpen)
  | .event .requestTimeout _ | .event .heartbeatTick _ | .event (.reconnectTick _) _ =>
    inferInstanceAs (Decidable (_ = true))

/-- The ledger is in order: no request has two outcomes, every outcome is one of
the kind of its request, and a timeout comes from the timer armed for it. -/
structure InOrder (t : Audited) : Prop where
  /-- With nothing pending, nothing is buffered. -/
  idle : t.conn.pendingRequest = .none → t.conn.readBuffer = []
  /-- A pending request has a timer. -/
  timed : t.conn.pendingRequest ≠ .none → t.conn.requestTimer.isSome
  /-- No request has two outcomes. -/
  once : (t.outcomes.map Entry.request).Nodup
  /-- Every outcome is of the pair of its request. -/
  own : ∀ entry ∈ t.outcomes, ∃ k, t.accepted[entry.request]? = some k ∧ k.Owns entry.signal
  /-- A timeout comes from the timer of its request. -/
  ownTimer : ∀ entry ∈ t.outcomes, entry.signal.IsTimeout → entry.timer = some entry.request

/-- The audit invariant: the pending request is the one accepted last, it has no
outcome yet, and the timer is armed for it. -/
structure Inv (t : Audited) : Prop extends InOrder t where
  /-- Timeouts are not negative. -/
  nonneg : 0 ≤ t.conn.requestTimeoutMs
  /-- The pending request was accepted last. -/
  last : t.conn.pendingRequest ≠ .none → t.accepted.getLast? = some t.conn.pendingRequest
  /-- It has no outcome. -/
  fresh : t.conn.pendingRequest ≠ .none →
    ∀ entry ∈ t.outcomes, entry.request ≠ t.accepted.length - 1
  /-- The timer is armed for it. -/
  armed : t.conn.pendingRequest ≠ .none → t.armedFor = some (t.accepted.length - 1)

/-- A new object has accepted nothing. -/
theorem inv_init : Inv {} where
  idle _ := rfl
  timed h := absurd rfl h
  once := List.nodup_nil
  own := by simp
  ownTimer := by simp
  nonneg := by decide
  last h := absurd rfl h
  fresh h := absurd rfl h
  armed h := absurd rfl h

variable {t : Audited}

/-- Outcomes end requests that were accepted. -/
theorem InOrder.within (h : InOrder t) {entry : Entry} (hentry : entry ∈ t.outcomes) :
    entry.request < t.accepted.length := by
  obtain ⟨k, hk, _⟩ := h.own entry hentry
  exact (List.getElem?_eq_some_iff.mp hk).1

/-- A request call keeps the invariant. -/
theorem inv_request (h : Inv t) (call : RequestCall) : Inv (t.request call) := by
  rcases callRequest_arms call t.conn with hrefused | ⟨hidle, frame, haccepted⟩
  · have hsame : t.request call = t := by
      unfold request
      rw [hrefused]
      rfl
    rw [hsame]
    exact h
  · have hstarted : (started t.conn.requestTimeoutMs).isSome = true := by
      have hnonneg := h.nonneg
      rw [started, if_neg (by omega)]
      rfl
    have hnext : t.request call =
        { t with
          conn := { t.conn with
            nextTransactionId := t.conn.nextTransactionId + 1
            pendingRequest := call.kind
            requestTimer := started t.conn.requestTimeoutMs }
          accepted := t.accepted ++ [call.kind]
          armedFor := some t.accepted.length } := by
      unfold request
      rw [haccepted]
      simp [Effect.frame?, hstarted]
    rw [hnext]
    have hlength : (t.accepted ++ [call.kind]).length - 1 = t.accepted.length := by simp
    refine ⟨⟨?_, fun _ => hstarted, h.once, ?_, h.ownTimer⟩, h.nonneg, ?_, ?_, ?_⟩
    · intro hnone
      exact h.idle hidle
    · intro entry hentry
      obtain ⟨k, hk, howns⟩ := h.own entry hentry
      exact ⟨k, List.getElem?_append_left (h.within hentry) ▸ hk, howns⟩
    · intro _
      exact List.getLast?_concat
    · intro _ entry hentry
      have hwithin := h.within hentry
      dsimp only at hentry ⊢
      omega
    · intro _
      exact congrArg some hlength.symm

/-- So do the calls that an outcome leads to. -/
theorem inv_requests (h : Inv t) (calls : List RequestCall) : Inv (calls.foldl request t) := by
  induction calls generalizing t with
  | nil => exact h
  | cons call calls ih => exact ih (inv_request h call)

/-- An event without an outcome keeps the invariant, if it keeps the pending
request with its timer, or forgets it with its bytes. -/
theorem inv_silent (h : Inv t) {e : Event}
    (hsilent : (t.conn.handle e).2.filter Effect.isOutcome = [])
    (hms : 0 ≤ (t.conn.handle e).1.requestTimeoutMs)
    (hkept : ((t.conn.handle e).1.pendingRequest = t.conn.pendingRequest ∧
        ((t.conn.handle e).1.readBuffer = t.conn.readBuffer ∨ t.conn.pendingRequest ≠ .none) ∧
        (t.conn.handle e).1.requestTimer = t.conn.requestTimer) ∨
      ((t.conn.handle e).1.pendingRequest = .none ∧ (t.conn.handle e).1.readBuffer = [])) :
    Inv (t.observe e) := by
  have hnext : t.observe e =
      { t with
        conn := (t.conn.handle e).1
        armedFor := if (t.conn.handle e).1.requestTimer.isSome then t.armedFor else none } := by
    unfold observe
    dsimp only
    rw [hsilent, List.map_nil, List.append_nil]
  rw [hnext]
  rcases hkept with ⟨hpending, hbuffer, htimer⟩ | ⟨hpending, hbuffer⟩
  · refine ⟨⟨?_, ?_, h.once, h.own, h.ownTimer⟩, hms, ?_, ?_, ?_⟩
    · intro hnone
      have hnone : t.conn.pendingRequest = .none := hpending.symm.trans hnone
      rcases hbuffer with hbuffer | hsome
      · exact hbuffer.trans (h.idle hnone)
      · exact absurd hnone hsome
    · intro hsome
      exact htimer.symm ▸ h.timed (hpending ▸ hsome)
    · intro hsome
      exact hpending.symm ▸ h.last (hpending ▸ hsome)
    · intro hsome
      exact h.fresh (hpending ▸ hsome)
    · intro hsome
      have hsome : t.conn.pendingRequest ≠ .none := hpending ▸ hsome
      dsimp only
      rw [htimer, if_pos (h.timed hsome)]
      exact h.armed hsome
  · exact ⟨⟨fun _ => hbuffer, fun hsome => absurd hpending hsome, h.once, h.own, h.ownTimer⟩, hms,
      fun hsome => absurd hpending hsome, fun hsome => absurd hpending hsome,
      fun hsome => absurd hpending hsome⟩

/-- An event that ends the pending request with an outcome of its pair keeps the
invariant; a timeout has to come from the timer. -/
theorem inv_ended (h : Inv t) {e : Event} {outcome : Effect}
    (hpending : t.conn.pendingRequest ≠ .none)
    (houtcome : (t.conn.handle e).2.filter Effect.isOutcome = [outcome])
    (howns : t.conn.pendingRequest.Owns outcome)
    (htimeout : outcome.IsTimeout → e = .requestTimeout)
    (hms : (t.conn.handle e).1.requestTimeoutMs = t.conn.requestTimeoutMs)
    (hended : (t.conn.handle e).1.pendingRequest = .none ∧ (t.conn.handle e).1.readBuffer = []) :
    Inv (t.observe e) := by
  have hlast := h.last hpending
  rw [List.getLast?_eq_getElem?] at hlast
  have hnext : (t.observe e).outcomes = t.outcomes ++
      [{ request := t.accepted.length - 1
         signal := outcome
         timer := if e = .requestTimeout then t.armedFor else none }] := by
    unfold observe
    dsimp only
    rw [houtcome]
    rfl
  refine ⟨⟨fun _ => hended.2, fun hsome => absurd hended.1 hsome, ?_, ?_, ?_⟩, ?_,
    fun hsome => absurd hended.1 hsome, fun hsome => absurd hended.1 hsome,
    fun hsome => absurd hended.1 hsome⟩
  · rw [hnext, List.map_append, List.nodup_append]
    refine ⟨h.once, by simp, ?_⟩
    intro number hnumber other hother
    obtain ⟨entry, hentry, rfl⟩ := List.mem_map.mp hnumber
    rw [List.map_singleton, List.mem_singleton] at hother
    rw [hother]
    exact h.fresh hpending entry hentry
  · intro entry hentry
    rw [hnext] at hentry
    rcases List.mem_append.mp hentry with hold | hnew
    · exact h.own entry hold
    · rw [List.mem_singleton.mp hnew]
      exact ⟨_, hlast, howns⟩
  · intro entry hentry hentryTimeout
    rw [hnext] at hentry
    rcases List.mem_append.mp hentry with hold | hnew
    · exact h.ownTimer entry hold hentryTimeout
    · rw [List.mem_singleton.mp hnew] at hentryTimeout ⊢
      dsimp only at hentryTimeout ⊢
      rw [if_pos (htimeout hentryTimeout)]
      exact h.armed hpending
  · exact hms.symm ▸ h.nonneg

/-- Received bytes keep the invariant. -/
theorem inv_readyRead (h : Inv t) (chunk : QByteArray) : Inv (t.observe (.readyRead chunk)) := by
  let c : ModbusConnection := { t.conn with socket := t.conn.socket.receive chunk }
  have hhandle : t.conn.handle (.readyRead chunk) = c.onSocketReadyRead := rfl
  by_cases hpending : t.conn.pendingRequest = .none
  · have hdropped := hhandle.trans (onSocketReadyRead_dropped (c := c) hpending)
    refine inv_silent h ?_ ?_ (Or.inr ?_)
    · rw [hdropped]
      rfl
    · rw [hdropped]
      exact h.nonneg
    · rw [hdropped]
      exact ⟨hpending, rfl⟩
  · have hresult := hhandle.trans (onSocketReadyRead_eq (c := c) hpending)
    cases houtcome : outcomeOf c.pendingRequest (c.readBuffer ++ c.socket.unread) with
    | none =>
      rw [houtcome] at hresult
      refine inv_silent h ?_ ?_ (Or.inl ?_)
      · rw [hresult]
        rfl
      · rw [hresult]
        exact h.nonneg
      · rw [hresult]
        exact ⟨rfl, Or.inr hpending, rfl⟩
    | some outcome =>
      rw [houtcome] at hresult
      obtain ⟨howns, htimeout⟩ := outcomeOf_owns houtcome
      have hisOutcome := owns_isOutcome howns
      refine inv_ended h hpending ?_ howns (fun hisTimeout => absurd hisTimeout htimeout) ?_ ?_
      · rw [hresult]
        simp [hisOutcome]
      · rw [hresult]
        rfl
      · rw [hresult]
        exact ⟨rfl, rfl⟩

/-- The expired timer keeps the invariant. -/
theorem inv_requestTimeout (h : Inv t) : Inv (t.observe .requestTimeout) := by
  cases hfailure : failure t.conn.pendingRequest with
  | none =>
    have hresult : (t.conn.handle .requestTimeout).2 = [] := by
      change ((failure t.conn.pendingRequest).map fun failed => failed timedOutText).toList = []
      rw [hfailure]
      rfl
    refine inv_silent h ?_ h.nonneg (Or.inr ⟨rfl, rfl⟩)
    rw [hresult]
    rfl
  | some failed =>
    have hresult : (t.conn.handle .requestTimeout).2 = [failed timedOutText] := by
      change ((failure t.conn.pendingRequest).map fun failed => failed timedOutText).toList = _
      rw [hfailure]
      rfl
    have hpending : t.conn.pendingRequest ≠ .none := by
      intro hnone
      rw [hnone] at hfailure
      cases hfailure
    have howns := failure_owns hfailure timedOutText
    have hisOutcome := owns_isOutcome howns
    refine inv_ended h hpending ?_ howns (fun _ => rfl) rfl ⟨rfl, rfl⟩
    rw [hresult]
    simp [hisOutcome]

/-- Every event keeps the invariant. -/
theorem inv_observe (h : Inv t) {e : Event} {inside : List RequestCall}
    (henabled : t.Enabled (.event e inside)) : Inv (t.observe e) := by
  have hquiet : ∀ e, Untouched t.conn (t.conn.handle e) → Unanswered t.conn (t.conn.handle e) →
      Inv (t.observe e) := by
    intro e hkept hsilent
    refine inv_silent h ?_ (hsilent.requestTimeoutMs.symm ▸ h.nonneg) ?_
    · exact List.filter_eq_nil_iff.mpr fun effect heffect => by simp [hsilent.silent effect heffect]
    · rcases hkept.kept with ⟨hpending, hbuffer⟩ | hforgotten
      · rcases hsilent.timer with hnone | htimer
        · refine Or.inr ⟨hnone, hbuffer.trans (h.idle (hpending.symm.trans hnone))⟩
        · exact Or.inl ⟨hpending, Or.inl hbuffer, htimer⟩
      · exact Or.inr hforgotten
  cases e with
  | request call => exact henabled.elim
  | setRequestTimeoutMs ms => exact inv_silent h rfl henabled (Or.inl ⟨rfl, Or.inl rfl, rfl⟩)
  | readyRead chunk => exact inv_readyRead h chunk
  | requestTimeout => exact inv_requestTimeout h
  | _ =>
    exact hquiet _ (handle_untouched _ (by simp) (by simp))
      (handle_unanswered _ (by simp) (by simp) (by simp) (by simp))

/-- A step keeps the invariant. -/
theorem inv_next (h : Inv t) {e : AuditedEvent} (henabled : t.Enabled e) : Inv (t.next e) := by
  rcases e with call | ⟨e, inside⟩
  · exact inv_request h call
  · simp only [next]
    split_ifs
    · exact inv_requests (inv_observe h henabled) inside
    · exact inv_observe h henabled

/-- **Requests are accounted for.** In every run, with requests from anywhere, the
driver buffers nothing while it is idle and has a timer while it is not; no
request has two outcomes; every outcome is one of the pair of its request; and a
timeout comes from the timer armed for its request. -/
theorem inOrder_of_enabled (events : List AuditedEvent)
    (henabled : machine.EachStep Enabled {} events) : machine.EachState InOrder {} events :=
  Mealy.eachState_of_invariant (fun _ _ h hP => inv_next h hP) (fun _ h => h.toInOrder) inv_init
    henabled

/-- A timed-out read, whose handler writes a register, and its response. -/
theorem requestFromHandler_inOrder :
    machine.EachState InOrder {}
      [.event (.connectToHost "plc" 502 .started) [], .event .socketConnected [],
        .call (.readHoldingRegisters 1 0 1),
        .event .requestTimeout [.writeSingleRegister 1 0 7, .readCoils 1 0 1],
        .event (.readyRead (frameHeader 2 6 1 0x06 ++ [0, 0, 0, 7])) []] :=
  inOrder_of_enabled _ (by decide +kernel)

end Audited

end QtAppBase.Modbus
