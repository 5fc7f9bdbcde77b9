import QtAppBase.Modbus.Chunking
import QtAppBase.Library.Provenance

/-!
# Whose response completes a request

Every request frame carries a transaction id and every response repeats it, but
the driver takes whatever completes its buffer. The machine here numbers the
request frames in the order they are written, and every byte that arrives
carries the number of the request it responds to, however late.
-/

namespace QtAppBase.Modbus

open Library QtAppBase.Core Qt

/-- The frame of a write. -/
def Effect.frame? : Effect → Option QByteArray
  | .write frame => some frame
  | _ => none

/-- The text of a failure. -/
def Effect.errorText? : Effect → Option QString
  | .readFailed error | .writeFailed error | .multipleWriteFailed error
  | .singleCoilWriteFailed error | .multipleCoilWriteFailed error => some error
  | _ => none

/-- An outcome computed from a response: any but a timeout. -/
def Effect.isResponse : Effect → Bool
  | .write _ | .connectionStateChanged _ => false
  | outcome => outcome.errorText? ≠ some ModbusConnection.timedOutText

/-- A success or a Modbus exception. -/
def Effect.isAnswer (effect : Effect) : Bool :=
  effect.isResponse && effect.errorText? ≠ some ModbusConnection.malformedText

/-- Status and transaction id of a response. -/
def Response.heading {α : Type} (response : Response α) : ResponseStatus × UInt16 :=
  (response.status, response.transactionId)

/-- What the codec makes of bytes received for a pending request. -/
def decodedFor : PendingRequest → QByteArray → ResponseStatus × UInt16
  | .readHoldingRegisters, data => (decodeReadHoldingRegistersResponse data).heading
  | .readInputRegisters, data => (decodeReadInputRegistersResponse data).heading
  | .readCoils, data => (decodeReadCoilsResponse data).heading
  | .readDiscreteInputs, data => (decodeReadDiscreteInputsResponse data).heading
  | .writeSingleRegister, data => (decodeWriteSingleRegisterResponse data).heading
  | .writeMultipleRegisters, data => (decodeWriteMultipleRegistersResponse data).heading
  | .writeSingleCoil, data => (decodeWriteSingleCoilResponse data).heading
  | .writeMultipleCoils, data => (decodeWriteMultipleCoilsResponse data).heading
  | .none, _ => (.incomplete, 0)

/-- The id the codec reports is the one the bytes start with. -/
theorem decodedFor_transactionId {k : PendingRequest} {data : QByteArray}
    (h : (decodedFor k data).1 ≠ .incomplete) : (decodedFor k data).2 = transactionIdOf data := by
  cases k with
  | none => exact absurd rfl h
  | _ => exact decodeResponse_transactionId h

namespace ModbusConnection

variable {c d : ModbusConnection}

/-! ### Received bytes -/

/-- What bytes do to a pending request: they are kept while the response is
incomplete, and otherwise end the request with one outcome. -/
inductive Responded (c : ModbusConnection) (r : Reaction ModbusConnection Effect) : Prop
  | waiting (status : (decodedFor c.pendingRequest c.readBuffer).1 = .incomplete)
      (result : r = (c, []))
  | done (outcome : Effect) (status : (decodedFor c.pendingRequest c.readBuffer).1 ≠ .incomplete)
      (result : r =
        ({ c with readBuffer := [], pendingRequest := .none, requestTimer := none }, [outcome]))
      (noFrame : outcome.frame? = none)
      (answer : outcome.isAnswer = true →
        (decodedFor c.pendingRequest c.readBuffer).1 = .ok ∨
          (decodedFor c.pendingRequest c.readBuffer).1 = .exception)

/-- One branch of the handler. -/
theorem onResponse_responded {α : Type} {response : Response α} {succeeded : α → Effect}
    {failed : QString → Effect}
    (hresponse : (decodedFor c.pendingRequest c.readBuffer).1 = response.status)
    (hsucceeded : ∀ content, (succeeded content).frame? = none)
    (hfailed : ∀ error, (failed error).frame? = none)
    (hmalformed : (failed malformedText).isAnswer = false) :
    Responded c (c.onResponse response succeeded failed) := by
  unfold onResponse
  cases hstatus : response.status with
  | incomplete => exact .waiting (hresponse.trans hstatus) rfl
  | ok =>
    exact .done _ (by rw [hresponse, hstatus]; decide) rfl (hsucceeded _)
      fun _ => Or.inl (hresponse.trans hstatus)
  | exception =>
    exact .done _ (by rw [hresponse, hstatus]; decide) rfl (hfailed _)
      fun _ => Or.inr (hresponse.trans hstatus)
  | malformed =>
    refine .done _ (by rw [hresponse, hstatus]; decide) rfl (hfailed _) ?_
    intro hanswer
    rw [hmalformed] at hanswer
    cases hanswer

/-- The handler answers a pending request in one branch. -/
theorem onSocketReadyRead_responded (hpending : c.pendingRequest ≠ .none) :
    Responded c.readAll c.onSocketReadyRead := by
  have hsame : c.readAll.pendingRequest = c.pendingRequest := rfl
  unfold onSocketReadyRead
  dsimp only
  cases hk : c.readAll.pendingRequest with
  | none => exact absurd (hsame.symm.trans hk) hpending
  | _ =>
    refine onResponse_responded ?_ (fun _ => rfl) (fun _ => rfl) (by decide)
    rw [hk]
    rfl

/-! ### The other events -/

/-- What an event that neither brings bytes nor makes a request leads to. -/
structure Untouched (c : ModbusConnection) (r : Reaction ModbusConnection Effect) : Prop where
  /-- The request goes on, or is forgotten with its bytes. -/
  kept : (r.1.pendingRequest = c.pendingRequest ∧ r.1.readBuffer = c.readBuffer) ∨
    (r.1.pendingRequest = .none ∧ r.1.readBuffer = [])
  /-- Unread bytes stay or are discarded. -/
  unread : r.1.socket.unread = c.socket.unread ∨ r.1.socket.unread = []
  /-- No id is used. -/
  nextTransactionId : r.1.nextTransactionId = c.nextTransactionId
  /-- Nothing is written, and no outcome comes from a response. -/
  quiet : ∀ effect ∈ r.2, effect.frame? = none ∧ effect.isResponse = false

/-- An event that forgets the request. -/
theorem Untouched.forgotten {r : Reaction ModbusConnection Effect}
    (hpending : r.1.pendingRequest = .none) (hbuffer : r.1.readBuffer = [])
    (hunread : r.1.socket.unread = c.socket.unread ∨ r.1.socket.unread = [])
    (hid : r.1.nextTransactionId = c.nextTransactionId)
    (hquiet : ∀ effect ∈ r.2, effect.frame? = none ∧ effect.isResponse = false) :
    Untouched c r := ⟨Or.inr ⟨hpending, hbuffer⟩, hunread, hid, hquiet⟩

/-- Such an event after a silent one. -/
theorem Untouched.of_silent {r : Reaction ModbusConnection Effect} (h : Untouched d r)
    (hd : Untouched c (d, [])) : Untouched c r := by
  refine ⟨?_, ?_, h.nextTransactionId.trans hd.nextTransactionId, h.quiet⟩
  · rcases h.kept with ⟨hpending, hbuffer⟩ | hforgotten
    · rw [hpending, hbuffer]
      exact hd.kept
    · exact Or.inr hforgotten
  · rcases h.unread with hsame | hnil
    · rw [hsame]
      exact hd.unread
    · exact Or.inr hnil

/-- An operation on `state_` goes on or forgets the request. -/
theorem onState_untouched (f : ConnectionState → Reaction ConnectionState Signal)
    (c : ModbusConnection) : Untouched c (c.onState f) := by
  refine ⟨?_, Or.inl rfl, rfl, ?_⟩
  · unfold onState
    dsimp only
    split_ifs
    · exact Or.inr ⟨rfl, rfl⟩
    · exact Or.inl ⟨rfl, rfl⟩
  · intro effect heffect
    obtain ⟨connected, rfl⟩ := onState_forwards heffect
    exact ⟨rfl, rfl⟩

/-- A step that touches the socket and the state only. -/
theorem untouched_of_same (hpending : d.pendingRequest = c.pendingRequest)
    (hbuffer : d.readBuffer = c.readBuffer)
    (hunread : d.socket.unread = c.socket.unread ∨ d.socket.unread = [])
    (hid : d.nextTransactionId = c.nextTransactionId) : Untouched c (d, []) :=
  ⟨Or.inl ⟨hpending, hbuffer⟩, hunread, hid, by simp⟩

/-- Starting to connect keeps the unread bytes or discards them. -/
theorem connectFn_untouched (launch : Launch) (c : ModbusConnection) :
    Untouched c (c.connectFn launch, []) := by
  refine untouched_of_same rfl rfl ?_ rfl
  unfold connectFn TcpSocket.connectToHost
  dsimp only
  split_ifs
  · cases launch <;> exact Or.inr rfl
  · exact Or.inl rfl

/-- Events of the connection, and the timeout, touch no bytes of a pending request. -/
theorem handle_untouched (c : ModbusConnection) {e : Event} (hbytes : ∀ chunk, e ≠ .readyRead chunk)
    (hrequest : ∀ call, e ≠ .request call) : Untouched c (c.handle e) := by
  cases e with
  | connectToHost host port launch =>
    let d : ModbusConnection := { c with
      error := ""
      readBuffer := []
      pendingRequest := .none
      requestTimer := none
      host := host
      port := port
      state := c.state.setHandlers true true true true }
    have hforgotten : Untouched c (d, []) := .forgotten rfl rfl (Or.inl rfl) rfl (by simp)
    exact (onState_untouched _ _).of_silent ((connectFn_untouched launch d).of_silent hforgotten)
  | disconnectNow =>
    have hquiet := (onState_untouched ConnectionState.disconnectNow
      (if c.state.disconnect then c.disconnectFn else c)).quiet
    refine .forgotten rfl rfl (Or.inr rfl) ?_ hquiet
    unfold handle disconnectNow onState
    dsimp only
    split_ifs <;> rfl
  | setRequestTimeoutMs ms => exact untouched_of_same rfl rfl (Or.inl rfl) rfl
  | request call => exact absurd rfl (hrequest call)
  | socketConnected =>
    exact (onState_untouched _ _).of_silent (untouched_of_same rfl rfl (Or.inl rfl) rfl)
  | socketError error dropped =>
    refine (onState_untouched _ _).of_silent (untouched_of_same rfl rfl (Or.inl ?_) rfl)
    cases dropped <;> rfl
  | socketDisconnected => exact untouched_of_same rfl rfl (Or.inl rfl) rfl
  | readyRead chunk => exact absurd rfl (hbytes chunk)
  | requestTimeout =>
    refine .forgotten rfl rfl (Or.inl rfl) rfl ?_
    intro effect heffect
    change effect ∈ ((failure c.pendingRequest).map fun failed => failed timedOutText).toList
      at heffect
    cases hk : c.pendingRequest <;> rw [hk] at heffect <;>
      simp only [failure, Option.map_some, Option.map_none, Option.toList_some, Option.toList_none,
        List.mem_singleton, List.not_mem_nil] at heffect <;>
      subst heffect <;> exact ⟨rfl, by decide⟩
  | heartbeatTick => exact onState_untouched _ c
  | reconnectTick launch =>
    have hdisconnected : Untouched c ((if c.state.disconnect then c.disconnectFn else c), []) := by
      split_ifs
      · exact untouched_of_same rfl rfl (Or.inr rfl) rfl
      · exact untouched_of_same rfl rfl (Or.inl rfl) rfl
    have hconnecting : ∀ d : ModbusConnection,
        Untouched d ((if d.state.connect then d.connectFn launch else d), []) := by
      intro d
      split_ifs
      · exact connectFn_untouched launch d
      · exact untouched_of_same rfl rfl (Or.inl rfl) rfl
    exact (onState_untouched _ _).of_silent ((hconnecting _).of_silent hdisconnected)

/-! ### Requests -/

/-- What an accepted request leads to. -/
structure Accepted (c : ModbusConnection) (r : Reaction ModbusConnection Effect) : Prop where
  /-- No request was pending. -/
  fresh : c.pendingRequest = .none
  readBuffer : r.1.readBuffer = c.readBuffer
  socket : r.1.socket = c.socket
  nextTransactionId : r.1.nextTransactionId = c.nextTransactionId + 1
  /-- One frame is written, and it carries the id. -/
  result : ∃ frame, r.2 = [.write frame] ∧ transactionIdOf frame = c.nextTransactionId

theorem sendRequest_spec (k : PendingRequest) {frame : QByteArray}
    (hid : transactionIdOf frame = c.nextTransactionId) :
    c.sendRequest k frame = (c, []) ∨ Accepted c (c.sendRequest k frame) := by
  unfold sendRequest
  split_ifs with hrefused
  · exact Or.inl rfl
  · exact Or.inr ⟨by simp_all, rfl, rfl, rfl, frame, rfl, hid⟩

/-- A request call is refused without any effect, or accepted. -/
theorem callRequest_spec (call : RequestCall) (c : ModbusConnection) :
    callRequest call c = (c, []) ∨ Accepted c (callRequest call c) := by
  cases call <;> exact sendRequest_spec _ (word16_bytes c.nextTransactionId)

end ModbusConnection

/-! ### Requests and the responses to them -/

/-- A `ModbusConnection` with the record of its requests and of what arrived. -/
structure Exchange where
  conn : ModbusConnection := {}
  /-- The request frames written. -/
  requests : List QByteArray := []
  /-- Every byte received, with the number of the request it responds to. -/
  received : List (UInt8 × ℕ) := []

/-- What happens: bytes arrive, each in response to some request, or another
event of the driver. -/
inductive ExchangeEvent where
  | arrive (chunk : List (UInt8 × ℕ))
  | driver (e : Event)
  deriving DecidableEq

namespace Exchange

open ModbusConnection

/-- The event of the driver. -/
def eventOf : ExchangeEvent → Event
  | .arrive chunk => .readyRead (chunk.map Prod.fst)
  | .driver e => e

/-- What arrives with an event. -/
def arrivals : ExchangeEvent → List (UInt8 × ℕ)
  | .arrive chunk => chunk
  | .driver _ => []

/-- One event. -/
def step (t : Exchange) (e : ExchangeEvent) : Reaction Exchange Effect :=
  let r := t.conn.handle (eventOf e)
  ({ conn := r.1
     requests := t.requests ++ r.2.filterMap Effect.frame?
     received := t.received ++ arrivals e },
   r.2)

/-- The machine of both. -/
def machine : Mealy Exchange ExchangeEvent Effect := ⟨step⟩

/-- The events come from the socket and the timers as they can; what arrives
responds to requests that were written. -/
def Enabled (t : Exchange) : ExchangeEvent → Prop
  | .arrive chunk =>
    t.conn.Enabled (.readyRead (chunk.map Prod.fst)) ∧ ∀ p ∈ chunk, p.2 < t.requests.length
  | .driver (.readyRead _) => False
  | .driver e => t.conn.Enabled e

instance (t : Exchange) : ∀ e, Decidable (t.Enabled e)
  | .arrive _ => inferInstanceAs (Decidable (_ ∧ _))
  | .driver (.readyRead _) => isFalse id
  | .driver .disconnectNow | .driver (.setRequestTimeoutMs _) | .driver (.request _)
  | .driver (.socketError ..) => isTrue trivial
  | .driver (.connectToHost _ _ launch) => inferInstanceAs (Decidable (t.conn.socket.Admits launch))
  | .driver .socketConnected => inferInstanceAs (Decidable (_ = SocketState.connecting))
  | .driver .socketDisconnected => inferInstanceAs (Decidable t.conn.socket.IsOpen)
  | .driver .requestTimeout | .driver .heartbeatTick | .driver (.reconnectTick _) =>
    inferInstanceAs (Decidable (_ = true))

/-- The bytes that are decoded when bytes arrive. -/
def held (t : Exchange) : ExchangeEvent → Option QByteArray
  | .arrive chunk =>
    some (t.conn.readBuffer ++ (t.conn.socket.receive (chunk.map Prod.fst)).unread)
  | .driver _ => none

/-- The byte responds to the last request written. -/
def RespondsToLast (t : Exchange) (number : ℕ) : Prop := number + 1 = t.requests.length

instance (t : Exchange) (number : ℕ) : Decidable (t.RespondsToLast number) :=
  inferInstanceAs (Decidable (_ = _))

/-- An outcome is computed from bytes that all respond to the outstanding
request, and an answer carries the transaction id of its frame. -/
def OutcomeOwn (t : Exchange) (e : ExchangeEvent) (outcome : Effect) : Prop :=
  (outcome.isResponse = true →
    ∃ bytes ∈ t.held e, Provenance (t.received ++ arrivals e) bytes t.RespondsToLast) ∧
  (outcome.isAnswer = true →
    ∃ bytes ∈ t.held e, ∃ request ∈ t.requests.getLast?,
      transactionIdOf bytes = transactionIdOf request)

instance (t : Exchange) (e : ExchangeEvent) (outcome : Effect) :
    Decidable (t.OutcomeOwn e outcome) :=
  inferInstanceAs (Decidable ((_ → ∃ _ ∈ _, _) ∧ (_ → ∃ _ ∈ _, ∃ _ ∈ _, _)))

/-- All outcomes of a step. -/
def OutcomesOwn (t : Exchange) (e : ExchangeEvent) : Prop :=
  ∀ outcome ∈ (machine.step t e).2, t.OutcomeOwn e outcome

instance (t : Exchange) (e : ExchangeEvent) : Decidable (t.OutcomesOwn e) :=
  inferInstanceAs (Decidable (∀ _ ∈ _, _))

/-- While a request is pending, only its own response arrives, and a complete
answer repeats the id that was last used. -/
def InTime (t : Exchange) : ExchangeEvent → Prop
  | .arrive chunk => t.conn.pendingRequest ≠ .none →
    (∀ p ∈ chunk, t.RespondsToLast p.2) ∧
    ∀ bytes ∈ t.held (.arrive chunk),
      (decodedFor t.conn.pendingRequest bytes).1 = .ok ∨
        (decodedFor t.conn.pendingRequest bytes).1 = .exception →
      (decodedFor t.conn.pendingRequest bytes).2 = t.conn.nextTransactionId - 1
  | .driver _ => True

instance (t : Exchange) (e : ExchangeEvent) : Decidable (t.InTime e) := by
  cases e <;> unfold InTime <;> infer_instance

/-- The correlation invariant: the buffer holds bytes of the response to the
outstanding request, whose frame carries the id that was last used. -/
structure Inv (t : Exchange) : Prop where
  /-- Every `readyRead` reads all there is. -/
  unread_nil : t.conn.socket.unread = []
  /-- With nothing pending, nothing is buffered. -/
  idle : t.conn.pendingRequest = .none → t.conn.readBuffer = []
  /-- The outstanding request is the last one written. -/
  numbered : t.conn.pendingRequest ≠ .none →
    ∃ request ∈ t.requests.getLast?, transactionIdOf request = t.conn.nextTransactionId - 1
  /-- The buffer holds bytes that respond to it. -/
  buffered : Provenance t.received t.conn.readBuffer t.RespondsToLast

/-- A new object has no request. -/
theorem inv_init : Inv {} := ⟨rfl, fun _ => rfl, fun h => absurd rfl h, Provenance.nil _ _⟩

variable {t : Exchange}

/-- The bytes held when bytes arrive in time respond to the outstanding request. -/
theorem buffered_append (h : Inv t) {chunk : List (UInt8 × ℕ)}
    (hchunk : ∀ p ∈ chunk, t.RespondsToLast p.2) :
    Provenance (t.received ++ chunk)
      (t.conn.readBuffer ++ (t.conn.socket.receive (chunk.map Prod.fst)).unread)
      t.RespondsToLast := by
  rw [TcpSocket.receive, h.unread_nil, List.nil_append]
  exact h.buffered.append hchunk

/-- Events of the connection keep the invariant. -/
theorem inv_untouched (h : Inv t) {e : Event} (hspec : Untouched t.conn (t.conn.handle e)) :
    Inv (machine.next t (.driver e)) := by
  have hframes : (t.conn.handle e).2.filterMap Effect.frame? = [] :=
    List.filterMap_eq_nil_iff.mpr fun effect heffect => (hspec.quiet effect heffect).1
  have hnext : machine.next t (.driver e) =
      { conn := (t.conn.handle e).1, requests := t.requests, received := t.received } := by
    change (⟨_, t.requests ++ (t.conn.handle e).2.filterMap Effect.frame?, t.received ++ []⟩ :
      Exchange) = _
    rw [hframes, List.append_nil, List.append_nil]
    rfl
  rw [hnext]
  have hunread : (t.conn.handle e).1.socket.unread = [] :=
    hspec.unread.elim (fun hsame => hsame.trans h.unread_nil) id
  rcases hspec.kept with ⟨hpending, hbuffer⟩ | ⟨hpending, hbuffer⟩
  · refine ⟨hunread, ?_, ?_, ?_⟩
    · intro hnone
      exact hbuffer.trans (h.idle (hpending.symm.trans hnone))
    · intro hsome
      obtain ⟨request, hrequest, hid⟩ := h.numbered (hpending ▸ hsome)
      exact ⟨request, hrequest, hid.trans (by rw [hspec.nextTransactionId])⟩
    · change Provenance t.received (t.conn.handle e).1.readBuffer t.RespondsToLast
      rw [hbuffer]
      exact h.buffered
  · refine ⟨hunread, fun _ => hbuffer, fun hsome => absurd hpending hsome, ?_⟩
    change Provenance t.received (t.conn.handle e).1.readBuffer _
    rw [hbuffer]
    exact Provenance.nil _ _

/-- A request call keeps the invariant: it finds the buffer empty. -/
theorem inv_request (h : Inv t) (call : RequestCall) :
    Inv (machine.next t (.driver (.request call))) := by
  rcases callRequest_spec call t.conn with hrefused | haccepted
  · have hnext : machine.next t (.driver (.request call)) = t := by
      change (⟨(callRequest call t.conn).1,
        t.requests ++ (callRequest call t.conn).2.filterMap Effect.frame?, t.received ++ []⟩ :
        Exchange) = t
      rw [hrefused, List.filterMap_nil, List.append_nil, List.append_nil]
    rw [hnext]
    exact h
  · obtain ⟨frame, hresult, hid⟩ := haccepted.result
    have hbuffer : (callRequest call t.conn).1.readBuffer = [] :=
      haccepted.readBuffer.trans (h.idle haccepted.fresh)
    refine ⟨?_, fun _ => hbuffer, ?_, ?_⟩
    · exact (congrArg TcpSocket.unread haccepted.socket).trans h.unread_nil
    · intro _
      refine ⟨frame, ?_, ?_⟩
      · change frame ∈ (t.requests ++
          (callRequest call t.conn).2.filterMap Effect.frame?).getLast?
        rw [hresult]
        simp [Effect.frame?]
      · change transactionIdOf frame = (callRequest call t.conn).1.nextTransactionId - 1
        rw [haccepted.nextTransactionId, hid, UInt16.add_sub_cancel]
    · change Provenance _ (callRequest call t.conn).1.readBuffer _
      rw [hbuffer]
      exact Provenance.nil _ _

/-- Bytes that arrive in time keep the invariant. -/
theorem inv_arrive (h : Inv t) {chunk : List (UInt8 × ℕ)} (hintime : t.InTime (.arrive chunk)) :
    Inv (machine.next t (.arrive chunk)) := by
  let c : ModbusConnection :=
    { t.conn with socket := t.conn.socket.receive (chunk.map Prod.fst) }
  by_cases hpending : c.pendingRequest = .none
  · have hconn : (machine.next t (.arrive chunk)).conn = { c.readAll with readBuffer := [] } :=
      congrArg Prod.fst (onSocketReadyRead_dropped hpending)
    refine ⟨by rw [hconn]; rfl, fun _ => by rw [hconn], ?_, ?_⟩
    · intro hsome
      rw [hconn] at hsome
      exact absurd hpending hsome
    · rw [hconn]
      exact Provenance.nil _ _
  · obtain ⟨hchunk, _⟩ := hintime hpending
    rcases onSocketReadyRead_responded hpending with
      ⟨_, hresult⟩ | ⟨outcome, _, hresult, hnoFrame, _⟩
    · -- the response is incomplete: its bytes stay in the buffer
      have hnext : machine.next t (.arrive chunk) =
          { conn := c.readAll, requests := t.requests, received := t.received ++ chunk } := by
        change (⟨c.onSocketReadyRead.1,
          t.requests ++ c.onSocketReadyRead.2.filterMap Effect.frame?, t.received ++ chunk⟩ :
          Exchange) = _
        rw [hresult, List.filterMap_nil, List.append_nil]
      rw [hnext]
      exact ⟨rfl, fun hnone => absurd hnone hpending, h.numbered, buffered_append h hchunk⟩
    · have hconn : (machine.next t (.arrive chunk)).conn =
          { c.readAll with readBuffer := [], pendingRequest := .none, requestTimer := none } :=
        congrArg Prod.fst hresult
      refine ⟨by rw [hconn]; rfl, fun _ => by rw [hconn], ?_, ?_⟩
      · intro hsome
        rw [hconn] at hsome
        exact absurd rfl hsome
      · rw [hconn]
        exact Provenance.nil _ _

/-- A step in time keeps the invariant. -/
theorem inv_next {e : ExchangeEvent} (h : Inv t) (henabled : t.Enabled e) (hintime : t.InTime e) :
    Inv (machine.next t e) := by
  rcases e with chunk | e
  · exact inv_arrive h hintime
  · cases e with
    | request call => exact inv_request h call
    | readyRead chunk => exact henabled.elim
    | _ => exact inv_untouched h (handle_untouched _ (by simp) (by simp))

/-- Under the invariant, outcomes belong to the outstanding request. -/
theorem Inv.outcomesOwn {e : ExchangeEvent} (h : Inv t) (henabled : t.Enabled e)
    (hintime : t.InTime e) : t.OutcomesOwn e := by
  intro outcome houtcome
  rcases e with chunk | e
  · let c : ModbusConnection :=
      { t.conn with socket := t.conn.socket.receive (chunk.map Prod.fst) }
    have houtcome : outcome ∈ c.onSocketReadyRead.2 := houtcome
    by_cases hpending : c.pendingRequest = .none
    · rw [onSocketReadyRead_dropped hpending] at houtcome
      cases houtcome
    · obtain ⟨hchunk, hid⟩ := hintime hpending
      rcases onSocketReadyRead_responded hpending with
        ⟨_, hresult⟩ | ⟨outcome', hstatus, hresult, _, hanswer⟩
      · rw [hresult] at houtcome
        cases houtcome
      · rw [hresult] at houtcome
        obtain rfl := List.mem_singleton.mp houtcome
        refine ⟨fun _ => ⟨_, rfl, buffered_append h hchunk⟩, fun hisAnswer => ?_⟩
        obtain ⟨request, hrequest, hnumber⟩ := h.numbered hpending
        refine ⟨_, rfl, request, hrequest, ?_⟩
        rw [hnumber, ← hid _ rfl (hanswer hisAnswer)]
        exact (decodedFor_transactionId hstatus).symm
  · have hnone : outcome.isResponse = false → t.OutcomeOwn (.driver e) outcome := by
      intro hquiet
      refine ⟨fun hresponse => ?_, fun hisAnswer => ?_⟩
      · rw [hquiet] at hresponse
        cases hresponse
      · rw [Effect.isAnswer, hquiet] at hisAnswer
        cases hisAnswer
    have houtcome : outcome ∈ (t.conn.handle e).2 := houtcome
    refine hnone ?_
    cases e with
    | request call =>
      rcases callRequest_spec call t.conn with hrefused | haccepted
      · rw [show t.conn.handle (.request call) = _ from hrefused] at houtcome
        cases houtcome
      · obtain ⟨frame, hresult, _⟩ := haccepted.result
        rw [show (t.conn.handle (.request call)).2 = _ from hresult] at houtcome
        rw [List.mem_singleton.mp houtcome]
        rfl
    | readyRead chunk => exact henabled.elim
    | _ => exact ((handle_untouched t.conn (by simp) (by simp)).quiet outcome houtcome).2

/-- **Responses complete their own requests.** In every run in which only the
response to the outstanding request arrives while it is pending, and repeats its
id, every outcome is computed from that response alone, and every success or
exception carries the id of the outstanding request. -/
theorem outcomesOwn_of_inTime (events : List ExchangeEvent)
    (henabled : machine.EachStep Enabled {} events) (hintime : machine.EachStep InTime {} events) :
    machine.EachStep OutcomesOwn {} events :=
  Mealy.eachStep_of_invariant (fun _ _ h hP => inv_next h hP.1 hP.2)
    (fun _ _ h hP => h.outcomesOwn hP.1 hP.2) inv_init (henabled.and hintime)

/-- The connection is made. -/
def connect : List ExchangeEvent :=
  [.driver (.connectToHost "plc" 502 .started), .driver .socketConnected]

/-- A response with one register, to the request of a number. -/
def registerResponse (transactionId : UInt16) (number : ℕ) : List (UInt8 × ℕ) :=
  tagAll number (frameHeader transactionId 5 1 0x03 ++ [2, 0, 7])

/-- A request with its response in two chunks, and another request. -/
theorem twoRequests_outcomesOwn :
    machine.EachStep OutcomesOwn {}
      (connect ++
        [.driver (.request (.readHoldingRegisters 1 0 1)), .arrive ((registerResponse 1 0).take 5),
          .arrive ((registerResponse 1 0).drop 5),
          .driver (.request (.readHoldingRegisters 1 100 1)), .arrive (registerResponse 2 1)]) :=
  outcomesOwn_of_inTime _ (by decide +kernel) (by decide +kernel)

/-- The response to a request arrives after its timeout, while the next request is pending. -/
def lateResponseRun : List ExchangeEvent :=
  connect ++
    [.driver (.request (.readHoldingRegisters 1 0 1)), .driver .requestTimeout,
      .driver (.request (.readHoldingRegisters 1 100 1)), .arrive (registerResponse 1 0)]

/-- The late response completes the second request. -/
theorem lateResponseRun_completesOther :
    ¬ ∀ events, machine.EachStep Enabled {} events → machine.EachStep OutcomesOwn {} events := by
  intro h
  exact absurd (h lateResponseRun (by decide +kernel)) (by decide +kernel)

end Exchange

end QtAppBase.Modbus
