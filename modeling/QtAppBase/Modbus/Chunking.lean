import QtAppBase.Modbus.Connection

/-!
# Responses in pieces

A decoder looks at the bytes its length field announces and at no others. Once
they are there, further bytes change nothing; and what is left over when a
request ends is dropped whether it arrived with the response or later. So it
does not matter in which pieces a response arrives.
-/

namespace QtAppBase.Modbus

open Library QtAppBase.Core Qt

variable {α : Type} {data : QByteArray}

/-! ### Bytes behind a response -/

/-- A word inside the first array is that word of the whole. -/
theorem readBigEndian16_append_left (more : QByteArray) {i : ℕ} (hi : i + 1 < data.length) :
    readBigEndian16 (data ++ more) i = readBigEndian16 data i := by
  rw [readBigEndian16, readBigEndian16, byteAt_append_left more hi,
    byteAt_append_left more (by omega)]

/-- The content of a response is read from the bytes its length field announces. -/
def Local (decodeContent : QByteArray → UInt16 → Option α) : Prop :=
  ∀ (data more : QByteArray) (mbapLength : UInt16), 6 + mbapLength.toNat ≤ data.length →
    decodeContent (data ++ more) mbapLength = decodeContent data mbapLength

/-- The length of a response with a byte count, when it is right. -/
theorem toNat_of_byteCount {mbapLength : UInt16} {byteCount : UInt8}
    (h : mbapLength = UInt16.ofNat (3 + byteCount.toNat)) :
    mbapLength.toNat = 3 + byteCount.toNat := by
  have hbyte := byteCount.toNat_lt
  rw [h]
  exact UInt16.toNat_ofNat_of_lt' (by change 3 + byteCount.toNat < 2 ^ 16; omega)

theorem decodeRegisters_local : Local decodeRegisters := by
  intro data more mbapLength hlength
  unfold decodeRegisters
  by_cases hshort : mbapLength < 3
  · simp only [if_pos hshort]
  · have hthree : 3 ≤ mbapLength.toNat := by simpa [UInt16.lt_iff_toNat_lt] using hshort
    rw [byteAt_append_left more (by omega)]
    simp only [if_neg hshort]
    split_ifs with hwrong
    · rfl
    · have hcount := toNat_of_byteCount (not_not.mp (not_or.mp hwrong).2)
      refine congrArg some (List.map_congr_left fun i hi => ?_)
      have hi := List.mem_range.mp hi
      exact readBigEndian16_append_left more (by omega)

theorem decodeBits_local : Local decodeBits := by
  intro data more mbapLength hlength
  unfold decodeBits
  by_cases hshort : mbapLength < 3
  · simp only [if_pos hshort]
  · have hthree : 3 ≤ mbapLength.toNat := by simpa [UInt16.lt_iff_toNat_lt] using hshort
    rw [byteAt_append_left more (by omega)]
    simp only [if_neg hshort]
    split_ifs with hwrong
    · rfl
    · have hcount := toNat_of_byteCount (not_not.mp hwrong)
      refine congrArg some (List.flatMap_congr fun i hi => ?_)
      have hi := List.mem_range.mp hi
      rw [byteAt_append_left more (by omega)]

theorem decodeWords_local : Local decodeWords := by
  intro data more mbapLength hlength
  unfold decodeWords
  split_ifs with hwrong
  · rfl
  · have hsix : mbapLength.toNat = 6 := congrArg UInt16.toNat (not_not.mp hwrong)
    rw [readBigEndian16_append_left more (by omega), readBigEndian16_append_left more (by omega)]

theorem decodeCoil_local : Local decodeCoil := by
  intro data more mbapLength hlength
  rw [decodeCoil, decodeCoil, decodeWords_local data more mbapLength hlength]

/-- **Verdicts are final.** Once a decoder does not wait for more bytes, more
bytes do not change what it decodes. -/
theorem decodeResponse_append [Inhabited α] {expectedCode : UInt8}
    {decodeContent : QByteArray → UInt16 → Option α} (hlocal : Local decodeContent)
    (h : (decodeResponse expectedCode decodeContent data).status ≠ .incomplete)
    (more : QByteArray) :
    decodeResponse expectedCode decodeContent (data ++ more) =
      decodeResponse expectedCode decodeContent data := by
  by_cases hheader : data.length < 8
  · rw [decodeResponse, if_pos hheader] at h
    exact absurd rfl h
  by_cases hframe : data.length < 6 + (readBigEndian16 data 4).toNat
  · rw [decodeResponse, if_neg hheader] at h
    dsimp only at h
    rw [if_pos hframe] at h
    exact absurd rfl h
  have hheader' : ¬ (data ++ more).length < 8 := by
    rw [List.length_append]
    omega
  have hframe' : ¬ (data ++ more).length < 6 + (readBigEndian16 data 4).toNat := by
    rw [List.length_append]
    omega
  have hcontent := hlocal data more (readBigEndian16 data 4) (by omega)
  unfold decodeResponse
  simp only [if_neg hheader, if_neg hheader', readBigEndian16_append_left more
    (show 0 + 1 < data.length by omega), readBigEndian16_append_left more
    (show 2 + 1 < data.length by omega), readBigEndian16_append_left more
    (show 4 + 1 < data.length by omega), byteAt_append_left more (show 7 < data.length by omega),
    if_neg hframe, if_neg hframe', hcontent]
  split_ifs with hprotocol hexception hshort
  · rfl
  · rfl
  · -- the exception code is inside the frame
    have hthree : 3 ≤ (readBigEndian16 data 4).toNat := by
      simpa [UInt16.lt_iff_toNat_lt] using hshort
    rw [byteAt_append_left more (by omega)]
  · rfl
  · rfl

/-! ### What ends a request -/

/-- The signal a response ends a request with, if it is complete. -/
def Response.outcome (response : Response α) (succeeded : α → Effect) (failed : QString → Effect) :
    Option Effect :=
  match response.status with
  | .incomplete => none
  | .ok => some (succeeded response.content)
  | .exception => some (failed (ModbusConnection.exceptionText response.exceptionCode))
  | .malformed => some (failed ModbusConnection.malformedText)

/-- The signal that received bytes end a request of a kind with, if any. -/
def outcomeOf : PendingRequest → QByteArray → Option Effect
  | .none, _ => none
  | .readHoldingRegisters, data =>
    (decodeReadHoldingRegistersResponse data).outcome .holdingRegistersRead .readFailed
  | .readInputRegisters, data =>
    (decodeReadInputRegistersResponse data).outcome .inputRegistersRead .readFailed
  | .readCoils, data => (decodeReadCoilsResponse data).outcome .coilsRead .readFailed
  | .readDiscreteInputs, data =>
    (decodeReadDiscreteInputsResponse data).outcome .discreteInputsRead .readFailed
  | .writeSingleRegister, data =>
    (decodeWriteSingleRegisterResponse data).outcome
      (fun content => .singleRegisterWritten content.1 content.2) .writeFailed
  | .writeMultipleRegisters, data =>
    (decodeWriteMultipleRegistersResponse data).outcome
      (fun content => .multipleRegistersWritten content.1 content.2) .multipleWriteFailed
  | .writeSingleCoil, data =>
    (decodeWriteSingleCoilResponse data).outcome
      (fun content => .singleCoilWritten content.1 content.2) .singleCoilWriteFailed
  | .writeMultipleCoils, data =>
    (decodeWriteMultipleCoilsResponse data).outcome
      (fun content => .multipleCoilsWritten content.1 content.2) .multipleCoilWriteFailed

/-- A complete response stays what it is. -/
theorem Response.outcome_append [Inhabited α] {expectedCode : UInt8}
    {decodeContent : QByteArray → UInt16 → Option α} (hlocal : Local decodeContent)
    {succeeded : α → Effect} {failed : QString → Effect} {outcome : Effect}
    (h : (decodeResponse expectedCode decodeContent data).outcome succeeded failed = some outcome)
    (more : QByteArray) :
    (decodeResponse expectedCode decodeContent (data ++ more)).outcome succeeded failed =
      some outcome := by
  rw [decodeResponse_append hlocal _ more, h]
  intro hincomplete
  unfold Response.outcome at h
  rw [hincomplete] at h
  cases h

/-- What ended a request would also have ended it with more bytes behind. -/
theorem outcomeOf_append {k : PendingRequest} {outcome : Effect}
    (h : outcomeOf k data = some outcome) (more : QByteArray) :
    outcomeOf k (data ++ more) = some outcome := by
  cases k with
  | none => cases h
  | readHoldingRegisters => exact Response.outcome_append decodeRegisters_local h more
  | readInputRegisters => exact Response.outcome_append decodeRegisters_local h more
  | readCoils => exact Response.outcome_append decodeBits_local h more
  | readDiscreteInputs => exact Response.outcome_append decodeBits_local h more
  | writeSingleRegister =>
    unfold outcomeOf decodeWriteSingleRegisterResponse at h ⊢
    exact Response.outcome_append decodeWords_local h more
  | writeMultipleRegisters =>
    unfold outcomeOf decodeWriteMultipleRegistersResponse at h ⊢
    exact Response.outcome_append decodeWords_local h more
  | writeSingleCoil =>
    unfold outcomeOf decodeWriteSingleCoilResponse at h ⊢
    exact Response.outcome_append decodeCoil_local h more
  | writeMultipleCoils =>
    unfold outcomeOf decodeWriteMultipleCoilsResponse at h ⊢
    exact Response.outcome_append decodeWords_local h more

namespace ModbusConnection

variable {c : ModbusConnection}

/-- One branch of the handler. -/
theorem onResponse_eq (response : Response α) (succeeded : α → Effect) (failed : QString → Effect)
    (c : ModbusConnection) :
    c.onResponse response succeeded failed =
      match response.outcome succeeded failed with
      | none => (c, [])
      | some outcome =>
        ({ c with readBuffer := [], pendingRequest := .none, requestTimer := none },
          [outcome]) := by
  unfold onResponse Response.outcome
  cases response.status <;> rfl

/-- What bytes do to a pending request: they end it with its outcome, or they are kept. -/
theorem onSocketReadyRead_eq (hpending : c.pendingRequest ≠ .none) :
    c.onSocketReadyRead =
      match outcomeOf c.pendingRequest (c.readBuffer ++ c.socket.unread) with
      | none => (c.readAll, [])
      | some outcome =>
        ({ c.readAll with readBuffer := [], pendingRequest := .none, requestTimer := none },
          [outcome]) := by
  have hsame : c.readAll.pendingRequest = c.pendingRequest := rfl
  unfold onSocketReadyRead
  dsimp only
  rw [hsame]
  cases hk : c.pendingRequest with
  | none => exact absurd hk hpending
  | _ => exact onResponse_eq _ _ _ _

/-- With nothing pending, received bytes are dropped. -/
theorem onSocketReadyRead_dropped (hpending : c.pendingRequest = .none) :
    c.onSocketReadyRead = ({ c.readAll with readBuffer := [] }, []) := by
  unfold onSocketReadyRead
  dsimp only
  rw [show c.readAll.pendingRequest = _ from hpending]

/-- The driver as a machine. -/
def machine : Mealy ModbusConnection Event Effect := ⟨handle⟩

/-- Bytes that arrive in two pieces do what they do in one. -/
theorem readyRead_append (c : ModbusConnection) (front back : QByteArray) :
    machine.step c (.readyRead (front ++ back)) =
      (machine.step c (.readyRead front)).andThen fun d => machine.step d (.readyRead back) := by
  let one : ModbusConnection := { c with socket := c.socket.receive (front ++ back) }
  let first : ModbusConnection := { c with socket := c.socket.receive front }
  change one.onSocketReadyRead = first.onSocketReadyRead.andThen fun d =>
    onSocketReadyRead { d with socket := d.socket.receive back }
  by_cases hpending : c.pendingRequest = .none
  · -- both pieces are dropped
    have hone : one.pendingRequest = .none := hpending
    have hfirst : first.pendingRequest = .none := hpending
    rw [onSocketReadyRead_dropped hone, onSocketReadyRead_dropped hfirst, Reaction.andThen,
      onSocketReadyRead_dropped (by exact hpending)]
    rfl
  · have hone : one.pendingRequest ≠ .none := hpending
    have hfirst : first.pendingRequest ≠ .none := hpending
    have hbytes : one.readBuffer ++ one.socket.unread =
        first.readBuffer ++ first.socket.unread ++ back := by
      simp [one, first, TcpSocket.receive]
    rw [onSocketReadyRead_eq hone, onSocketReadyRead_eq hfirst, hbytes]
    cases houtcome : outcomeOf first.pendingRequest (first.readBuffer ++ first.socket.unread) with
    | some outcome =>
      -- the first piece ends the request, and the second one is dropped
      have hboth := outcomeOf_append houtcome back
      rw [show outcomeOf one.pendingRequest _ = _ from hboth, Reaction.andThen,
        onSocketReadyRead_dropped rfl]
      rfl
    | none =>
      -- the first piece is kept, and the second one is decoded with it
      rw [Reaction.andThen, onSocketReadyRead_eq (by exact hpending)]
      have hkept : (first.readAll.readBuffer ++
          (first.readAll.socket.receive back).unread) =
          first.readBuffer ++ first.socket.unread ++ back := rfl
      have hkind : one.pendingRequest = c.pendingRequest := rfl
      dsimp only
      rw [hkept, hkind, show first.readAll.pendingRequest = c.pendingRequest from rfl]
      have hread : one.readAll = readAll
          { first.readAll with socket := first.readAll.socket.receive back } := by
        simp [one, first, readAll, TcpSocket.receive, TcpSocket.drained]
      cases outcomeOf c.pendingRequest (first.readBuffer ++ first.socket.unread ++ back) with
      | some outcome => rfl
      | none => exact congrArg (fun d => (d, [])) hread

/-- The events with which some pieces arrive; nothing arrives with an empty one. -/
def arrivals (chunks : List QByteArray) : List Event := (chunks.filter (· ≠ [])).map .readyRead

/-- **Responses may be cut anywhere.** Received in whatever pieces, bytes have the
outcome they have in one piece, and leave the same state. -/
theorem arrivals_flatten (c : ModbusConnection) (chunks : List QByteArray) :
    machine.emitted c (arrivals chunks) = machine.emitted c (arrivals [chunks.flatten]) ∧
      machine.after c (arrivals chunks) = machine.after c (arrivals [chunks.flatten]) := by
  have hflatten : (chunks.filter (· ≠ [])).flatten = chunks.flatten := List.flatten_filter_ne_nil
  unfold arrivals
  rw [← hflatten]
  cases hfilter : chunks.filter (· ≠ []) with
  | nil => exact ⟨rfl, rfl⟩
  | cons first rest =>
    have hnonempty : first ≠ [] := by
      have hmem : first ∈ chunks.filter (· ≠ []) := by
        rw [hfilter]
        exact List.mem_cons_self
      simpa using (List.mem_filter.mp hmem).2
    have hwhole : [(first :: rest).flatten].filter (· ≠ []) = [(first :: rest).flatten] := by
      simp [hnonempty]
    have hpieces := Mealy.emitted_pieces Event.readyRead readyRead_append c first rest
    rw [hwhole]
    constructor
    · rw [List.map_singleton, Mealy.emitted_cons, Mealy.emitted_nil, List.append_nil, ← hpieces]
    · rw [List.map_singleton, Mealy.after_cons, Mealy.after_nil, Mealy.next, ← hpieces]

end ModbusConnection

end QtAppBase.Modbus
