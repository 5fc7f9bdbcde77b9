import QtAppBase.Modbus.Layout

/-!
# Exception responses

An exception answers a request with its function code and the high bit set, and
carries one byte. The decoders look for the high bit before they look at the
function code, and for a body before they look at its size, so they report
other frames as exceptions too.
-/

namespace QtAppBase.Modbus

open Library Qt

/-- The eight kinds of responses. -/
inductive ResponseKind where
  | readHoldingRegisters
  | readInputRegisters
  | readCoils
  | readDiscreteInputs
  | writeSingleRegister
  | writeMultipleRegisters
  | writeSingleCoil
  | writeMultipleCoils
  deriving DecidableEq, Repr

/-- The function code of the request. -/
def ResponseKind.functionCode : ResponseKind → UInt8
  | .readHoldingRegisters => 0x03
  | .readInputRegisters => 0x04
  | .readCoils => 0x01
  | .readDiscreteInputs => 0x02
  | .writeSingleRegister => 0x06
  | .writeMultipleRegisters => 0x10
  | .writeSingleCoil => 0x05
  | .writeMultipleCoils => 0x0f

/-- The status of a response, and its exception code. -/
def Response.report {α : Type} (response : Response α) : ResponseStatus × UInt8 :=
  (response.status, response.exceptionCode)

/-- What the decoder of the kind reports. -/
def ResponseKind.decode (kind : ResponseKind) (data : QByteArray) : ResponseStatus × UInt8 :=
  match kind with
  | .readHoldingRegisters => (decodeReadHoldingRegistersResponse data).report
  | .readInputRegisters => (decodeReadInputRegistersResponse data).report
  | .readCoils => (decodeReadCoilsResponse data).report
  | .readDiscreteInputs => (decodeReadDiscreteInputsResponse data).report
  | .writeSingleRegister => (decodeWriteSingleRegisterResponse data).report
  | .writeMultipleRegisters => (decodeWriteMultipleRegistersResponse data).report
  | .writeSingleCoil => (decodeWriteSingleCoilResponse data).report
  | .writeMultipleCoils => (decodeWriteMultipleCoilsResponse data).report

/-- The bytes start with an exception that answers the function code: a frame of
length three with the high bit added to the code, and the exception code. -/
def ExceptionFrame (functionCode : UInt8) (data : QByteArray) (exceptionCode : UInt8) : Prop :=
  ∃ transactionId unitId rest,
    data = frameHeader transactionId 3 unitId (functionCode + 0x80) ++ exceptionCode :: rest

/-- What is reported as an exception is one that answers the request. -/
def ExceptionsConform (kind : ResponseKind) (data : QByteArray) : Prop :=
  (kind.decode data).1 = .exception →
    ExceptionFrame kind.functionCode data (kind.decode data).2

/-- No frame with the high bit set lies at the front, unless it has one byte of
data and the function code of the request. -/
def NoOtherException (functionCode : UInt8) (data : QByteArray) : Prop :=
  ∀ transactionId unitId code body, FrameAtFront data transactionId unitId code body →
    code &&& 0x80 ≠ 0 → body ≠ [] → body.length = 1 ∧ code = functionCode + 0x80

variable {data : QByteArray}

/-- A decoder reports an exception if and only if a frame with the high bit set
and at least one byte of data lies at the front. -/
theorem decodeResponse_report_exception_iff {α : Type} [Inhabited α] {expectedCode : UInt8}
    {decodeContent : QByteArray → UInt16 → Option α} (exceptionCode : UInt8) :
    (decodeResponse expectedCode decodeContent data).report = (.exception, exceptionCode) ↔
      ∃ transactionId unitId code body, FrameAtFront data transactionId unitId code body ∧
        code &&& 0x80 ≠ 0 ∧ body ≠ [] ∧ exceptionCode = byteAt body 0 := by
  constructor
  · intro h
    obtain ⟨transactionId, unitId, code, body, hframe⟩ :=
      exists_frame_of_accepted (Or.inr (congrArg Prod.fst h))
    rw [hframe.decodeResponse_eq] at h
    by_cases hhigh : code &&& 0x80 ≠ 0
    · rw [if_pos hhigh] at h
      by_cases hbody : body = []
      · rw [if_pos hbody] at h
        cases congrArg Prod.fst h
      · rw [if_neg hbody] at h
        exact ⟨transactionId, unitId, code, body, hframe, hhigh, hbody, (congrArg Prod.snd h).symm⟩
    · rw [if_neg hhigh] at h
      split_ifs at h
      · cases congrArg Prod.fst h
      · split at h
        · cases congrArg Prod.fst h
        · cases congrArg Prod.fst h
  · rintro ⟨transactionId, unitId, code, body, hframe, hhigh, hbody, rfl⟩
    rw [hframe.decodeResponse_eq, if_pos hhigh, if_neg hbody]
    rfl

/-- All kinds report exceptions alike. -/
theorem ResponseKind.decode_eq_exception_iff (kind : ResponseKind) (exceptionCode : UInt8) :
    kind.decode data = (.exception, exceptionCode) ↔
      ∃ transactionId unitId code body, FrameAtFront data transactionId unitId code body ∧
        code &&& 0x80 ≠ 0 ∧ body ≠ [] ∧ exceptionCode = byteAt body 0 := by
  cases kind <;> exact decodeResponse_report_exception_iff exceptionCode

/-- A frame of one byte is an exception frame, if it has the function code. -/
theorem FrameAtFront.exceptionFrame {transactionId : UInt16} {unitId functionCode : UInt8}
    {body : QByteArray}
    (h : FrameAtFront data transactionId unitId (functionCode + 0x80) body)
    (hlength : body.length = 1) : ExceptionFrame functionCode data (byteAt body 0) := by
  obtain ⟨rest, rfl⟩ := h.layout
  obtain ⟨exceptionCode, rfl⟩ := List.length_eq_one_iff.mp hlength
  exact ⟨transactionId, unitId, rest, rfl⟩

/-- An exception frame is a frame with the function code and one byte. -/
theorem ExceptionFrame.frameAtFront {functionCode exceptionCode : UInt8}
    (h : ExceptionFrame functionCode data exceptionCode) :
    ∃ transactionId unitId,
      FrameAtFront data transactionId unitId (functionCode + 0x80) [exceptionCode] := by
  obtain ⟨transactionId, unitId, rest, rfl⟩ := h
  exact ⟨transactionId, unitId, by change 2 + 1 < 2 ^ 16; decide, rest, rfl⟩

/-- There is only one frame at the front. -/
theorem FrameAtFront.unique {transactionId transactionId' : UInt16}
    {unitId unitId' functionCode functionCode' : UInt8} {body body' : QByteArray}
    (h : FrameAtFront data transactionId unitId functionCode body)
    (h' : FrameAtFront data transactionId' unitId' functionCode' body') :
    functionCode = functionCode' ∧ body.length = body'.length := by
  have hcode : ∀ {transactionId unitId functionCode body},
      FrameAtFront data transactionId unitId functionCode body → byteAt data 7 = functionCode := by
    intro transactionId unitId functionCode body h
    obtain ⟨rest, rfl⟩ := h.layout
    rfl
  refine ⟨(hcode h).symm.trans (hcode h'), ?_⟩
  have hsame := congrArg UInt16.toNat (h.mbapLength_eq.symm.trans h'.mbapLength_eq)
  rw [h.mbapLength_toNat, h'.mbapLength_toNat] at hsame
  omega

/-- **When exceptions are the answer to the request.** Each decoder reports only
such exceptions if and only if no other frame with the high bit set and with
data lies at the front. -/
theorem exceptionsConform_iff (kind : ResponseKind) (data : QByteArray) :
    ExceptionsConform kind data ↔ NoOtherException kind.functionCode data := by
  constructor
  · intro h transactionId unitId code body hframe hhigh hbody
    have hreport : kind.decode data = (.exception, byteAt body 0) :=
      (kind.decode_eq_exception_iff _).mpr
        ⟨transactionId, unitId, code, body, hframe, hhigh, hbody, rfl⟩
    obtain ⟨transactionId', unitId', hanswer⟩ :=
      (h (congrArg Prod.fst hreport)).frameAtFront
    obtain ⟨hcode, hlength⟩ := hframe.unique hanswer
    exact ⟨hlength, hcode⟩
  · intro h hexception
    obtain ⟨transactionId, unitId, code, body, hframe, hhigh, hbody, hvalue⟩ :=
      (kind.decode_eq_exception_iff (kind.decode data).2).mp (Prod.ext hexception rfl)
    obtain ⟨hlength, rfl⟩ := h _ _ _ _ hframe hhigh hbody
    rw [hvalue]
    exact hframe.exceptionFrame hlength

/-- The exception of a register write is taken for one of a register read. -/
theorem exceptions_foreign :
    ¬ ∀ (kind : ResponseKind) (data : QByteArray), ExceptionsConform kind data := by
  intro h
  obtain ⟨transactionId, unitId, rest, hdata⟩ :=
    h .readHoldingRegisters (frameHeader 7 3 1 0x86 ++ [0x02]) (by decide)
  have hcode := congrArg (fun data => byteAt data 7) hdata
  exact absurd hcode (show ¬ (0x86 : UInt8) = 0x03 + 0x80 by decide)

end QtAppBase.Modbus
