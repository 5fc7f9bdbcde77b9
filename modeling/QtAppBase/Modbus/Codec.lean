import QtAppBase.Library.Words
import QtAppBase.Qt.Values

/-!
# Modbus TCP frames

A frame is the MBAP header (transaction id, protocol id, length, unit id) and a
function code with its data, all words big-endian. Four reads and four writes
are encoded, and their eight responses decoded; the decoders look at the front
of the received bytes and consume nothing.
-/

namespace QtAppBase.Modbus

open Library Qt

/-- `appendBigEndian16`: a word, the high byte first. -/
def bigEndian16 (value : UInt16) : QByteArray := [highByte value, lowByte value]

def readBigEndian16 (data : QByteArray) (index : ℕ) : UInt16 :=
  word16 (byteAt data (index + 1)) (byteAt data index)

/-- The bits of some bytes, the lowest bit of a byte first. -/
def unpackBits (data : QByteArray) (offset byteCount : ℕ) : List Bool :=
  (List.range byteCount).flatMap fun i =>
    (List.range 8).map fun bit => byteAt data (offset + i) &&& (1 <<< UInt8.ofNat bit) ≠ 0

/-- Set the bits one after another in zeroed bytes. -/
def packBits (values : List Bool) : QByteArray :=
  values.zipIdx.foldl
    (fun packed entry =>
      if entry.1 then
        packed.set (entry.2 / 8) (byteAt packed (entry.2 / 8) ||| (1 <<< UInt8.ofNat (entry.2 % 8)))
      else packed)
    (List.replicate ((values.length + 7) / 8) 0)

/-! ### Requests -/

structure ReadHoldingRegistersRequest where
  transactionId : UInt16 := 0
  unitId : UInt8 := 1
  startAddress : UInt16 := 0
  quantity : UInt16 := 1
  deriving DecidableEq, Repr

structure ReadInputRegistersRequest where
  transactionId : UInt16 := 0
  unitId : UInt8 := 1
  startAddress : UInt16 := 0
  quantity : UInt16 := 1
  deriving DecidableEq, Repr

structure ReadCoilsRequest where
  transactionId : UInt16 := 0
  unitId : UInt8 := 1
  startAddress : UInt16 := 0
  quantity : UInt16 := 1
  deriving DecidableEq, Repr

structure ReadDiscreteInputsRequest where
  transactionId : UInt16 := 0
  unitId : UInt8 := 1
  startAddress : UInt16 := 0
  quantity : UInt16 := 1
  deriving DecidableEq, Repr

structure WriteSingleRegisterRequest where
  transactionId : UInt16 := 0
  unitId : UInt8 := 1
  address : UInt16 := 0
  value : UInt16 := 0
  deriving DecidableEq, Repr

structure WriteMultipleRegistersRequest where
  transactionId : UInt16 := 0
  unitId : UInt8 := 1
  startAddress : UInt16 := 0
  values : List UInt16 := []
  deriving DecidableEq, Repr

structure WriteSingleCoilRequest where
  transactionId : UInt16 := 0
  unitId : UInt8 := 1
  address : UInt16 := 0
  value : Bool := false
  deriving DecidableEq, Repr

structure WriteMultipleCoilsRequest where
  transactionId : UInt16 := 0
  unitId : UInt8 := 1
  startAddress : UInt16 := 0
  values : List Bool := []
  deriving DecidableEq, Repr

/-- The MBAP header and the function code; the length counts from the unit id on. -/
def frameHeader (transactionId length : UInt16) (unitId functionCode : UInt8) : QByteArray :=
  bigEndian16 transactionId ++ bigEndian16 0 ++ bigEndian16 length ++ [unitId, functionCode]

/-- A frame whose data are two words. -/
def encodeWords (transactionId : UInt16) (unitId functionCode : UInt8) (first second : UInt16) :
    QByteArray :=
  frameHeader transactionId 6 unitId functionCode ++ bigEndian16 first ++ bigEndian16 second

def encodeReadHoldingRegistersRequest (request : ReadHoldingRegistersRequest) : QByteArray :=
  encodeWords request.transactionId request.unitId 0x03 request.startAddress request.quantity

def encodeReadInputRegistersRequest (request : ReadInputRegistersRequest) : QByteArray :=
  encodeWords request.transactionId request.unitId 0x04 request.startAddress request.quantity

def encodeReadCoilsRequest (request : ReadCoilsRequest) : QByteArray :=
  encodeWords request.transactionId request.unitId 0x01 request.startAddress request.quantity

def encodeReadDiscreteInputsRequest (request : ReadDiscreteInputsRequest) : QByteArray :=
  encodeWords request.transactionId request.unitId 0x02 request.startAddress request.quantity

def encodeWriteSingleRegisterRequest (request : WriteSingleRegisterRequest) : QByteArray :=
  encodeWords request.transactionId request.unitId 0x06 request.address request.value

def encodeWriteSingleCoilRequest (request : WriteSingleCoilRequest) : QByteArray :=
  encodeWords request.transactionId request.unitId 0x05 request.address
    (if request.value then 0xFF00 else 0x0000)

/-- A frame whose data are an address, a quantity, and that many packed values. -/
def encodeValues (transactionId : UInt16) (unitId functionCode : UInt8) (startAddress : UInt16)
    (quantity : ℕ) (packed : QByteArray) : QByteArray :=
  frameHeader transactionId (UInt16.ofNat (7 + packed.length)) unitId functionCode ++
    bigEndian16 startAddress ++ bigEndian16 (UInt16.ofNat quantity) ++
    [UInt8.ofNat packed.length] ++ packed

def encodeWriteMultipleRegistersRequest (request : WriteMultipleRegistersRequest) : QByteArray :=
  encodeValues request.transactionId request.unitId 0x10 request.startAddress
    request.values.length (request.values.flatMap bigEndian16)

def encodeWriteMultipleCoilsRequest (request : WriteMultipleCoilsRequest) : QByteArray :=
  encodeValues request.transactionId request.unitId 0x0f request.startAddress
    request.values.length (packBits request.values)

/-! ### Responses -/

/-- How far a response has been recognised. -/
inductive ResponseStatus where
  | incomplete
  | malformed
  | exception
  | ok
  deriving DecidableEq, Repr

/-- A decoded response. The exception code is meaningful for exceptions, the
content for accepted responses. -/
structure Response (α : Type) where
  status : ResponseStatus := .incomplete
  transactionId : UInt16 := 0
  exceptionCode : UInt8 := 0
  content : α
  deriving DecidableEq, Repr

/-- The framing checks of all decoders. `decodeContent` reads the data behind
the function code, given the length field. -/
def decodeResponse {α : Type} [Inhabited α] (expectedCode : UInt8)
    (decodeContent : QByteArray → UInt16 → Option α) (data : QByteArray) : Response α :=
  if data.length < 8 then { content := default }
  else
    let transactionId := readBigEndian16 data 0
    let mbapLength := readBigEndian16 data 4
    if data.length < 6 + mbapLength.toNat then
      { transactionId := transactionId, content := default }
    else if readBigEndian16 data 2 ≠ 0x0000 ∨ mbapLength < 2 then
      { status := .malformed, transactionId := transactionId, content := default }
    else
      let functionCode := byteAt data 7
      if functionCode &&& 0x80 ≠ 0 then
        if mbapLength < 3 then
          { status := .malformed, transactionId := transactionId, content := default }
        else
          { status := .exception
            transactionId := transactionId
            exceptionCode := byteAt data 8
            content := default }
      else if functionCode ≠ expectedCode then
        { status := .malformed, transactionId := transactionId, content := default }
      else
        match decodeContent data mbapLength with
        | none => { status := .malformed, transactionId := transactionId, content := default }
        | some content =>
          { status := .ok, transactionId := transactionId, content := content }

/-- A byte count and that many bytes of registers. -/
def decodeRegisters (data : QByteArray) (mbapLength : UInt16) : Option (List UInt16) :=
  let byteCount := byteAt data 8
  if mbapLength < 3 then none
  else if byteCount % 2 ≠ 0 ∨ mbapLength ≠ UInt16.ofNat (3 + byteCount.toNat) then none
  else some ((List.range (byteCount.toNat / 2)).map fun i => readBigEndian16 data (9 + 2 * i))

/-- A byte count and that many bytes of bits. -/
def decodeBits (data : QByteArray) (mbapLength : UInt16) : Option (List Bool) :=
  let byteCount := byteAt data 8
  if mbapLength < 3 then none
  else if mbapLength ≠ UInt16.ofNat (3 + byteCount.toNat) then none
  else some (unpackBits data 9 byteCount.toNat)

/-- Two words. -/
def decodeWords (data : QByteArray) (mbapLength : UInt16) : Option (UInt16 × UInt16) :=
  if mbapLength ≠ 6 then none else some (readBigEndian16 data 8, readBigEndian16 data 10)

/-- An address, and a word that means on or off. -/
def decodeCoil (data : QByteArray) (mbapLength : UInt16) : Option (UInt16 × Bool) :=
  (decodeWords data mbapLength).map fun words => (words.1, words.2 = 0xFF00)

/-- The content is the registers. -/
def decodeReadHoldingRegistersResponse : QByteArray → Response (List UInt16) :=
  decodeResponse 0x03 decodeRegisters

/-- The content is the registers. -/
def decodeReadInputRegistersResponse : QByteArray → Response (List UInt16) :=
  decodeResponse 0x04 decodeRegisters

/-- The content is the coils. -/
def decodeReadCoilsResponse : QByteArray → Response (List Bool) := decodeResponse 0x01 decodeBits

/-- The content is the inputs. -/
def decodeReadDiscreteInputsResponse : QByteArray → Response (List Bool) :=
  decodeResponse 0x02 decodeBits

/-- The content is the address and the value. -/
def decodeWriteSingleRegisterResponse : QByteArray → Response (UInt16 × UInt16) :=
  decodeResponse 0x06 decodeWords

/-- The content is the start address and the quantity. -/
def decodeWriteMultipleRegistersResponse : QByteArray → Response (UInt16 × UInt16) :=
  decodeResponse 0x10 decodeWords

/-- The content is the address and the value. -/
def decodeWriteSingleCoilResponse : QByteArray → Response (UInt16 × Bool) :=
  decodeResponse 0x05 decodeCoil

/-- The content is the start address and the quantity. -/
def decodeWriteMultipleCoilsResponse : QByteArray → Response (UInt16 × UInt16) :=
  decodeResponse 0x0f decodeWords

/-! ### Transaction ids -/

/-- The transaction id of a frame. -/
def transactionIdOf (frame : QByteArray) : UInt16 := readBigEndian16 frame 0

/-- Every decoded response carries the transaction id of the bytes it is decoded from. -/
theorem decodeResponse_transactionId {α : Type} [Inhabited α] {expectedCode : UInt8}
    {decodeContent : QByteArray → UInt16 → Option α} {data : QByteArray}
    (h : (decodeResponse expectedCode decodeContent data).status ≠ .incomplete) :
    (decodeResponse expectedCode decodeContent data).transactionId = transactionIdOf data := by
  unfold decodeResponse at h ⊢
  by_cases hlength : data.length < 8
  · rw [if_pos hlength] at h
    exact absurd rfl h
  · rw [if_neg hlength]
    dsimp only
    split_ifs <;> try rfl
    split <;> rfl

end QtAppBase.Modbus
