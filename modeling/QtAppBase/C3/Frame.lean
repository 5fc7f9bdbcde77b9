import QtAppBase.Library.Words
import QtAppBase.Qt.Values

/-!
# Frames of the C3 protocol

A frame is a start byte, a version, a command, a little-endian payload length,
the payload, a checksum of everything between the start byte and itself, and an
end byte. Three decoders look at the front of the received bytes; none consumes
anything.
-/

namespace QtAppBase.C3

open Library Qt

def kFrameStart : UInt8 := 0xAA
def kFrameEnd : UInt8 := 0x55
def kProtocolVersion : UInt8 := 0x01
def kCommandConnectSessionLess : UInt8 := 0x01
def kCommandConnectSession : UInt8 := 0x76
def kCommandDisconnect : UInt8 := 0x02
def kReplyOk : UInt8 := 0xC8
def kReplyError : UInt8 := 0xC9

/-- The session id accepted before a session exists. -/
def kPreSessionId : UInt16 := 0xFEFE

/-- The request number accepted before a session exists. -/
def kPreSessionRequestNr : Int32 := -258

/-- One bit of the checksum loop. -/
def crcBit (crc : UInt16) : UInt16 :=
  if crc &&& 1 ≠ 0 then (crc >>> 1) ^^^ 0xA001 else crc >>> 1

/-- One byte of the checksum loop. -/
def crcByte (crc : UInt16) (byte : UInt8) : UInt16 :=
  (List.range 8).foldl (fun crc _ => crcBit crc) (crc ^^^ byte.toUInt16)

/-- CRC-16/ARC, bit by bit. -/
def crc16 (data : QByteArray) : UInt16 := data.foldl crcByte 0

/-- A 16-bit word in little-endian order. -/
def littleEndian16 (value : UInt16) : QByteArray := [lowByte value, highByte value]

/-- The body of a frame, which the checksum covers: version, command, length,
the session block if there is one, and the payload. -/
def frameBody (command : UInt8) (sessionId : UInt16) (requestNr : Int32) (payload : QByteArray)
    (includeSessionBlock : Bool) : QByteArray :=
  [kProtocolVersion, command] ++
    littleEndian16 (UInt16.ofNat ((if includeSessionBlock then 4 else 0) + payload.length)) ++
    (if includeSessionBlock then
      littleEndian16 sessionId ++ littleEndian16 requestNr.toUInt32.toUInt16
    else []) ++ payload

/-- Build the full frame. -/
def encodeFrame (command : UInt8) (sessionId : UInt16) (requestNr : Int32) (payload : QByteArray)
    (includeSessionBlock : Bool) : QByteArray :=
  let body := frameBody command sessionId requestNr payload includeSessionBlock
  [kFrameStart] ++ body ++ littleEndian16 (crc16 body) ++ [kFrameEnd]

/-- How far a reply has been recognised. -/
inductive ResponseStatus where
  | incomplete
  | malformed
  | rejected
  | ok
  deriving DecidableEq, Repr

/-- The length field of the frame at the front. -/
def lengthField (data : QByteArray) : ℕ := (word16 (byteAt data 3) (byteAt data 4)).toNat

/-- The size of the frame at the front. -/
def frameSize (data : QByteArray) : ℕ := 5 + lengthField data + 2 + 1

/-- The checksum carried by the frame at the front. -/
def expectedCrc (data : QByteArray) : UInt16 :=
  word16 (byteAt data (5 + lengthField data)) (byteAt data (5 + lengthField data + 1))

/-- The command byte of the frame at the front. -/
def frameCommand (data : QByteArray) : UInt8 := byteAt data 2

/-- Too few bytes for the frame at the front. -/
def Partial (data : QByteArray) : Prop := data.length < 5 ∨ data.length < frameSize data

instance (data : QByteArray) : Decidable (Partial data) := inferInstanceAs (Decidable (_ ∨ _))

/-- The markers and the checksum of the frame at the front are right. -/
def Intact (data : QByteArray) : Prop :=
  byteAt data 0 = kFrameStart ∧ byteAt data (frameSize data - 1) = kFrameEnd ∧
    crc16 (mid data 1 (4 + lengthField data)) = expectedCrc data

instance (data : QByteArray) : Decidable (Intact data) := inferInstanceAs (Decidable (_ ∧ _ ∧ _))

/-- The status of a frame, its payload, and its command byte. -/
structure DecodedFrame where
  status : ResponseStatus := .incomplete
  payload : QByteArray := []
  command : UInt8 := 0
  deriving DecidableEq, Repr

/-- Decode the frame at the front, whatever its command. -/
def decodeFrameGeneric (data : QByteArray) (stripSessionBlock : Bool) : DecodedFrame :=
  if Partial data then {}
  else if ¬ Intact data then { status := .malformed }
  else if frameCommand data = kReplyError then { status := .rejected }
  else
    let payload := mid data 5 (lengthField data)
    { status := .ok
      payload := if stripSessionBlock && 4 ≤ payload.length then payload.drop 4 else payload
      command := frameCommand data }

/-- A CONNECT_SESSION request carries the sentinels and the password. -/
def encodeConnectSessionRequest (password : QString) : QByteArray :=
  encodeFrame kCommandConnectSession kPreSessionId kPreSessionRequestNr (toLatin1 password) true

/-- The reply to CONNECT_SESSION. -/
structure ConnectSessionResponse where
  status : ResponseStatus := .incomplete
  sessionId : UInt16 := 0
  deriving DecidableEq, Repr

/-- The session id is read behind the length, whatever the length is. -/
def decodeConnectSessionResponse (data : QByteArray) : ConnectSessionResponse :=
  if Partial data then {}
  else if ¬ Intact data ∨ (frameCommand data ≠ kReplyOk ∧ frameCommand data ≠ kReplyError) then
    { status := .malformed }
  else if frameCommand data = kReplyError then { status := .rejected }
  else { status := .ok, sessionId := word16 (byteAt data 5) (byteAt data 6) }

def encodeDisconnectRequest (sessionId : UInt16) (requestNr : Int32) : QByteArray :=
  encodeFrame kCommandDisconnect sessionId requestNr [] true

/-- A CONNECT_SESSION_LESS request has no session block. -/
def encodeConnectSessionLessRequest (password : QString) : QByteArray :=
  encodeFrame kCommandConnectSessionLess 0 0 (toLatin1 password) false

def encodeSessionLessDisconnectRequest : QByteArray := encodeFrame kCommandDisconnect 0 0 [] false

/-- A reply without a payload to interpret: its status. -/
def decodeGenericReply (data : QByteArray) : ResponseStatus :=
  if Partial data then .incomplete
  else if ¬ Intact data ∨ (frameCommand data ≠ kReplyOk ∧ frameCommand data ≠ kReplyError) then
    .malformed
  else if frameCommand data = kReplyError then .rejected
  else .ok

end QtAppBase.C3
