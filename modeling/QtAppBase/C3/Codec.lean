import QtAppBase.C3.Frame
import Mathlib.Data.Int.Basic

/-!
# Commands and replies of the C3 protocol

The payload formats over the frame: table configuration text, table records,
the big-data transfer, record counts, device parameters, door control, and the
realtime log.
-/

namespace QtAppBase.C3

open Library Qt

def kCommandDataTableCfg : UInt8 := 0x06
def kCommandGetData : UInt8 := 0x08
def kCommandPrepareData : UInt8 := 0x0D
def kCommandTransmitData : UInt8 := 0x0E
def kCommandFreeData : UInt8 := 0x0F
def kCommandGetDataCount : UInt8 := 0x0A
def kCommandGetParam : UInt8 := 0x04
def kCommandControl : UInt8 := 0x05
def kCommandRtlogBinary : UInt8 := 0x0B
def kCommandRtlogKeyValue : UInt8 := 0x79

/-! ### Text payloads -/

/-- The characters of a key: `[\w~]`. -/
def isKeyChar (c : Char) : Bool := c.isAlphanum || c = '_' || c = '~'

/-- The characters of a value: `[^,\t]`. -/
def isValueChar (c : Char) : Bool := c ≠ ',' && c ≠ '\t'

/-- A match of the pattern at this position, and the text after it. A key that
is not followed by its `=` and a value does not match, shortened or not. -/
def matchPair (text : List Char) : Option ((QString × QString) × List Char) :=
  match text.takeWhile isKeyChar, text.dropWhile isKeyChar with
  | c :: key, '=' :: rest =>
    match rest.takeWhile isValueChar with
    | [] => none
    | value => some ((String.ofList (c :: key), String.ofList value), rest.dropWhile isValueChar)
  | _, _ => none

/-- All matches from left to right. Each round removes a character, so the
length of the text is enough fuel. -/
def globalMatch : ℕ → List Char → List (QString × QString)
  | fuel + 1, c :: text =>
    match matchPair (c :: text) with
    | some (pair, rest) => pair :: globalMatch fuel rest
    | none => globalMatch fuel text
  | _, _ => []

/-- The `key=value` pairs of a line. -/
def parseKeyValuePairs (line : QByteArray) : List (QString × QString) :=
  globalMatch line.length (latin1Text line)

/-- The pairs of a line as a map; a later pair wins. -/
def pairsMap (pairs : List (QString × QString)) : QVariantMap :=
  pairs.foldl (fun map pair => map.insert pair.1 (.string pair.2)) QVariantMap.empty

/-! ### Table configuration -/

/-- A column of a table: `'i'` and `'L'` are little-endian integers, `'s'` is text. -/
structure DataTableField where
  name : QString
  type : Char := 'i'
  index : ℤ := 0
  deriving DecidableEq, Repr

structure DataTableConfig where
  name : QString := ""
  index : ℤ := 0
  fields : List DataTableField := []
  deriving DecidableEq, Repr

structure DataTableConfigResponse where
  status : ResponseStatus := .incomplete
  tables : List DataTableConfig := []
  deriving DecidableEq, Repr

def encodeDataTableConfigRequest (includeSessionBlock : Bool) (sessionId : UInt16)
    (requestNr : Int32) : QByteArray :=
  encodeFrame kCommandDataTableCfg sessionId requestNr [] includeSessionBlock

/-- A field descriptor is a type character and an index. -/
def decodeField (pair : QString × QString) : Option DataTableField :=
  match pair.2.toList with
  | [] => none
  | type :: index => some { name := pair.1, type := type, index := toInt (String.ofList index) }

/-- A line describes a table by its first pair, and its columns by the others. -/
def decodeTableLine (line : QByteArray) : Option DataTableConfig :=
  match parseKeyValuePairs line with
  | [] => none
  | first :: others =>
    some { name := first.1, index := toInt first.2, fields := others.filterMap decodeField }

def decodeDataTableConfigResponse (data : QByteArray) (includeSessionBlock : Bool) :
    DataTableConfigResponse :=
  let frame := decodeFrameGeneric data includeSessionBlock
  if frame.status ≠ .ok then { status := frame.status }
  else { status := .ok, tables := (frame.payload.splitOn 10).filterMap decodeTableLine }

/-! ### Table records -/

def encodeGetDataRequest (tableIndex : ℤ) (fieldIndexes : List ℤ) (includeSessionBlock : Bool)
    (sessionId : UInt16) (requestNr : Int32) : QByteArray :=
  encodeFrame kCommandGetData sessionId requestNr
    ([UInt8.ofInt tableIndex, UInt8.ofNat fieldIndexes.length] ++ fieldIndexes.map UInt8.ofInt ++
      [0, 0])
    includeSessionBlock

/-- What CMD_PREPARE_DATA announces. -/
structure PrepareDataInfo where
  compressed : Bool := false
  dataLength : UInt32 := 0
  originalLength : UInt32 := 0
  checksum : UInt32 := 0
  packageLength : UInt32 := 0
  deriving DecidableEq, Repr

inductive GetDataStatus where
  | incomplete
  | malformed
  | rejected
  | tableMismatch
  | ok
  | bigDataPending
  deriving DecidableEq, Repr

structure GetDataResponse where
  status : GetDataStatus := .incomplete
  records : List QVariantMap := []
  prepareInfo : PrepareDataInfo := {}
  deriving DecidableEq

/-- The columns a reply returns, each the first one with its index. -/
def returnedFields (tableFields : List DataTableField) :
    List UInt8 → Option (List DataTableField)
  | [] => some []
  | returnedIndex :: rest =>
    match tableFields.find? fun field => field.index = (returnedIndex.toNat : ℤ) with
    | none => none
    | some field => (returnedFields tableFields rest).map (field :: ·)

/-- A little-endian 64-bit integer of at most eight bytes. -/
def integerValue (bytes : QByteArray) : Int64 :=
  UInt64.toInt64 <| bytes.zipIdx.foldl
    (fun value entry => value ||| (entry.1.toUInt64 <<< UInt64.ofNat (8 * entry.2))) 0

/-- The value of a column. -/
def decodeValue (type : Char) (value : QByteArray) : Option QVariant :=
  if type = 'i' ∨ type = 'L' then
    if value.length > 8 then none else some (.longlong (integerValue value))
  else if type = 's' then some (.string (fromLatin1 value))
  else none

/-- Read one record: for each column a size byte and that many bytes. -/
def parseRecord : List DataTableField → QByteArray → QVariantMap →
    Option (QVariantMap × QByteArray)
  | [], rest, record => some (record, rest)
  | _ :: _, [], _ => none
  | field :: fields, size :: rest, record =>
    if size.toNat > rest.length then none
    else
      match decodeValue field.type (rest.take size.toNat) with
      | none => none
      | some value =>
        parseRecord fields (rest.drop size.toNat) (record.insert field.name value)

/-- Read records to the end. Each record removes a byte, so the length of the
rest is enough fuel. -/
def parseRecords (fields : List DataTableField) : ℕ → QByteArray → Option (List QVariantMap)
  | _, [] => some []
  | 0, _ :: _ => none
  | fuel + 1, byte :: rest =>
    match parseRecord fields (byte :: rest) QVariantMap.empty with
    | none => none
    | some (record, rest) => (parseRecords fields fuel rest).map (record :: ·)

/-- Parse the records of a table: its index, the returned columns, the records. -/
def parseGetDataPayload (payload : QByteArray) (expectedTableIndex : ℤ)
    (tableFields : List DataTableField) : GetDataResponse :=
  if payload.length < 2 then { status := .malformed }
  else if byteAt payload 0 ≠ UInt8.ofInt expectedTableIndex then { status := .tableMismatch }
  else
    let fieldCount := (byteAt payload 1).toNat
    if payload.length < 2 + fieldCount then { status := .malformed }
    else
      match returnedFields tableFields (mid payload 2 fieldCount) with
      | none => { status := .malformed }
      | some fields =>
        let rest := payload.drop (2 + fieldCount)
        if fields.isEmpty ∧ rest ≠ [] then { status := .malformed }
        else
          match parseRecords fields rest.length rest with
          | none => { status := .malformed }
          | some records => { status := .ok, records := records }

/-- A little-endian 32-bit word inside a payload. -/
def word32At (data : QByteArray) (i : ℕ) : UInt32 :=
  word32 (byteAt data i) (byteAt data (i + 1)) (byteAt data (i + 2)) (byteAt data (i + 3))

/-- The fields of the 17 payload bytes of CMD_PREPARE_DATA. -/
def prepareDataInfo (payload : QByteArray) : PrepareDataInfo :=
  { compressed := byteAt payload 0 ≠ 0
    dataLength := word32At payload 1
    originalLength := word32At payload 5
    checksum := word32At payload 9
    packageLength := word32At payload 13 }

def decodeGetDataResponse (data : QByteArray) (expectedTableIndex : ℤ)
    (tableFields : List DataTableField) (includeSessionBlock : Bool) : GetDataResponse :=
  let frame := decodeFrameGeneric data includeSessionBlock
  match frame.status with
  | .incomplete => {}
  | .malformed => { status := .malformed }
  | .rejected => { status := .rejected }
  | .ok =>
    if frame.command = kCommandPrepareData then
      if frame.payload.length ≠ 17 then { status := .malformed }
      else { status := .bigDataPending, prepareInfo := prepareDataInfo frame.payload }
    else parseGetDataPayload frame.payload expectedTableIndex tableFields

/-! ### The big-data transfer -/

def encodeTransmitDataRequest (offset : UInt32) (includeSessionBlock : Bool) (sessionId : UInt16)
    (requestNr : Int32) : QByteArray :=
  encodeFrame kCommandTransmitData sessionId requestNr (bytes32 offset) includeSessionBlock

structure TransmitDataResponse where
  status : ResponseStatus := .incomplete
  offset : UInt32 := 0
  chunkData : QByteArray := []
  deriving DecidableEq, Repr

def decodeTransmitDataResponse (data : QByteArray) (includeSessionBlock : Bool) :
    TransmitDataResponse :=
  let frame := decodeFrameGeneric data includeSessionBlock
  if frame.status ≠ .ok then { status := frame.status }
  else if frame.payload.length < 4 then { status := .malformed }
  else
    { status := .ok
      offset := word32At frame.payload 0
      chunkData := frame.payload.drop 4 }

def encodeFreeDataRequest (includeSessionBlock : Bool) (sessionId : UInt16) (requestNr : Int32) :
    QByteArray :=
  encodeFrame kCommandFreeData sessionId requestNr [] includeSessionBlock

/-! ### Record counts -/

def encodeGetDataCountRequest (tableIndex : ℤ) (includeSessionBlock : Bool) (sessionId : UInt16)
    (requestNr : Int32) : QByteArray :=
  encodeFrame kCommandGetDataCount sessionId requestNr [UInt8.ofInt tableIndex] includeSessionBlock

structure GetDataCountResponse where
  status : ResponseStatus := .incomplete
  count : UInt32 := 0
  deriving DecidableEq, Repr

def decodeGetDataCountResponse (data : QByteArray) (includeSessionBlock : Bool) :
    GetDataCountResponse :=
  let frame := decodeFrameGeneric data includeSessionBlock
  if frame.status = .ok ∧ frame.payload.length ≠ 4 then { status := .malformed }
  else if frame.status ≠ .ok then { status := frame.status }
  else { status := .ok, count := word32At frame.payload 0 }

/-! ### Device parameters -/

def encodeGetParamRequest (parameterNames : List QString) (includeSessionBlock : Bool)
    (sessionId : UInt16) (requestNr : Int32) : QByteArray :=
  encodeFrame kCommandGetParam sessionId requestNr (toLatin1 (",".intercalate parameterNames))
    includeSessionBlock

structure GetParamResponse where
  status : ResponseStatus := .incomplete
  values : QVariantMap := QVariantMap.empty
  deriving DecidableEq

def decodeGetParamResponse (data : QByteArray) (includeSessionBlock : Bool) : GetParamResponse :=
  let frame := decodeFrameGeneric data includeSessionBlock
  if frame.status ≠ .ok then { status := frame.status }
  else { status := .ok, values := pairsMap (parseKeyValuePairs frame.payload) }

def encodeSetParamRequest (values : QVariantMap) (includeSessionBlock : Bool)
    (sessionId : UInt16) (requestNr : Int32) : QByteArray :=
  encodeFrame kCommandGetParam sessionId requestNr
    (toLatin1 (",".intercalate
      (values.entries.map fun (key, value) => key ++ "=" ++ value.toString)))
    includeSessionBlock

/-! ### Door control -/

inductive ControlOperation where
  | output
  | cancelAlarm
  | restartDevice
  | enableDisableNormalOpen
  deriving DecidableEq, Repr

/-- The byte of an operation. -/
def ControlOperation.code : ControlOperation → UInt8
  | .output => 1
  | .cancelAlarm => 2
  | .restartDevice => 3
  | .enableDisableNormalOpen => 4

inductive ControlOutputAddress where
  | door
  | aux
  deriving DecidableEq, Repr

/-- The byte of an output address. -/
def ControlOutputAddress.code : ControlOutputAddress → UInt8
  | .door => 1
  | .aux => 2

def encodeControlRequest (operation : ControlOperation) (param1 param2 param3 : UInt8)
    (includeSessionBlock : Bool) (sessionId : UInt16) (requestNr : Int32) : QByteArray :=
  encodeFrame kCommandControl sessionId requestNr [operation.code, param1, param2, param3, 0]
    includeSessionBlock

/-! ### The realtime log -/

inductive RtLogRecordKind where
  | event
  | doorAlarmStatus
  deriving DecidableEq, Repr

/-- A record of the binary log. Which members are meaningful depends on its kind. -/
structure RtLogRecord where
  kind : RtLogRecordKind := .event
  cardNo : UInt32 := 0
  pin : UInt32 := 0
  alarmStatus : QByteArray := []
  dssStatus : QByteArray := []
  verified : UInt8 := 0
  doorId : UInt8 := 0
  eventType : UInt8 := 0
  inOutState : UInt8 := 0
  timeSecond : UInt32 := 0
  deriving DecidableEq, Repr

def encodeRtlogBinaryRequest (includeSessionBlock : Bool) (sessionId : UInt16)
    (requestNr : Int32) : QByteArray :=
  encodeFrame kCommandRtlogBinary sessionId requestNr [] includeSessionBlock

inductive RtLogStatus where
  | incomplete
  | malformed
  | rejected
  | notBinaryMode
  | ok
  deriving DecidableEq, Repr

structure RtLogBinaryResponse where
  status : RtLogStatus := .incomplete
  records : List RtLogRecord := []
  deriving DecidableEq, Repr

/-- A record of sixteen bytes. -/
def decodeRtLogRecord (rec : QByteArray) : RtLogRecord :=
  if byteAt rec 10 = 255 then
    { kind := .doorAlarmStatus
      eventType := byteAt rec 10
      alarmStatus := mid rec 0 4
      dssStatus := mid rec 4 4
      verified := byteAt rec 9
      timeSecond := word32At rec 12 }
  else
    { kind := .event
      eventType := byteAt rec 10
      cardNo := word32At rec 0
      pin := word32At rec 4
      verified := byteAt rec 8
      doorId := byteAt rec 9
      inOutState := byteAt rec 11
      timeSecond := word32At rec 12 }

def decodeRtlogBinaryResponse (data : QByteArray) (includeSessionBlock : Bool) :
    RtLogBinaryResponse :=
  let frame := decodeFrameGeneric data includeSessionBlock
  match frame.status with
  | .incomplete => {}
  | .malformed => { status := .malformed }
  | .rejected => { status := .rejected }
  | .ok =>
    if frame.payload.length % 16 ≠ 0 then { status := .notBinaryMode }
    else
      { status := .ok
        records := (List.range (frame.payload.length / 16)).map fun i =>
          decodeRtLogRecord (mid frame.payload (16 * i) 16) }

def encodeRtlogKeyValueRequest (includeSessionBlock : Bool) (sessionId : UInt16)
    (requestNr : Int32) : QByteArray :=
  encodeFrame kCommandRtlogKeyValue sessionId requestNr [] includeSessionBlock

structure RtLogKeyValueResponse where
  status : ResponseStatus := .incomplete
  records : List QVariantMap := []
  deriving DecidableEq

def decodeRtlogKeyValueResponse (data : QByteArray) (includeSessionBlock : Bool) :
    RtLogKeyValueResponse :=
  let frame := decodeFrameGeneric data includeSessionBlock
  if frame.status ≠ .ok then { status := frame.status }
  else
    match parseKeyValuePairs frame.payload with
    | [] => { status := .ok }
    | pairs => { status := .ok, records := [pairsMap pairs] }

end QtAppBase.C3
