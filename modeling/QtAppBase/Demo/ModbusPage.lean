import QtAppBase.Library.Entries
import QtAppBase.Library.Grid
import QtAppBase.Modbus.Connection
import QtAppBase.Qt.Decimals
import QtAppBase.Qt.Widgets

/-!
# The Modbus page of the demo window

The page polls a range of registers or coils into a table, or, with a write
function selected, offers the addresses of the range: a double click opens a
dialog that checks what is typed and writes it. Signals of the driver call slots
that touch widgets only.
-/

namespace QtAppBase.Demo

open Library Qt Modbus

/-- An entry of the function combo box, by its index. -/
abbrev FunctionIndex := Fin 8

def kFunctionReadCoils : FunctionIndex := 0
def kFunctionReadDiscreteInputs : FunctionIndex := 1
def kFunctionReadHoldingRegisters : FunctionIndex := 2
def kFunctionReadInputRegisters : FunctionIndex := 3
def kFunctionWriteSingleCoil : FunctionIndex := 4
def kFunctionWriteSingleRegister : FunctionIndex := 5
def kFunctionWriteMultipleCoils : FunctionIndex := 6
def kFunctionWriteMultipleRegisters : FunctionIndex := 7

/-- The text of a cell without a value. -/
def placeholder : QString := "-"

/-! ### The write dialog -/

/-- The dialog of a double click. It keeps the function, the slave and the address
it was opened for. -/
structure WriteDialog where
  functionIndex : FunctionIndex
  slaveId : UInt8
  address : UInt16
  coilState : Bool := false
  valueText : QString := ""
  errorText : Option QString := none
  deriving DecidableEq, Repr

namespace WriteDialog

/-- `split(',', Qt::SkipEmptyParts)`. -/
def parts (text : QString) : List (List Char) := entries ',' text.toList

/-- A typed register value. -/
def registerValue? (part : List Char) : Option UInt16 :=
  match toInt? (String.ofList (trimmed part)) with
  | none => none
  | some value => if value < 0 ∨ value > 65535 then none else some (UInt16.ofInt value)

/-- A typed coil value. -/
def coilValue? (part : List Char) : Option Bool :=
  if trimmed part = ['1'] then some true
  else if trimmed part = ['0'] then some false
  else none

/-- All typed values, if there are some, not too many, and all are valid. -/
def values? {α : Type} (value? : List Char → Option α) (limit : ℕ) (text : QString) :
    Option (List α) :=
  if parts text = [] ∨ limit < (parts text).length then none else (parts text).mapM value?

/-- What the send button asks the driver for, or the text of the error label. -/
def validate (d : WriteDialog) : Except QString RequestCall :=
  if d.functionIndex = kFunctionWriteSingleCoil then
    .ok (.writeSingleCoil d.slaveId d.address d.coilState)
  else if d.functionIndex = kFunctionWriteSingleRegister then
    match registerValue? d.valueText.toList with
    | none => .error "Value must be an integer 0-65535"
    | some value => .ok (.writeSingleRegister d.slaveId d.address value)
  else if d.functionIndex = kFunctionWriteMultipleCoils then
    match values? coilValue? 1968 d.valueText with
    | none => .error "Values must be 1-1968 comma-separated 0/1"
    | some coils => .ok (.writeMultipleCoils d.slaveId d.address coils)
  else
    match values? registerValue? 123 d.valueText with
    | none => .error "Values must be 1-123 comma-separated integers 0-65535"
    | some values => .ok (.writeMultipleRegisters d.slaveId d.address values)

end WriteDialog

/-! ### The page -/

/-- The members of the window that belong to Modbus. The table is `none` after an item
that it does not have was dereferenced: what happens then is undefined. The rate of the
poll timer is left to the environment. -/
structure ModbusPage where
  modbus : ModbusConnection := {}
  modbusHost : QString := "127.0.0.1"
  modbusPort : SpinBox 1 65535 := ⟨5020, by decide⟩
  modbusTimeout : SpinBox 100 30000 := ⟨1000, by decide⟩
  modbusSlaveId : SpinBox 0 255 := ⟨1, by decide⟩
  modbusRegisterStart : SpinBox 0 65535 := ⟨0, by decide⟩
  modbusCount : SpinBox 1 125 := ⟨5, by decide⟩
  modbusFunction : FunctionIndex := kFunctionReadHoldingRegisters
  modbusStateLabel : QString := "State: Disconnected"
  btnModbusConnect : QString := "Connect"
  modbusWriteResultLabel : QString := "Last write: -"
  modbusHeaders : List QString := []
  modbusTable : Option (Grid QString) := none
  dialog : Option WriteDialog := none

namespace ModbusPage

/-- `isModbusCoilFunction`. -/
def isModbusCoilFunction (p : ModbusPage) : Bool :=
  p.modbusFunction = kFunctionReadCoils || p.modbusFunction = kFunctionReadDiscreteInputs

/-- `isModbusWriteFunction`. -/
def isModbusWriteFunction (p : ModbusPage) : Bool :=
  kFunctionWriteSingleCoil ≤ p.modbusFunction

/-! ### The table -/

/-- `rebuildModbusTableRows`: every item is a new one. -/
def rebuildModbusTableRows (p : ModbusPage) : ModbusPage :=
  let columnCount := p.modbusHeaders.length
  let nameCol := columnCount - 1
  { p with modbusTable := some <| Grid.ofFn p.modbusCount.value.toNat columnCount fun row col =>
      if col = nameCol then ""
      else if col = 0 then toString (p.modbusRegisterStart.value + row)
      else placeholder }

/-- `onModbusFunctionChanged`. The column count is that of the labels. -/
def onModbusFunctionChanged (p : ModbusPage) : ModbusPage :=
  rebuildModbusTableRows { p with modbusHeaders :=
    if p.isModbusWriteFunction then ["Address", "Name"]
    else if p.isModbusCoilFunction then ["Address", "Value", "Name"]
    else
      ["Address", "Register Value", "Big Endian", "Little Endian", "BE Swapped", "LE Swapped",
        "Name"] }

/-- The high and the low byte change places. -/
def swapped (value : UInt16) : UInt16 := (value <<< 8) ||| (value >>> 8)

/-- Two words, the high one first. -/
def joined (high low : UInt16) : UInt32 := (high.toUInt32 <<< 16) ||| low.toUInt32

/-- What a row shows: a register, and its pair with the next one in four byte orders. -/
def registerTexts (value : UInt16) (next : Option UInt16) : List (ℕ × QString) :=
  (1, toString value.toNat) ::
    match next with
    | some next =>
      [(2, toString (joined value next).toNat),
        (3, toString (joined (swapped next) (swapped value)).toNat),
        (4, toString (joined next value).toNat),
        (5, toString (joined (swapped value) (swapped next)).toNat)]
    | none => [(2, placeholder), (3, placeholder), (4, placeholder), (5, placeholder)]

/-- The cells written for some registers, row by row. -/
def registerWrites (registers : List UInt16) (rowCount : ℕ) : List (ℕ × ℕ × QString) :=
  (List.range (min registers.length rowCount)).flatMap fun row =>
    (registerTexts (registers.getD row 0) registers[row + 1]?).map fun text => (row, text)

/-- `updateModbusRegisterTableValues`. -/
def updateModbusRegisterTableValues (registers : List UInt16) (t : Grid QString) :
    Option (Grid QString) :=
  t.putAll (registerWrites registers t.height)

/-- `updateModbusCoilTableValues`. -/
def updateModbusCoilTableValues (bits : List Bool) (t : Grid QString) : Option (Grid QString) :=
  t.putAll <| (List.range (min bits.length t.height)).map fun row =>
    (row, 1, if bits.getD row false then "ON" else "OFF")

/-- `clearModbusTableValues`. -/
def clearModbusTableValues (t : Grid QString) : Option (Grid QString) :=
  t.putAll <| (List.range t.height).flatMap fun row =>
    (List.range' 1 (t.width - 1 - 1)).map fun col => (row, col, placeholder)

/-- The user types a name. -/
def nameEdited (row : ℕ) (text : QString) (t : Grid QString) : Option (Grid QString) :=
  some ((t.put row (t.width - 1) text).getD t)

/-- An update of the table. -/
def onTable (f : Grid QString → Option (Grid QString)) (p : ModbusPage) : ModbusPage :=
  { p with modbusTable := p.modbusTable.bind f }

/-! ### Slots -/

/-- `updateModbusLabels`. -/
def updateModbusLabels (p : ModbusPage) : ModbusPage :=
  let ready := p.modbus.isReady
  let p := { p with
    modbusStateLabel := "State: " ++ if ready then "Connected" else "Disconnected"
    btnModbusConnect := if ready then "Disconnect" else "Connect" }
  if !ready then p.onTable clearModbusTableValues else p

/-- The label about the last write. -/
def showWrite (text : QString) (p : ModbusPage) : ModbusPage :=
  { p with modbusWriteResultLabel := text }

/-- What the page does about a signal of the driver. -/
def slot (p : ModbusPage) : Effect → ModbusPage
  | .connectionStateChanged _ => p.updateModbusLabels
  | .holdingRegistersRead registers => p.onTable (updateModbusRegisterTableValues registers)
  | .inputRegistersRead registers => p.onTable (updateModbusRegisterTableValues registers)
  | .coilsRead bits => p.onTable (updateModbusCoilTableValues bits)
  | .discreteInputsRead bits => p.onTable (updateModbusCoilTableValues bits)
  | .readFailed _ => p.onTable clearModbusTableValues
  | .singleRegisterWritten address value =>
    p.showWrite ("Last write: address " ++ toString address.toNat ++ " = " ++
      toString value.toNat ++ " (confirmed)")
  | .multipleRegistersWritten startAddress quantity =>
    p.showWrite ("Last write: " ++ toString quantity.toNat ++ " register(s) from address " ++
      toString startAddress.toNat ++ " (confirmed)")
  | .singleCoilWritten address value =>
    p.showWrite ("Last write: coil " ++ toString address.toNat ++ " = " ++
      (if value then "ON" else "OFF") ++ " (confirmed)")
  | .multipleCoilsWritten startAddress quantity =>
    p.showWrite ("Last write: " ++ toString quantity.toNat ++ " coil(s) from address " ++
      toString startAddress.toNat ++ " (confirmed)")
  | .writeFailed error | .multipleWriteFailed error | .singleCoilWriteFailed error
  | .multipleCoilWriteFailed error => p.showWrite ("Last write failed -- " ++ error)
  | .write _ => p

/-- Something happens to the driver, and the slots are called about its signals. -/
def onDriver (f : ModbusConnection → Reaction ModbusConnection Effect) (p : ModbusPage) :
    Reaction ModbusPage Effect :=
  let r := f p.modbus
  (r.2.foldl slot { p with modbus := r.1 }, r.2)

/-! ### Buttons and the poll timer -/

/-- `onModbusConnectClicked`. -/
def onModbusConnectClicked (launch : Launch) (p : ModbusPage) : Reaction ModbusPage Effect :=
  let r :=
    if p.modbus.isReady then p.onDriver ModbusConnection.disconnectNow
    else
      p.onDriver (ModbusConnection.connectToHost p.modbusHost (UInt16.ofInt p.modbusPort.value)
        launch)
  (r.1.updateModbusLabels, r.2)

/-- `pollModbusRegisters`: writes are one-shot, not polled. -/
def pollModbusRegisters (p : ModbusPage) : Reaction ModbusPage Effect :=
  if !p.modbus.isReady then (p, [])
  else
    let slaveId := UInt8.ofInt p.modbusSlaveId.value
    let start := UInt16.ofInt p.modbusRegisterStart.value
    let count := UInt16.ofInt p.modbusCount.value
    if p.modbusFunction = kFunctionReadCoils then
      p.onDriver (·.callRequest (.readCoils slaveId start count))
    else if p.modbusFunction = kFunctionReadDiscreteInputs then
      p.onDriver (·.callRequest (.readDiscreteInputs slaveId start count))
    else if p.modbusFunction = kFunctionReadHoldingRegisters then
      p.onDriver (·.callRequest (.readHoldingRegisters slaveId start count))
    else if p.modbusFunction = kFunctionReadInputRegisters then
      p.onDriver (·.callRequest (.readInputRegisters slaveId start count))
    else (p, [])

/-- `onModbusTableDoubleClicked`, up to the event loop of the dialog. -/
def onModbusTableDoubleClicked (row : ℕ) (p : ModbusPage) : ModbusPage :=
  if !p.isModbusWriteFunction || !p.modbus.isReady then p
  else
    { p with dialog := some {
        functionIndex := p.modbusFunction
        slaveId := UInt8.ofInt p.modbusSlaveId.value
        address := UInt16.ofInt (p.modbusRegisterStart.value + row) } }

/-- The send button: the dialog stays open when it refuses the input. -/
def sendClicked (p : ModbusPage) : Reaction ModbusPage Effect :=
  match p.dialog with
  | none => (p, [])
  | some d =>
    match d.validate with
    | .error error => .silently { p with dialog := some { d with errorText := some error } }
    | .ok call =>
      let r := p.onDriver (·.callRequest call)
      ({ r.1 with dialog := none }, r.2)

/-- The page as the constructor of the window leaves it. -/
def opened : ModbusPage := updateModbusLabels (onModbusFunctionChanged {})

end ModbusPage

end QtAppBase.Demo
