import QtAppBase.Demo.ModbusTable
import QtAppBase.Modbus.Echoes
import QtAppBase.Modbus.WriteMultiple

/-!
# What the demo does to a Modbus device

A device obeys the frames it gets. The page writes a frame for a tick of its poll
timer, which only reads, and for the send button of its dialog, which writes what was
typed: as many values as were typed, each the one that was typed, or nothing.
-/

namespace QtAppBase.Demo

open Library Qt Modbus

/-! ### Typed values -/

/-- A number in the range of a word is that of the word it is cast to. -/
theorem word_toNat_ofInt {value : ℤ} (hlow : 0 ≤ value) (hhigh : value < 65536) :
    ((UInt16.ofInt value).toNat : ℤ) = value := by
  have hnat : (UInt16.ofInt value).toNat = (value % 2 ^ 16).toNat % 2 ^ 16 := rfl
  omega

namespace WriteDialog

variable {d : WriteDialog} {part : List Char} {text : QString} {call : RequestCall}

/-- A register value is typed as its number. -/
theorem registerValue?_eq_some_iff {value : UInt16} : registerValue? part = some value ↔
    toInt? (String.ofList (trimmed part)) = some (value.toNat : ℤ) := by
  have hbound := value.toNat_lt
  unfold registerValue?
  cases toInt? (String.ofList (trimmed part)) with
  | none => exact iff_of_false nofun nofun
  | some number =>
    dsimp only
    rw [Option.some.injEq]
    constructor
    · intro h
      split_ifs at h with hrange
      obtain rfl := Option.some.inj h
      exact (word_toNat_ofInt (by omega) (by omega)).symm
    · rintro rfl
      rw [if_neg (by omega), Option.some.injEq, ← UInt16.toNat_inj]
      exact Int.ofNat_inj.mp (word_toNat_ofInt (by omega) (by omega))

/-- A coil value is typed as a digit. -/
def coilText (value : Bool) : List Char := if value then ['1'] else ['0']

theorem coilValue?_eq_some_iff {value : Bool} :
    coilValue? part = some value ↔ trimmed part = coilText value := by
  unfold coilValue? coilText
  cases value <;> split_ifs <;> simp_all

/-- The digits of a register value. -/
def registerText (value : UInt16) : List Char := Nat.toDigits 10 value.toNat

theorem isDigit_of_mem_registerText {value : UInt16} {c : Char} (h : c ∈ registerText value) :
    c.isDigit = true :=
  Nat.isDigit_of_mem_toDigits (by decide) (by decide) h

/-- The decimal text of a register value is read as the value. -/
theorem registerValue?_registerText (value : UInt16) :
    registerValue? (registerText value) = some value := by
  have hdigits : ∀ c ∈ registerText value, c.isDigit = true := fun c hc =>
    isDigit_of_mem_registerText hc
  have hne : registerText value ≠ [] := Nat.toDigits_ne_nil
  have hbound := value.toNat_lt
  have hvalue : digitsNat (registerText value) = value.toNat := Nat.ofDigitChars_ten_toDigits
  rw [registerValue?_eq_some_iff, trimmed_eq fun c hc => isSpace_of_isDigit (hdigits c hc),
    toInt?_digits hne hdigits, hvalue, if_pos (by omega)]

theorem coilValue?_coilText (value : Bool) : coilValue? (coilText value) = some value := by
  cases value <;> decide

/-- What is typed for some values. -/
def typed {α : Type} (write : α → List Char) (values : List α) : QString :=
  String.ofList ([','].intercalate (values.map write))

/-- A text is read as some values exactly when there are not too few and not too many,
and its entries are theirs. -/
theorem values?_eq_some_iff {α : Type} {value? : List Char → Option α} {limit : ℕ}
    {values : List α} : values? value? limit text = some values ↔
      (1 ≤ values.length ∧ values.length ≤ limit) ∧
        (parts text).map value? = values.map some := by
  have hlength : (parts text).map value? = values.map some →
      (parts text).length = values.length := by
    intro h
    rw [← List.length_map value?, h, List.length_map]
  unfold values?
  split_ifs with hrefused
  · refine iff_of_false nofun ?_
    rintro ⟨⟨hsome, hlimit⟩, h⟩
    have heq := hlength h
    rcases hrefused with hnone | hmany
    · rw [hnone] at heq
      exact absurd heq (by simp; omega)
    · omega
  · obtain ⟨hsome, hlimit⟩ := not_or.mp hrefused
    rw [mapM_eq_some_iff]
    refine ⟨fun h => ⟨?_, h⟩, fun h => h.2⟩
    have hpositive := List.length_pos_iff.mpr hsome
    have heq := hlength h
    omega

/-- What is typed for some values is read as these values, within the limit. -/
theorem values?_typed {α : Type} {value? : List Char → Option α} {write : α → List Char}
    (hread : ∀ value, value? (write value) = some value)
    (hwrite : ∀ value, write value ≠ [] ∧ ',' ∉ write value) {limit : ℕ} {values : List α}
    (hsome : 1 ≤ values.length) (hlimit : values.length ≤ limit) :
    values? value? limit (typed write values) = some values := by
  have hparts : parts (typed write values) = values.map write := by
    unfold parts typed
    rw [String.toList_ofList]
    refine entries_intercalate fun piece hpiece => ?_
    obtain ⟨value, -, rfl⟩ := List.mem_map.mp hpiece
    exact hwrite value
  rw [values?_eq_some_iff, hparts, ← mapM_eq_some_iff]
  exact ⟨⟨hsome, hlimit⟩, mapM_map_eq_some hread values⟩

/-- What the send button of the dialog is for: the value or the values that are typed. -/
inductive Meant (d : WriteDialog) : RequestCall → Prop
  | coil (function : d.functionIndex = kFunctionWriteSingleCoil) :
    Meant d (.writeSingleCoil d.slaveId d.address d.coilState)
  | register (value : UInt16) (function : d.functionIndex = kFunctionWriteSingleRegister)
      (number : toInt? (String.ofList (trimmed d.valueText.toList)) = some (value.toNat : ℤ)) :
    Meant d (.writeSingleRegister d.slaveId d.address value)
  | coils (values : List Bool) (function : d.functionIndex = kFunctionWriteMultipleCoils)
      (count : 1 ≤ values.length ∧ values.length ≤ 1968)
      (digits : (parts d.valueText).map trimmed = values.map coilText) :
    Meant d (.writeMultipleCoils d.slaveId d.address values)
  | registers (values : List UInt16)
      (function : d.functionIndex = kFunctionWriteMultipleRegisters)
      (count : 1 ≤ values.length ∧ values.length ≤ 123)
      (numbers : (parts d.valueText).map (fun part => toInt? (String.ofList (trimmed part))) =
        values.map fun value => some (value.toNat : ℤ)) :
    Meant d (.writeMultipleRegisters d.slaveId d.address values)

/-- Lists whose entries are related pairwise are related through any such function. -/
theorem map_eq_map_congr {α β γ δ : Type} {f : α → γ} {g : β → γ} {f' : α → δ} {g' : β → δ}
    (h : ∀ a b, f a = g b ↔ f' a = g' b) (as : List α) (bs : List β) :
    as.map f = bs.map g ↔ as.map f' = bs.map g' := by
  induction as generalizing bs with
  | nil => cases bs <;> simp
  | cons a as ih =>
    cases bs with
    | nil => simp
    | cons b bs => simp only [List.map_cons, List.cons.injEq, h a b, ih bs]

/-- The dialog of a write function asks for what is meant, and for nothing else. -/
theorem validate_eq_ok_iff (hwrite : kFunctionWriteSingleCoil ≤ d.functionIndex) :
    d.validate = .ok call ↔ d.Meant call := by
  unfold validate
  by_cases hcoil : d.functionIndex = kFunctionWriteSingleCoil
  · rw [if_pos hcoil]
    constructor
    · intro h
      obtain rfl := Except.ok.inj h
      exact .coil hcoil
    · rintro (_ | ⟨_, h, _⟩ | ⟨_, h, _, _⟩ | ⟨_, h, _, _⟩)
      · rfl
      all_goals exact absurd (hcoil.symm.trans h) (by decide)
  rw [if_neg hcoil]
  by_cases hregister : d.functionIndex = kFunctionWriteSingleRegister
  · rw [if_pos hregister]
    constructor
    · intro h
      split at h
      · cases h
      · rename_i value hvalue
        obtain rfl := Except.ok.inj h
        exact .register value hregister (registerValue?_eq_some_iff.mp hvalue)
    · rintro (h | ⟨value, _, hnumber⟩ | ⟨_, h, _, _⟩ | ⟨_, h, _, _⟩)
      · exact absurd (hregister.symm.trans h) (by decide)
      · rw [registerValue?_eq_some_iff.mpr hnumber]
      all_goals exact absurd (hregister.symm.trans h) (by decide)
  rw [if_neg hregister]
  by_cases hcoils : d.functionIndex = kFunctionWriteMultipleCoils
  · rw [if_pos hcoils]
    have hvalues : ∀ values, values? coilValue? 1968 d.valueText = some values ↔
        (1 ≤ values.length ∧ values.length ≤ 1968) ∧
          (parts d.valueText).map trimmed = values.map coilText := fun values => by
      rw [values?_eq_some_iff, map_eq_map_congr fun part value => coilValue?_eq_some_iff]
    constructor
    · intro h
      split at h
      · cases h
      · rename_i values hread
        obtain rfl := Except.ok.inj h
        obtain ⟨hcount, hdigits⟩ := (hvalues values).mp hread
        exact .coils values hcoils hcount hdigits
    · rintro (h | ⟨_, h, _⟩ | ⟨values, _, hcount, hdigits⟩ | ⟨_, h, _, _⟩)
      · exact absurd (hcoils.symm.trans h) (by decide)
      · exact absurd (hcoils.symm.trans h) (by decide)
      · rw [(hvalues values).mpr ⟨hcount, hdigits⟩]
      · exact absurd (hcoils.symm.trans h) (by decide)
  rw [if_neg hcoils]
  have hregisters : d.functionIndex = kFunctionWriteMultipleRegisters := by
    have hall : ∀ index : FunctionIndex, kFunctionWriteSingleCoil ≤ index →
        index ≠ kFunctionWriteSingleCoil → index ≠ kFunctionWriteSingleRegister →
        index ≠ kFunctionWriteMultipleCoils → index = kFunctionWriteMultipleRegisters := by
      decide
    exact hall _ hwrite hcoil hregister hcoils
  have hvalues : ∀ values, values? registerValue? 123 d.valueText = some values ↔
      (1 ≤ values.length ∧ values.length ≤ 123) ∧
        (parts d.valueText).map (fun part => toInt? (String.ofList (trimmed part))) =
          values.map fun value => some (value.toNat : ℤ) := fun values => by
    rw [values?_eq_some_iff, map_eq_map_congr fun part value => registerValue?_eq_some_iff]
  constructor
  · intro h
    split at h
    · cases h
    · rename_i values hread
      obtain rfl := Except.ok.inj h
      obtain ⟨hcount, hnumbers⟩ := (hvalues values).mp hread
      exact .registers values hregisters hcount hnumbers
  · rintro (h | ⟨_, h, _⟩ | ⟨_, h, _, _⟩ | ⟨values, _, hcount, hnumbers⟩)
    · exact absurd h hcoil
    · exact absurd h hregister
    · exact absurd h hcoils
    · rw [(hvalues values).mpr ⟨hcount, hnumbers⟩]

/-- What the error label says of a function whose values are refused. -/
def refusal (function : FunctionIndex) : QString :=
  if function = kFunctionWriteSingleRegister then "Value must be an integer 0-65535"
  else if function = kFunctionWriteMultipleCoils then "Values must be 1-1968 comma-separated 0/1"
  else "Values must be 1-123 comma-separated integers 0-65535"

/-- A dialog is refused with the message of its function. -/
theorem validate_eq_error {error : QString} (h : d.validate = .error error) :
    error = refusal d.functionIndex := by
  unfold validate at h
  unfold refusal
  split_ifs at h ⊢ with hcoil hregister hcoils
  · split at h
    · exact (Except.error.inj h).symm
    · cases h
  · split at h
    · exact (Except.error.inj h).symm
    · cases h
  · split at h
    · exact (Except.error.inj h).symm
    · cases h

/-- **Typed values are the values written.** What is typed for some registers or coils, as
many as one request takes, is accepted and read as these values. -/
theorem validate_typed (d : WriteDialog) :
    (d.functionIndex = kFunctionWriteMultipleRegisters → ∀ values : List UInt16,
      1 ≤ values.length → values.length ≤ 123 → d.valueText = typed registerText values →
        d.validate = .ok (.writeMultipleRegisters d.slaveId d.address values)) ∧
    (d.functionIndex = kFunctionWriteMultipleCoils → ∀ values : List Bool,
      1 ≤ values.length → values.length ≤ 1968 → d.valueText = typed coilText values →
        d.validate = .ok (.writeMultipleCoils d.slaveId d.address values)) := by
  constructor
  · intro hfunction values hsome hlimit htext
    have hread : values? registerValue? 123 d.valueText = some values := by
      rw [htext]
      refine values?_typed registerValue?_registerText (fun value => ⟨?_, fun hcomma => ?_⟩)
        hsome hlimit
      · exact Nat.toDigits_ne_nil
      · exact absurd (isDigit_of_mem_registerText hcomma) (by decide)
    unfold validate
    rw [if_neg (by rw [hfunction]; decide), if_neg (by rw [hfunction]; decide),
      if_neg (by rw [hfunction]; decide), hread]
  · intro hfunction values hsome hlimit htext
    have hread : values? coilValue? 1968 d.valueText = some values := by
      rw [htext]
      exact values?_typed coilValue?_coilText (by decide) hsome hlimit
    unfold validate
    rw [if_neg (by rw [hfunction]; decide), if_neg (by rw [hfunction]; decide),
      if_pos hfunction, hread]

/-- Three registers at the limits of their range. -/
theorem threeRegisters_typed :
    ({ functionIndex := kFunctionWriteMultipleRegisters
       slaveId := 1
       address := 0
       valueText := typed registerText [0, 1, 65535] } : WriteDialog).validate =
      .ok (.writeMultipleRegisters 1 0 [0, 1, 65535]) :=
  (validate_typed _).1 rfl [0, 1, 65535] (by decide) (by decide) rfl

end WriteDialog

/-! ### Frames -/

namespace ModbusPage

variable {p : ModbusPage} {frame : QByteArray} {call : RequestCall}

/-- The frame of a request call. -/
def requestFrame (c : ModbusConnection) : RequestCall → QByteArray
  | .readHoldingRegisters unitId startAddress quantity =>
    encodeReadHoldingRegistersRequest ⟨c.nextTransactionId, unitId, startAddress, quantity⟩
  | .readInputRegisters unitId startAddress quantity =>
    encodeReadInputRegistersRequest ⟨c.nextTransactionId, unitId, startAddress, quantity⟩
  | .readCoils unitId startAddress quantity =>
    encodeReadCoilsRequest ⟨c.nextTransactionId, unitId, startAddress, quantity⟩
  | .readDiscreteInputs unitId startAddress quantity =>
    encodeReadDiscreteInputsRequest ⟨c.nextTransactionId, unitId, startAddress, quantity⟩
  | .writeSingleRegister unitId address value =>
    encodeWriteSingleRegisterRequest ⟨c.nextTransactionId, unitId, address, value⟩
  | .writeMultipleRegisters unitId startAddress values =>
    encodeWriteMultipleRegistersRequest ⟨c.nextTransactionId, unitId, startAddress, values⟩
  | .writeSingleCoil unitId address value =>
    encodeWriteSingleCoilRequest ⟨c.nextTransactionId, unitId, address, value⟩
  | .writeMultipleCoils unitId startAddress values =>
    encodeWriteMultipleCoilsRequest ⟨c.nextTransactionId, unitId, startAddress, values⟩

/-- A request is made on a ready connection on which none is pending. -/
def Idle (c : ModbusConnection) : Prop := c.isReady = true ∧ c.pendingRequest = .none

instance (c : ModbusConnection) : Decidable (Idle c) := inferInstanceAs (Decidable (_ ∧ _))

/-- An idle driver writes the frame of a request, and another one drops the request. -/
theorem callRequest_effects (call : RequestCall) (c : ModbusConnection) :
    (c.callRequest call).2 = if Idle c then [.write (requestFrame c call)] else [] := by
  have hsend : ∀ (k : PendingRequest) (frame : QByteArray),
      (c.sendRequest k frame).2 = if Idle c then [.write frame] else [] := by
    intro k frame
    unfold ModbusConnection.sendRequest
    by_cases hidle : Idle c
    · rw [if_pos hidle, if_neg (by simp [hidle.1, hidle.2])]
    · have hrefused : (!c.isReady || c.pendingRequest ≠ .none) = true := by
        by_contra haccepted
        exact hidle ⟨by simp_all, by simp_all⟩
      rw [if_neg hidle, if_pos hrefused]
  cases call <;> exact hsend _ _

/-- An event of the driver that is no request writes nothing. -/
theorem handle_writes_nothing {e : Modbus.Event} (hrequest : ∀ call, e ≠ .request call) :
    ∀ frame, .write frame ∉ (p.modbus.handle e).2 := by
  intro frame hframe
  obtain ⟨-, hconnection | ⟨outcome, honly, howns⟩⟩ := handle_follows p.modbus hrequest
  · obtain ⟨connected, heq⟩ := hconnection _ hframe
    cases heq
  · rw [honly, List.mem_singleton] at hframe
    subst hframe
    cases ModbusConnection.owns_isOutcome howns

/-- A read of the range that is selected, with the function that is selected. -/
structure Polls (p : ModbusPage) (call : RequestCall) : Prop where
  /-- The function reads, and it is the selected one. -/
  function : p.modbusFunction < kFunctionWriteSingleCoil ∧
    byteAt (requestFrame p.modbus call) 7 = UInt8.ofNat (p.modbusFunction.val + 1)
  unitId : (byteAt (requestFrame p.modbus call) 6).toNat = p.modbusSlaveId.value
  start : (readBigEndian16 (requestFrame p.modbus call) 8).toNat = p.modbusRegisterStart.value
  quantity : (readBigEndian16 (requestFrame p.modbus call) 10).toNat = p.modbusCount.value

/-- The transaction, the device, the function and the address of a frame. -/
structure Heads (c : ModbusConnection) (unitId functionCode : UInt8) (address : UInt16)
    (frame : QByteArray) : Prop where
  transactionId : transactionIdOf frame = c.nextTransactionId
  unitId : byteAt frame 6 = unitId
  functionCode : byteAt frame 7 = functionCode
  address : readBigEndian16 frame 8 = address

/-- The frame of a write says what is written, and where: a single value is confirmed by the
frame itself, sent back, and several are announced as they are. -/
def ReadsBack (c : ModbusConnection) : RequestCall → Prop
  | .writeSingleRegister unitId address value =>
    Heads c unitId 0x06 address (requestFrame c (.writeSingleRegister unitId address value)) ∧
      decodeWriteSingleRegisterResponse
          (requestFrame c (.writeSingleRegister unitId address value)) =
        { status := .ok, transactionId := c.nextTransactionId, content := (address, value) }
  | .writeSingleCoil unitId address value =>
    Heads c unitId 0x05 address (requestFrame c (.writeSingleCoil unitId address value)) ∧
      decodeWriteSingleCoilResponse (requestFrame c (.writeSingleCoil unitId address value)) =
        { status := .ok, transactionId := c.nextTransactionId, content := (address, value) }
  | .writeMultipleRegisters unitId startAddress values =>
    Heads c unitId 0x10 startAddress
        (requestFrame c (.writeMultipleRegisters unitId startAddress values)) ∧
      RegistersReadBack ⟨c.nextTransactionId, unitId, startAddress, values⟩
  | .writeMultipleCoils unitId startAddress values =>
    Heads c unitId 0x0f startAddress
        (requestFrame c (.writeMultipleCoils unitId startAddress values)) ∧
      CoilsReadBack ⟨c.nextTransactionId, unitId, startAddress, values⟩
  | _ => False

/-- What an event of the page may write, on an idle connection. -/
inductive Sanctioned (p : ModbusPage) (frame : QByteArray) : ModbusPageEvent → Prop
  | poll (call : RequestCall) (idle : Idle p.modbus) (polls : p.Polls call)
      (written : frame = requestFrame p.modbus call) : Sanctioned p frame .pollTimeout
  | send (d : WriteDialog) (call : RequestCall) (idle : Idle p.modbus)
      (dialog : p.dialog = some d) (meant : d.Meant call) (reads : ReadsBack p.modbus call)
      (written : frame = requestFrame p.modbus call) : Sanctioned p frame .sendClicked

/-- A read has the selected function, slave and range. -/
theorem polls_of_words {code : UInt8} {call : RequestCall}
    (hframe : requestFrame p.modbus call =
      encodeWords p.modbus.nextTransactionId (UInt8.ofInt p.modbusSlaveId.value) code
        (UInt16.ofInt p.modbusRegisterStart.value) (UInt16.ofInt p.modbusCount.value))
    (hreads : p.modbusFunction < kFunctionWriteSingleCoil)
    (hcode : code = UInt8.ofNat (p.modbusFunction.val + 1)) : p.Polls call := by
  obtain ⟨hslave, hslave'⟩ := p.modbusSlaveId.inRange
  obtain ⟨hstart, hstart'⟩ := p.modbusRegisterStart.inRange
  obtain ⟨hcount, hcount'⟩ := p.modbusCount.inRange
  refine ⟨⟨hreads, ?_⟩, ?_, ?_, ?_⟩
  · rw [hframe, ← hcode]
    rfl
  · rw [hframe]
    exact toNat_ofInt (by omega) (by omega)
  · rw [hframe, show readBigEndian16 (encodeWords _ _ code _ _) 8 = _ from word16_bytes _]
    exact word_toNat_ofInt (by omega) (by omega)
  · rw [hframe, show readBigEndian16 (encodeWords _ _ code _ _) 10 = _ from word16_bytes _]
    exact word_toNat_ofInt (by omega) (by omega)

theorem pollModbusRegisters_sanctioned (p : ModbusPage) :
    ∀ frame, .write frame ∈ p.pollModbusRegisters.2 → p.Sanctioned frame .pollTimeout := by
  have hcall : ∀ call, p.Polls call → ∀ frame, .write frame ∈ (p.onDriver (·.callRequest call)).2 →
      p.Sanctioned frame .pollTimeout := by
    intro call hpolls frame hframe
    change .write frame ∈ (p.modbus.callRequest call).2 at hframe
    rw [callRequest_effects] at hframe
    split_ifs at hframe with hidle
    · exact .poll call hidle hpolls (Effect.write.inj (List.mem_singleton.mp hframe))
    · cases hframe
  unfold pollModbusRegisters
  dsimp only
  split_ifs with _ hcoils hinputs hholding hinput
  · exact nofun
  · exact hcall _ (polls_of_words rfl (by rw [hcoils]; decide) (by rw [hcoils]; rfl))
  · exact hcall _ (polls_of_words rfl (by rw [hinputs]; decide) (by rw [hinputs]; rfl))
  · exact hcall _ (polls_of_words rfl (by rw [hholding]; decide) (by rw [hholding]; rfl))
  · exact hcall _ (polls_of_words rfl (by rw [hinput]; decide) (by rw [hinput]; rfl))
  · exact nofun

theorem heads_encodeWords {c : ModbusConnection} {unitId functionCode : UInt8}
    {address word : UInt16} : Heads c unitId functionCode address
      (encodeWords c.nextTransactionId unitId functionCode address word) :=
  ⟨word16_bytes _, rfl, rfl, word16_bytes _⟩

theorem heads_encodeValues {c : ModbusConnection} {unitId functionCode : UInt8}
    {address : UInt16} {quantity : ℕ} {packed : QByteArray} : Heads c unitId functionCode address
      (encodeValues c.nextTransactionId unitId functionCode address quantity packed) :=
  ⟨word16_bytes _, rfl, rfl, word16_bytes _⟩

/-- What is meant fits the limits of the protocol, so its frame says it. -/
theorem meant_readsBack {d : WriteDialog} (h : d.Meant call) : ReadsBack p.modbus call := by
  cases h with
  | coil function =>
    refine ⟨heads_encodeWords, (decodeCoil_eq_ok_iff _ _ _ _).mpr
      ⟨d.slaveId, _, [], (List.append_nil _).symm, ?_⟩⟩
    cases d.coilState <;> rfl
  | register value function number =>
    exact ⟨heads_encodeWords, (decodeWords_eq_ok_iff (by decide) _ _ _ _).mpr
      ⟨d.slaveId, [], (List.append_nil _).symm⟩⟩
  | coils values function count digits => exact ⟨heads_encodeValues, coils_readBack count.2⟩
  | registers values function count numbers =>
    exact ⟨heads_encodeValues, registers_readBack count.2⟩

/-- The dialog is open for a write function only. -/
def DialogWrites (p : ModbusPage) : Prop :=
  ∀ d ∈ p.dialog, kFunctionWriteSingleCoil ≤ d.functionIndex

/-- The send button sends what is meant on an idle connection. What cannot be meant is
refused with the message of its function, and the dialog stays; otherwise the dialog closes, also
when the request is dropped. -/
structure Sends (p : ModbusPage) (d : WriteDialog) (r : Reaction ModbusPage Effect) : Prop where
  refused : (∀ call, ¬ d.Meant call) → d.functionIndex ≠ kFunctionWriteSingleCoil ∧
    r = ({ p with
      dialog := some { d with errorText := some (WriteDialog.refusal d.functionIndex) } }, [])
  sent : ∀ call, d.Meant call →
    r.2 = (if Idle p.modbus then [.write (requestFrame p.modbus call)] else []) ∧
      r.1.dialog = none

theorem sendClicked_sends {d : WriteDialog} (hdialog : p.dialog = some d)
    (hwrite : kFunctionWriteSingleCoil ≤ d.functionIndex) : p.Sends d p.sendClicked := by
  unfold sendClicked
  rw [hdialog]
  dsimp only
  cases hvalidate : d.validate with
  | error error =>
    refine ⟨fun hnothing => ⟨fun hcoil => hnothing _ (.coil hcoil), ?_⟩, fun call hmeant => ?_⟩
    · rw [WriteDialog.validate_eq_error hvalidate]
      rfl
    · rw [(WriteDialog.validate_eq_ok_iff hwrite).mpr hmeant] at hvalidate
      cases hvalidate
  | ok call =>
    refine ⟨fun hnothing => ?_, fun call' hmeant => ⟨?_, rfl⟩⟩
    · exact absurd ((WriteDialog.validate_eq_ok_iff hwrite).mp hvalidate) (hnothing call)
    · rw [(WriteDialog.validate_eq_ok_iff hwrite).mpr hmeant] at hvalidate
      obtain rfl := Except.ok.inj hvalidate
      exact callRequest_effects call' p.modbus

theorem sendClicked_sanctioned (h : p.DialogWrites) :
    ∀ frame, .write frame ∈ p.sendClicked.2 → p.Sanctioned frame .sendClicked := by
  intro frame hframe
  cases hdialog : p.dialog with
  | none =>
    unfold sendClicked at hframe
    rw [hdialog] at hframe
    cases hframe
  | some d =>
    have hsends := sendClicked_sends hdialog (h d hdialog)
    by_cases hmeant : ∃ call, d.Meant call
    · obtain ⟨call, hmeant⟩ := hmeant
      rw [(hsends.sent call hmeant).1] at hframe
      split_ifs at hframe with hidle
      · exact .send d call hidle hdialog hmeant (meant_readsBack hmeant)
          (Effect.write.inj (List.mem_singleton.mp hframe))
      · cases hframe
    · rw [(hsends.refused fun call hcall => hmeant ⟨call, hcall⟩).2] at hframe
      cases hframe

/-- The slots leave the dialog open. -/
theorem slots_dialog (effects : List Effect) (p : ModbusPage) :
    (effects.foldl slot p).dialog = p.dialog := by
  induction effects generalizing p with
  | nil => rfl
  | cons effect effects ih =>
    rw [List.foldl_cons, ih]
    cases effect with
    | connectionStateChanged connected =>
      unfold slot updateModbusLabels
      dsimp only
      split_ifs <;> rfl
    | _ => rfl

theorem onDriver_dialog (f : ModbusConnection → Reaction ModbusConnection Effect)
    (p : ModbusPage) : (p.onDriver f).1.dialog = p.dialog := slots_dialog _ _

theorem updateModbusLabels_dialog (p : ModbusPage) : p.updateModbusLabels.dialog = p.dialog :=
  slots_dialog [.connectionStateChanged true] p

theorem pollModbusRegisters_dialog (p : ModbusPage) :
    p.pollModbusRegisters.1.dialog = p.dialog := by
  unfold pollModbusRegisters
  dsimp only
  split_ifs <;> first | rfl | exact onDriver_dialog _ p

/-- A dialog that stays as it is, or closes. -/
theorem DialogWrites.of_dialog {q : ModbusPage} (h : p.DialogWrites)
    (hdialog : q.dialog = p.dialog ∨ q.dialog = none) : q.DialogWrites := by
  intro d hd
  rcases hdialog with hsame | hnone
  · exact h d (hsame ▸ hd)
  · rw [hnone] at hd
    cases hd

/-- A dialog in which something is typed. -/
theorem DialogWrites.typed {f : WriteDialog → WriteDialog} (h : p.DialogWrites)
    (hf : ∀ d, (f d).functionIndex = d.functionIndex) :
    DialogWrites { p with dialog := p.dialog.map f } := by
  intro d hd
  obtain ⟨before, hbefore, rfl⟩ := Option.map_eq_some_iff.mp hd
  rw [hf]
  exact h before hbefore

theorem sendClicked_dialogWrites (h : p.DialogWrites) : p.sendClicked.1.DialogWrites := by
  unfold sendClicked
  cases hdialog : p.dialog with
  | none => exact h
  | some d =>
    dsimp only
    cases d.validate with
    | error error =>
      intro d' hd'
      obtain rfl := Option.some.inj hd'
      exact h d hdialog
    | ok call => exact nofun

/-- The dialog is opened for a write function, and keeps the function. -/
theorem handle_dialogWrites (h : p.DialogWrites) (e : ModbusPageEvent) :
    (p.handle e).1.DialogWrites := by
  cases e with
  | driver e => exact h.of_dialog (Or.inl (onDriver_dialog _ p))
  | connectClicked launch =>
    refine h.of_dialog (Or.inl ((updateModbusLabels_dialog _).trans ?_))
    split_ifs <;> exact onDriver_dialog _ p
  | pollTimeout => exact h.of_dialog (Or.inl (pollModbusRegisters_dialog p))
  | registerStartChanged value =>
    unfold handle
    dsimp only
    split_ifs <;> exact h.of_dialog (Or.inl rfl)
  | countChanged value =>
    unfold handle
    dsimp only
    split_ifs <;> exact h.of_dialog (Or.inl rfl)
  | functionChanged index =>
    unfold handle
    dsimp only
    split_ifs <;> exact h.of_dialog (Or.inl rfl)
  | rowDoubleClicked row =>
    change DialogWrites (p.onModbusTableDoubleClicked row)
    unfold onModbusTableDoubleClicked
    split_ifs with hrefused
    · exact h
    · intro d hd
      obtain rfl := Option.some.inj hd
      have hwrite : p.isModbusWriteFunction = true := by
        by_contra hreads
        exact hrefused (by simp [hreads])
      exact of_decide_eq_true hwrite
  | coilStateChosen on => exact h.typed fun _ => rfl
  | valueEdited text => exact h.typed fun _ => rfl
  | sendClicked => exact sendClicked_dialogWrites h
  | cancelClicked => exact h.of_dialog (Or.inr rfl)
  | hostEdited _ | portChanged _ | timeoutChanged _ | slaveIdChanged _ | nameEdited _ _ =>
    exact h.of_dialog (Or.inl rfl)

/-- Whatever happens to the page, its frames are sanctioned. -/
theorem handle_modbusSanctioned (h : p.DialogWrites) (e : ModbusPageEvent) :
    ∀ frame, .write frame ∈ (p.handle e).2 → p.Sanctioned frame e := by
  intro frame hframe
  cases e with
  | driver e =>
    refine absurd hframe (handle_writes_nothing (fun call hcall => ?_) frame)
    have hnocall := e.2
    rw [hcall] at hnocall
    cases hnocall
  | connectClicked launch =>
    change .write frame ∈ (ite _ _ _ : Reaction ModbusPage Effect).2 at hframe
    split_ifs at hframe
    · exact absurd hframe (handle_writes_nothing (e := .disconnectNow) nofun frame)
    · exact absurd hframe (handle_writes_nothing
        (e := .connectToHost p.modbusHost (UInt16.ofInt p.modbusPort.value) launch) nofun frame)
  | pollTimeout => exact pollModbusRegisters_sanctioned p frame hframe
  | sendClicked => exact sendClicked_sanctioned h frame hframe
  | registerStartChanged value =>
    unfold handle at hframe
    dsimp only at hframe
    split_ifs at hframe <;> cases hframe
  | countChanged value =>
    unfold handle at hframe
    dsimp only at hframe
    split_ifs at hframe <;> cases hframe
  | functionChanged index =>
    unfold handle at hframe
    dsimp only at hframe
    split_ifs at hframe <;> cases hframe
  | hostEdited _ | portChanged _ | timeoutChanged _ | slaveIdChanged _ | nameEdited _ _
  | rowDoubleClicked _ | coilStateChosen _ | valueEdited _ | cancelClicked => cases hframe

/-- **The page writes what was typed.** In every run, a frame is either a read of the
selected range by the poll timer, or what was meant by the dialog that is sent; it goes out
on an idle connection, and its device, its address and its values read back from it. The send
button refuses what cannot be meant with the message of the function, and on a busy connection
drops the request with the dialog. -/
theorem modbusPage_sanctioned (events : List ModbusPageEvent) :
    machine.EachStep (fun p e =>
      (∀ frame, .write frame ∈ (p.handle e).2 → p.Sanctioned frame e) ∧
      (e = .sendClicked → ∀ d, p.dialog = some d → p.Sends d (p.handle e))) opened events := by
  have hopened : DialogWrites opened := by
    intro d hd
    rw [opened, updateModbusLabels_dialog] at hd
    cases hd
  refine Mealy.eachStep_of_invariant (M := machine) (I := DialogWrites) (P := fun _ _ => True)
    (fun _ e h _ => handle_dialogWrites h e) (fun p e h _ => ?_) hopened
    (Mealy.eachStep_trivial _ _)
  refine ⟨handle_modbusSanctioned h e, ?_⟩
  rintro rfl d hdialog
  exact sendClicked_sends hdialog (h d hdialog)

/-- Different numbers have different texts. -/
theorem toString_eq_iff {m n : ℕ} : toString m = toString n ↔ m = n := by
  refine ⟨fun h => ?_, fun h => congrArg _ h⟩
  have hdigits : Nat.toDigits 10 m = Nat.toDigits 10 n := by
    have hlists := congrArg String.toList h
    rwa [Nat.toString_eq_ofList_toDigits, Nat.toString_eq_ofList_toDigits, String.toList_ofList,
      String.toList_ofList] at hlists
  rw [← Nat.ofDigitChars_ten_toDigits (n := m), hdigits, Nat.ofDigitChars_ten_toDigits]

/-- The address of a row, as a word. -/
theorem rowAddress_eq_iff (start : SpinBox 0 65535) (row : ℕ) :
    toString (UInt16.ofInt (start.value + row)).toNat = toString (start.value + row) ↔
      start.value + row < 65536 := by
  obtain ⟨hstart, -⟩ := start.inRange
  obtain ⟨address, haddress⟩ := Int.eq_ofNat_of_zero_le (a := start.value + row) (by omega)
  rw [haddress]
  change toString _ = toString address ↔ _
  rw [toString_eq_iff]
  constructor
  · intro h
    have hbound := (UInt16.ofInt (address : ℤ)).toNat_lt
    omega
  · intro h
    exact Int.ofNat_inj.mp (word_toNat_ofInt (by omega) h)

/-- **The dialog is for the row.** In a run in which nobody changes the kind of function
while a read of registers is pending, a double click on a row of a ready page with a write
function opens a dialog for the address that the row shows, exactly as long as this is an
address: the rows behind the last one show numbers that wrap around in the request. -/
theorem doubleClick_address (events : List ModbusPageEvent)
    (hundisturbed : machine.EachStep Undisturbed opened events) :
    machine.EachStep (fun p e => ∀ row, e = .rowDoubleClicked row →
      row < p.modbusCount.value.toNat → p.isModbusWriteFunction = true → p.modbus.isReady = true →
        ∃ t shown d, p.modbusTable = some t ∧ t.get? row 0 = some shown ∧
          (p.handle e).1.dialog = some d ∧ d.functionIndex = p.modbusFunction ∧
          (toString d.address.toNat = shown ↔ p.modbusRegisterStart.value + row < 65536))
      opened events := by
  refine Mealy.eachStep_of_invariant (M := machine) (I := Inv) (fun _ e h => handle_inv h e)
    (fun p e h _ => ?_) opened_inv hundisturbed
  rintro row rfl hrow hwrite hready
  obtain ⟨t, htable, hwhole⟩ := h.intact
  have hopens : (p.handle (.rowDoubleClicked row)).1 = { p with dialog := some {
      functionIndex := p.modbusFunction
      slaveId := UInt8.ofInt p.modbusSlaveId.value
      address := UInt16.ofInt (p.modbusRegisterStart.value + row) } } :=
    if_neg (by simp [hwrite, hready])
  refine ⟨t, _, _, htable, hwhole.addresses row (hwhole.height ▸ hrow),
    congrArg ModbusPage.dialog hopens, rfl, ?_⟩
  exact rowAddress_eq_iff p.modbusRegisterStart row

/-- Double clicks, with a function that writes registers, on the row of the last address and on the
one behind it. -/
theorem writeRun_address :
    machine.EachStep (fun p e => ∀ row, e = .rowDoubleClicked row →
      row < p.modbusCount.value.toNat → p.isModbusWriteFunction = true → p.modbus.isReady = true →
        ∃ t shown d, p.modbusTable = some t ∧ t.get? row 0 = some shown ∧
          (p.handle e).1.dialog = some d ∧ d.functionIndex = p.modbusFunction ∧
          (toString d.address.toNat = shown ↔ p.modbusRegisterStart.value + row < 65536))
      opened [.connectClicked .started, .driver ⟨.socketConnected, rfl⟩, .functionChanged 7,
        .registerStartChanged 65535, .rowDoubleClicked 0, .rowDoubleClicked 1] :=
  doubleClick_address
    [.connectClicked .started, .driver ⟨.socketConnected, rfl⟩, .functionChanged 7,
      .registerStartChanged 65535, .rowDoubleClicked 0, .rowDoubleClicked 1] (by decide +kernel)

end ModbusPage

end QtAppBase.Demo
