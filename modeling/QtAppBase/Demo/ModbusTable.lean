import Mathlib.Data.List.Nodup
import QtAppBase.Demo.ModbusPage
import QtAppBase.Modbus.Outcomes

/-!
# The table of the Modbus page

The slots write into cells that they do not look for: a response for registers
takes six columns for granted. The table has them as long as nobody selects
another kind of function while such a response is pending, and then it is whole
in every state: as many rows as are asked for, each with its own address.
-/

namespace QtAppBase.Demo

open Library Qt Modbus

/-- A call of a public function of the driver, as opposed to what its socket and its
timers do. -/
def isModbusCall : Modbus.Event → Bool
  | .connectToHost .. | .disconnectNow | .setRequestTimeoutMs _ | .request _ => true
  | _ => false

/-- What happens to the page. -/
inductive ModbusPageEvent where
  | driver (e : { e : Modbus.Event // isModbusCall e = false })
  | connectClicked (launch : Launch)
  | pollTimeout
  | hostEdited (text : QString)
  | portChanged (value : ℤ)
  | timeoutChanged (value : ℤ)
  | slaveIdChanged (value : ℤ)
  | registerStartChanged (value : ℤ)
  | countChanged (value : ℤ)
  | functionChanged (index : FunctionIndex)
  | nameEdited (row : ℕ) (text : QString)
  | rowDoubleClicked (row : ℕ)
  | coilStateChosen (on : Bool)
  | valueEdited (text : QString)
  | sendClicked
  | cancelClicked

namespace ModbusPage

/-- What one event does. The slot of a spin box or a combo box is called when the value
changes; where it is called for nothing here, it repeats itself. -/
def handle (p : ModbusPage) : ModbusPageEvent → Reaction ModbusPage Effect
  | .driver e => p.onDriver (·.handle e.1)
  | .connectClicked launch => p.onModbusConnectClicked launch
  | .pollTimeout => p.pollModbusRegisters
  | .hostEdited text => .silently { p with modbusHost := text }
  | .portChanged value => .silently { p with modbusPort := p.modbusPort.setValue value }
  | .timeoutChanged value =>
    let timeout := p.modbusTimeout.setValue value
    .silently { p with
      modbusTimeout := timeout
      modbus := p.modbus.setRequestTimeoutMs timeout.value }
  | .slaveIdChanged value => .silently { p with modbusSlaveId := p.modbusSlaveId.setValue value }
  | .registerStartChanged value =>
    let start := p.modbusRegisterStart.setValue value
    if start.value = p.modbusRegisterStart.value then (p, [])
    else .silently (rebuildModbusTableRows { p with modbusRegisterStart := start })
  | .countChanged value =>
    let count := p.modbusCount.setValue value
    if count.value = p.modbusCount.value then (p, [])
    else .silently (rebuildModbusTableRows { p with modbusCount := count })
  | .functionChanged index =>
    if index = p.modbusFunction then (p, [])
    else .silently (onModbusFunctionChanged { p with modbusFunction := index })
  | .nameEdited row text => .silently (p.onTable (ModbusPage.nameEdited row text))
  | .rowDoubleClicked row => .silently (p.onModbusTableDoubleClicked row)
  | .coilStateChosen on =>
    .silently { p with dialog := p.dialog.map fun d => { d with coilState := on } }
  | .valueEdited text =>
    .silently { p with dialog := p.dialog.map fun d => { d with valueText := text } }
  | .sendClicked => p.sendClicked
  | .cancelClicked => .silently { p with dialog := none }

/-- The state machine driven by its events. -/
def machine : Mealy ModbusPage ModbusPageEvent Effect := ⟨handle⟩

/-! ### Cells written by the slots -/

variable {p q : ModbusPage} {t t' : Grid QString} {registers : List UInt16} {bits : List Bool}
  {row col : ℕ} {text : QString}

/-- A row of registers has a text for each of five columns. -/
theorem registerTexts_columns (value : UInt16) (next : Option UInt16) :
    (registerTexts value next).map Prod.fst = [1, 2, 3, 4, 5] := by
  cases next <;> rfl

theorem mem_registerWrites {rowCount : ℕ} : (row, col, text) ∈ registerWrites registers rowCount ↔
    (row < registers.length ∧ row < rowCount) ∧
      (col, text) ∈ registerTexts (registers.getD row 0) registers[row + 1]? := by
  simp only [registerWrites, List.mem_flatMap, List.mem_map, List.mem_range, Nat.lt_min]
  constructor
  · rintro ⟨i, hi, entry, hentry, heq⟩
    obtain ⟨rfl, rfl⟩ := Prod.mk.inj heq
    exact ⟨hi, hentry⟩
  · rintro ⟨hi, hentry⟩
    exact ⟨row, hi, _, hentry, rfl⟩

/-- A text of a row is in one of five columns, and no two are in the same. -/
theorem registerTexts_column {value : UInt16} {next : Option UInt16}
    (h : (col, text) ∈ registerTexts value next) :
    (1 ≤ col ∧ col ≤ 5) ∧ ∀ other, (col, other) ∈ registerTexts value next → other = text := by
  have hcolumns := registerTexts_columns value next
  have hmem : col ∈ (registerTexts value next).map Prod.fst := List.mem_map_of_mem h
  have hnodup : ((registerTexts value next).map Prod.fst).Nodup := by
    rw [hcolumns]
    decide
  refine ⟨?_, fun other h' => ?_⟩
  · rw [hcolumns] at hmem
    simp only [List.mem_cons, List.not_mem_nil, or_false] at hmem
    omega
  · exact congrArg Prod.snd (List.inj_on_of_nodup_map hnodup h' h rfl)

/-- A response for registers finds its cells exactly when there are six columns or no
row to fill. -/
theorem registerUpdate_isSome_iff (registers : List UInt16) (t : Grid QString) :
    (updateModbusRegisterTableValues registers t).isSome ↔
    6 ≤ t.width ∨ registers = [] ∨ t.height = 0 := by
  unfold updateModbusRegisterTableValues
  rw [Grid.putAll_isSome_iff]
  constructor
  · intro hhas
    by_contra hmissing
    obtain ⟨hnarrow, hregisters, hheight⟩ : t.width < 6 ∧ registers ≠ [] ∧ t.height ≠ 0 := by
      simpa [not_or] using hmissing
    -- the fifth text of the first row has no cell
    have hfive : 5 ∈ (registerTexts (registers.getD 0 0) registers[0 + 1]?).map Prod.fst := by
      rw [registerTexts_columns]
      decide
    obtain ⟨⟨col, text⟩, hentry, hcol⟩ := List.mem_map.mp hfive
    have hcell : t.Has 0 col := hhas (0, col, text) <| mem_registerWrites.mpr
      ⟨⟨List.length_pos_iff.mpr hregisters, Nat.pos_of_ne_zero hheight⟩, hentry⟩
    have hwidth : col < t.width := hcell.2
    dsimp only at hcol
    omega
  · rintro hroom ⟨row, col, text⟩ hwrite
    obtain ⟨⟨hregister, hrow⟩, hentry⟩ := mem_registerWrites.mp hwrite
    have hcol := (registerTexts_column hentry).1
    refine ⟨hrow, ?_⟩
    rcases hroom with hwide | rfl | hheight
    · exact lt_of_le_of_lt hcol.2 (by omega)
    · cases hregister
    · omega

/-- Then a row that has a register shows its texts, and all other cells, the addresses and
the names among them, keep what they show. -/
structure RegistersShown (registers : List UInt16) (t t' : Grid QString) : Prop where
  height : t'.height = t.height
  width : t'.width = t.width
  shown : ∀ row < min registers.length t.height, ∀ col text,
    (col, text) ∈ registerTexts (registers.getD row 0) registers[row + 1]? →
      t'.get? row col = some text
  kept : ∀ row col, (min registers.length t.height ≤ row ∨ col = 0 ∨ 6 ≤ col) →
    t'.get? row col = t.get? row col

theorem registerUpdate_shown (h : updateModbusRegisterTableValues registers t = some t') :
    RegistersShown registers t t' := by
  obtain ⟨hheight, hwidth⟩ := Grid.putAll_size h
  refine ⟨hheight, hwidth, ?_, ?_⟩
  · intro row hrow col text hentry
    refine Grid.get?_putAll_of_mem h (mem_registerWrites.mpr ⟨Nat.lt_min.mp hrow, hentry⟩) ?_
    rintro ⟨i, j, other⟩ hother ⟨rfl, rfl⟩
    exact (registerTexts_column hentry).2 _ (mem_registerWrites.mp hother).2
  · intro row col hcell
    refine Grid.get?_putAll_of_notMem h ?_
    rintro ⟨i, j, other⟩ hother ⟨rfl, rfl⟩
    obtain ⟨⟨hregister, hrow⟩, hentry⟩ := mem_registerWrites.mp hother
    have hcol := (registerTexts_column hentry).1
    omega

/-- A response for bits needs two columns, and writes into the second. -/
theorem coilUpdate_kept (hwidth : 2 ≤ t.width) :
    ∃ t', updateModbusCoilTableValues bits t = some t' ∧
    (t'.height = t.height ∧ t'.width = t.width) ∧ ∀ row, t'.get? row 0 = t.get? row 0 := by
  have hsome : (updateModbusCoilTableValues bits t).isSome := by
    refine Grid.putAll_isSome_iff.mpr fun w hw => ?_
    obtain ⟨row, hrow, rfl⟩ := List.mem_map.mp hw
    exact ⟨(Nat.lt_min.mp (List.mem_range.mp hrow)).2, hwidth⟩
  obtain ⟨t', h⟩ := Option.isSome_iff_exists.mp hsome
  refine ⟨t', h, Grid.putAll_size h, fun row => Grid.get?_putAll_of_notMem h ?_⟩
  rintro w hw ⟨-, hcol⟩
  obtain ⟨_, _, rfl⟩ := List.mem_map.mp hw
  cases hcol

/-- The values can always be cleared. -/
theorem clear_kept (t : Grid QString) : ∃ t', clearModbusTableValues t = some t' ∧
    (t'.height = t.height ∧ t'.width = t.width) ∧ ∀ row, t'.get? row 0 = t.get? row 0 := by
  have hwrites : ∀ w ∈ (List.range t.height).flatMap (fun row =>
      (List.range' 1 (t.width - 1 - 1)).map fun col => (row, col, placeholder)),
      w.1 < t.height ∧ 1 ≤ w.2.1 ∧ w.2.1 < t.width := by
    intro w hw
    obtain ⟨row, hrow, hcols⟩ := List.mem_flatMap.mp hw
    obtain ⟨col, hcol, rfl⟩ := List.mem_map.mp hcols
    have hrange := List.mem_range'_1.mp hcol
    exact ⟨List.mem_range.mp hrow, hrange.1, by dsimp only; omega⟩
  have hsome : (clearModbusTableValues t).isSome :=
    Grid.putAll_isSome_iff.mpr fun w hw => ⟨(hwrites w hw).1, (hwrites w hw).2.2⟩
  obtain ⟨t', h⟩ := Option.isSome_iff_exists.mp hsome
  refine ⟨t', h, Grid.putAll_size h, fun row => Grid.get?_putAll_of_notMem h ?_⟩
  rintro w hw ⟨-, hcol⟩
  have hpositive := (hwrites w hw).2.1
  omega

/-! ### What the driver says -/

/-- What an event that is no request leads to: the request goes on or is gone, and what is
said is about the connection, or is one outcome of that request. -/
structure Follows (k : PendingRequest) (r : Reaction ModbusConnection Effect) : Prop where
  pending : r.1.pendingRequest = .none ∨ r.1.pendingRequest = k
  effects : (∀ effect ∈ r.2, ∃ connected, effect = .connectionStateChanged connected) ∨
    ∃ outcome, r.2 = [outcome] ∧ k.Owns outcome

/-- What says nothing about a request and writes nothing is about the connection. -/
theorem about_connection {effect : Effect} (houtcome : effect.isOutcome = false)
    (hframe : effect.frame? = none) : ∃ connected, effect = .connectionStateChanged connected := by
  cases effect with
  | connectionStateChanged connected => exact ⟨connected, rfl⟩
  | write frame => cases hframe
  | _ => cases houtcome

theorem readyRead_follows (c : ModbusConnection) :
    Follows c.pendingRequest c.onSocketReadyRead := by
  by_cases hpending : c.pendingRequest = .none
  · rw [ModbusConnection.onSocketReadyRead_dropped hpending]
    exact ⟨Or.inr rfl, Or.inl nofun⟩
  · rw [ModbusConnection.onSocketReadyRead_eq hpending]
    cases houtcome : outcomeOf c.pendingRequest (c.readBuffer ++ c.socket.unread) with
    | none => exact ⟨Or.inr rfl, Or.inl nofun⟩
    | some outcome =>
      exact ⟨Or.inl rfl, Or.inr ⟨outcome, rfl, (ModbusConnection.outcomeOf_owns houtcome).1⟩⟩

theorem requestTimeout_follows (c : ModbusConnection) :
    Follows c.pendingRequest c.onRequestTimeout := by
  refine ⟨Or.inl rfl, ?_⟩
  unfold ModbusConnection.onRequestTimeout
  cases hfailure : ModbusConnection.failure c.pendingRequest with
  | none => exact Or.inl nofun
  | some failed => exact Or.inr ⟨_, rfl, ModbusConnection.failure_owns hfailure _⟩

theorem handle_follows (c : ModbusConnection) {e : Modbus.Event}
    (hrequest : ∀ call, e ≠ .request call) : Follows c.pendingRequest (c.handle e) := by
  by_cases hbytes : ∃ chunk, e = .readyRead chunk
  · obtain ⟨chunk, rfl⟩ := hbytes
    exact readyRead_follows { c with socket := c.socket.receive chunk }
  · have hbytes' : ∀ chunk, e ≠ .readyRead chunk := fun chunk he => hbytes ⟨chunk, he⟩
    by_cases htimeout : e = .requestTimeout
    · subst htimeout
      exact requestTimeout_follows { c with requestTimer := none }
    · have huntouched := ModbusConnection.handle_untouched c hbytes' hrequest
      refine ⟨?_, Or.inl fun effect heffect => ?_⟩
      · rcases huntouched.kept with ⟨hkept, -⟩ | ⟨hforgotten, -⟩
        · exact Or.inr hkept
        · exact Or.inl hforgotten
      · by_cases hms : ∃ ms, e = .setRequestTimeoutMs ms
        · obtain ⟨ms, rfl⟩ := hms
          cases heffect
        · have hunanswered := ModbusConnection.handle_unanswered c hbytes' hrequest htimeout
            fun ms he => hms ⟨ms, he⟩
          exact about_connection (hunanswered.silent effect heffect)
            (huntouched.quiet effect heffect).1

/-! ### The table in every state -/

/-- The columns of a function: the values of coils take one, those of registers five. -/
def columnCount (index : FunctionIndex) : ℕ :=
  if kFunctionWriteSingleCoil ≤ index then 2
  else if index = kFunctionReadCoils ∨ index = kFunctionReadDiscreteInputs then 3
  else 7

/-- A read of registers. -/
def readsRegisters : PendingRequest → Bool
  | .readHoldingRegisters | .readInputRegisters => true
  | _ => false

/-- The registers that a signal of the driver brings. -/
def registers? : Effect → Option (List UInt16)
  | .holdingRegistersRead registers | .inputRegistersRead registers => some registers
  | _ => none

/-- The table is that of the selected function and range: as many rows as are asked for,
each with its own address. -/
structure Whole (p : ModbusPage) (t : Grid QString) : Prop where
  width : t.width = columnCount p.modbusFunction
  height : t.height = p.modbusCount.value.toNat
  addresses : ∀ row < t.height,
    t.get? row 0 = some (toString (p.modbusRegisterStart.value + row))

/-- The page has its table, and the table is whole. -/
def Intact (p : ModbusPage) : Prop := ∃ t, p.modbusTable = some t ∧ Whole p t

/-- The pages agree about what the table is for. -/
structure SameRange (p q : ModbusPage) : Prop where
  function : q.modbusFunction = p.modbusFunction
  count : q.modbusCount = p.modbusCount
  start : q.modbusRegisterStart = p.modbusRegisterStart

theorem SameRange.trans {r : ModbusPage} (h : SameRange p q) (h' : SameRange q r) :
    SameRange p r :=
  ⟨h'.function.trans h.function, h'.count.trans h.count, h'.start.trans h.start⟩

/-- A table stays whole when its size and its addresses do. -/
theorem Whole.kept (h : Whole p t) (hrange : SameRange p q)
    (hsize : t'.height = t.height ∧ t'.width = t.width)
    (haddress : ∀ row, t'.get? row 0 = t.get? row 0) : Whole q t' := by
  refine ⟨?_, ?_, fun row hrow => ?_⟩
  · rw [hsize.2, hrange.function, h.width]
  · rw [hsize.1, hrange.count, h.height]
  · rw [haddress, hrange.start, h.addresses row (hsize.1 ▸ hrow)]

theorem two_le_columnCount (index : FunctionIndex) : 2 ≤ columnCount index := by
  revert index
  decide

theorem Intact.onTable {f : Grid QString → Option (Grid QString)} (h : Intact p)
    (hf : ∀ t, Whole p t → ∃ t', f t = some t' ∧ (t'.height = t.height ∧ t'.width = t.width) ∧
      ∀ row, t'.get? row 0 = t.get? row 0) : Intact (p.onTable f) := by
  obtain ⟨t, htable, hwhole⟩ := h
  obtain ⟨t', ht', hsize, haddress⟩ := hf t hwhole
  exact ⟨t', by rw [ModbusPage.onTable, htable]; exact ht',
    hwhole.kept ⟨rfl, rfl, rfl⟩ hsize haddress⟩

theorem Intact.of_same (h : Intact p) (hrange : SameRange p q)
    (htable : q.modbusTable = p.modbusTable) : Intact q := by
  obtain ⟨t, hp, hwhole⟩ := h
  exact ⟨t, htable.trans hp, hwhole.kept hrange ⟨rfl, rfl⟩ fun _ => rfl⟩

/-- Rebuilding makes the table whole, if there is a label for every column. -/
theorem rebuild_intact (hheaders : p.modbusHeaders.length = columnCount p.modbusFunction) :
    Intact p.rebuildModbusTableRows := by
  have htwo := two_le_columnCount p.modbusFunction
  refine ⟨_, rfl, hheaders, Grid.height_ofFn _ _ _, fun row hrow => ?_⟩
  rw [Grid.height_ofFn] at hrow
  rw [Grid.get?_ofFn hrow (by omega), if_neg (by omega), if_pos rfl]
  rfl

/-- The slots touch the table and the labels. -/
theorem slot_same (p : ModbusPage) (effect : Effect) :
    SameRange p (p.slot effect) ∧ (p.slot effect).modbus = p.modbus ∧
      (p.slot effect).modbusHeaders = p.modbusHeaders := by
  cases effect with
  | connectionStateChanged connected =>
    unfold slot updateModbusLabels
    dsimp only
    split_ifs <;> exact ⟨⟨rfl, rfl, rfl⟩, rfl, rfl⟩
  | _ => exact ⟨⟨rfl, rfl, rfl⟩, rfl, rfl⟩

theorem updateModbusLabels_intact (h : Intact p) : Intact p.updateModbusLabels := by
  have hlabels : ∀ state button : QString, Intact { p with
      modbusStateLabel := state
      btnModbusConnect := button } := fun _ _ => h.of_same ⟨rfl, rfl, rfl⟩ rfl
  unfold updateModbusLabels
  cases p.modbus.isReady with
  | true => exact hlabels _ _
  | false => exact (hlabels _ _).onTable fun t _ => clear_kept t

/-- The table stays whole; registers need their columns for that. -/
theorem slot_intact (h : Intact p) {effect : Effect}
    (hwide : (registers? effect).isSome → columnCount p.modbusFunction = 7) :
    Intact (p.slot effect) := by
  have hregisters : ∀ registers, columnCount p.modbusFunction = 7 →
      Intact (p.onTable (updateModbusRegisterTableValues registers)) := by
    intro registers hseven
    refine h.onTable fun t hwhole => ?_
    have hroom : 6 ≤ t.width := by
      rw [hwhole.width, hseven]
      decide
    obtain ⟨t', ht'⟩ := Option.isSome_iff_exists.mp
      ((registerUpdate_isSome_iff registers _).mpr (Or.inl hroom))
    have hshown := registerUpdate_shown ht'
    exact ⟨t', ht', ⟨hshown.height, hshown.width⟩,
      fun row => hshown.kept row 0 (Or.inr (Or.inl rfl))⟩
  have hbits : ∀ bits, Intact (p.onTable (updateModbusCoilTableValues bits)) := fun bits =>
    h.onTable fun t hwhole => coilUpdate_kept (hwhole.width ▸ two_le_columnCount _)
  cases effect with
  | connectionStateChanged connected => exact updateModbusLabels_intact h
  | holdingRegistersRead registers => exact hregisters registers (hwide rfl)
  | inputRegistersRead registers => exact hregisters registers (hwide rfl)
  | coilsRead bits => exact hbits bits
  | discreteInputsRead bits => exact hbits bits
  | readFailed error => exact h.onTable fun t _ => clear_kept t
  | _ => exact h.of_same ⟨rfl, rfl, rfl⟩ rfl

theorem slots_intact (effects : List Effect) (h : Intact p)
    (hwide : ∀ effect ∈ effects, (registers? effect).isSome →
      columnCount p.modbusFunction = 7) :
    Intact (effects.foldl slot p) ∧ SameRange p (effects.foldl slot p) ∧
      (effects.foldl slot p).modbus = p.modbus ∧
      (effects.foldl slot p).modbusHeaders = p.modbusHeaders := by
  induction effects generalizing p with
  | nil => exact ⟨h, ⟨rfl, rfl, rfl⟩, rfl, rfl⟩
  | cons effect effects ih =>
    obtain ⟨hfirst, hrest⟩ := List.forall_mem_cons.mp hwide
    obtain ⟨hrange, hmodbus, hheaders⟩ := slot_same p effect
    obtain ⟨hintact, hrange', hmodbus', hheaders'⟩ := ih (slot_intact h hfirst)
      fun e he hregisters => by rw [hrange.function]; exact hrest e he hregisters
    exact ⟨hintact, hrange.trans hrange', hmodbus'.trans hmodbus, hheaders'.trans hheaders⟩

/-- What holds in every state: the table is whole, the labels are those of the function,
and while a read of registers is pending there are columns for them. -/
structure Inv (p : ModbusPage) : Prop where
  intact : Intact p
  headers : p.modbusHeaders.length = columnCount p.modbusFunction
  wide : readsRegisters p.modbus.pendingRequest = true → columnCount p.modbusFunction = 7

/-- The function is not changed to another kind while a read of registers is pending. -/
def Undisturbed (p : ModbusPage) : ModbusPageEvent → Prop
  | .functionChanged index =>
    readsRegisters p.modbus.pendingRequest = true → columnCount index = 7
  | _ => True

instance (p : ModbusPage) (e : ModbusPageEvent) : Decidable (p.Undisturbed e) := by
  cases e <;> unfold Undisturbed <;> infer_instance

/-- An outcome that brings registers ends a read of registers. -/
theorem readsRegisters_of_owns {k : PendingRequest} {effect : Effect} (h : k.Owns effect)
    (hregisters : (registers? effect).isSome) : readsRegisters k = true := by
  cases k with
  | none => exact h.elim
  | readHoldingRegisters | readInputRegisters => rfl
  | readCoils | readDiscreteInputs => rcases h with ⟨_, rfl⟩ | ⟨_, rfl⟩ <;> cases hregisters
  | writeSingleRegister | writeMultipleRegisters | writeSingleCoil | writeMultipleCoils =>
    rcases h with ⟨_, _, rfl⟩ | ⟨_, rfl⟩ <;> cases hregisters

theorem Inv.of_same (h : Inv p) (hrange : SameRange p q) (htable : q.modbusTable = p.modbusTable)
    (hheaders : q.modbusHeaders = p.modbusHeaders)
    (hpending : q.modbus.pendingRequest = p.modbus.pendingRequest) : Inv q := by
  refine ⟨h.intact.of_same hrange htable, ?_, fun hreads => ?_⟩
  · rw [hheaders, hrange.function, h.headers]
  · rw [hrange.function]
    exact h.wide (hpending ▸ hreads)

theorem onDriver_inv {f : ModbusConnection → Reaction ModbusConnection Effect} (h : Inv p)
    (heffects : ∀ effect ∈ (f p.modbus).2, (registers? effect).isSome →
      columnCount p.modbusFunction = 7)
    (hpending : readsRegisters (f p.modbus).1.pendingRequest = true →
      columnCount p.modbusFunction = 7) : Inv (p.onDriver f).1 := by
  have hdriven : Intact { p with modbus := (f p.modbus).1 } :=
    h.intact.of_same ⟨rfl, rfl, rfl⟩ rfl
  obtain ⟨hintact, hrange, hmodbus, hheaders⟩ := slots_intact (f p.modbus).2 hdriven heffects
  refine ⟨hintact, ?_, fun hreads => ?_⟩
  · refine (congrArg List.length hheaders).trans (h.headers.trans ?_)
    rw [onDriver, hrange.function]
  · rw [onDriver, hrange.function]
    refine hpending ?_
    rw [onDriver, hmodbus] at hreads
    exact hreads

/-- The driver follows its request. -/
theorem follows_inv {f : ModbusConnection → Reaction ModbusConnection Effect} (h : Inv p)
    (hf : Follows p.modbus.pendingRequest (f p.modbus)) : Inv (p.onDriver f).1 := by
  refine onDriver_inv h (fun effect heffect hregisters => ?_) fun hreads => ?_
  · rcases hf.effects with hconnection | ⟨outcome, honly, howns⟩
    · obtain ⟨connected, rfl⟩ := hconnection effect heffect
      cases hregisters
    · obtain rfl : effect = outcome := List.mem_singleton.mp (honly ▸ heffect)
      exact h.wide (readsRegisters_of_owns howns hregisters)
  · rcases hf.pending with hnone | hsame
    · rw [hnone] at hreads
      cases hreads
    · exact h.wide (hsame ▸ hreads)

/-- A request is one that the table has the columns for. -/
theorem request_inv (call : RequestCall) (h : Inv p)
    (hcall : readsRegisters call.kind = true → columnCount p.modbusFunction = 7) :
    Inv (p.onDriver (·.callRequest call)).1 := by
  rcases ModbusConnection.callRequest_arms call p.modbus with hrefused | ⟨-, frame, hframe⟩
  · refine onDriver_inv h (fun effect heffect _ => ?_) fun hreads => ?_
    · rw [hrefused] at heffect
      cases heffect
    · rw [hrefused] at hreads
      exact h.wide hreads
  · refine onDriver_inv h (fun effect heffect hregisters => ?_) fun hreads => ?_
    · rw [hframe] at heffect
      obtain rfl := List.mem_singleton.mp heffect
      cases hregisters
    · rw [hframe] at hreads
      exact hcall hreads

theorem updateModbusLabels_inv (h : Inv p) : Inv p.updateModbusLabels := by
  obtain ⟨hrange, hmodbus, hheaders⟩ := slot_same p (.connectionStateChanged true)
  refine ⟨updateModbusLabels_intact h.intact, ?_, fun hreads => ?_⟩
  · exact (congrArg List.length hheaders).trans (h.headers.trans (by rw [← hrange.function]; rfl))
  · have hmodbus' : p.updateModbusLabels.modbus = p.modbus := hmodbus
    have hfunction : p.updateModbusLabels.modbusFunction = p.modbusFunction := hrange.function
    rw [hfunction]
    exact h.wide (hmodbus' ▸ hreads)

theorem rebuild_inv (hheaders : p.modbusHeaders.length = columnCount p.modbusFunction)
    (hwide : readsRegisters p.modbus.pendingRequest = true → columnCount p.modbusFunction = 7) :
    Inv p.rebuildModbusTableRows :=
  ⟨rebuild_intact hheaders, hheaders, hwide⟩

/-- There is a label for every column of the function. -/
theorem onModbusFunctionChanged_inv
    (hwide : readsRegisters p.modbus.pendingRequest = true → columnCount p.modbusFunction = 7) :
    Inv p.onModbusFunctionChanged := by
  refine rebuild_inv ?_ hwide
  dsimp only
  unfold isModbusWriteFunction isModbusCoilFunction columnCount
  by_cases hwrite : kFunctionWriteSingleCoil ≤ p.modbusFunction
  · simp [hwrite]
  · by_cases hcoil : p.modbusFunction = kFunctionReadCoils ∨
        p.modbusFunction = kFunctionReadDiscreteInputs
    · simp [hwrite, hcoil]
    · simp [hwrite, hcoil]

theorem pollModbusRegisters_inv (h : Inv p) : Inv p.pollModbusRegisters.1 := by
  unfold pollModbusRegisters
  dsimp only
  split_ifs with _ hcoils hinputs hholding hinput
  · exact h
  · exact request_inv _ h nofun
  · exact request_inv _ h nofun
  · exact request_inv _ h fun _ => by rw [hholding]; rfl
  · exact request_inv _ h fun _ => by rw [hinput]; rfl
  · exact h

/-- What the dialog asks for is a write. -/
theorem validate_kind {d : WriteDialog} {call : RequestCall} (h : d.validate = .ok call) :
    readsRegisters call.kind = false := by
  unfold WriteDialog.validate at h
  split_ifs at h
  · obtain rfl := Except.ok.inj h
    rfl
  all_goals
    split at h
    · cases h
    · obtain rfl := Except.ok.inj h
      rfl

theorem sendClicked_inv (h : Inv p) : Inv p.sendClicked.1 := by
  unfold sendClicked
  cases p.dialog with
  | none => exact h
  | some d =>
    dsimp only
    cases hvalidate : d.validate with
    | error error => exact h.of_same ⟨rfl, rfl, rfl⟩ rfl rfl rfl
    | ok call =>
      have hkind := validate_kind hvalidate
      refine Inv.of_same (request_inv call h fun hreads => ?_) ⟨rfl, rfl, rfl⟩ rfl rfl rfl
      rw [hkind] at hreads
      cases hreads

/-- Every event that meets the condition keeps the table whole. -/
theorem handle_inv (h : Inv p) (e : ModbusPageEvent) (hundisturbed : p.Undisturbed e) :
    Inv (p.handle e).1 := by
  cases e with
  | driver e =>
    refine follows_inv h (handle_follows p.modbus fun call hcall => ?_)
    have hnocall := e.2
    rw [hcall] at hnocall
    cases hnocall
  | connectClicked launch =>
    refine updateModbusLabels_inv ?_
    split_ifs
    · exact follows_inv h (handle_follows p.modbus (e := .disconnectNow) nofun)
    · exact follows_inv h (handle_follows p.modbus
        (e := .connectToHost p.modbusHost (UInt16.ofInt p.modbusPort.value) launch) nofun)
  | pollTimeout => exact pollModbusRegisters_inv h
  | registerStartChanged value =>
    unfold handle
    dsimp only
    split_ifs
    · exact h
    · exact rebuild_inv h.headers h.wide
  | countChanged value =>
    unfold handle
    dsimp only
    split_ifs
    · exact h
    · exact rebuild_inv h.headers h.wide
  | functionChanged index =>
    unfold handle
    dsimp only
    split_ifs
    · exact h
    · exact onModbusFunctionChanged_inv hundisturbed
  | nameEdited row text =>
    have hintact : Intact (p.onTable (ModbusPage.nameEdited row text)) := by
      refine h.intact.onTable fun t hwhole => ⟨_, rfl, ?_⟩
      cases hput : t.put row (t.width - 1) text with
      | none => exact ⟨⟨rfl, rfl⟩, fun _ => rfl⟩
      | some t' =>
        refine ⟨Grid.put_size hput, fun row' => ?_⟩
        have htwo := two_le_columnCount p.modbusFunction
        have hwidth := hwhole.width
        rw [Option.getD_some, Grid.get?_put hput, if_neg (by omega)]
    exact ⟨hintact, h.headers, h.wide⟩
  | rowDoubleClicked row =>
    change Inv (p.onModbusTableDoubleClicked row)
    unfold onModbusTableDoubleClicked
    split_ifs
    · exact h
    · exact h.of_same ⟨rfl, rfl, rfl⟩ rfl rfl rfl
  | sendClicked => exact sendClicked_inv h
  | hostEdited _ | portChanged _ | timeoutChanged _ | slaveIdChanged _ | coilStateChosen _
  | valueEdited _ | cancelClicked => exact h.of_same ⟨rfl, rfl, rfl⟩ rfl rfl rfl

theorem opened_inv : Inv opened :=
  updateModbusLabels_inv (onModbusFunctionChanged_inv nofun)

/-- A response for registers is shown. -/
theorem response_shown (h : Inv p) {e : { e : Modbus.Event // isModbusCall e = false }}
    {effect : Effect} (heffect : effect ∈ (p.modbus.handle e.1).2)
    (hregisters : registers? effect = some registers) :
    ∃ t t', p.modbusTable = some t ∧ (p.handle (.driver e)).1.modbusTable = some t' ∧
      RegistersShown registers t t' := by
  have hrequest : ∀ call, e.1 ≠ .request call := by
    intro call hcall
    have hnocall := e.2
    rw [hcall] at hnocall
    cases hnocall
  obtain ⟨-, hconnection | ⟨outcome, honly, howns⟩⟩ := handle_follows p.modbus hrequest
  · obtain ⟨connected, rfl⟩ := hconnection effect heffect
    cases hregisters
  · obtain rfl : effect = outcome := List.mem_singleton.mp (honly ▸ heffect)
    obtain ⟨t, htable, hwhole⟩ := h.intact
    have hroom : 6 ≤ t.width := by
      rw [hwhole.width, h.wide (readsRegisters_of_owns howns (hregisters ▸ rfl))]
      decide
    obtain ⟨t', ht'⟩ := Option.isSome_iff_exists.mp
      ((registerUpdate_isSome_iff registers _).mpr (Or.inl hroom))
    refine ⟨t, t', htable, ?_, registerUpdate_shown ht'⟩
    change (List.foldl slot _ (p.modbus.handle e.1).2).modbusTable = some t'
    rw [honly]
    cases effect with
    | holdingRegistersRead read | inputRegistersRead read =>
      obtain rfl := Option.some.inj hregisters
      change p.modbusTable.bind (updateModbusRegisterTableValues read) = some t'
      rw [htable]
      exact ht'
    | _ => cases hregisters

/-- **The table is whole in every state.** As long as nobody changes the function to another
kind while a read of registers is pending, every slot finds the cells it writes to: the
table keeps the columns of its function, a row for every address of the range, and in each
row its address, and every response for registers is shown. -/
theorem modbusTable_intact (events : List ModbusPageEvent)
    (hundisturbed : machine.EachStep Undisturbed opened events) :
    machine.EachState Intact opened events ∧
    machine.EachStep (fun p e => ∀ d effect registers, e = .driver d →
      effect ∈ (p.modbus.handle d.1).2 → registers? effect = some registers →
        ∃ t t', p.modbusTable = some t ∧ (p.handle e).1.modbusTable = some t' ∧
          RegistersShown registers t t') opened events := by
  have hstep : ∀ p e, Inv p → Undisturbed p e → Inv (machine.next p e) :=
    fun _ e h => handle_inv h e
  refine ⟨Mealy.eachState_of_invariant hstep (fun _ h => h.intact) opened_inv hundisturbed, ?_⟩
  refine Mealy.eachStep_of_invariant hstep ?_ opened_inv hundisturbed
  rintro p _ h - d effect registers rfl heffect hregisters
  exact response_shown h heffect hregisters

/-- A read of registers is under way. -/
def pollingRun : List ModbusPageEvent :=
  [.connectClicked .started, .driver ⟨.socketConnected, rfl⟩, .pollTimeout]

/-- One register is read. -/
def registerArrives : ModbusPageEvent :=
  .driver ⟨.readyRead [0x00, 0x01, 0x00, 0x00, 0x00, 0x05, 0x01, 0x03, 0x02, 0x00, 0x2A], rfl⟩

/-- A change of the function behind the response. -/
theorem polledRun_intact :
    machine.EachState Intact opened (pollingRun ++ [registerArrives, .functionChanged 0]) :=
  (modbusTable_intact (pollingRun ++ [registerArrives, .functionChanged 0]) (by decide +kernel)).1

/-- Before it, the change takes away the cells that the response is written to. -/
example : (machine.after opened
    (pollingRun ++ [.functionChanged 0, registerArrives])).modbusTable.isNone = true := by
  decide +kernel

end ModbusPage

end QtAppBase.Demo
