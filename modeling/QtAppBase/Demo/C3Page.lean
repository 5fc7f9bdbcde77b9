import QtAppBase.C3.DateTime
import QtAppBase.C3.Routine
import QtAppBase.Demo.Sidebar
import QtAppBase.Library.Capped
import QtAppBase.Qt.Widgets

/-!
# The C3 page of the demo window

The page drives one `C3Connection`: it asks for what the current view shows, and
turns the answers into labels and table rows. The signals of the driver call the
slots of the page at once. Of these only the one for `connectionStateChanged`
calls back into the driver, for a request; what is left of the driver's handler by
then touches `state_` alone, and a request does not. So a slot may be taken to run
when the handler is through.
-/

namespace QtAppBase.Demo

open Library Qt C3

/-- The parameters that make up the device info. -/
def deviceInfoNames : List QString :=
  ["~SerialNumber", "FirmVer", "DeviceName", "LockCount", "AuxInCount", "AuxOutCount"]

/-- The tables whose records can be counted. -/
def countTables : List QString :=
  ["user", "userauthorize", "holiday", "timezone", "transaction", "firstcard", "multicard",
    "inoutfun"]

def kMaxLogRows : ℕ := 500

/-- The members of the window that belong to C3. -/
structure C3Page where
  c3 : C3Connection := {}
  c3Host : QString := "192.168.2.163"
  c3Port : SpinBox 1 65535 := ⟨4370, by decide⟩
  btnC3Connect : QString := "Connect"
  c3StateLabel : QString := "State: Disconnected"
  c3Table : TableWidget := {}
  c3LogTable : List (List QString) := []
  c3ControlDoor : SpinBox 1 4 := ⟨1, by decide⟩
  c3ControlDuration : SpinBox 1 254 := ⟨3, by decide⟩
  c3ControlResultLabel : QString := "Last result: -"
  c3CountTable : Fin countTables.length := ⟨0, by decide⟩
  c3CountResultLabel : QString := "Count: -"

namespace C3Page

/-! ### Requests -/

/-- A request call of the page. A request emits no signal. -/
def request (call : RequestCall) (p : C3Page) : Reaction C3Page Effect :=
  let r := p.c3.callRequest call
  ({ p with c3 := r.1 }, r.2)

/-- `refreshC3View`: the realtime log, the controls and the count are not fetched this way. -/
def refreshC3View (view : ℤ) (p : C3Page) : Reaction C3Page Effect :=
  if !p.c3.isReady then (p, [])
  else if view = kC3ViewDeviceInfo then p.request (.requestDeviceParams deviceInfoNames)
  else if view = kC3ViewUsers then p.request (.requestTableData "user")
  else if view = kC3ViewTemplates then p.request (.requestTableData "template")
  else if view = kC3ViewTransaction then p.request (.requestTableData "transaction")
  else (p, [])

/-- `refreshC3RecordCount`. -/
def refreshC3RecordCount (p : C3Page) : Reaction C3Page Effect :=
  if !p.c3.isReady then (p, [])
  else p.request (.requestTableRecordCount (countTables.get p.c3CountTable))

/-- `pollC3RealtimeLog`. -/
def pollC3RealtimeLog (view : ℤ) (p : C3Page) : Reaction C3Page Effect :=
  if !p.c3.isReady || view ≠ kC3ViewRealtimeLog then (p, [])
  else p.request .requestRealtimeLog

/-- The door button. -/
def doorOpenClicked (p : C3Page) : Reaction C3Page Effect :=
  if !p.c3.isReady then (p, [])
  else
    let r := p.request (.control (.controlDoorOutput (UInt8.ofInt p.c3ControlDoor.value)
      (UInt8.ofInt p.c3ControlDuration.value)))
    ({ r.1 with c3ControlResultLabel := "Last result: sent, waiting..." }, r.2)

/-- The alarm button. -/
def cancelAlarmClicked (p : C3Page) : Reaction C3Page Effect :=
  if !p.c3.isReady then (p, [])
  else
    let r := p.request (.control .cancelAlarm)
    ({ r.1 with c3ControlResultLabel := "Last result: sent, waiting..." }, r.2)

/-! ### Slots -/

/-- `updateC3Labels`. -/
def updateC3Labels (view : ℤ) (p : C3Page) : Reaction C3Page Effect :=
  let ready := p.c3.isReady
  let p := { p with
    c3StateLabel := "State: " ++ if ready then "Connected" else "Disconnected"
    btnC3Connect := if ready then "Disconnect" else "Connect" }
  if !ready then
    ({ p with
      c3Table := { p.c3Table with rows := [] }
      c3LogTable := []
      c3ControlResultLabel := "Last result: -" }, [])
  else p.refreshC3View view

/-- `rebuildC3TableForKeyValueMap`. -/
def rebuildC3TableForKeyValueMap (values : QVariantMap) (p : C3Page) : C3Page :=
  { p with c3Table := {
      headers := ["Parameter", "Value"]
      rows := values.entries.map fun (key, value) => [key, value.toString] } }

/-- One line of text instead of a table. -/
def showStatus (text : QString) (p : C3Page) : C3Page :=
  { p with c3Table := { headers := ["Status"], rows := [[text]] } }

/-- The text of a cell: the time of an event is shown as a calendar date, and a
missing value is an invalid `QVariant`. -/
def cellText (key : QString) (value : Option QVariant) : QString :=
  if key = "Time_second" then
    decodeC3DateTime (UInt32.ofNat ((value.bind QVariant.toUInt).getD 0))
  else (value.map QVariant.toString).getD ""

/-- `rebuildC3TableForRecords`: the first record decides about the columns. -/
def rebuildC3TableForRecords (records : List QVariantMap) (p : C3Page) : C3Page :=
  match records with
  | [] => p.showStatus "No records returned by the panel"
  | first :: _ =>
    let keys := first.entries.map Prod.fst
    { p with c3Table := {
        headers := keys
        rows := records.map fun record => keys.map fun key => cellText key (record.find? key) } }

/-- `appendC3LogRow`. -/
def appendC3LogRow (cells : List QString) (p : C3Page) : C3Page :=
  { p with c3LogTable := appendTrimmed kMaxLogRows p.c3LogTable cells }

/-- The row of a binary record, if it is about a card. -/
def binaryRow (record : RtLogRecord) : Option (List QString) :=
  if record.kind ≠ .event ∨ record.cardNo = 0 then none
  else
    some [decodeC3DateTime record.timeSecond, toString record.cardNo.toNat,
      toString record.pin.toNat, toString record.doorId.toNat, toString record.eventType.toNat,
      toString record.inOutState.toNat, toString record.verified.toNat]

/-- The row of a key/value record, if it has a card number that is not zero. -/
def keyValueRow (record : QVariantMap) : Option (List QString) :=
  match (record.find? "cardno").bind QVariant.toULongLong with
  | none => none
  | some cardNo =>
    if cardNo = 0 then none
    else
      let time := ((record.find? "time").map QVariant.toString).getD ""
      some [if time = "" then "-" else time, toString cardNo, "-", "-", "-", "-", "-"]

/-- Records without a row are dropped here; the driver hands on all of them. -/
def appendRow (p : C3Page) : Option (List QString) → C3Page
  | none => p
  | some cells => p.appendC3LogRow cells

/-- What the page does about a signal of the driver. -/
def slot (view : ℤ) : Effect → C3Page → Reaction C3Page Effect
  | .connectionStateChanged _, p => p.updateC3Labels view
  | .deviceParamsReceived values, p => .silently (p.rebuildC3TableForKeyValueMap values)
  | .deviceParamsFailed error, p => .silently (p.showStatus ("Failed: " ++ error))
  | .tableDataReceived _ records, p => .silently (p.rebuildC3TableForRecords records)
  | .tableDataFailed _ error, p => .silently (p.showStatus ("Failed: " ++ error))
  | .realtimeLogReceived records, p => .silently ((records.map binaryRow).foldl appendRow p)
  | .realtimeLogKeyValueReceived records, p =>
    .silently ((records.map keyValueRow).foldl appendRow p)
  | .controlAcknowledged, p =>
    .silently { p with c3ControlResultLabel := "Last result: acknowledged" }
  | .controlFailed error, p =>
    .silently { p with c3ControlResultLabel := "Last result: failed -- " ++ error }
  | .tableRecordCountReceived _ count, p =>
    .silently { p with c3CountResultLabel := "Count: " ++ toString count.toNat }
  | .tableRecordCountFailed tableName error, p =>
    .silently { p with
      c3CountResultLabel := "Count: failed -- " ++ error ++ " (" ++ tableName ++ ")" }
  | .write _, p | .sessionEstablished _, p | .sessionFailed _, p | .realtimeLogFailed _, p
  | .setParamsAcknowledged, p | .setParamsFailed _, p => .silently p

/-- The effects of the driver, each followed by what the page does about it. -/
def deliver (view : ℤ) : List Effect → C3Page → Reaction C3Page Effect
  | [], p => .silently p
  | effect :: rest, p =>
    Reaction.andThen (Reaction.andThen (p, [effect]) (slot view effect)) (deliver view rest)

/-- Something happens to the driver. -/
def onDriver (view : ℤ) (f : C3Connection → Reaction C3Connection Effect) (p : C3Page) :
    Reaction C3Page Effect :=
  let r := f p.c3
  deliver view r.2 { p with c3 := r.1 }

/-- `onC3ConnectClicked`. -/
def onC3ConnectClicked (view : ℤ) (launch : Launch) (p : C3Page) : Reaction C3Page Effect :=
  let r :=
    if p.c3.isReady then p.onDriver view C3Connection.disconnectNow
    else
      p.onDriver view
        (C3Connection.connectToHost p.c3Host (UInt16.ofInt p.c3Port.value) launch)
  r.andThen (updateC3Labels view)

end C3Page

end QtAppBase.Demo
