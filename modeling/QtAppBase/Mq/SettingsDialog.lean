import QtAppBase.Mq.Connection
import QtAppBase.Mq.Settings
import QtAppBase.Qt.Widgets

/-!
# The settings dialog

The dialog edits the connection settings and tries them before they are saved. A
test opens a connection of its own and asks it every 200 ms how it is, for five
seconds at most. What happens on that connection in between is up to the broker,
and the user keeps editing, saving and testing meanwhile.
-/

namespace QtAppBase.Mq

open Library QtAppBase.Core Qt

/-- `kTestTimeoutMs`. -/
def kTestTimeoutMs : ℕ := 5000

/-- `kTestPollIntervalMs`. -/
def kTestPollIntervalMs : ℕ := 200

/-- The members of `MqSettingsDialog`, with the settings it points to. -/
structure MqSettingsDialog (α : Type*) where
  settings : MqSettings
  hostEdit : LineEdit
  portEdit : LineEdit
  vhostEdit : LineEdit
  userEdit : LineEdit
  passwordEdit : LineEdit
  resultLabel : QString := ""
  testConnection : Option (MqConnection α) := none
  /-- The poll timer is active. -/
  testPoll : Bool := false
  testElapsedMs : ℕ := 0

/-- What can be observed: what the connection under test does, and the verdicts on it. -/
inductive DialogEffect where
  | connection (effect : Effect)
  | finishTest (ok : Bool) (message : QString)
  deriving DecidableEq, Repr

/-- A row of the form. -/
inductive FormField where
  | host
  | port
  | vhost
  | user
  | password
  deriving DecidableEq, Repr

/-- What can happen while the dialog is open. -/
inductive DialogEvent where
  /-- The user edits a field. -/
  | edited (field : FormField) (text : LineEdit)
  | saveClicked
  | testClicked (launch : Launch)
  | pollTimeout
  | connection (event : Event)
  deriving DecidableEq, Repr

variable {α : Type*}

/-- `MqConnection::isReady`. -/
def MqConnection.isReady (c : MqConnection α) : Bool := c.state.connected

/-- `connectToHost` is called. -/
def Event.isConnect : Event → Bool
  | .connectToHost .. => true
  | _ => false

namespace MqSettingsDialog

/-- The constructor. The password is not shown. -/
def opened (settings : MqSettings) : MqSettingsDialog α where
  settings := settings
  hostEdit := .setText settings.host
  portEdit := .setText (toString settings.port)
  vhostEdit := .setText settings.vhost
  userEdit := .setText settings.user
  passwordEdit := .setText ""

/-- The line edit of a field. -/
def edit (d : MqSettingsDialog α) : FormField → LineEdit
  | .host => d.hostEdit
  | .port => d.portEdit
  | .vhost => d.vhostEdit
  | .user => d.userEdit
  | .password => d.passwordEdit

/-- The user edits a field. -/
def edited (text : LineEdit) (d : MqSettingsDialog α) : FormField → MqSettingsDialog α
  | .host => { d with hostEdit := text }
  | .port => { d with portEdit := text }
  | .vhost => { d with vhostEdit := text }
  | .user => { d with userEdit := text }
  | .password => { d with passwordEdit := text }

/-- The typed port: what is no number is zero, and what is too large loses its high bits. -/
def port (d : MqSettingsDialog α) : UInt16 := UInt16.ofNat ((toUInt d.portEdit.text).getD 0)

/-- `save`. -/
def save (d : MqSettingsDialog α) : MqSettingsDialog α :=
  let settings := d.settings.setHost d.hostEdit.text
  let settings := settings.setPort d.port
  let settings := settings.setVhost d.vhostEdit.text
  let settings := settings.setUser d.userEdit.text
  let settings := settings.setPassword d.passwordEdit.text
  { d with
    settings := settings
    resultLabel := "Đã lưu. Khởi động lại ứng dụng để áp dụng." }

/-- `startTest`. A blank password stands for the one that is saved. -/
def startTest (launch : Launch) (d : MqSettingsDialog α) :
    Reaction (MqSettingsDialog α) DialogEffect :=
  let password := if d.passwordEdit.text = "" then d.settings.password else d.passwordEdit.text
  let r := ({} : MqConnection α).connectToHost d.hostEdit.text d.port d.vhostEdit.text
    d.userEdit.text password launch
  ({ d with
    testConnection := some r.1
    testElapsedMs := 0
    resultLabel := "Đang thử..."
    testPoll := true }, r.2.map .connection)

/-- `finishTest`. -/
def finishTest (ok : Bool) (message : QString) (d : MqSettingsDialog α) :
    Reaction (MqSettingsDialog α) DialogEffect :=
  ({ d with
    testPoll := false
    testConnection := none
    resultLabel := (if ok then "✓ " else "✗ ") ++ message }, [.finishTest ok message])

/-- The verdict on a connection that is ready. -/
def succeededText : QString := "Kết nối và đăng nhập thành công."

/-- The verdict on a broker that does not answer. -/
def timedOutText : QString := "Hết thời gian chờ phản hồi từ broker."

/-- `pollTest`. -/
def pollTest (d : MqSettingsDialog α) : Reaction (MqSettingsDialog α) DialogEffect :=
  match d.testConnection with
  | none => .silently { d with testPoll := false }
  | some c =>
    if c.error ≠ "" then finishTest false c.error d
    else if c.isReady then finishTest true succeededText d
    else
      let d := { d with testElapsedMs := d.testElapsedMs + kTestPollIntervalMs }
      if kTestTimeoutMs ≤ d.testElapsedMs then finishTest false timedOutText d else .silently d

variable (lib : AmqpLibrary α)

/-- What one event does. -/
def handle (d : MqSettingsDialog α) : DialogEvent → Reaction (MqSettingsDialog α) DialogEffect
  | .edited field text => .silently (d.edited text field)
  | .saveClicked => .silently d.save
  | .testClicked launch => d.startTest launch
  | .pollTimeout => d.pollTest
  | .connection event =>
    match d.testConnection with
    | none => (d, [])
    | some c =>
      ({ d with testConnection := some (c.handle lib event).1 },
        (c.handle lib event).2.map .connection)

/-- The state machine driven by its events. -/
def machine : Mealy (MqSettingsDialog α) DialogEvent DialogEffect := ⟨handle lib⟩

/-- The poll timer fires while it is active, and a connection under test does what it can on
its own: nobody else connects it. -/
def Enabled (d : MqSettingsDialog α) : DialogEvent → Prop
  | .pollTimeout => d.testPoll = true
  | .connection event =>
    event.isConnect = false ∧
      match d.testConnection with
      | none => False
      | some c => c.Enabled event
  | _ => True

instance (d : MqSettingsDialog α) (e : DialogEvent) : Decidable (d.Enabled e) := by
  unfold Enabled
  split
  · infer_instance
  · have : Decidable (match d.testConnection with
      | none => False
      | some c => c.Enabled ‹Event›) := by
      split <;> infer_instance
    infer_instance
  · infer_instance

/-- A library that consumes nothing. -/
def idleLibrary : AmqpLibrary Unit where
  create _ _ _ := ()
  parse _ _ := (0, ())
  consumes_le _ _ := Nat.zero_le _

end MqSettingsDialog

end QtAppBase.Mq
