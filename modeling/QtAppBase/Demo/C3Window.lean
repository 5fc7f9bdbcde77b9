import QtAppBase.Demo.C3Page

/-!
# What the demo does to a panel

A panel opens doors. The window here, sidebar and C3 page together, is driven by
the user, by its poll timer, and by the socket and the timers of the driver. No
run of it writes a frame that does more than a timed unlock of one of four doors
or the end of an alarm, and these only for a click on their button.
-/

namespace QtAppBase.Demo

open Library Qt C3

/-- A call of a public function of the driver, as opposed to what its socket and its
timers do. -/
def isCall : C3.Event → Bool
  | .connectToHost .. | .disconnectNow | .request _ => true
  | _ => false

/-- What happens to the window. -/
inductive WindowEvent where
  | sidebar (e : SidebarEvent)
  | driver (e : { e : C3.Event // isCall e = false })
  | refreshClicked
  | connectClicked (launch : Launch)
  | doorOpenClicked
  | cancelAlarmClicked
  | countRefreshClicked
  | hostEdited (text : QString)
  | portChanged (value : ℤ)
  | doorChanged (value : ℤ)
  | durationChanged (value : ℤ)
  | countTableChanged (index : Fin countTables.length)
  | logPollTimeout

/-- The sidebar and the C3 page. -/
structure C3Window where
  sidebar : Sidebar
  page : C3Page := {}

namespace C3Window

open C3Page

/-- What a row of the sidebar fetches. -/
def fetch (view : ℤ) : List Fetch → C3Page → Reaction C3Page Effect
  | [], p => .silently p
  | .c3View :: rest, p => (p.refreshC3View view).andThen (fetch view rest)
  | .recordCount :: rest, p => p.refreshC3RecordCount.andThen (fetch view rest)

/-- The page reacts; the sidebar stays. -/
def onPage (f : C3Page → Reaction C3Page Effect) (w : C3Window) : Reaction C3Window Effect :=
  ({ w with page := (f w.page).1 }, (f w.page).2)

/-- The slot of the combo box is called when its index changes. -/
def chooseCountTable (index : Fin countTables.length) (p : C3Page) : Reaction C3Page Effect :=
  if index = p.c3CountTable then (p, [])
  else refreshC3RecordCount { p with c3CountTable := index }

/-- What one event does. -/
def handle (withMq : Bool) (w : C3Window) : WindowEvent → Reaction C3Window Effect
  | .sidebar e =>
    let r := w.sidebar.handle withMq e
    onPage (fetch r.1.lastC3ViewIndex r.2) { w with sidebar := r.1 }
  | .driver e => w.onPage (onDriver w.sidebar.lastC3ViewIndex (·.handle e.1))
  | .refreshClicked => w.onPage (refreshC3View w.sidebar.lastC3ViewIndex)
  | .connectClicked launch => w.onPage (onC3ConnectClicked w.sidebar.lastC3ViewIndex launch)
  | .doorOpenClicked => w.onPage C3Page.doorOpenClicked
  | .cancelAlarmClicked => w.onPage C3Page.cancelAlarmClicked
  | .countRefreshClicked => w.onPage refreshC3RecordCount
  | .hostEdited text => w.onPage fun p => .silently { p with c3Host := text }
  | .portChanged value => w.onPage fun p => .silently { p with c3Port := p.c3Port.setValue value }
  | .doorChanged value =>
    w.onPage fun p => .silently { p with c3ControlDoor := p.c3ControlDoor.setValue value }
  | .durationChanged value =>
    w.onPage fun p => .silently { p with c3ControlDuration := p.c3ControlDuration.setValue value }
  | .countTableChanged index => w.onPage (chooseCountTable index)
  | .logPollTimeout => w.onPage (pollC3RealtimeLog w.sidebar.lastC3ViewIndex)

/-- The state machine driven by its events. -/
def machine (withMq : Bool) : Mealy C3Window WindowEvent Effect := ⟨handle withMq⟩

/-- The window as the constructor leaves it. -/
def opened (withMq : Bool) : C3Window := { sidebar := Sidebar.opened withMq }

/-! ### Frames written -/

variable {p : C3Page} {view : ℤ} {frame : QByteArray}

/-- Every frame a reaction writes is of a kind. -/
def Writes {σ : Type} (P : QByteArray → Prop) (r : Reaction σ Effect) : Prop :=
  ∀ frame, .write frame ∈ r.2 → P frame

theorem Writes.andThen {σ : Type} {P : QByteArray → Prop} {r : Reaction σ Effect}
    {f : σ → Reaction σ Effect} (h : Writes P r) (hf : ∀ s, Writes P (f s)) :
    Writes P (r.andThen f) := by
  intro frame hframe
  rcases List.mem_append.mp hframe with hfirst | hlater
  · exact h frame hfirst
  · exact hf r.1 frame hlater

/-- A request for the device info. -/
def AsksDeviceInfo (frame : QByteArray) : Prop :=
  ∃ block sessionId requestNr,
    frame = encodeGetParamRequest deviceInfoNames block sessionId requestNr

/-- A frame that may be written without a click: it neither controls the panel nor
asks for its log, and reads parameters at most. -/
structure Unattended (frame : QByteArray) : Prop where
  control : frameCommand frame ≠ kCommandControl
  log : frameCommand frame ≠ kCommandRtlogBinary ∧ frameCommand frame ≠ kCommandRtlogKeyValue
  params : frameCommand frame = kCommandGetParam → AsksDeviceInfo frame

/-- A frame with another command is unattended. -/
theorem unattended_of_command {command : UInt8} (hcommand : frameCommand frame = command)
    (hother : command ∉ [kCommandControl, kCommandRtlogBinary, kCommandRtlogKeyValue,
      kCommandGetParam]) : Unattended frame := by
  simp only [List.mem_cons, List.not_mem_nil, or_false, not_or] at hother
  refine ⟨?_, ⟨?_, ?_⟩, fun hparams => absurd (hcommand.symm.trans hparams) hother.2.2.2⟩
  · exact fun h => hother.1 (hcommand.symm.trans h)
  · exact fun h => hother.2.1 (hcommand.symm.trans h)
  · exact fun h => hother.2.2.1 (hcommand.symm.trans h)

/-- So is a request for the table configuration, with which the table queries begin. -/
theorem tableConfig_unattended (h : frameCommand frame = kCommandDataTableCfg) :
    Unattended frame :=
  unattended_of_command h (by decide)

/-- The driver's own frames are unattended. -/
theorem unattended_of_own (h : frameCommand frame ∈ ownCommands) : Unattended frame := by
  refine unattended_of_command rfl fun hother => ?_
  have hdisjoint : List.all ownCommands fun command => command ∉ [kCommandControl,
      kCommandRtlogBinary, kCommandRtlogKeyValue, kCommandGetParam] := by decide
  exact of_decide_eq_true (List.all_eq_true.mp hdisjoint _ h) hother

/-- A request writes its frame, on a ready connection. -/
theorem request_written {call : RequestCall} (h : .write frame ∈ (p.request call).2) :
    p.c3.isReady = true ∧ frame = p.c3.requestFrame call := by
  obtain ⟨-, hnothing | ⟨hready, hframe⟩⟩ := C3Connection.callRequest_written call p.c3
  · rw [request, hnothing] at h
    cases h
  · rw [request, hframe] at h
    exact ⟨hready, Effect.write.inj (List.mem_singleton.mp h)⟩

theorem request_unattended {call : RequestCall}
    (hcall : ∀ c : C3Connection, Unattended (c.requestFrame call)) (p : C3Page) :
    Writes Unattended (p.request call) :=
  fun _ hframe => (request_written hframe).2 ▸ hcall p.c3

theorem refreshC3View_unattended (view : ℤ) (p : C3Page) :
    Writes Unattended (p.refreshC3View view) := by
  have htable : ∀ tableName, Writes Unattended (p.request (.requestTableData tableName)) :=
    fun tableName => request_unattended (fun c => tableConfig_unattended rfl) p
  unfold refreshC3View
  split_ifs
  · exact nofun
  · refine request_unattended (fun c => ⟨?_, ?_, fun _ => ⟨_, _, _, rfl⟩⟩) p
    · exact show kCommandGetParam ≠ kCommandControl by decide
    · exact show kCommandGetParam ≠ kCommandRtlogBinary ∧ kCommandGetParam ≠ kCommandRtlogKeyValue
        by decide
  · exact htable "user"
  · exact htable "template"
  · exact htable "transaction"
  · exact nofun

theorem refreshC3RecordCount_unattended (p : C3Page) :
    Writes Unattended p.refreshC3RecordCount := by
  unfold refreshC3RecordCount
  split_ifs
  · exact nofun
  · exact request_unattended (fun c => tableConfig_unattended rfl) p

theorem updateC3Labels_unattended (view : ℤ) (p : C3Page) :
    Writes Unattended (p.updateC3Labels view) := by
  unfold updateC3Labels
  dsimp only
  by_cases hready : (!p.c3.isReady) = true
  · rw [if_pos hready]
    exact nofun
  · rw [if_neg hready]
    exact refreshC3View_unattended view _

/-- No slot writes more than a refresh. -/
theorem slot_unattended (view : ℤ) (effect : Effect) (p : C3Page) :
    Writes Unattended (slot view effect p) := by
  cases effect with
  | connectionStateChanged connected => exact updateC3Labels_unattended view p
  | _ => exact nofun

theorem deliver_unattended (view : ℤ) (effects : List Effect)
    (heffects : ∀ frame, .write frame ∈ effects → Unattended frame) (p : C3Page) :
    Writes Unattended (deliver view effects p) := by
  induction effects generalizing p with
  | nil => exact nofun
  | cons effect rest ih =>
    have hfirst : Writes Unattended ((p, [effect]) : Reaction C3Page Effect) := by
      intro frame hframe
      rw [List.mem_singleton] at hframe
      exact heffects frame (hframe ▸ List.mem_cons_self)
    exact (hfirst.andThen (slot_unattended view effect)).andThen
      (ih fun frame hframe => heffects frame (List.mem_cons_of_mem _ hframe))

/-- An event that is no request leads to unattended frames only. -/
theorem onDriver_unattended (view : ℤ) {e : C3.Event} (he : ∀ call, e ≠ .request call)
    (p : C3Page) : Writes Unattended (p.onDriver view (·.handle e)) := by
  refine deliver_unattended view _ (fun frame hframe => ?_) _
  rcases C3Connection.handle_written hframe with hown | ⟨call, hcall, -⟩
  · exact unattended_of_own hown
  · exact absurd hcall (he call)

theorem onC3ConnectClicked_unattended (view : ℤ) (launch : Launch) (p : C3Page) :
    Writes Unattended (p.onC3ConnectClicked view launch) := by
  refine Writes.andThen ?_ (updateC3Labels_unattended view)
  split_ifs
  · exact onDriver_unattended view (e := .disconnectNow) nofun p
  · exact onDriver_unattended view
      (e := .connectToHost p.c3Host (UInt16.ofInt p.c3Port.value) launch) nofun p

theorem fetch_unattended (view : ℤ) (fetches : List Fetch) (p : C3Page) :
    Writes Unattended (fetch view fetches p) := by
  induction fetches generalizing p with
  | nil => exact nofun
  | cons first rest ih =>
    cases first with
    | c3View => exact (refreshC3View_unattended view p).andThen ih
    | recordCount => exact (refreshC3RecordCount_unattended p).andThen ih

/-- What an event of the window may write. -/
structure Sanctioned (w : C3Window) (e : WindowEvent) (frame : QByteArray) : Prop where
  /-- The panel is controlled by a click, on a ready connection: a door is unlocked for
  a limited time, or the alarm is ended. -/
  control : frameCommand frame = kCommandControl →
    w.page.c3.isReady = true ∧ ∃ block sessionId requestNr,
      (e = .doorOpenClicked ∧ ∃ doorNumber durationSeconds : UInt8,
        (1 ≤ doorNumber ∧ doorNumber ≤ 4) ∧ (1 ≤ durationSeconds ∧ durationSeconds ≤ 254) ∧
          frame = encodeControlRequest .output doorNumber ControlOutputAddress.door.code
            durationSeconds block sessionId requestNr) ∨
      (e = .cancelAlarmClicked ∧
        frame = encodeControlRequest .cancelAlarm 0 0 0 block sessionId requestNr)
  /-- Parameters are read, never written. -/
  params : frameCommand frame = kCommandGetParam → AsksDeviceInfo frame
  /-- The log is polled by the timer while its view is the current one. -/
  log : frameCommand frame = kCommandRtlogBinary ∨ frameCommand frame = kCommandRtlogKeyValue →
    e = .logPollTimeout ∧ w.sidebar.lastC3ViewIndex = kC3ViewRealtimeLog

theorem Unattended.sanctioned {w : C3Window} {e : WindowEvent} (h : Unattended frame) :
    Sanctioned w e frame :=
  ⟨fun hcontrol => absurd hcontrol h.control, h.params,
    fun hlog => hlog.elim (fun hb => absurd hb h.log.1) (fun hk => absurd hk h.log.2)⟩

/-- The control buttons write a control frame, on a ready connection. -/
theorem control_written {call : ControlCall} {label : QString}
    (h : .write frame ∈ ((if !p.c3.isReady then (p, [])
      else
        let r := p.request (.control call)
        ({ r.1 with c3ControlResultLabel := label }, r.2)) : Reaction C3Page Effect).2) :
    p.c3.isReady = true ∧ frame = p.c3.requestFrame (.control call) := by
  split_ifs at h
  · cases h
  · exact request_written h

/-- A byte cast from a spin box is in the range of the box. -/
theorem byte_in_range {minimum maximum : ℤ} (box : SpinBox minimum maximum) {low high : UInt8}
    (hlow : (low.toNat : ℤ) = minimum) (hhigh : (high.toNat : ℤ) = maximum) :
    low ≤ UInt8.ofInt box.value ∧ UInt8.ofInt box.value ≤ high := by
  obtain ⟨hminimum, hmaximum⟩ := box.inRange
  have hhigh' := high.toNat_lt
  have hbyte : ((UInt8.ofInt box.value).toNat : ℤ) = box.value :=
    toNat_ofInt (by omega) (by omega)
  rw [UInt8.le_iff_toNat_le, UInt8.le_iff_toNat_le]
  omega

/-- A control frame is neither a read of parameters nor a poll of the log. -/
theorem sanctioned_of_control {w : C3Window} {e : WindowEvent}
    (hcommand : frameCommand frame = kCommandControl) (h : w.page.c3.isReady = true ∧
      ∃ block sessionId requestNr,
        (e = .doorOpenClicked ∧ ∃ doorNumber durationSeconds : UInt8,
          (1 ≤ doorNumber ∧ doorNumber ≤ 4) ∧ (1 ≤ durationSeconds ∧ durationSeconds ≤ 254) ∧
            frame = encodeControlRequest .output doorNumber ControlOutputAddress.door.code
              durationSeconds block sessionId requestNr) ∨
        (e = .cancelAlarmClicked ∧
          frame = encodeControlRequest .cancelAlarm 0 0 0 block sessionId requestNr)) :
    Sanctioned w e frame := by
  refine ⟨fun _ => h, fun hparams => ?_, fun hlog => ?_⟩
  · exact absurd (hcommand.symm.trans hparams) (by decide)
  · rcases hlog with hbinary | hkeyValue
    · exact absurd (hcommand.symm.trans hbinary) (by decide)
    · exact absurd (hcommand.symm.trans hkeyValue) (by decide)

/-- A poll is made by the timer, for the view of the log. -/
theorem pollC3RealtimeLog_sanctioned (w : C3Window) :
    Writes (Sanctioned w .logPollTimeout)
      (w.page.pollC3RealtimeLog w.sidebar.lastC3ViewIndex) := by
  unfold pollC3RealtimeLog
  split_ifs with hrefused
  · exact nofun
  · intro frame hframe
    obtain ⟨-, rfl⟩ := request_written hframe
    have hview : w.sidebar.lastC3ViewIndex = kC3ViewRealtimeLog := by
      by_contra hother
      exact hrefused (by simp [hother])
    have hcommand : frameCommand (w.page.c3.requestFrame .requestRealtimeLog) ∈
        [kCommandRtlogBinary, kCommandRtlogKeyValue] := by
      unfold C3Connection.requestFrame
      dsimp only
      split_ifs
      · exact List.mem_cons_self
      · exact List.mem_cons_of_mem _ List.mem_cons_self
    have hall : [kCommandRtlogBinary, kCommandRtlogKeyValue].all fun command =>
        command ≠ kCommandControl ∧ command ≠ kCommandGetParam := by decide
    have hother := of_decide_eq_true (List.all_eq_true.mp hall _ hcommand)
    exact ⟨fun h => absurd h hother.1, fun h => absurd h hother.2, fun _ => ⟨rfl, hview⟩⟩

/-- Whatever happens to the window, its frames are sanctioned. -/
theorem handle_sanctioned (withMq : Bool) (w : C3Window) (e : WindowEvent) :
    Writes (Sanctioned w e) (w.handle withMq e) := by
  have hunattended {r : Reaction C3Page Effect} (h : Writes Unattended r) :
      ∀ frame, .write frame ∈ r.2 → Sanctioned w e frame :=
    fun frame hframe => (h frame hframe).sanctioned
  cases e with
  | sidebar e => exact hunattended (fetch_unattended _ _ _)
  | driver e =>
    refine hunattended (onDriver_unattended w.sidebar.lastC3ViewIndex (fun call hcall => ?_) w.page)
    have hnocall := e.2
    rw [hcall] at hnocall
    cases hnocall
  | refreshClicked => exact hunattended (refreshC3View_unattended _ _)
  | connectClicked launch => exact hunattended (onC3ConnectClicked_unattended _ launch _)
  | doorOpenClicked =>
    intro frame hframe
    obtain ⟨hready, rfl⟩ := control_written hframe
    exact sanctioned_of_control rfl ⟨hready, _, _, _, Or.inl ⟨rfl, _, _,
      byte_in_range w.page.c3ControlDoor rfl rfl, byte_in_range w.page.c3ControlDuration rfl rfl,
      rfl⟩⟩
  | cancelAlarmClicked =>
    intro frame hframe
    obtain ⟨hready, rfl⟩ := control_written hframe
    exact sanctioned_of_control rfl ⟨hready, _, _, _, Or.inr ⟨rfl, rfl⟩⟩
  | countRefreshClicked => exact hunattended (refreshC3RecordCount_unattended _)
  | hostEdited _ | portChanged _ | doorChanged _ | durationChanged _ => exact nofun
  | countTableChanged index =>
    refine hunattended (r := chooseCountTable index w.page) ?_
    unfold chooseCountTable
    split_ifs
    · exact nofun
    · exact refreshC3RecordCount_unattended _
  | logPollTimeout => exact pollC3RealtimeLog_sanctioned w

/-- **The demo is safe to click through.** In every run of the window, from any state of
the driver, each frame is sanctioned by the event that led to it: doors are unlocked
for 1 to 254 seconds and alarms ended by a click on a ready connection only, nothing
restarts the panel, holds a door open or writes a parameter, and the log is polled
only while its view is the current one. -/
theorem window_sanctioned (withMq : Bool) (w : C3Window) (events : List WindowEvent) :
    (machine withMq).EachStep
      (fun w e => ∀ frame, .write frame ∈ (handle withMq w e).2 → Sanctioned w e frame) w
      events := by
  induction events generalizing w with
  | nil => trivial
  | cons e events ih => exact ⟨handle_sanctioned withMq w e, ih _⟩

end C3Window

end QtAppBase.Demo
