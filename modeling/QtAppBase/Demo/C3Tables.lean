import QtAppBase.C3.Columns
import QtAppBase.C3.Events
import QtAppBase.Demo.C3Window

/-!
# The tables of the C3 page

The views of the page share one table: answers of the panel replace its contents, and
a failure is shown in their place. The realtime log has a table of its own, to which
rows are appended as the panel reports them, and which keeps the last 500. Both are
emptied when the page finds the driver not ready. It looks when the driver announces a
change of its state, and after a click on the connect button.
-/

namespace QtAppBase.Demo

open Library Qt C3

/-- What the page takes note of: an effect of the driver, or that this is not ready. -/
inductive Note where
  | heard (effect : Effect)
  | notReady

/-- The rows an effect adds to the log table. -/
def logRows : Effect → List (List QString)
  | .realtimeLogReceived records => records.filterMap C3Page.binaryRow
  | .realtimeLogKeyValueReceived records => records.filterMap C3Page.keyValueRow
  | _ => []

/-- The page as the window opens it. -/
def openedPage : C3Page := (C3Window.opened false).page

/-- The table that the page makes of an effect. -/
def table? : Effect → Option TableWidget
  | .deviceParamsReceived values => some (openedPage.rebuildC3TableForKeyValueMap values).c3Table
  | .deviceParamsFailed error => some (openedPage.showStatus ("Failed: " ++ error)).c3Table
  | .tableDataReceived _ records => some (openedPage.rebuildC3TableForRecords records).c3Table
  | .tableDataFailed _ error => some (openedPage.showStatus ("Failed: " ++ error)).c3Table
  | _ => none

/-- What a note leaves of the log table. -/
def logAfter (rows : List (List QString)) : Note → List (List QString)
  | .heard effect => (logRows effect).foldl (appendTrimmed kMaxLogRows) rows
  | .notReady => []

/-- What a note leaves of the other table. -/
def tableAfter (table : TableWidget) : Note → TableWidget
  | .heard effect => (table? effect).getD table
  | .notReady => { table with rows := [] }

namespace Note

def isHeard : Note → Bool
  | .heard _ => true
  | .notReady => false

/-- The rows a note adds to the log table. -/
def rows : Note → List (List QString)
  | .heard effect => logRows effect
  | .notReady => []

/-- Answers replace the contents of the table of the views, and it may be emptied. -/
def affectsTable : Note → Bool
  | .heard effect => (table? effect).isSome
  | .notReady => true

end Note

/-- The note made of a look at the driver. -/
def looked (ready : Bool) : List Note := if ready then [] else [.notReady]

/-- The notes made of an effect, as ready as the driver is then. -/
def noted (ready : Bool) : Effect → List Note
  | .connectionStateChanged connected => .heard (.connectionStateChanged connected) :: looked ready
  | effect => [.heard effect]

theorem heard_notMem_looked {ready : Bool} {effect : Effect} :
    .heard effect ∉ looked ready := by
  intro h
  cases ready with
  | true => cases h
  | false => cases List.mem_singleton.mp h

theorem mem_noted {ready : Bool} {effect other : Effect}
    (h : .heard effect ∈ noted ready other) : effect = other := by
  cases other with
  | connectionStateChanged connected =>
    rcases List.mem_cons.mp h with hsame | hmark
    · exact Note.heard.inj hsame
    · exact absurd hmark heard_notMem_looked
  | _ => exact Note.heard.inj (List.mem_singleton.mp h)

namespace C3Page

variable {p : C3Page} {view : ℤ}

/-- The tables of the page after notes. -/
structure Replayed (p : C3Page) (notes : List Note) (q : C3Page) : Prop where
  log : q.c3LogTable = notes.foldl logAfter p.c3LogTable
  table : q.c3Table = notes.foldl tableAfter p.c3Table

theorem Replayed.append {q r : C3Page} {notes more : List Note} (h : Replayed p notes q)
    (hmore : Replayed q more r) : Replayed p (notes ++ more) r :=
  ⟨by rw [List.foldl_append, ← h.log, hmore.log], by rw [List.foldl_append, ← h.table, hmore.table]⟩

/-- A reaction that leaves the driver as ready as it was, hands on records with the same columns
only, and does with the tables what follows from its effects. -/
structure Keeps (p : C3Page) (r : Reaction C3Page Effect) : Prop where
  ready : r.1.c3.isReady = p.c3.isReady
  tabular : ∀ effect ∈ r.2, effect.Tabular
  replayed : Replayed p (r.2.flatMap (noted p.c3.isReady)) r.1

theorem Keeps.andThen {r : Reaction C3Page Effect} {f : C3Page → Reaction C3Page Effect}
    (h : Keeps p r) (hf : Keeps r.1 (f r.1)) : Keeps p (r.andThen f) := by
  refine ⟨hf.ready.trans h.ready, fun effect heffect => ?_, ?_⟩
  · rcases List.mem_append.mp heffect with hfirst | hlater
    · exact h.tabular effect hfirst
    · exact hf.tabular effect hlater
  · have hmore := hf.replayed
    rw [h.ready] at hmore
    rw [Reaction.andThen_snd, List.flatMap_append]
    exact h.replayed.append hmore

/-- Nothing happens to the tables. -/
theorem keeps_silently {q : C3Page} (hready : q.c3.isReady = p.c3.isReady)
    (hlog : q.c3LogTable = p.c3LogTable) (htable : q.c3Table = p.c3Table) :
    Keeps p (.silently q) :=
  ⟨hready, nofun, hlog, htable⟩

/-- A request leaves the driver as ready as it was. -/
theorem callRequest_ready (call : RequestCall) (c : C3Connection) :
    (c.callRequest call).1.isReady = c.isReady := by
  rcases C3Connection.callRequest_spec call c with hnothing | haccepted
  · rw [hnothing]
  · have hsessionId := congrArg Lifecycle.sessionId haccepted.lifecycle
    have hsessionLess := congrArg Lifecycle.sessionLess haccepted.lifecycle
    unfold C3Connection.isReady C3Connection.hasSession
    rw [haccepted.socket, show (c.callRequest call).1.sessionId = c.sessionId from hsessionId,
      show (c.callRequest call).1.sessionLess = c.sessionLess from hsessionLess]

theorem request_keeps (call : RequestCall) (p : C3Page) : Keeps p (p.request call) := by
  refine ⟨callRequest_ready call p.c3, C3Connection.callRequest_tabulates call p.c3, ?_⟩
  obtain ⟨-, hnothing | ⟨-, hframe⟩⟩ := C3Connection.callRequest_written call p.c3
  · rw [request, hnothing]
    exact ⟨rfl, rfl⟩
  · rw [request, hframe]
    exact ⟨rfl, rfl⟩

theorem refreshC3View_keeps (view : ℤ) (p : C3Page) : Keeps p (p.refreshC3View view) := by
  unfold refreshC3View
  split_ifs
  · exact keeps_silently rfl rfl rfl
  · exact request_keeps _ p
  · exact request_keeps _ p
  · exact request_keeps _ p
  · exact request_keeps _ p
  · exact keeps_silently rfl rfl rfl

theorem refreshC3RecordCount_keeps (p : C3Page) : Keeps p p.refreshC3RecordCount := by
  unfold refreshC3RecordCount
  split_ifs
  · exact keeps_silently rfl rfl rfl
  · exact request_keeps _ p

theorem pollC3RealtimeLog_keeps (view : ℤ) (p : C3Page) :
    Keeps p (p.pollC3RealtimeLog view) := by
  unfold pollC3RealtimeLog
  split_ifs
  · exact keeps_silently rfl rfl rfl
  · exact request_keeps _ p

/-- The control buttons. -/
theorem doorOpenClicked_keeps (p : C3Page) : Keeps p p.doorOpenClicked := by
  unfold doorOpenClicked
  split_ifs
  · exact keeps_silently rfl rfl rfl
  · obtain ⟨hready, htabular, hlog, htable⟩ := request_keeps
      (.control (.controlDoorOutput (UInt8.ofInt p.c3ControlDoor.value)
        (UInt8.ofInt p.c3ControlDuration.value))) p
    exact ⟨hready, htabular, hlog, htable⟩

theorem cancelAlarmClicked_keeps (p : C3Page) : Keeps p p.cancelAlarmClicked := by
  unfold cancelAlarmClicked
  split_ifs
  · exact keeps_silently rfl rfl rfl
  · obtain ⟨hready, htabular, hlog, htable⟩ := request_keeps (.control .cancelAlarm) p
    exact ⟨hready, htabular, hlog, htable⟩

/-- The page looks at the driver: if this is not ready, both tables are emptied. -/
theorem updateC3Labels_replayed (view : ℤ) (p : C3Page) :
    let r := p.updateC3Labels view
    r.1.c3.isReady = p.c3.isReady ∧ (∀ effect ∈ r.2, effect.Tabular) ∧
      Replayed p (looked p.c3.isReady ++ r.2.flatMap (noted p.c3.isReady)) r.1 := by
  unfold updateC3Labels
  dsimp only
  cases hready : p.c3.isReady with
  | true =>
    obtain ⟨hsame, htabular, hlog, htable⟩ := refreshC3View_keeps view { p with
      c3StateLabel := "State: " ++ "Connected", btnC3Connect := "Disconnect" }
    rw [hready] at hsame hlog htable
    exact ⟨hsame, htabular, hlog, htable⟩
  | false => exact ⟨hready, nofun, rfl, rfl⟩

/-- The rows of records are appended in their order, and to the log only. -/
theorem foldl_appendRow (rows : List (Option (List QString))) (p : C3Page) :
    rows.foldl appendRow p = { p with
      c3LogTable := (rows.filterMap id).foldl (appendTrimmed kMaxLogRows) p.c3LogTable } := by
  induction rows generalizing p with
  | nil => rfl
  | cons row rest ih => cases row <;> exact ih _

/-- An effect and what the page does about it. -/
theorem slot_keeps (view : ℤ) {effect : Effect} (htabular : effect.Tabular) (p : C3Page) :
    Keeps p (Reaction.andThen (p, [effect]) (slot view effect)) := by
  have hone : ∀ other ∈ [effect], other.Tabular := fun other hother =>
    List.mem_singleton.mp hother ▸ htabular
  cases effect with
  | connectionStateChanged connected =>
    obtain ⟨hready, hlater, hreplayed⟩ := updateC3Labels_replayed view p
    have hheard : Replayed p [.heard (.connectionStateChanged connected)] p := ⟨rfl, rfl⟩
    refine ⟨hready, fun other hother => ?_, hheard.append hreplayed⟩
    rcases List.mem_cons.mp hother with rfl | hmem
    · exact trivial
    · exact hlater other hmem
  | realtimeLogReceived records =>
    have hslot : slot view (.realtimeLogReceived records) p = .silently { p with
        c3LogTable := (records.filterMap binaryRow).foldl (appendTrimmed kMaxLogRows)
          p.c3LogTable } := by
      rw [slot, foldl_appendRow, List.filterMap_map]
      rfl
    unfold Reaction.andThen
    rw [hslot]
    exact ⟨rfl, hone, rfl, rfl⟩
  | realtimeLogKeyValueReceived records =>
    have hslot : slot view (.realtimeLogKeyValueReceived records) p = .silently { p with
        c3LogTable := (records.filterMap keyValueRow).foldl (appendTrimmed kMaxLogRows)
          p.c3LogTable } := by
      rw [slot, foldl_appendRow, List.filterMap_map]
      rfl
    unfold Reaction.andThen
    rw [hslot]
    exact ⟨rfl, hone, rfl, rfl⟩
  | tableDataReceived tableName records => cases records <;> exact ⟨rfl, hone, rfl, rfl⟩
  | _ => exact ⟨rfl, hone, rfl, rfl⟩

theorem deliver_keeps (view : ℤ) {effects : List Effect}
    (htabular : ∀ effect ∈ effects, effect.Tabular) (p : C3Page) :
    Keeps p (deliver view effects p) := by
  induction effects generalizing p with
  | nil => exact keeps_silently rfl rfl rfl
  | cons effect rest ih =>
    obtain ⟨hfirst, hrest⟩ := List.forall_mem_cons.mp htabular
    exact (slot_keeps view hfirst p).andThen (ih hrest _)

/-- A reaction that does with the tables what follows from its effects, as ready as the driver is
after them. -/
structure Hears (p : C3Page) (r : Reaction C3Page Effect) : Prop where
  tabular : ∀ effect ∈ r.2, effect.Tabular
  replayed : Replayed p (r.2.flatMap (noted r.1.c3.isReady)) r.1

theorem Keeps.hears {r : Reaction C3Page Effect} (h : Keeps p r) : Hears p r :=
  ⟨h.tabular, h.ready ▸ h.replayed⟩

theorem onDriver_hears (view : ℤ) {f : C3Connection → Reaction C3Connection Effect}
    (hf : C3Connection.Tabulates (f p.c3)) : Hears p (p.onDriver view f) := by
  obtain ⟨htabular, hlog, htable⟩ := (deliver_keeps view hf { p with c3 := (f p.c3).1 }).hears
  exact ⟨htabular, hlog, htable⟩

/-- The driver acts, and then the page looks at it. -/
theorem onC3ConnectClicked_hears (view : ℤ) (launch : Launch) (p : C3Page) :
    let r := p.onC3ConnectClicked view launch
    (∀ effect ∈ r.2, effect.Tabular) ∧
      Replayed p (r.2.flatMap (noted r.1.c3.isReady) ++ looked r.1.c3.isReady) r.1 := by
  have hclick : ∀ {r : Reaction C3Page Effect}, Hears p r →
      (∀ effect ∈ (r.andThen (updateC3Labels view)).2, effect.Tabular) ∧
      Replayed p ((r.andThen (updateC3Labels view)).2.flatMap
        (noted (r.andThen (updateC3Labels view)).1.c3.isReady) ++
          looked (r.andThen (updateC3Labels view)).1.c3.isReady)
        (r.andThen (updateC3Labels view)).1 := by
    intro r hr
    obtain ⟨hready, hlater, hreplayed⟩ := updateC3Labels_replayed view r.1
    refine ⟨fun effect heffect => ?_, ?_⟩
    · rcases List.mem_append.mp heffect with hfirst | hmem
      · exact hr.tabular effect hfirst
      · exact hlater effect hmem
    · have hboth := hr.replayed.append hreplayed
      rw [Reaction.andThen_fst, Reaction.andThen_snd, hready, List.flatMap_append,
        List.append_assoc]
      cases hnow : r.1.c3.isReady with
      | true =>
        rw [hnow] at hboth
        simpa [looked] using hboth
      | false =>
        -- nothing is fetched then
        have hquiet : (updateC3Labels view r.1).2 = [] := by
          unfold updateC3Labels
          simp [hnow]
        rw [hnow, hquiet] at hboth
        rw [hquiet]
        exact hboth
  unfold onC3ConnectClicked
  dsimp only
  split_ifs
  · exact hclick (onDriver_hears view (C3Connection.handle_tabulates p.c3 .disconnectNow))
  · exact hclick (onDriver_hears view (C3Connection.handle_tabulates p.c3
      (.connectToHost p.c3Host (UInt16.ofInt p.c3Port.value) launch)))

end C3Page

namespace C3Window

open C3Page

variable {withMq : Bool} {w : C3Window} {e : WindowEvent}

/-- A click on the connect button makes the page look at the driver. -/
def isConnectClick : WindowEvent → Bool
  | .connectClicked _ => true
  | _ => false

/-- What the page takes note of during an event. -/
def notes (withMq : Bool) (w : C3Window) (e : WindowEvent) : List Note :=
  let r := handle withMq w e
  let ready := r.1.page.c3.isReady
  r.2.flatMap (noted ready) ++ if isConnectClick e then looked ready else []

/-- The window, with the notes of its page for its effects. -/
def noting (withMq : Bool) : Mealy C3Window WindowEvent Note :=
  ⟨fun w e => ((handle withMq w e).1, notes withMq w e)⟩

theorem mem_notes {effect : Effect} (h : .heard effect ∈ notes withMq w e) :
    effect ∈ (handle withMq w e).2 := by
  rcases List.mem_append.mp h with hnoted | hlooked
  · obtain ⟨other, hother, hmem⟩ := List.mem_flatMap.mp hnoted
    exact mem_noted hmem ▸ hother
  · split_ifs at hlooked
    · exact absurd hlooked heard_notMem_looked
    · cases hlooked

theorem fetch_keeps (view : ℤ) (fetches : List Fetch) (p : C3Page) :
    Keeps p (fetch view fetches p) := by
  induction fetches generalizing p with
  | nil => exact keeps_silently rfl rfl rfl
  | cons first rest ih =>
    cases first with
    | c3View => exact (refreshC3View_keeps view p).andThen (ih _)
    | recordCount => exact (refreshC3RecordCount_keeps p).andThen (ih _)

theorem chooseCountTable_keeps (index : Fin countTables.length) (p : C3Page) :
    Keeps p (chooseCountTable index p) := by
  unfold chooseCountTable
  split_ifs
  · exact keeps_silently rfl rfl rfl
  · obtain ⟨hready, htabular, hlog, htable⟩ :=
      refreshC3RecordCount_keeps { p with c3CountTable := index }
    exact ⟨hready, htabular, hlog, htable⟩

/-- What the notes of an event say of its effects and of the tables. -/
structure Noted (withMq : Bool) (w : C3Window) (e : WindowEvent) : Prop where
  tabular : ∀ effect ∈ (handle withMq w e).2, effect.Tabular
  replayed : Replayed w.page (notes withMq w e) (handle withMq w e).1.page

/-- The page reacts, and does not look at the driver but when this announces a change. -/
theorem noted_of_hears {r : Reaction C3Page Effect} (hclick : isConnectClick e = false)
    (hpage : (handle withMq w e).1.page = r.1) (heffects : (handle withMq w e).2 = r.2)
    (h : Hears w.page r) : Noted withMq w e := by
  refine ⟨heffects ▸ h.tabular, ?_⟩
  unfold notes
  dsimp only
  rw [hclick, heffects, hpage]
  simpa using h.replayed

/-- **Every event leaves the tables as its notes say.** -/
theorem handle_noted (withMq : Bool) (w : C3Window) (e : WindowEvent) : Noted withMq w e := by
  have hquiet : ∀ {e r}, isConnectClick e = false → (handle withMq w e).1.page = r.1 →
      (handle withMq w e).2 = r.2 → Keeps w.page r → Noted withMq w e :=
    fun hclick hpage heffects h => noted_of_hears hclick hpage heffects h.hears
  cases e with
  | sidebar e => exact hquiet rfl rfl rfl (fetch_keeps _ _ w.page)
  | driver e =>
    exact noted_of_hears rfl rfl rfl (onDriver_hears _ (C3Connection.handle_tabulates _ e.1))
  | refreshClicked => exact hquiet rfl rfl rfl (refreshC3View_keeps _ w.page)
  | connectClicked launch =>
    obtain ⟨htabular, hreplayed⟩ :=
      onC3ConnectClicked_hears w.sidebar.lastC3ViewIndex launch w.page
    exact ⟨htabular, hreplayed⟩
  | doorOpenClicked => exact hquiet rfl rfl rfl (doorOpenClicked_keeps w.page)
  | cancelAlarmClicked => exact hquiet rfl rfl rfl (cancelAlarmClicked_keeps w.page)
  | countRefreshClicked => exact hquiet rfl rfl rfl (refreshC3RecordCount_keeps w.page)
  | hostEdited _ | portChanged _ | doorChanged _ | durationChanged _ =>
    exact hquiet rfl rfl rfl (keeps_silently rfl rfl rfl)
  | countTableChanged index => exact hquiet rfl rfl rfl (chooseCountTable_keeps index w.page)
  | logPollTimeout => exact hquiet rfl rfl rfl (pollC3RealtimeLog_keeps _ w.page)

/-- After a run the tables are as the notes of the run say. -/
theorem after_replayed (withMq : Bool) (w : C3Window) (events : List WindowEvent) :
    Replayed w.page ((noting withMq).emitted w events)
      ((machine withMq).after w events).page := by
  induction events generalizing w with
  | nil => exact ⟨rfl, rfl⟩
  | cons e events ih => exact (handle_noted withMq w e).replayed.append (ih _)

/-- Records of one answer have the same columns, in every run. -/
theorem emitted_tabular {effect : Effect} {events : List WindowEvent}
    (h : .heard effect ∈ (noting withMq).emitted w events) : effect.Tabular := by
  induction events generalizing w with
  | nil => cases h
  | cons e events ih =>
    rcases List.mem_append.mp h with hfirst | hlater
    · exact (handle_noted withMq w e).tabular effect (mem_notes hfirst)
    · exact ih hlater

/-! ### The log -/

/-- **The log table is a window on the log.** After every run it shows the last 500 card events
among those reported since the page last found the driver not ready: in their order, each once,
and none left out. -/
theorem c3LogTable_eq (withMq : Bool) (events : List WindowEvent) :
    ((machine withMq).after (opened withMq) events).page.c3LogTable =
      ((((noting withMq).emitted (opened withMq) events).rtakeWhile Note.isHeard).flatMap
        Note.rows).rtake kMaxLogRows := by
  have hreset : ∀ rows (note : Note), note.isHeard = false → logAfter rows note = [] := by
    intro rows note hnote
    cases note with
    | heard effect => cases hnote
    | notReady => rfl
  rw [(after_replayed withMq (opened withMq) events).log]
  refine (foldl_rtakeWhile hreset _).trans ?_
  generalize hsince : ((noting withMq).emitted (opened withMq) events).rtakeWhile Note.isHeard =
    since
  have hpush : since.foldl logAfter [] =
      since.foldl (fun rows note => note.rows.foldl (appendTrimmed kMaxLogRows) rows) [] := by
    refine List.foldl_ext _ _ _ fun rows note hnote => ?_
    cases note with
    | heard effect => rfl
    | notReady => cases List.mem_rtakeWhile_imp (hsince ▸ hnote)
  rw [hpush, ← List.foldl_flatMap]
  exact foldl_rtake (appendTrimmed_rtake kMaxLogRows) [] (since.flatMap Note.rows)

/-! ### The answers -/

/-- One line of text. -/
def statusTable (text : QString) : TableWidget := { headers := ["Status"], rows := [[text]] }

/-- The table presents an answer in full: each record as a row of its own with all of its values,
under headers that are the keys of each of them; or each parameter with its value; or the error. -/
def Presents : Effect → TableWidget → Prop
  | .tableDataReceived _ [], table => table = statusTable "No records returned by the panel"
  | .tableDataReceived _ records, table =>
    (∀ record ∈ records, table.headers = record.keys) ∧
      table.rows = records.map fun record =>
        record.entries.map fun entry => C3Page.cellText entry.1 (some entry.2)
  | .deviceParamsReceived values, table =>
    table.headers = ["Parameter", "Value"] ∧
      table.rows = values.entries.map fun entry => [entry.1, entry.2.toString]
  | .tableDataFailed _ error, table | .deviceParamsFailed error, table =>
    table = statusTable ("Failed: " ++ error)
  | _, _ => False

/-- What is made of records with the same columns presents them. -/
theorem presents_of_tabular {answer : Effect} {table : TableWidget} (htabular : answer.Tabular)
    (h : table? answer = some table) : Presents answer table := by
  cases answer with
  | tableDataReceived tableName records =>
    obtain rfl := Option.some.inj h
    cases records with
    | nil => exact rfl
    | cons first rest =>
      have hkeys : ∀ record ∈ first :: rest, first.keys = record.keys := fun record hrecord =>
        htabular first List.mem_cons_self record hrecord
      refine ⟨hkeys, List.map_congr_left fun record hrecord => ?_⟩
      change first.keys.map (fun key => C3Page.cellText key (record.find? key)) = _
      rw [hkeys record hrecord, QVariantMap.keys, List.map_map]
      refine List.map_congr_left fun entry hentry => ?_
      rw [Function.comp_apply, QVariantMap.find?_of_mem hentry]
  | deviceParamsReceived values =>
    obtain rfl := Option.some.inj h
    exact ⟨rfl, rfl⟩
  | tableDataFailed tableName error => exact (Option.some.inj h).symm
  | deviceParamsFailed error => exact (Option.some.inj h).symm
  | _ => cases h

/-- What the table shows after a note that it is affected by. -/
def ShownAfter : Note → TableWidget → Prop
  | .heard answer, table => Presents answer table
  | .notReady, table => table.rows = []

/-- The last note that affects the table decides what it shows. -/
theorem foldl_tableAfter {notes : List Note} (htabular : ∀ effect, .heard effect ∈ notes →
    effect.Tabular) (table : TableWidget) :
    ((∀ note ∈ notes, note.affectsTable = false) ∧ notes.foldl tableAfter table = table) ∨
      ∃ front last rest, notes = front ++ last :: rest ∧
        ShownAfter last (notes.foldl tableAfter table) ∧
        ∀ note ∈ rest, note.affectsTable = false := by
  induction notes using List.reverseRecOn with
  | nil => exact Or.inl ⟨nofun, rfl⟩
  | append_singleton front note ih =>
    have hbefore := ih fun effect heffect => htabular effect (List.mem_append_left _ heffect)
    rw [List.foldl_append, List.foldl_cons, List.foldl_nil]
    generalize front.foldl tableAfter table = before at hbefore
    cases haffects : note.affectsTable with
    | true =>
      refine Or.inr ⟨front, note, [], rfl, ?_, nofun⟩
      cases note with
      | heard effect =>
        obtain ⟨made, hmade⟩ := Option.isSome_iff_exists.mp haffects
        have htabular := htabular effect (by simp)
        rw [tableAfter, hmade, Option.getD_some]
        exact presents_of_tabular htabular hmade
      | notReady => exact rfl
    | false =>
      have hkept : tableAfter before note = before := by
        cases note with
        | heard effect =>
          rw [tableAfter, Option.not_isSome_iff_eq_none.mp (Bool.eq_false_iff.mp haffects),
            Option.getD_none]
        | notReady => cases haffects
      have hjoin : ∀ {xs : List Note}, (∀ other ∈ xs, other.affectsTable = false) →
          ∀ other ∈ xs ++ [note], other.affectsTable = false := by
        intro xs hxs other hother
        rcases List.mem_append.mp hother with hmem | hmem
        · exact hxs other hmem
        · exact List.mem_singleton.mp hmem ▸ haffects
      rw [hkept]
      rcases hbefore with ⟨hnone, hsame⟩ | ⟨older, last, rest, rfl, hshown, hrest⟩
      · exact Or.inl ⟨hjoin hnone, hsame⟩
      · exact Or.inr ⟨older, last, rest ++ [note], by simp, hshown, hjoin hrest⟩

/-- **The table shows the last answer, and all of it.** After every run the table presents the
last answer of the panel to reach the page, whatever the panel sends: no value of any record is
left out. It is emptied when the page finds the driver not ready, and stays empty until the next
answer, as it was before the first. -/
theorem c3Table_presents (withMq : Bool) (events : List WindowEvent) :
    let table := ((machine withMq).after (opened withMq) events).page.c3Table
    let notes := (noting withMq).emitted (opened withMq) events
    (table.rows = [] ∧ ∀ note ∈ notes, note.affectsTable = false) ∨
      ∃ front last rest, notes = front ++ last :: rest ∧ ShownAfter last table ∧
        ∀ note ∈ rest, note.affectsTable = false := by
  intro table notes
  have htable : table = notes.foldl tableAfter (opened withMq).page.c3Table :=
    (after_replayed withMq (opened withMq) events).table
  rw [htable]
  rcases foldl_tableAfter (fun effect heffect => emitted_tabular heffect)
    (opened withMq).page.c3Table with ⟨hnone, hsame⟩ | hlast
  · exact Or.inl ⟨congrArg TableWidget.rows hsame, hnone⟩
  · exact Or.inr hlast

end C3Window

end QtAppBase.Demo
