import QtAppBase.Mq.Tab

/-!
# The counters of the tab

`MqTab` shows messages as they are sent and received, and rows of the store as they are
queried. One routine inserts both kinds of rows into the table, and it is the routine
that counts the received ones. The machine here is the tab with its table, its worker
and its store, together with the number of received messages that were new.
-/

namespace QtAppBase.Mq

open Library QtAppBase.Core Qt

/-- `kMaximumRows`. -/
def maximumRows : ℕ := 5000

/-- `kRecentRows`. -/
def recentRows : ℕ := 200

/-- What a `MessagePresenter` makes of a message. -/
structure ShownMessage extends PresentedMessage where
  detail : QString := ""
  deriving DecidableEq, Repr

/-- A row of the table on the screen. -/
structure TableRow where
  sequence : ℕ
  time : QString
  direction : QString
  type : QString
  title : QString
  detail : QString
  redelivered : QString
  acked : QString
  deriving DecidableEq, Repr

/-- The jobs the tab gives to its worker, apart from the size of the file. -/
inductive TabJob where
  | insertSent (envelope : Envelope) (presented : ShownMessage)
  | insertReceived (envelope : Envelope) (presented : ShownMessage) (redelivered : Bool)
  | markAcked (envelopeId : QString)
  | recent
  | search (type : QString) (fromTime toTime : Option QString) (searchText : QString)
      (receivedOnly : Bool)
  | purge (fromTime toTime : QString)
  deriving DecidableEq, Repr

/-- What a job returns in its `QVariant`. -/
inductive TabResult where
  | invalid
  | bool (value : Bool)
  | rows (messages : List StoredMessage)
  deriving DecidableEq, Repr

namespace TabResult

/-- `toBool`. -/
def toBool : TabResult → Bool
  | .bool value => value
  | .invalid | .rows _ => false

/-- `value<QVector<StoredMessage>>`. -/
def messages : TabResult → List StoredMessage
  | .rows messages => messages
  | .invalid | .bool _ => []

end TabResult

namespace TabJob

/-- Run the job, at the time `now`. -/
def run (now : QString) : TabJob → MqStore → TabResult × MqStore
  | .insertSent envelope presented, store =>
    let inserted := store.insert now "sent" presented.displayTitle presented.searchText envelope
    (.bool inserted.1, inserted.2)
  | .insertReceived envelope presented _, store =>
    let inserted :=
      store.insert now "received" presented.displayTitle presented.searchText envelope
    (.bool inserted.1, inserted.2)
  | .markAcked envelopeId, store => (.invalid, store.markAcked envelopeId)
  | .recent, store => (.rows (store.recent recentRows), store)
  | .search type fromTime toTime searchText receivedOnly, store =>
    (.rows (store.search type fromTime toTime searchText receivedOnly), store)
  | .purge fromTime toTime, store =>
    let purged := store.purge fromTime toTime
    (.bool purged.1, purged.2)

end TabJob

/-- `MqTab`, with the table it shows and the six numbers below it. -/
structure MqTab where
  worker : Worker TabJob TabResult := {}
  store : MqStore := {}
  table : List TableRow := []
  nextSequence : ℕ := 1
  sentCount : ℕ := 0
  receivedCount : ℕ := 0
  waitingCount : ℕ := 0
  rejectedCount : ℕ := 0
  returnedCount : ℕ := 0
  duplicateCount : ℕ := 0

/-- What happens to the tab on the GUI thread or, for `jobFinished`, on the worker. -/
inductive TabEvent where
  /-- The signals of the service. -/
  | published (envelope : Envelope)
  | messageReceived (envelope : Envelope) (redelivered : Bool)
  | deliveryAcked (envelopeId : QString)
  | messageRejected
  | messageReturned
  /-- The filter is cleared, or applied with valid dates. -/
  | loadRecent
  | applyFilter (type fromTime toTime searchText : QString) (receivedOnly : Bool)
  /-- The purge dialog is accepted. -/
  | purgeAccepted (fromTime toTime : QString)
  /-- The worker finishes its oldest job. -/
  | jobFinished (now : QString)
  /-- The oldest posted `onDone` is called. For a received message, the service may
  acknowledge the delivery at once. -/
  | jobDone (time : QString) (ackedNow : Bool)
  deriving DecidableEq, Repr

namespace MqTab

variable (presenter : Option (QString → QString → ShownMessage))

/-- `presentOrFallback`. -/
def presentOrFallback (type payload : QString) : ShownMessage :=
  let presented :=
    match presenter with
    | some present => present type payload
    | none => {}
  if presented.displayTitle = "" then { presented with displayTitle := payload } else presented

/-- `worker_.call`. -/
def call (job : TabJob) (t : MqTab) : MqTab := { t with worker := t.worker.call job }

/-- `insertRow`: a new last row, and the received ones are counted. -/
def insertRow (time direction type : QString) (presented : ShownMessage)
    (redelivered acked : Bool) (t : MqTab) : MqTab :=
  let table := if t.table.length ≥ maximumRows then t.table.drop 1 else t.table
  let row : TableRow :=
    { sequence := t.nextSequence
      time := time
      direction := if direction = "received" then "nh\u1EADn" else "g\u1EEDi"
      type := type
      title := presented.displayTitle
      detail := if presented.detail = "" then "-" else presented.detail
      redelivered := if redelivered then "c\u00F3" else ""
      acked := if acked then "\u2713" else "-" }
  let t := { t with table := table ++ [row], nextSequence := t.nextSequence + 1 }
  if direction = "received" then
    { t with
      receivedCount := t.receivedCount + 1
      waitingCount := if t.waitingCount > 0 then t.waitingCount - 1 else t.waitingCount }
  else t

/-- `loadRecent`. -/
def loadRecent (t : MqTab) : MqTab := t.call .recent

/-- One message of `populateRows`. -/
def populateRow (time : QString) (t : MqTab) (message : StoredMessage) : MqTab :=
  let presented := presentOrFallback presenter message.envelopeType message.payload
  let presented :=
    if message.displayTitle ≠ "" then { presented with displayTitle := message.displayTitle }
    else presented
  t.insertRow time message.direction message.envelopeType presented message.redelivered
    message.acked

/-- `populateRows`. -/
def populateRows (time : QString) (messages : List StoredMessage) (t : MqTab) : MqTab :=
  messages.foldl (populateRow presenter time) { t with table := [], nextSequence := 1 }

/-- `onDeliveryAcked`, with the id that was kept for the delivery. -/
def onDeliveryAcked (envelopeId : QString) (t : MqTab) : MqTab :=
  if envelopeId = "" then t else t.call (.markAcked envelopeId)

/-- The `onDone` of a job. -/
def onDone (time : QString) (ackedNow : Bool) (result : TabResult) (t : MqTab) : TabJob → MqTab
  | .insertSent envelope presented => t.insertRow time "sent" envelope.type presented false false
  | .insertReceived envelope presented redelivered =>
    let t := if ackedNow then t.onDeliveryAcked envelope.id else t
    if result.toBool then t.insertRow time "received" envelope.type presented redelivered ackedNow
    else { t with duplicateCount := t.duplicateCount + 1 }
  | .markAcked _ => t
  | .recent | .search .. => t.populateRows presenter time result.messages
  | .purge .. => t.loadRecent

/-- The job whose `onDone` is called next, with its result. -/
def oldestDone (t : MqTab) : Option (TabJob × TabResult) := t.worker.take.1

/-- One event. -/
def step (t : MqTab) : TabEvent → MqTab
  | .published envelope =>
    let t := { t with sentCount := t.sentCount + 1, waitingCount := t.waitingCount + 1 }
    t.call (.insertSent envelope (presentOrFallback presenter envelope.type envelope.payload))
  | .messageReceived envelope redelivered =>
    t.call (.insertReceived envelope
      (presentOrFallback presenter envelope.type envelope.payload) redelivered)
  | .deliveryAcked envelopeId => t.onDeliveryAcked envelopeId
  | .messageRejected => { t with rejectedCount := t.rejectedCount + 1 }
  | .messageReturned => { t with returnedCount := t.returnedCount + 1 }
  | .loadRecent => t.loadRecent
  | .applyFilter type fromTime toTime searchText receivedOnly =>
    t.call (.search type (some fromTime) (some toTime) searchText receivedOnly)
  | .purgeAccepted fromTime toTime => t.call (.purge fromTime toTime)
  | .jobFinished now =>
    let finished := t.worker.finish (TabJob.run now) t.store
    { t with worker := finished.1, store := finished.2 }
  | .jobDone time ackedNow =>
    match t.oldestDone with
    | some (job, result) =>
      onDone presenter time ackedNow result { t with worker := t.worker.take.2 } job
    | none => t

/-! ### What the parts do to the counters -/

variable {presenter : Option (QString → QString → ShownMessage)}

/-- The numbers of sent, received, waiting and duplicate messages. -/
def counters (t : MqTab) : ℕ × ℕ × ℕ × ℕ :=
  (t.sentCount, t.receivedCount, t.waitingCount, t.duplicateCount)

/-- Giving a job to the worker counts nothing. -/
@[simp] theorem call_receivedCount (job : TabJob) (t : MqTab) :
    (t.call job).receivedCount = t.receivedCount := rfl

@[simp] theorem onDeliveryAcked_receivedCount (envelopeId : QString) (t : MqTab) :
    (t.onDeliveryAcked envelopeId).receivedCount = t.receivedCount := by
  unfold onDeliveryAcked
  split_ifs <;> rfl

variable {time direction type : QString} {presented : ShownMessage} {redelivered acked : Bool}
  {t : MqTab}

/-- A row for a received message is counted. -/
theorem insertRow_received :
    (t.insertRow time "received" type presented redelivered acked).receivedCount =
      t.receivedCount + 1 := rfl

/-- No other row is. -/
theorem insertRow_counters (hdirection : direction ≠ "received") :
    (t.insertRow time direction type presented redelivered acked).counters = t.counters := by
  unfold insertRow
  dsimp only
  rw [if_neg hdirection]
  rfl

theorem insertRow_receivedCount (hdirection : direction ≠ "received") :
    (t.insertRow time direction type presented redelivered acked).receivedCount =
      t.receivedCount := congrArg (fun counters => counters.2.1) (insertRow_counters hdirection)

/-- The rows of received messages that are displayed are all counted. -/
theorem populateRows_receivedCount (messages : List StoredMessage) :
    (t.populateRows presenter time messages).receivedCount =
      t.receivedCount + messages.countP fun message => message.direction = "received" := by
  have hfold : ∀ (messages : List StoredMessage) (t : MqTab),
      (messages.foldl (populateRow presenter time) t).receivedCount =
        t.receivedCount + messages.countP fun message => message.direction = "received" := by
    intro messages
    induction messages with
    | nil => intro t; rfl
    | cons message messages ih =>
      intro t
      rw [List.foldl_cons, ih, List.countP_cons]
      by_cases hdirection : message.direction = "received"
      · rw [populateRow, hdirection, insertRow_received]
        simp
        omega
      · rw [populateRow, insertRow_receivedCount hdirection]
        simp [hdirection]
  exact hfold messages _

/-- Where none is displayed, nothing is counted. -/
theorem populateRows_counters {messages : List StoredMessage}
    (h : ∀ message ∈ messages, message.direction ≠ "received") :
    (t.populateRows presenter time messages).counters = t.counters := by
  have hfold : ∀ (messages : List StoredMessage) (t : MqTab),
      (∀ message ∈ messages, message.direction ≠ "received") →
        (messages.foldl (populateRow presenter time) t).counters = t.counters := by
    intro messages
    induction messages with
    | nil => intro t _; rfl
    | cons message messages ih =>
      intro t h
      obtain ⟨hfirst, hrest⟩ := List.forall_mem_cons.mp h
      rw [List.foldl_cons, ih _ hrest, populateRow, insertRow_counters hfirst]
  exact hfold messages _ h

end MqTab

/-! ### Counting what was new -/

/-- The tab, and the number of received messages whose insert was fresh. -/
structure Counted where
  tab : MqTab
  fresh : ℕ := 0

namespace Counted

variable (presenter : Option (QString → QString → ShownMessage))

/-- The event reports the fresh insert of a received message. -/
def reportsFresh (w : Counted) : TabEvent → Bool
  | .jobDone _ _ =>
    match w.tab.oldestDone with
    | some (.insertReceived .., result) => result.toBool
    | _ => false
  | _ => false

/-- The tab, watched. -/
def machine : Mealy Counted TabEvent Empty where
  step w event :=
    .silently
      { tab := w.tab.step presenter event
        fresh := if w.reportsFresh event then w.fresh + 1 else w.fresh }

/-- A tab that has just been made, on a store that may have messages. -/
def opened (store : MqStore) : Counted := { tab := MqTab.loadRecent { store := store } }

/-- The event is part of loading the recent messages, of filtering or of purging. -/
def IsQuery (w : Counted) : TabEvent → Prop
  | .loadRecent | .applyFilter .. | .purgeAccepted .. => True
  | .jobDone _ _ =>
    match w.tab.oldestDone with
    | some (.recent, _) | some (.search .., _) | some (.purge .., _) => True
    | _ => False
  | _ => False

/-- The received messages counted are those that were new, and queries count nothing. -/
def CountsFresh (w : Counted) (event : TabEvent) : Prop :=
  ((machine presenter).next w event).tab.receivedCount = ((machine presenter).next w event).fresh ∧
    (w.IsQuery event → ((machine presenter).next w event).tab.counters = w.tab.counters)

/-- The messages that the event displays. -/
def loaded (w : Counted) : TabEvent → List StoredMessage
  | .jobDone _ _ =>
    match w.tab.oldestDone with
    | some (.recent, result) | some (.search .., result) => result.messages
    | _ => []
  | _ => []

/-- A query displays no received message. -/
def LoadsNoReceived (w : Counted) (event : TabEvent) : Prop :=
  ∀ message ∈ w.loaded event, message.direction ≠ "received"

variable {presenter}

theorem next_eq (w : Counted) (event : TabEvent) :
    (machine presenter).next w event =
      { tab := w.tab.step presenter event
        fresh := if w.reportsFresh event then w.fresh + 1 else w.fresh } := rfl

/-- The `onDone` of the oldest finished job. -/
theorem step_jobDone {t : MqTab} {job : TabJob} {result : TabResult}
    (hdone : t.oldestDone = some (job, result)) (time : QString) (ackedNow : Bool) :
    t.step presenter (.jobDone time ackedNow) =
      MqTab.onDone presenter time ackedNow result { t with worker := t.worker.take.2 } job := by
  rw [MqTab.step, hdone]

/-- Displaying the result of a query counts the received messages in it. -/
theorem populate_countsFresh_iff {w : Counted} (h : w.tab.receivedCount = w.fresh)
    (messages : List StoredMessage) {time : QString} {ackedNow : Bool}
    (hfresh : w.reportsFresh (.jobDone time ackedNow) = false)
    (hloaded : w.loaded (.jobDone time ackedNow) = messages)
    (hstep : w.tab.step presenter (.jobDone time ackedNow) =
      MqTab.populateRows presenter time messages { w.tab with worker := w.tab.worker.take.2 }) :
    CountsFresh presenter w (.jobDone time ackedNow) ↔
      w.LoadsNoReceived (.jobDone time ackedNow) := by
  unfold CountsFresh LoadsNoReceived
  rw [next_eq, hloaded, hstep, hfresh]
  constructor
  · rintro ⟨hcount, -⟩ message hmessage hreceived
    have hpositive : 0 < messages.countP fun message => message.direction = "received" :=
      List.countP_pos_iff.mpr ⟨message, hmessage, by simpa using hreceived⟩
    simp only [MqTab.populateRows_receivedCount, Bool.false_eq_true, if_false] at hcount
    omega
  · intro hloads
    have hcounters : (MqTab.populateRows presenter time messages
        { w.tab with worker := w.tab.worker.take.2 }).counters = w.tab.counters :=
      MqTab.populateRows_counters hloads
    refine ⟨?_, fun _ => hcounters⟩
    exact (congrArg (fun counters => counters.2.1) hcounters).trans h

/-- **What a step counts.** While the received messages counted are those that were new,
a step counts rightly exactly when it displays no received message of the store. -/
theorem countsFresh_iff_loadsNoReceived {w : Counted} (h : w.tab.receivedCount = w.fresh)
    (event : TabEvent) : CountsFresh presenter w event ↔ w.LoadsNoReceived event := by
  -- a step that displays nothing from the store, and counts what is fresh
  have hother : w.loaded event = [] →
      (w.tab.step presenter event).receivedCount =
        (if w.reportsFresh event then w.fresh + 1 else w.fresh) →
      (w.IsQuery event → (w.tab.step presenter event).counters = w.tab.counters) →
      (CountsFresh presenter w event ↔ w.LoadsNoReceived event) := by
    intro hloaded hcount hquery
    unfold CountsFresh LoadsNoReceived
    rw [next_eq, hloaded]
    exact iff_of_true ⟨hcount, hquery⟩ nofun
  cases event with
  | published envelope => exact hother rfl h nofun
  | messageReceived envelope redelivered => exact hother rfl h nofun
  | deliveryAcked envelopeId =>
    refine hother rfl ?_ nofun
    rw [MqTab.step, MqTab.onDeliveryAcked_receivedCount]
    exact h
  | messageRejected => exact hother rfl h nofun
  | messageReturned => exact hother rfl h nofun
  | loadRecent => exact hother rfl h fun _ => rfl
  | applyFilter type fromTime toTime searchText receivedOnly => exact hother rfl h fun _ => rfl
  | purgeAccepted fromTime toTime => exact hother rfl h fun _ => rfl
  | jobFinished now => exact hother rfl h nofun
  | jobDone time ackedNow =>
    cases hdone : w.tab.oldestDone with
    | none => apply hother <;> simp [loaded, reportsFresh, IsQuery, MqTab.step, hdone, h]
    | some done =>
      obtain ⟨job, result⟩ := done
      have hstep : w.tab.step presenter (.jobDone time ackedNow) =
          MqTab.onDone presenter time ackedNow result { w.tab with worker := w.tab.worker.take.2 }
            job := step_jobDone hdone time ackedNow
      cases job with
      | insertSent envelope presented =>
        apply hother
        · simp [loaded, hdone]
        · rw [hstep, MqTab.onDone, MqTab.insertRow_receivedCount (by decide)]
          simp [reportsFresh, hdone, h]
        · simp [IsQuery, hdone]
      | insertReceived envelope presented redelivered =>
        apply hother
        · simp [loaded, hdone]
        · rw [hstep, MqTab.onDone]
          cases ackedNow <;> cases hfresh : result.toBool <;>
            simp [reportsFresh, hdone, hfresh, MqTab.insertRow_received, h]
        · simp [IsQuery, hdone]
      | markAcked envelopeId =>
        apply hother
        · simp [loaded, hdone]
        · rw [hstep, MqTab.onDone]
          simp [reportsFresh, hdone, h]
        · simp [IsQuery, hdone]
      | recent =>
        apply populate_countsFresh_iff h result.messages
        · simp [reportsFresh, hdone]
        · simp [loaded, hdone]
        · exact hstep
      | search type fromTime toTime searchText receivedOnly =>
        apply populate_countsFresh_iff h result.messages
        · simp [reportsFresh, hdone]
        · simp [loaded, hdone]
        · exact hstep
      | purge fromTime toTime =>
        apply hother
        · simp [loaded, hdone]
        · rw [hstep, MqTab.onDone]
          simp [reportsFresh, hdone, MqTab.loadRecent, h]
        · rw [hstep, MqTab.onDone]
          exact fun _ => rfl

/-- **The counters are right until history is displayed.** In every run of a tab on any
store, the received messages counted are those that were new, and loading, filtering and
purging count nothing, if and only if no query displays a received message. -/
theorem countsFresh_iff (presenter : Option (QString → QString → ShownMessage)) (store : MqStore)
    (events : List TabEvent) :
    (machine presenter).EachStep (CountsFresh presenter) (opened store) events ↔
      (machine presenter).EachStep LoadsNoReceived (opened store) events :=
  Mealy.eachStep_iff_eachStep (I := fun w => w.tab.receivedCount = w.fresh)
    (A := fun _ _ => True)
    (fun _ event h _ hloads => ((countsFresh_iff_loadsNoReceived h event).mpr hloads).1)
    (fun _ event h _ => countsFresh_iff_loadsNoReceived h event) rfl
    (Mealy.eachStep_trivial _ events)

/-- A message is received, and the recent messages are loaded again. -/
def reloadRun : List TabEvent :=
  [.messageReceived ⟨"a", "2026-01-01T00:00:00.000Z", "lab.note", "{}"⟩ false,
    .jobFinished "", .jobDone "" true, .jobFinished "2026-01-01T00:00:01.000Z", .jobDone "" true,
    .loadRecent, .jobFinished "", .jobDone "" true, .jobFinished "", .jobDone "" true]

/-- The message is counted twice. -/
theorem reloadRun_countsTwice :
    ¬ ∀ (presenter : Option (QString → QString → ShownMessage)) (store : MqStore)
      (events : List TabEvent),
      (machine presenter).EachStep (CountsFresh presenter) (opened store) events := by
  intro h
  have hrun := h none {} reloadRun
  have hlast := hrun.2.2.2.2.2.2.2.2.2.1.1
  exact absurd hlast (by decide +kernel)

end Counted

end QtAppBase.Mq
