import QtAppBase.C3.Events

/-!
# The replies to a table data query

While only a table data query is pending, received bytes go to it. A reply that
arrives in pieces has the effect of the same reply arriving at once, and a
complete reply takes the query from one step to the next.
-/

namespace QtAppBase.C3

open Library QtAppBase.Core Qt

/-- The frame is complete and carries the payload, behind a session block if there is one. -/
structure IsReply (frame : QByteArray) (stripSessionBlock : Bool) (command : UInt8)
    (payload : QByteArray) : Prop where
  /-- The size is the one the length field announces. -/
  complete : Complete frame
  /-- The frame is accepted. -/
  decoded : decodeFrameGeneric frame stripSessionBlock =
    { status := .ok, payload := payload, command := command }

instance (frame : QByteArray) (b : Bool) (command : UInt8) (payload : QByteArray) :
    Decidable (IsReply frame b command payload) :=
  decidable_of_iff (Complete frame ∧ decodeFrameGeneric frame b =
      { status := .ok, payload := payload, command := command })
    ⟨fun h => ⟨h.1, h.2⟩, fun h => ⟨h.complete, h.decoded⟩⟩

/-- What is encoded with any session block is such a reply. -/
theorem isReply_encodeFrame {command : UInt8} {sessionId : UInt16} {requestNr : Int32}
    {payload : QByteArray} {b : Bool} (hlength : (if b then 4 else 0) + payload.length < 2 ^ 16)
    (hcommand : command ≠ kReplyError) :
    IsReply (encodeFrame command sessionId requestNr payload b) b command payload :=
  ⟨(decodeFrameGeneric_encodeFrame hlength hcommand).1,
    (decodeFrameGeneric_encodeFrame hlength hcommand).2⟩

/-- The pieces in which a frame arrives, none of them empty. -/
structure Pieces (frame : QByteArray) (pieces : List QByteArray) : Prop where
  /-- Together they are the frame. -/
  flatten : pieces.flatten = frame
  /-- Every `readyRead` brings something. -/
  nonempty : ∀ piece ∈ pieces, piece ≠ []

instance (frame : QByteArray) (pieces : List QByteArray) : Decidable (Pieces frame pieces) :=
  decidable_of_iff (pieces.flatten = frame ∧ ∀ piece ∈ pieces, piece ≠ [])
    ⟨fun h => ⟨h.1, h.2⟩, fun h => ⟨h.flatten, h.nonempty⟩⟩

/-- A reply arrives piece by piece. -/
def delivered (pieces : List QByteArray) : List Event := pieces.map Event.readyRead

namespace C3Connection

variable {c : C3Connection} {frame : QByteArray}

/-- While a request is pending, bytes may as well be read ahead. -/
theorem onSocketReadyRead_readAll {k : Kind} (hattempt : c.connectAttemptPending = false)
    (hk : c.dispatch = some k) : c.onSocketReadyRead = c.readAll.onSocketReadyRead := by
  have hread : c.readAll.readAll = c.readAll := by
    simp [readAll, TcpSocket.drained]
  have hothers : c.dataQueryPending = false → c.onOtherData = c.readAll.onOtherData := by
    intro hdata
    unfold dispatch at hk
    unfold onOtherData
    rw [hread]
    split_ifs at hk with h1 h2 h3 h4 h5 h6 <;> simp_all [readAll]
  have hdata : c.readAll.dataQueryPending = c.dataQueryPending := rfl
  have hhandshake : c.readAll.connectAttemptPending = false := hattempt
  unfold onSocketReadyRead
  rw [hread, hdata, hattempt, hhandshake]
  by_cases hpending : c.dataQueryPending = true
  · simp only [hpending]
    rfl
  · have hpending : c.dataQueryPending = false := eq_false_of_ne_true hpending
    simp only [hpending]
    exact hothers hpending

/-- Bytes held before are as good as bytes that arrive. -/
theorem readyRead_held {k : Kind} (hattempt : c.connectAttemptPending = false)
    (hk : c.dispatch = some k) (hunread : c.socket.unread = []) (piece : QByteArray) :
    c.handle (.readyRead piece) =
      { c with readBuffer := [] }.handle (.readyRead (c.readBuffer ++ piece)) := by
  let d : C3Connection := { c with socket := c.socket.receive piece }
  let e : C3Connection := { c with
    readBuffer := [], socket := c.socket.receive (c.readBuffer ++ piece) }
  have hsame : d.readAll = e.readAll := by
    simp [d, e, readAll, TcpSocket.receive, TcpSocket.drained, hunread]
  have hd : d.onSocketReadyRead = d.readAll.onSocketReadyRead :=
    onSocketReadyRead_readAll (k := k) hattempt hk
  have he : e.onSocketReadyRead = e.readAll.onSocketReadyRead :=
    onSocketReadyRead_readAll (k := k) hattempt hk
  change d.onSocketReadyRead = e.onSocketReadyRead
  rw [hd, hsame, he]

/-- **Pieces rule.** A frame whose pieces arrive one after another is answered
as if it arrived at once. -/
theorem after_pieces {k : Kind} {pieces : List QByteArray}
    (hattempt : c.connectAttemptPending = false) (hk : c.dispatch = some k)
    (hstepping : Stepping c) (hunread : c.socket.unread = []) (hcomplete : Complete frame)
    (hpieces : pieces ≠ []) (hnonempty : ∀ piece ∈ pieces, piece ≠ [])
    (hframe : c.readBuffer ++ pieces.flatten = frame) :
    machine.after c (delivered pieces) =
        machine.next { c with readBuffer := [] } (.readyRead frame) ∧
      machine.emitted c (delivered pieces) =
        (machine.step { c with readBuffer := [] } (.readyRead frame)).2 := by
  induction pieces generalizing c with
  | nil => exact absurd rfl hpieces
  | cons piece rest ih =>
    cases rest with
    | nil =>
      have hwhole : c.handle (.readyRead piece) =
          { c with readBuffer := [] }.handle (.readyRead frame) := by
        rw [readyRead_held hattempt hk hunread, ← hframe]
        simp
      exact ⟨congrArg Prod.fst hwhole, (List.append_nil _).trans (congrArg Prod.snd hwhole)⟩
    | cons next rest =>
      -- the first piece leaves the frame incomplete
      let d : C3Connection := { c with socket := c.socket.receive piece }
      have hheld : d.readBuffer ++ d.socket.unread = c.readBuffer ++ piece := by
        change c.readBuffer ++ (c.socket.unread ++ piece) = _
        rw [hunread, List.nil_append]
      have hPartial : Partial (d.readBuffer ++ d.socket.unread) := by
        rw [hheld]
        refine hcomplete.partial_ofPrefix ⟨(next :: rest).flatten, ?_⟩ ?_
        · rw [← hframe]
          simp
        · have hnext : next ≠ [] := hnonempty next (by simp)
          have hpos := List.length_pos_iff.mpr hnext
          rw [← hframe]
          simp only [List.flatten_cons, List.length_append]
          omega
      have hread : c.handle (.readyRead piece) = (d.readAll, []) :=
        onSocketReadyRead_ofPartial hattempt hk ⟨hstepping.1, hstepping.2, hstepping.3⟩ hPartial
      have hsocket : d.readAll.socket = c.socket := by
        change ({ c.socket with unread := [] } : TcpSocket) = c.socket
        rw [← hunread]
      have hrest := ih (c := d.readAll) hattempt hk ⟨hstepping.1, hstepping.2, hstepping.3⟩ rfl
        (by simp) (fun p hp => hnonempty p (List.mem_cons_of_mem _ hp))
        (by rw [show d.readAll.readBuffer = c.readBuffer ++ piece from hheld, ← hframe]; simp)
      have hstart : ({ d.readAll with readBuffer := [] } : C3Connection) =
          { c with readBuffer := [] } :=
        congrArg (fun s => ({ c with socket := s, readBuffer := [] } : C3Connection)) hsocket
      rw [hstart] at hrest
      have hnextState : machine.next c (.readyRead piece) = d.readAll := congrArg Prod.fst hread
      have hemits : (machine.step c (.readyRead piece)).2 = [] := congrArg Prod.snd hread
      constructor
      · rw [delivered, List.map_cons, Mealy.after_cons, hnextState]
        exact hrest.1
      · rw [delivered, List.map_cons, Mealy.emitted_cons, hnextState, hemits, List.nil_append]
        exact hrest.2

/-! ### The steps of the query -/

/-- Only a table data query is pending, and nothing is held. -/
structure Querying (c : C3Connection) : Prop where
  attempt : c.connectAttemptPending = false
  pending : c.dataQueryPending = true
  readBuffer : c.readBuffer = []
  unread : c.socket.unread = []
  alone : ∀ k, k ≠ .tableData → c.pending k = false

/-- Members the query keeps do not matter. -/
theorem Querying.of_same {d : C3Connection} (h : Querying c)
    (hattempt : d.connectAttemptPending = c.connectAttemptPending)
    (hpending : d.pending = c.pending)
    (hbuffer : d.readBuffer = []) (hsocket : d.socket = c.socket) : Querying d := by
  refine ⟨hattempt.trans h.attempt, ?_, hbuffer, (congrArg TcpSocket.unread hsocket).trans h.unread,
    ?_⟩
  · exact (congrFun hpending .tableData).trans h.pending
  · intro k hk
    rw [hpending]
    exact h.alone k hk

/-- A table data query waits for the reply of a step. -/
structure Awaiting (step : DataQueryStep) (c : C3Connection) : Prop extends Querying c where
  awaited : c.dataQueryStep = step
  known : step ≠ .none

/-- The only pending query knows which reply it waits for. -/
theorem Awaiting.stepping {step : DataQueryStep} (h : Awaiting step c) : Stepping c := by
  constructor
  · intro _
    rw [h.awaited]
    exact h.known
  · exact fun hp => absurd hp (ne_true_of_eq_false (h.alone .recordCount (by decide)))
  · exact fun hp => absurd hp (ne_true_of_eq_false (h.alone .realtimeLog (by decide)))

/-- Nothing is pending any more. -/
structure Over (c : C3Connection) : Prop where
  attempt : c.connectAttemptPending = false
  idle : c.dispatch = none

/-- A query that ends leaves nothing pending. -/
theorem Querying.over {d : C3Connection} (h : Querying c)
    (hattempt : d.connectAttemptPending = c.connectAttemptPending)
    (hpending : d.dataQueryPending = false)
    (hothers : ∀ k, k ≠ .tableData → d.pending k = c.pending k) :
    Over d := by
  refine ⟨hattempt.trans h.attempt, dispatch_none.mpr fun k => ?_⟩
  by_cases hk : k = .tableData
  · subst hk
    exact hpending
  · rw [hothers k hk]
    exact h.alone k hk

/-- With nothing pending, replies stay in the socket. -/
theorem Over.after (h : Over c) (pieces : List QByteArray) :
    Over (machine.after c (delivered pieces)) ∧ machine.emitted c (delivered pieces) = [] := by
  induction pieces generalizing c with
  | nil => exact ⟨h, rfl⟩
  | cons piece rest ih =>
    let d : C3Connection := { c with socket := c.socket.receive piece }
    have hstep : c.handle (.readyRead piece) = (d, []) := onSocketReadyRead_idle h.attempt h.idle
    have hrest := ih (c := d) ⟨h.attempt, h.idle⟩
    have hnext : machine.next c (.readyRead piece) = d := congrArg Prod.fst hstep
    have hnothing : (machine.step c (.readyRead piece)).2 = [] := congrArg Prod.snd hstep
    rw [delivered, List.map_cons, Mealy.after_cons, Mealy.emitted_cons, hnext, hnothing]
    exact ⟨hrest.1, hrest.2⟩

/-- Table data comes first. -/
theorem Awaiting.dispatch {step : DataQueryStep} (h : Awaiting step c) :
    c.dispatch = some .tableData := if_pos h.pending

/-- A complete reply goes to the table data branch. -/
theorem Awaiting.handle_reply {step : DataQueryStep} (h : Awaiting step c)
    (hcomplete : Complete frame) :
    c.handle (.readyRead frame) = { c with readBuffer := frame }.onDataQueryData.reaction := by
  let d : C3Connection := { c with socket := c.socket.receive frame }
  have hread : d.readAll = { c with readBuffer := frame } := by
    have hsocket : (c.socket.receive frame).drained = c.socket := by
      rw [TcpSocket.receive, TcpSocket.drained, ← h.unread]
    have hheld : c.readBuffer ++ (c.socket.receive frame).unread = frame := by
      rw [h.readBuffer, TcpSocket.receive, h.unread]
      rfl
    change ({ c with
      readBuffer := c.readBuffer ++ (c.socket.receive frame).unread
      socket := (c.socket.receive frame).drained } : C3Connection) = _
    rw [hsocket, hheld]
  have hheld : d.readBuffer ++ d.socket.unread = frame := congrArg C3Connection.readBuffer hread
  have hwhole : ¬ Partial (d.readBuffer ++ d.socket.unread) := by
    rw [hheld]
    exact hcomplete.notPartial
  rw [← hread]
  exact onSocketReadyRead_dataQuery h.attempt h.pending
    ⟨h.stepping.1, h.stepping.2, h.stepping.3⟩ hwhole

/-- The same in pieces. -/
theorem Awaiting.after_reply {step : DataQueryStep} (h : Awaiting step c)
    (hcomplete : Complete frame) {pieces : List QByteArray} (hpieces : Pieces frame pieces) :
    machine.after c (delivered pieces) =
        ({ c with readBuffer := frame }.onDataQueryData.reaction).1 ∧
      machine.emitted c (delivered pieces) =
        ({ c with readBuffer := frame }.onDataQueryData.reaction).2 := by
  have hsome : pieces ≠ [] := by
    rintro rfl
    have hlength := hcomplete.length_ge
    rw [← hpieces.flatten] at hlength
    simp at hlength
  have hrun := after_pieces h.attempt h.dispatch h.stepping h.unread hcomplete hsome
    hpieces.nonempty (by rw [h.readBuffer, hpieces.flatten, List.nil_append])
  have hempty : ({ c with readBuffer := [] } : C3Connection) = c := by rw [← h.readBuffer]
  rw [hempty] at hrun
  have hreply := h.handle_reply hcomplete
  exact ⟨hrun.1.trans (congrArg Prod.fst hreply), hrun.2.trans (congrArg Prod.snd hreply)⟩

/-- A reply after which the query goes on to the next step. -/
theorem Awaiting.after_continued {step step' : DataQueryStep} (h : Awaiting step c)
    (hcomplete : Complete frame) {pieces : List QByteArray} (hpieces : Pieces frame pieces)
    {d : C3Connection} {request : QByteArray}
    (hreaction : { c with readBuffer := frame }.onDataQueryData.reaction =
      d.continueDataQuery step' request)
    (hquerying : Querying d) (hstep : step' ≠ .none) :
    Awaiting step' (machine.after c (delivered pieces)) ∧
      machine.after c (delivered pieces) = (d.continueDataQuery step' request).1 ∧
      machine.emitted c (delivered pieces) = [.write request] := by
  obtain ⟨hafter, hemitted⟩ := h.after_reply hcomplete hpieces
  rw [hafter, hemitted, hreaction]
  exact ⟨⟨hquerying.of_same rfl rfl hquerying.readBuffer rfl, rfl, hstep⟩, rfl, rfl⟩

/-- The query starts with a request for the table configuration. -/
theorem requestTableData_awaiting (h : ReadyIdle c) (tableName : QString) :
    Awaiting .awaitingTableConfig (requestTableData tableName c).1 ∧
      (requestTableData tableName c).1.pendingTableName = tableName ∧
      (requestTableData tableName c).1.sessionLess = c.sessionLess ∧
      (requestTableData tableName c).2 =
        [.write (encodeDataTableConfigRequest (!c.sessionLess) c.sessionId c.requestNr)] := by
  have hnone := dispatch_none.mp h.idle
  have hdata : c.dataQueryPending = false := hnone .tableData
  have hrefused : ¬ (!c.isReady || c.dataQueryPending) = true := by simp [h.ready, hdata]
  rw [requestTableData, if_neg hrefused]
  refine ⟨⟨⟨h.attempt, rfl, rfl, h.unread, ?_⟩, rfl, by decide⟩, rfl, rfl, rfl⟩
  intro k hk
  have hk' := hnone k
  cases k <;> first | exact hk' | exact absurd rfl hk

end C3Connection

/-! ### What the driver emits -/

/-- The signals among the effects. -/
def signals (effects : List Effect) : List Effect := effects.filter fun e => !e.isWrite

theorem signals_append (xs ys : List Effect) : signals (xs ++ ys) = signals xs ++ signals ys :=
  List.filter_append ..

@[simp] theorem signals_write (frame : QByteArray) : signals [.write frame] = [] := rfl

/-- Whether a TRANSMIT_DATA request is written. -/
def Effect.isTransmit : Effect → Bool
  | .write frame => frameCommand frame = kCommandTransmitData
  | _ => false

/-- The command of an encoded frame. -/
@[simp] theorem frameCommand_encodeFrame (command : UInt8) (sessionId : UInt16) (requestNr : Int32)
    (payload : QByteArray) (b : Bool) :
    frameCommand (encodeFrame command sessionId requestNr payload b) = command := rfl

/-- The table of an outcome of a table data query, and its records unless it failed. -/
def Effect.tableOutcome : Effect → Option (QString × Option (List QVariantMap))
  | .tableDataReceived tableName records => some (tableName, some records)
  | .tableDataFailed tableName _ => some (tableName, none)
  | _ => none

/-- What a table payload amounts to. -/
def recordsOf (response : GetDataResponse) : Option (List QVariantMap) :=
  if response.status = .ok then some response.records else none

end QtAppBase.C3
