import QtAppBase.C3.Events
import QtAppBase.Library.Provenance

/-!
# Bytes older than the request

A request clears the read buffer before its frame is written, but not what the
socket still holds. The machine here counts the frames written, stamps every
received byte with the count at its arrival, and remembers for every kind of
request the count right after its last frame. A byte is younger than that frame
exactly when its stamp reaches the remembered count.
-/

namespace QtAppBase.C3

open Library QtAppBase.Core Qt

/-- The number of frames written. -/
def writes (effects : List Effect) : ℕ := effects.countP Effect.isWrite

/-- The kind of request for which an event writes its frame, if it writes one. -/
def C3Connection.requester (c : C3Connection) : Event → Option Kind
  | .request call => some call.kind
  | .readyRead _ => if c.connectAttemptPending then none else c.dispatch
  | _ => none

/-- A `C3Connection` with the record of when its bytes arrived. -/
structure Stamped where
  conn : C3Connection := {}
  /-- The number of frames written. -/
  written : ℕ := 0
  /-- Every byte received, with the number of frames written before it arrived. -/
  received : List (UInt8 × ℕ) := []
  /-- The number of frames written, up to the last one for each kind of request. -/
  mark : Kind → ℕ := fun _ => 0

namespace Stamped

open C3Connection

/-- Stamp what arrives. -/
def nextReceived (t : Stamped) : Event → List (UInt8 × ℕ)
  | .readyRead chunk => t.received ++ tagAll t.written chunk
  | _ => t.received

/-- Count the frames, and mark the kind they were written for. -/
def step (t : Stamped) (e : Event) : Reaction Stamped Effect :=
  let r := t.conn.handle e
  let written := t.written + writes r.2
  ({ conn := r.1
     written := written
     received := t.nextReceived e
     mark := fun k => if t.conn.requester e = some k ∧ 0 < writes r.2 then written else t.mark k },
   r.2)

/-- The stamped machine. -/
def machine : Mealy Stamped Event Effect := ⟨step⟩

/-- The events come from the socket and the timers as they can. -/
def Enabled (t : Stamped) (e : Event) : Prop := t.conn.Enabled e

instance (t : Stamped) (e : Event) : Decidable (t.Enabled e) :=
  inferInstanceAs (Decidable (t.conn.Enabled e))

/-- At most one request is outstanding: none is accepted while another is pending. -/
def OneAtATime (t : Stamped) : Event → Prop
  | .request call => t.conn.Accepts call → t.conn.dispatch = none
  | _ => True

instance (t : Stamped) : ∀ e, Decidable (t.OneAtATime e)
  | .request _ => inferInstanceAs (Decidable (_ → _))
  | .connectToHost .. | .disconnectNow | .socketConnected | .socketError ..
  | .socketDisconnected | .readyRead _ | .handshakeTimeout | .requestTimeout _ | .heartbeatTick
  | .reconnectTick _ => isTrue trivial

/-- All bytes decoded as the reply to a request arrived after its last frame was written. -/
def DecodesFresh (t : Stamped) : Event → Prop
  | .readyRead chunk =>
    ∀ k ∈ t.conn.requester (.readyRead chunk),
      Provenance (t.nextReceived (.readyRead chunk))
        (t.conn.readBuffer ++ (t.conn.socket.receive chunk).unread) (t.mark k ≤ ·)
  | _ => True

instance (t : Stamped) : ∀ e, Decidable (t.DecodesFresh e)
  | .readyRead chunk =>
    inferInstanceAs (Decidable (∀ k ∈ t.conn.requester (.readyRead chunk), _))
  | .connectToHost .. | .disconnectNow | .request _ | .socketConnected | .socketError ..
  | .socketDisconnected | .handshakeTimeout | .requestTimeout _ | .heartbeatTick
  | .reconnectTick _ => isTrue trivial

/-- A request is accepted only when the socket holds no unread bytes. -/
def RequestsWithEmptySocket (t : Stamped) : Event → Prop
  | .request call => t.conn.Accepts call → t.conn.socket.unread = []
  | _ => True

instance (t : Stamped) : ∀ e, Decidable (t.RequestsWithEmptySocket e)
  | .request _ => inferInstanceAs (Decidable (_ → _))
  | .connectToHost .. | .disconnectNow | .socketConnected | .socketError ..
  | .socketDisconnected | .readyRead _ | .handshakeTimeout | .requestTimeout _ | .heartbeatTick
  | .reconnectTick _ => isTrue trivial

/-- The freshness invariant: while a request is pending, nothing waits in the
socket, and what is buffered arrived after its last frame. -/
structure Inv (t : Stamped) : Prop where
  /-- Pending queries know which reply they wait for. -/
  stepping : Stepping t.conn
  /-- Frames are marked when they are written. -/
  mark_le : ∀ k, t.mark k ≤ t.written
  /-- While a request is pending, the socket is read empty. -/
  unread_nil : ∀ k, t.conn.pending k = true → t.conn.socket.unread = []
  /-- The buffered bytes are younger than the last frame of a pending request. -/
  fresh : ∀ k, t.conn.pending k = true →
    Provenance t.received t.conn.readBuffer (t.mark k ≤ ·)

/-- A new object has no requests. -/
theorem inv_init : Inv {} :=
  ⟨⟨by simp, by simp, by simp⟩, fun _ => le_rfl, fun k h => (by cases k <;> cases h),
    fun k h => (by cases k <;> cases h)⟩

variable {t : Stamped}

/-- A step that writes no frame, or writes one for the connection, moves no mark. -/
theorem mark_step {e : Event} (h : t.conn.requester e = none ∨ writes (t.conn.handle e).2 = 0)
    (k : Kind) : (t.step e).1.mark k = t.mark k := by
  refine if_neg ?_
  rintro ⟨hrequester, hwrites⟩
  rcases h with hnone | hzero
  · rw [hnone] at hrequester
    cases hrequester
  · omega

/-- Marks never run ahead of the frames written. -/
theorem mark_le_step (h : Inv t) (e : Event) (k : Kind) :
    (t.step e).1.mark k ≤ (t.step e).1.written := by
  have hmark := h.mark_le k
  unfold step
  dsimp only
  split_ifs <;> omega

/-- Bytes that arrive while a request is pending are stamped at its mark or later. -/
theorem fresh_append (h : Inv t) {k : Kind} (hk : t.conn.pending k = true) (chunk : QByteArray) :
    Provenance (t.received ++ tagAll t.written chunk)
      (t.conn.readBuffer ++ (t.conn.socket.receive chunk).unread) (t.mark k ≤ ·) := by
  have hunread : (t.conn.socket.receive chunk).unread = chunk := by
    rw [TcpSocket.receive, h.unread_nil k hk, List.nil_append]
  have happended : Provenance (t.received ++ tagAll t.written chunk)
      (t.conn.readBuffer ++ (tagAll t.written chunk).map Prod.fst) (t.mark k ≤ ·) := by
    refine (h.fresh k hk).append ?_
    intro p hp
    rw [(mem_tagAll.mp hp).2]
    exact h.mark_le k
  rw [tagAll_fst] at happended
  rwa [hunread]

/-- An outcome is not a frame. -/
theorem writes_outcome {outcome : Effect} {k : Kind} (h : outcome.outcomeKind = some k) :
    writes [outcome] = 0 := by
  rw [writes, List.countP_singleton, isWrite_outcome h]
  rfl

/-- A request call keeps the invariant when it finds the socket empty. -/
theorem inv_request (h : Inv t) {call : RequestCall}
    (hempty : t.RequestsWithEmptySocket (.request call)) :
    Inv (t.step (.request call)).1 := by
  rcases callRequest_spec call t.conn with hrefused | haccepted
  · have hhandle : t.conn.handle (.request call) = (t.conn, []) := hrefused
    have hmark := mark_step (t := t) (e := .request call) (Or.inr (by rw [hhandle]; rfl))
    have hconn : (t.step (.request call)).1.conn = t.conn := congrArg Prod.fst hhandle
    refine ⟨by rw [hconn]; exact h.stepping, mark_le_step h _, ?_, ?_⟩
    · rw [hconn]
      exact h.unread_nil
    · intro k hk
      rw [hconn] at hk ⊢
      rw [hmark]
      exact h.fresh k hk
  · have hunread : (t.step (.request call)).1.conn.socket.unread = [] := by
      have hsocket : (t.step (.request call)).1.conn.socket = t.conn.socket := haccepted.socket
      rw [hsocket]
      exact hempty ⟨haccepted.ready, haccepted.fresh⟩
    have hbuffer : (t.step (.request call)).1.conn.readBuffer = [] := haccepted.readBuffer
    refine ⟨haccepted.stepping h.stepping, mark_le_step h _, fun _ _ => hunread, ?_⟩
    intro k _
    rw [hbuffer]
    exact Provenance.nil _ _

/-- A timeout keeps the invariant. -/
theorem inv_requestTimeout (h : Inv t) (kind : Kind) : Inv (t.step (.requestTimeout kind)).1 := by
  have hspec := fireTimeout_spec kind t.conn
  have hwrites : writes (t.conn.handle (.requestTimeout kind)).2 = 0 := by
    obtain ⟨outcome, hresult, houtcome, _⟩ := hspec.result
    have hhandle : (t.conn.handle (.requestTimeout kind)).2 = [outcome] := hresult
    rw [hhandle]
    exact writes_outcome houtcome
  have hpending : ∀ k, (fireTimeout kind t.conn).1.pending k = true →
      t.conn.pending k = true := by
    intro k hk
    by_cases hsame : k = kind
    · rw [hsame, hspec.pending] at hk
      cases hk
    · rwa [hspec.others k hsame] at hk
  have hmark := mark_step (t := t) (Or.inr hwrites)
  refine ⟨hspec.stepping h.stepping, mark_le_step h _, ?_, ?_⟩
  · intro k hk
    have hsocket : (t.step (.requestTimeout kind)).1.conn.socket = t.conn.socket := hspec.socket
    rw [hsocket]
    exact h.unread_nil k (hpending k hk)
  · intro k hk
    have hbuffer : (t.step (.requestTimeout kind)).1.conn.readBuffer = t.conn.readBuffer :=
      hspec.readBuffer
    rw [hbuffer, hmark]
    exact h.fresh k (hpending k hk)

/-- An event of the connection keeps the invariant. -/
theorem inv_lifecycle (h : Inv t) {e : Event} (he : IsLifecycle e) : Inv (t.step e).1 := by
  have hspec := handle_unrequested t.conn he
  have hrequester : t.conn.requester e = none := by
    cases e <;> first | rfl | exact he.elim
  have hreceived : (t.step e).1.received = t.received := by
    cases e <;> first | rfl | exact he.elim
  have hmark := mark_step (t := t) (Or.inl hrequester)
  refine ⟨hspec.stepping h.stepping, mark_le_step h _, ?_, ?_⟩
  · intro k hk
    exact hspec.unread.elim (fun hsame => hsame.trans (h.unread_nil k (hspec.pending k hk))) id
  · intro k hk
    rw [hreceived, hmark]
    rcases hspec.readBuffer with hsame | hnil
    · exact hsame ▸ h.fresh k (hspec.pending k hk)
    · exact hnil ▸ Provenance.nil _ _

/-- Received bytes keep the invariant: they are read into the buffer, or the
buffer is emptied, or nothing is pending. -/
theorem inv_readyRead (h : Inv t) (chunk : QByteArray) : Inv (t.step (.readyRead chunk)).1 := by
  let c : C3Connection := { t.conn with socket := t.conn.socket.receive chunk }
  have hstepping : Stepping c := ⟨h.stepping.1, h.stepping.2, h.stepping.3⟩
  have hhandle : t.conn.handle (.readyRead chunk) = c.onSocketReadyRead := rfl
  by_cases hattempt : t.conn.connectAttemptPending = true
  · -- the handshake reads the bytes, and may keep them in the buffer
    have hbranch : c.onSocketReadyRead = c.readAll.onHandshakeData := if_pos hattempt
    have hspec := onHandshakeData_unrequested c.readAll
    rw [← hbranch, ← hhandle] at hspec
    have hmark := mark_step (t := t) (e := .readyRead chunk) (Or.inl (if_pos hattempt))
    refine ⟨hspec.stepping (readAll_stepping hstepping), mark_le_step h _, ?_, ?_⟩
    · exact fun k _ => hspec.unread.elim id id
    · intro k hk
      rw [hmark]
      rcases hspec.readBuffer with hsame | hnil
      · change Provenance _ (t.conn.handle (.readyRead chunk)).1.readBuffer _
        rw [hsame]
        exact fresh_append h (hspec.pending k hk) chunk
      · exact hnil ▸ Provenance.nil _ _
  · have hattempt : c.connectAttemptPending = false := by simpa using hattempt
    cases hk : c.dispatch with
    | none =>
      have hidle := onSocketReadyRead_idle hattempt hk
      have hconn : (t.step (.readyRead chunk)).1.conn = c := congrArg Prod.fst hidle
      have hnone := dispatch_none.mp hk
      refine ⟨by rw [hconn]; exact hstepping, mark_le_step h _, ?_, ?_⟩
      · intro k hpending
        rw [hconn, hnone k] at hpending
        cases hpending
      · intro k hpending
        rw [hconn, hnone k] at hpending
        cases hpending
    | some k =>
      by_cases hPartial : Partial (c.readBuffer ++ c.socket.unread)
      · have hread := onSocketReadyRead_ofPartial hattempt hk hstepping hPartial
        have hconn : (t.step (.readyRead chunk)).1.conn = c.readAll := congrArg Prod.fst hread
        have hmark := mark_step (t := t) (e := .readyRead chunk)
          (Or.inr (by rw [hhandle, hread]; rfl))
        refine ⟨by rw [hconn]; exact readAll_stepping hstepping, mark_le_step h _, ?_, ?_⟩
        · intro j _
          rw [hconn]
          rfl
        · intro j hj
          rw [hmark]
          rw [hconn] at hj ⊢
          exact fresh_append h hj chunk
      · have hanswered := onSocketReadyRead_complete hattempt hk hstepping hPartial
        refine ⟨hanswered.stepping, mark_le_step h _, fun _ _ => hanswered.unread, ?_⟩
        intro j _
        exact hanswered.readBuffer ▸ Provenance.nil _ _

/-- A step keeps the invariant when an accepted request finds the socket empty. -/
theorem inv_next {e : Event} (h : Inv t) (hempty : t.RequestsWithEmptySocket e) :
    Inv (machine.next t e) := by
  cases e with
  | request call => exact inv_request h hempty
  | requestTimeout kind => exact inv_requestTimeout h kind
  | readyRead chunk => exact inv_readyRead h chunk
  | _ => exact inv_lifecycle h trivial

/-- Under the invariant, what is decoded is younger than the request. -/
theorem Inv.decodesFresh (h : Inv t) (e : Event) : t.DecodesFresh e := by
  cases e with
  | readyRead chunk =>
    intro k hk
    have hdispatch : t.conn.dispatch = some k := by
      simp only [requester, Option.mem_def] at hk
      split_ifs at hk
      exact hk
    exact fresh_append h (dispatch_pending hdispatch) chunk
  | _ => trivial

/-- **Replies are younger than their requests.** In every run in which each
accepted request finds the socket empty, the bytes decoded as the reply to a
request all arrived after its frame was written. -/
theorem decodesFresh_of_emptySocket (events : List Event)
    (hempty : machine.EachStep RequestsWithEmptySocket {} events) :
    machine.EachStep DecodesFresh {} events :=
  Mealy.eachStep_of_invariant (I := Inv) (fun _ _ h hP => inv_next h hP)
    (fun _ e h _ => h.decodesFresh e) inv_init hempty

/-- A request, its reply in two chunks, and another request of another kind. -/
theorem twoRequests_decodeFresh :
    machine.EachStep DecodesFresh {}
      (openSession ++
        [.request .requestRealtimeLog, .readyRead ((encodeFrame kReplyOk 1 0 [] true).take 3),
          .readyRead ((encodeFrame kReplyOk 1 0 [] true).drop 3),
          .request (.control .cancelAlarm), .readyRead (encodeFrame kReplyOk 1 0 [] true)]) :=
  decodesFresh_of_emptySocket _ (by decide +kernel)

/-- The reply to a request arrives after its timeout and stays in the socket;
the request is made again. -/
def lateReplyRun : List Event :=
  openSession ++
    [.request .requestRealtimeLog, .requestTimeout .realtimeLog,
      .readyRead (encodeFrame kReplyOk 1 0 [] true), .request .requestRealtimeLog,
      .readyRead [0xAA]]

/-- The late reply is decoded as the reply to the second request. -/
theorem lateReplyRun_decodesStale :
    ¬ ∀ events, machine.EachStep Enabled {} events → machine.EachStep OneAtATime {} events →
      machine.EachStep DecodesFresh {} events := by
  intro h
  exact absurd (h lateReplyRun (by decide +kernel) (by decide +kernel)) (by decide +kernel)

end Stamped

end QtAppBase.C3
