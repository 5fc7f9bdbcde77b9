import QtAppBase.C3.Events
import QtAppBase.Library.NumberedFrames
import Mathlib.Logic.Function.Basic

/-!
# Whose replies an outcome is computed from

On a ready connection requests of several kinds may be outstanding together. The
panel answers the frames in the order they were written, but received bytes go
to the pending kinds in a fixed order. The machine here joins the driver with
the panel: frames are numbered as they are written, every reply carries the
number of the frame it answers, and for the current request of each kind it
keeps the numbers of the frames written for it and of the replies decoded for it.
-/

namespace QtAppBase.C3

open Library QtAppBase.Core Qt

/-- A connection and its panel. -/
structure Link where
  conn : C3Connection
  /-- The number of frames written. -/
  written : ℕ := 0
  /-- The replies of the panel; each answers the frame of its number. -/
  replies : List QByteArray := []
  /-- What the panel sent and did not arrive yet. -/
  wire : List (UInt8 × ℕ) := []
  /-- What arrived. -/
  received : List (UInt8 × ℕ) := []
  /-- The frames of the current request of a kind. -/
  own : Kind → List ℕ := fun _ => []
  /-- The replies decoded for the current request of a kind. -/
  used : Kind → List ℕ := fun _ => []

/-- What happens on a ready connection: the caller calls, the panel replies,
bytes arrive, and timers fire. -/
inductive LinkEvent where
  | call (call : RequestCall)
  | reply (frame : QByteArray)
  | deliver (count : ℕ)
  | timeout (kind : Kind)
  deriving DecidableEq

namespace Link

open C3Connection

/-- A frame is written for the current request of a kind. -/
def wrote (k : Kind) (l : Link) : Link :=
  { l with
    written := l.written + 1
    own := Function.update l.own k (l.own k ++ [l.written]) }

/-- The caller makes a request call. -/
def onCall (call : RequestCall) (l : Link) : Reaction Link Effect :=
  let r := l.conn.handle (.request call)
  let l' := { l with conn := r.1 }
  if r.2.any Effect.isWrite then
    (wrote call.kind { l' with
      own := Function.update l.own call.kind []
      used := Function.update l.used call.kind [] }, r.2)
  else (l', r.2)

/-- The panel answers the next frame. -/
def onReply (frame : QByteArray) (l : Link) : Link :=
  { l with
    replies := l.replies ++ [frame]
    wire := l.wire ++ tagAll l.replies.length frame }

/-- The numbers of all bytes the driver holds once a chunk has arrived. -/
def heldTags (l : Link) (count : ℕ) : List ℕ :=
  lastTags (l.received ++ l.wire.take count)
    (l.conn.readBuffer.length + l.conn.socket.unread.length + (l.wire.take count).length)

/-- The next bytes of the wire. -/
def chunk (l : Link) (count : ℕ) : QByteArray := (l.wire.take count).map Prod.fst

/-- Bytes arrive. -/
def arrived (count : ℕ) (l : Link) : Link :=
  { l with
    conn := (l.conn.handle (.readyRead (l.chunk count))).1
    wire := l.wire.drop count
    received := l.received ++ l.wire.take count }

/-- Bytes arrive, and all that is held is decoded for a kind of request. -/
def decoded (k : Kind) (count : ℕ) (l : Link) : Link :=
  { l.arrived count with used := Function.update l.used k (l.used k ++ l.heldTags count) }

/-- Bytes arrive. The driver decodes them for the kind it dispatches to. -/
def onDeliver (count : ℕ) (l : Link) : Reaction Link Effect :=
  let effects := (l.conn.handle (.readyRead (l.chunk count))).2
  match l.conn.dispatch with
  | none => (l.arrived count, effects)
  | some k =>
    if effects.any Effect.isWrite then (wrote k (l.decoded k count), effects)
    else (l.decoded k count, effects)

/-- A request times out. -/
def onTimeout (kind : Kind) (l : Link) : Reaction Link Effect :=
  let r := l.conn.handle (.requestTimeout kind)
  ({ l with conn := r.1 }, r.2)

/-- One event. -/
def step (l : Link) : LinkEvent → Reaction Link Effect
  | .call call => l.onCall call
  | .reply frame => .silently (l.onReply frame)
  | .deliver count => l.onDeliver count
  | .timeout kind => l.onTimeout kind

/-- The machine of both. -/
def machine : Mealy Link LinkEvent Effect := ⟨step⟩

/-- The panel answers every frame once, in order, with a well-formed frame; what
it sent arrives in order. -/
def Enabled (l : Link) : LinkEvent → Prop
  | .call _ => True
  | .reply frame => WellFormed frame ∧ l.replies.length < l.written
  | .deliver count => 0 < count ∧ count ≤ l.wire.length
  | .timeout kind => (l.conn.timer kind).isSome

instance (l : Link) (e : LinkEvent) : Decidable (l.Enabled e) := by
  cases e <;> unfold Enabled <;> infer_instance

/-- The outcome of a request is computed from replies to its own frames only. -/
def FromOwnReplies (l : Link) (outcome : Effect) : Prop :=
  ∀ k ∈ outcome.outcomeKind, ∀ number ∈ l.used k, number ∈ l.own k

/-- A control request is acknowledged only after its one frame was answered, and
not with an error. -/
def AcknowledgedByPanel (l : Link) (outcome : Effect) : Prop :=
  outcome = .controlAcknowledged →
    ∃ number ∈ l.own .control, l.own .control = [number] ∧
      ∃ frame ∈ l.replies[number]?, frameCommand frame ≠ kReplyError

instance (l : Link) (outcome : Effect) : Decidable (l.FromOwnReplies outcome) :=
  inferInstanceAs (Decidable (∀ _ ∈ _, _))

instance (l : Link) (outcome : Effect) : Decidable (l.AcknowledgedByPanel outcome) :=
  inferInstanceAs (Decidable (_ → _))

/-- All outcomes of this step belong to the replies they are computed from. -/
def OutcomesOwn (l : Link) (e : LinkEvent) : Prop :=
  ∀ outcome ∈ (machine.step l e).2,
    (machine.next l e).FromOwnReplies outcome ∧ (machine.next l e).AcknowledgedByPanel outcome

instance (l : Link) (e : LinkEvent) : Decidable (l.OutcomesOwn e) :=
  inferInstanceAs (Decidable (∀ _ ∈ _, _))

/-- Replies arrive in the order the driver dispatches: a request is accepted only
while no bytes are held, and bytes arrive only as part of the reply to the last
frame of the request they go to. -/
def InTurn (l : Link) : LinkEvent → Prop
  | .call call => l.conn.Accepts call → l.conn.readBuffer = [] ∧ l.conn.socket.unread = []
  | .deliver count =>
    ∀ k ∈ l.conn.dispatch, ∀ p ∈ l.wire.take count, (l.own k).getLast? = some p.2
  | _ => True

instance (l : Link) (e : LinkEvent) : Decidable (l.InTurn e) := by
  cases e <;> unfold InTurn <;> infer_instance

/-- The driver holds the beginning of the reply of number `m`, all earlier ones
having been decoded. -/
structure AlignedAt (l : Link) (m : ℕ) (piece : List (UInt8 × ℕ)) : Prop where
  bound : m ≤ l.replies.length
  stream : piece ++ l.wire = numbered m (l.replies.drop m)
  readBuffer : piece.map Prod.fst = l.conn.readBuffer
  received : piece <:+ l.received
  unread : l.conn.socket.unread = []
  short : piece = [] ∨ ∃ frame, l.replies[m]? = some frame ∧ piece.length < frame.length

/-- The order invariant. -/
structure Inv (l : Link) : Prop where
  /-- No handshake is pending. -/
  attempt : l.conn.connectAttemptPending = false
  /-- Pending queries know which reply they wait for. -/
  stepping : Stepping l.conn
  /-- The panel sends well-formed frames. -/
  wellFormed : ∀ frame ∈ l.replies, WellFormed frame
  /-- Only replies to own frames are decoded. -/
  owned : ∀ k, ∀ number ∈ l.used k, number ∈ l.own k
  /-- A control request is one frame. -/
  control : l.conn.controlPending = true → ∃ number, l.own .control = [number]
  /-- The driver is aligned with the replies, or nothing is pending. -/
  aligned : (∃ m piece, l.AlignedAt m piece) ∨
    (l.conn.socket.unread ≠ [] ∧ l.conn.dispatch = none)

/-- The invariant holds before the first request. -/
theorem inv_init {c : C3Connection} (h : ReadyIdle c) (hbuffer : c.readBuffer = []) :
    Inv { conn := c } := by
  have hnone := dispatch_none.mp h.idle
  refine ⟨h.attempt, ?_, by simp, by simp, ?_, Or.inl ⟨0, [], ?_⟩⟩
  · constructor
    · exact fun hp => absurd hp (ne_true_of_eq_false (hnone .tableData))
    · exact fun hp => absurd hp (ne_true_of_eq_false (hnone .recordCount))
    · exact fun hp => absurd hp (ne_true_of_eq_false (hnone .realtimeLog))
  · exact fun hp => absurd hp (ne_true_of_eq_false (hnone .control))
  · exact ⟨le_rfl, rfl, hbuffer.symm, List.nil_suffix, h.unread, Or.inl rfl⟩

/-! ### One step -/

variable {l : Link}

/-- A call keeps the invariant when no bytes are held. -/
theorem inv_call (h : Inv l) {call : RequestCall} (hturn : l.InTurn (.call call)) :
    Inv (l.onCall call).1 := by
  rcases callRequest_spec call l.conn with hrefused | haccepted
  · have hhandle : l.conn.handle (.request call) = (l.conn, []) := hrefused
    have hsame : l.onCall call = (l, []) := by
      unfold onCall
      rw [hhandle]
      rfl
    rw [hsame]
    exact h
  · obtain ⟨hbuffer, hunread⟩ := hturn ⟨haccepted.ready, haccepted.fresh⟩
    obtain ⟨frame, hresult⟩ := haccepted.result
    have hwrites : (l.conn.handle (.request call)).2.any Effect.isWrite = true := by
      rw [show (l.conn.handle (.request call)).2 = _ from hresult]
      rfl
    have hwrote : (l.onCall call).1 = wrote call.kind { l with
        conn := (l.conn.handle (.request call)).1
        own := Function.update l.own call.kind []
        used := Function.update l.used call.kind [] } :=
      congrArg Prod.fst (if_pos hwrites)
    rw [hwrote]
    refine ⟨?_, haccepted.stepping h.stepping, h.wellFormed, ?_, ?_, ?_⟩
    · exact (congrArg Lifecycle.connectAttemptPending haccepted.lifecycle).trans h.attempt
    · intro k number hnumber
      by_cases hk : k = call.kind
      · subst hk
        simp [wrote] at hnumber
      · simp only [wrote, Function.update_of_ne hk] at hnumber ⊢
        exact h.owned k number hnumber
    · intro hpending
      by_cases hk : Kind.control = call.kind
      · exact ⟨l.written, by simp [wrote, hk]⟩
      · have hold : l.conn.controlPending = true := by
          have hothers : (callRequest call l.conn).1.controlPending = l.conn.controlPending :=
            haccepted.others .control hk
          rw [← hothers]
          exact hpending
        simp only [wrote, Function.update_of_ne hk]
        exact h.control hold
    · rcases h.aligned with ⟨m, piece, haligned⟩ | ⟨hheld, _⟩
      · have hsocket : (l.conn.handle (.request call)).1.socket = l.conn.socket :=
          haccepted.socket
        refine Or.inl ⟨m, piece, haligned.bound, haligned.stream, ?_, haligned.received, ?_,
          haligned.short⟩
        · exact (haligned.readBuffer.trans hbuffer).trans haccepted.readBuffer.symm
        · exact (congrArg TcpSocket.unread hsocket).trans hunread
      · exact absurd hunread hheld

/-- A reply of the panel follows on the stream. -/
theorem inv_reply (h : Inv l) {frame : QByteArray} (hframe : WellFormed frame) :
    Inv (l.onReply frame) := by
  refine ⟨h.attempt, h.stepping, ?_, h.owned, h.control, ?_⟩
  · intro f hf
    rcases List.mem_append.mp hf with hold | hnew
    · exact h.wellFormed f hold
    · rw [List.mem_singleton.mp hnew]
      exact hframe
  · rcases h.aligned with ⟨m, piece, haligned⟩ | hstuck
    · refine Or.inl ⟨m, piece, ?_, ?_, haligned.readBuffer, haligned.received, haligned.unread, ?_⟩
      · have hbound := haligned.bound
        change m ≤ (l.replies ++ [frame]).length
        rw [List.length_append]
        omega
      · have hnumber : m + (l.replies.drop m).length = l.replies.length := by
          have hbound := haligned.bound
          rw [List.length_drop]
          omega
        change piece ++ (l.wire ++ tagAll l.replies.length frame) =
          numbered m ((l.replies ++ [frame]).drop m)
        rw [List.drop_append_of_le_length haligned.bound, numbered_append, ← haligned.stream,
          List.append_assoc, hnumber, numbered, numbered, List.append_nil]
      · refine haligned.short.imp id ?_
        rintro ⟨f, hf, hlength⟩
        refine ⟨f, ?_, hlength⟩
        change (l.replies ++ [frame])[m]? = some f
        rw [List.getElem?_append_left (List.getElem?_eq_some_iff.mp hf).1, hf]
    · exact Or.inr hstuck

/-- A timeout leaves all bytes where they are. -/
theorem inv_timeout (h : Inv l) (kind : Kind) : Inv (l.onTimeout kind).1 := by
  have hspec := fireTimeout_spec kind l.conn
  have hpending : ∀ k, (fireTimeout kind l.conn).1.pending k = true → l.conn.pending k = true := by
    intro k hk
    by_cases hsame : k = kind
    · rw [hsame, hspec.pending] at hk
      cases hk
    · rwa [hspec.others k hsame] at hk
  refine ⟨?_, hspec.stepping h.stepping, h.wellFormed, h.owned, ?_, ?_⟩
  · exact (congrArg Lifecycle.connectAttemptPending hspec.lifecycle).trans h.attempt
  · exact fun hcontrol => h.control (hpending .control hcontrol)
  · rcases h.aligned with ⟨m, piece, haligned⟩ | ⟨hheld, hnone⟩
    · refine Or.inl ⟨m, piece, haligned.bound, haligned.stream, ?_, haligned.received, ?_,
        haligned.short⟩
      · exact haligned.readBuffer.trans hspec.readBuffer.symm
      · exact (congrArg TcpSocket.unread hspec.socket).trans haligned.unread
    · refine Or.inr ⟨?_, ?_⟩
      · rw [show (l.onTimeout kind).1.conn.socket = _ from hspec.socket]
        exact hheld
      · refine dispatch_none.mpr fun k => ?_
        by_contra hk
        have hold := hpending k (eq_true_of_ne_false hk)
        rw [dispatch_none.mp hnone k] at hold
        cases hold

/-- What a delivery in turn finds: the rest of the reply to the last frame of the
request the bytes go to, of which it brings a part. -/
structure Delivery (l : Link) (count : ℕ) (k : Kind) (m : ℕ) (piece : List (UInt8 × ℕ))
    (frame : QByteArray) : Prop where
  aligned : l.AlignedAt m piece
  frame_sent : l.replies[m]? = some frame
  wellFormed : WellFormed frame
  /-- The reply answers a frame of the request. -/
  own : m ∈ l.own k
  /-- All bytes held belong to it. -/
  within : piece ++ l.wire.take count <+: tagAll m frame

/-- A delivery in turn brings a part of the awaited reply. -/
theorem delivery_of_inTurn (h : Inv l) {count : ℕ} {k : Kind} (hk : l.conn.dispatch = some k)
    (henabled : l.Enabled (.deliver count)) (hturn : l.InTurn (.deliver count)) :
    ∃ m piece frame, l.Delivery count k m piece frame := by
  obtain ⟨m, piece, haligned⟩ : ∃ m piece, l.AlignedAt m piece := by
    rcases h.aligned with haligned | ⟨_, hnone⟩
    · exact haligned
    · rw [hk] at hnone
      cases hnone
  have hchunk : l.wire.take count ≠ [] := by
    obtain ⟨hpos, hle⟩ := henabled
    intro hnil
    have hlength := congrArg List.length hnil
    rw [List.length_take, List.length_nil] at hlength
    omega
  obtain ⟨i, htags⟩ : ∃ i, (l.own k).getLast? = some i ∧ ∀ p ∈ l.wire.take count, p.2 = i := by
    obtain ⟨p, hp⟩ := List.exists_mem_of_ne_nil _ hchunk
    refine ⟨p.2, hturn k hk p hp, fun q hq => ?_⟩
    have hsame := (hturn k hk q hq).symm.trans (hturn k hk p hp)
    exact Option.some.inj hsame
  -- the stream is not exhausted, so a reply of number `m` exists
  cases hdrop : l.replies.drop m with
  | nil =>
    have hstream := haligned.stream
    rw [hdrop, numbered] at hstream
    obtain ⟨_, hwire⟩ := List.append_eq_nil_iff.mp hstream
    rw [hwire, List.take_nil] at hchunk
    exact absurd rfl hchunk
  | cons frame later =>
    have hframe : l.replies[m]? = some frame := by
      have hhead : (l.replies.drop m)[0]? = some frame := by rw [hdrop]; rfl
      rwa [List.getElem?_drop, Nat.add_zero] at hhead
    have hwell : WellFormed frame := h.wellFormed frame (List.mem_of_getElem? hframe)
    have hshort : piece.length < frame.length := by
      rcases haligned.short with hnil | ⟨f, hf, hlength⟩
      · have hge := hwell.complete.length_ge
        rw [hnil, List.length_nil]
        omega
      · rw [hframe] at hf
        rwa [Option.some.inj hf]
    have hstream := haligned.stream
    rw [hdrop, ← List.take_append_drop count l.wire] at hstream
    obtain ⟨rfl, hwithin⟩ := chunk_within hstream hshort hchunk htags.2
    exact ⟨i, piece, frame, haligned, hframe, hwell, List.mem_of_getLast? htags.1, hwithin⟩

/-- Only replies to the request itself are decoded for it. -/
theorem heldTags_own {count : ℕ} {k : Kind} {m : ℕ} {piece : List (UInt8 × ℕ)} {frame : QByteArray}
    (hdelivery : l.Delivery count k m piece frame) : ∀ number ∈ l.heldTags count, number = m := by
  have haligned := hdelivery.aligned
  have hheld : l.heldTags count = (piece ++ l.wire.take count).map Prod.snd := by
    refine lastTags_of_suffix ?_ ?_
    · obtain ⟨older, holder⟩ := haligned.received
      exact ⟨older, by rw [← List.append_assoc, holder]⟩
    · rw [← haligned.readBuffer, haligned.unread, List.length_map, List.length_nil,
        List.length_append]
      omega
  intro number hnumber
  rw [hheld] at hnumber
  obtain ⟨p, hp, rfl⟩ := List.mem_map.mp hnumber
  exact (mem_tagAll.mp (hdelivery.within.mem hp)).2

/-- The bytes held once a chunk has arrived. -/
theorem held_bytes {count m : ℕ} {piece : List (UInt8 × ℕ)} (haligned : l.AlignedAt m piece) :
    l.conn.readBuffer ++ (l.conn.socket.receive (l.chunk count)).unread =
      (piece ++ l.wire.take count).map Prod.fst := by
  rw [TcpSocket.receive, haligned.unread, List.nil_append, ← haligned.readBuffer, List.map_append]
  rfl

/-- With nothing pending, a delivery stays in the socket. -/
theorem deliver_idle (h : Inv l) (count : ℕ) (hk : l.conn.dispatch = none) :
    l.conn.handle (.readyRead (l.chunk count)) =
      ({ l.conn with socket := l.conn.socket.receive (l.chunk count) }, []) :=
  onSocketReadyRead_idle h.attempt hk

/-- While the reply is incomplete, its bytes are read and kept. -/
theorem deliver_incomplete (h : Inv l) {count : ℕ} {k : Kind} (hk : l.conn.dispatch = some k)
    (hPartial : Partial
      (l.conn.readBuffer ++ (l.conn.socket.receive (l.chunk count)).unread)) :
    l.conn.handle (.readyRead (l.chunk count)) =
      (readAll { l.conn with socket := l.conn.socket.receive (l.chunk count) }, []) :=
  onSocketReadyRead_ofPartial (c := { l.conn with
    socket := l.conn.socket.receive (l.chunk count) }) h.attempt hk
    ⟨h.stepping.1, h.stepping.2, h.stepping.3⟩ hPartial

/-- A complete reply is answered. -/
theorem deliver_complete (h : Inv l) {count : ℕ} {k : Kind} (hk : l.conn.dispatch = some k)
    (hcomplete : ¬ Partial
      (l.conn.readBuffer ++ (l.conn.socket.receive (l.chunk count)).unread)) :
    Answered k { l.conn with socket := l.conn.socket.receive (l.chunk count) }
      (l.conn.handle (.readyRead (l.chunk count))) :=
  onSocketReadyRead_complete (c := { l.conn with
    socket := l.conn.socket.receive (l.chunk count) }) h.attempt hk
    ⟨h.stepping.1, h.stepping.2, h.stepping.3⟩ hcomplete

/-- The driver stays aligned: it has read a longer beginning of the reply, or all of it. -/
theorem aligned_decoded (h : Inv l) {count : ℕ} {k : Kind} {m : ℕ} {piece : List (UInt8 × ℕ)}
    {frame : QByteArray} (hk : l.conn.dispatch = some k)
    (hdelivery : l.Delivery count k m piece frame) :
    ∃ m' piece', (l.decoded k count).AlignedAt m' piece' := by
  have haligned := hdelivery.aligned
  have hheld : l.conn.readBuffer ++ (l.conn.socket.receive (l.chunk count)).unread =
      (piece ++ l.wire.take count).map Prod.fst := held_bytes haligned
  have hPrefix : (piece ++ l.wire.take count).map Prod.fst <+: frame := by
    have hmap := hdelivery.within.map Prod.fst
    rwa [tagAll_fst] at hmap
  have hstream : piece ++ l.wire.take count ++ l.wire.drop count =
      numbered m (l.replies.drop m) := by
    rw [List.append_assoc, List.take_append_drop, haligned.stream]
  by_cases hshort : (piece ++ l.wire.take count).length < frame.length
  · have hPartial : Partial
        (l.conn.readBuffer ++ (l.conn.socket.receive (l.chunk count)).unread) := by
      rw [hheld]
      refine hdelivery.wellFormed.complete.partial_ofPrefix hPrefix ?_
      rwa [List.length_map]
    have hconn : (l.decoded k count).conn =
        readAll { l.conn with socket := l.conn.socket.receive (l.chunk count) } :=
      congrArg Prod.fst (deliver_incomplete h hk hPartial)
    refine ⟨m, piece ++ l.wire.take count, haligned.bound, hstream, ?_, ?_, ?_, ?_⟩
    · rw [hconn]
      exact hheld.symm
    · obtain ⟨older, holder⟩ := haligned.received
      refine ⟨older, ?_⟩
      rw [← List.append_assoc, holder]
      rfl
    · rw [hconn]
      rfl
    · exact Or.inr ⟨frame, hdelivery.frame_sent, hshort⟩
  · have hwhole : piece ++ l.wire.take count = tagAll m frame := by
      refine hdelivery.within.eq_of_length_le ?_
      rw [tagAll_length]
      omega
    have hcomplete : ¬ Partial
        (l.conn.readBuffer ++ (l.conn.socket.receive (l.chunk count)).unread) := by
      rw [hheld, hwhole, tagAll_fst]
      exact hdelivery.wellFormed.complete.notPartial
    have hanswered := deliver_complete h hk hcomplete
    obtain ⟨hm, hget⟩ := List.getElem?_eq_some_iff.mp hdelivery.frame_sent
    refine ⟨m + 1, [], hm, ?_, hanswered.readBuffer.symm, List.nil_suffix, hanswered.unread,
      Or.inl rfl⟩
    rw [hwhole, List.drop_eq_getElem_cons hm, hget, numbered] at hstream
    exact List.append_cancel_left hstream

/-- What the driver decodes for a request keeps the invariant. -/
theorem inv_decoded (h : Inv l) {count : ℕ} {k : Kind} {m : ℕ} {piece : List (UInt8 × ℕ)}
    {frame : QByteArray} (hk : l.conn.dispatch = some k)
    (hdelivery : l.Delivery count k m piece frame) : Inv (l.decoded k count) := by
  have hspec : (l.decoded k count).conn.connectAttemptPending = false ∧
      Stepping (l.decoded k count).conn ∧
      ((l.decoded k count).conn.controlPending = true → l.conn.controlPending = true) := by
    by_cases hPartial : Partial
      (l.conn.readBuffer ++ (l.conn.socket.receive (l.chunk count)).unread)
    · have hconn : (l.decoded k count).conn =
          readAll { l.conn with socket := l.conn.socket.receive (l.chunk count) } :=
        congrArg Prod.fst (deliver_incomplete h hk hPartial)
      rw [hconn]
      exact ⟨h.attempt, ⟨h.stepping.1, h.stepping.2, h.stepping.3⟩, id⟩
    · have hanswered := deliver_complete h hk hPartial
      refine ⟨?_, hanswered.stepping, ?_⟩
      · exact (congrArg Lifecycle.connectAttemptPending hanswered.lifecycle).trans h.attempt
      · intro hcontrol
        by_cases hsame : k = .control
        · exact dispatch_pending (hsame ▸ hk)
        · have hothers := hanswered.others .control (Ne.symm hsame)
          exact hothers.symm.trans hcontrol
  refine ⟨hspec.1, hspec.2.1, h.wellFormed, ?_, fun hcontrol => h.control (hspec.2.2 hcontrol),
    Or.inl (aligned_decoded h hk hdelivery)⟩
  intro j number hnumber
  change number ∈ Function.update l.used k (l.used k ++ l.heldTags count) j at hnumber
  by_cases hj : j = k
  · subst hj
    rw [Function.update_self] at hnumber
    rcases List.mem_append.mp hnumber with hold | hnew
    · exact h.owned j number hold
    · rw [heldTags_own hdelivery number hnew]
      exact hdelivery.own
  · rw [Function.update_of_ne hj] at hnumber
    exact h.owned j number hnumber

/-- A further frame of a request other than a control request keeps the invariant. -/
theorem inv_wrote (h : Inv l) {k : Kind} (hk : k ≠ .control) : Inv (wrote k l) := by
  refine ⟨h.attempt, h.stepping, h.wellFormed, ?_, ?_, ?_⟩
  · intro j number hnumber
    have hold := h.owned j number hnumber
    by_cases hj : j = k
    · subst hj
      simp [wrote, hold]
    · simpa [wrote, Function.update_of_ne hj] using hold
  · intro hcontrol
    simpa [wrote, Function.update_of_ne hk.symm] using h.control hcontrol
  · exact h.aligned.imp
      (fun ⟨m, piece, ha⟩ => ⟨m, piece, ha.1, ha.2, ha.3, ha.4, ha.5, ha.6⟩) id

/-- The effects of a delivery that goes to a control request: an acknowledgement
only if the panel did not answer with an error. -/
theorem deliver_control (h : Inv l) {count m : ℕ} {piece : List (UInt8 × ℕ)} {frame : QByteArray}
    (hk : l.conn.dispatch = some .control) (hdelivery : l.Delivery count .control m piece frame) :
    (∀ effect ∈ (l.conn.handle (.readyRead (l.chunk count))).2, effect.isWrite = false) ∧
      (.controlAcknowledged ∈ (l.conn.handle (.readyRead (l.chunk count))).2 →
        frameCommand frame ≠ kReplyError) := by
  let c : C3Connection := { l.conn with socket := l.conn.socket.receive (l.chunk count) }
  have hheld : c.readBuffer ++ c.socket.unread = (piece ++ l.wire.take count).map Prod.fst :=
    held_bytes hdelivery.aligned
  have hPrefix : c.readBuffer ++ c.socket.unread <+: frame := by
    have hmap := hdelivery.within.map Prod.fst
    rwa [tagAll_fst, ← hheld] at hmap
  by_cases hPartial : Partial (c.readBuffer ++ c.socket.unread)
  · have hnothing : (l.conn.handle (.readyRead (l.chunk count))).2 = [] :=
      congrArg Prod.snd (deliver_incomplete h hk hPartial)
    rw [hnothing]
    exact ⟨by simp, by simp⟩
  · have hwhole : c.readBuffer ++ c.socket.unread = frame := by
      refine hPrefix.eq_of_length_le (Nat.le_of_not_lt fun hshort => hPartial ?_)
      exact hdelivery.wellFormed.complete.partial_ofPrefix hPrefix hshort
    have heffects : (l.conn.handle (.readyRead (l.chunk count))).2 =
        [if decodeGenericReply frame = .ok then .controlAcknowledged
          else .controlFailed "CONTROL command failed"] := by
      rw [← hwhole]
      exact onSocketReadyRead_control (c := c) h.attempt hk hPartial
    rw [heffects]
    constructor
    · intro effect heffect
      rw [List.mem_singleton.mp heffect]
      split_ifs <;> rfl
    · intro hacknowledged
      have hok : decodeGenericReply frame = .ok := by
        by_contra hbad
        rw [if_neg hbad] at hacknowledged
        simp at hacknowledged
      rw [frameCommand_of_ok hok]
      decide

/-- A delivery in turn keeps the invariant. -/
theorem inv_deliver (h : Inv l) {count : ℕ} (henabled : l.Enabled (.deliver count))
    (hturn : l.InTurn (.deliver count)) : Inv (l.onDeliver count).1 := by
  cases hk : l.conn.dispatch with
  | none =>
    have hresult : (l.onDeliver count).1 = l.arrived count := by
      unfold onDeliver
      rw [hk]
    have hconn : (l.arrived count).conn =
        { l.conn with socket := l.conn.socket.receive (l.chunk count) } :=
      congrArg Prod.fst (deliver_idle h count hk)
    rw [hresult]
    refine ⟨?_, ?_, h.wellFormed, h.owned, ?_, Or.inr ⟨?_, ?_⟩⟩
    · rw [hconn]
      exact h.attempt
    · rw [hconn]
      exact ⟨h.stepping.1, h.stepping.2, h.stepping.3⟩
    · rw [hconn]
      exact h.control
    · -- the chunk stays in the socket
      rw [hconn]
      obtain ⟨hpos, hle⟩ := henabled
      refine List.ne_nil_of_length_pos ?_
      change 0 < (l.conn.socket.unread ++ (l.wire.take count).map Prod.fst).length
      rw [List.length_append, List.length_map, List.length_take]
      omega
    · rw [hconn]
      exact hk
  | some k =>
    obtain ⟨m, piece, frame, hdelivery⟩ := delivery_of_inTurn h hk henabled hturn
    have hdecoded := inv_decoded h hk hdelivery
    unfold onDeliver
    rw [hk]
    dsimp only
    split_ifs with hwrites
    · refine inv_wrote hdecoded ?_
      rintro rfl
      obtain ⟨effect, heffect, hwrite⟩ := List.any_eq_true.mp hwrites
      rw [(deliver_control h hk hdelivery).1 effect heffect] at hwrite
      cases hwrite
    · exact hdecoded

/-- A step in turn keeps the invariant. -/
theorem inv_next {e : LinkEvent} (h : Inv l) (henabled : l.Enabled e) (hturn : l.InTurn e) :
    Inv (machine.next l e) := by
  cases e with
  | call call => exact inv_call h hturn
  | reply frame => exact inv_reply h henabled.1
  | deliver count => exact inv_deliver h henabled hturn
  | timeout kind => exact inv_timeout h kind

/-- A delivery in turn acknowledges a control request only if the panel accepted it. -/
theorem acknowledged_deliver (h : Inv l) {count : ℕ} (henabled : l.Enabled (.deliver count))
    (hturn : l.InTurn (.deliver count))
    (hacknowledged : .controlAcknowledged ∈ (l.onDeliver count).2) :
    (l.onDeliver count).1.AcknowledgedByPanel .controlAcknowledged := by
  intro _
  cases hk : l.conn.dispatch with
  | none =>
    have heffects : (l.onDeliver count).2 = [] := by
      unfold onDeliver
      rw [hk]
      exact congrArg Prod.snd (deliver_idle h count hk)
    rw [heffects] at hacknowledged
    cases hacknowledged
  | some k =>
    obtain ⟨m, piece, frame, hdelivery⟩ := delivery_of_inTurn h hk henabled hturn
    have heffects : (l.onDeliver count).2 = (l.conn.handle (.readyRead (l.chunk count))).2 := by
      unfold onDeliver
      rw [hk]
      dsimp only
      split_ifs <;> rfl
    rw [heffects] at hacknowledged
    have hcontrol : k = .control := by
      have hstepping : Stepping { l.conn with socket := l.conn.socket.receive (l.chunk count) } :=
        ⟨h.stepping.1, h.stepping.2, h.stepping.3⟩
      rcases onSocketReadyRead_effects (c := { l.conn with
          socket := l.conn.socket.receive (l.chunk count) }) h.attempt hk hstepping _ hacknowledged
        with hwrite | hkind
      · cases hwrite
      · exact (Option.some.inj hkind).symm
    subst hcontrol
    obtain ⟨hnowrite, haccepted⟩ := deliver_control h hk hdelivery
    have hwrites : ¬ (l.conn.handle (.readyRead (l.chunk count))).2.any Effect.isWrite = true := by
      intro hany
      obtain ⟨effect, heffect, hwrite⟩ := List.any_eq_true.mp hany
      rw [hnowrite effect heffect] at hwrite
      cases hwrite
    have hstate : (l.onDeliver count).1 = l.decoded .control count := by
      unfold onDeliver
      rw [hk]
      exact congrArg Prod.fst (if_neg hwrites)
    obtain ⟨number, hnumber⟩ := h.control (dispatch_pending hk)
    have hsame : m = number := by
      have hown := hdelivery.own
      rw [hnumber] at hown
      exact List.mem_singleton.mp hown
    rw [hstate]
    refine ⟨number, ?_, hnumber, frame, ?_, haccepted hacknowledged⟩
    · change number ∈ l.own .control
      rw [hnumber]
      exact List.mem_singleton_self number
    · rw [← hsame]
      exact hdelivery.frame_sent

/-- Under the invariant, outcomes belong to the replies they are computed from. -/
theorem Inv.outcomesOwn {e : LinkEvent} (h : Inv l) (henabled : l.Enabled e) (hturn : l.InTurn e) :
    l.OutcomesOwn e := by
  intro outcome houtcome
  refine ⟨fun k _ => (inv_next h henabled hturn).owned k, ?_⟩
  intro hacknowledged
  subst hacknowledged
  cases e with
  | call call =>
    exfalso
    have heffects : (machine.step l (.call call)).2 = (callRequest call l.conn).2 := by
      change (l.onCall call).2 = (l.conn.handle (.request call)).2
      unfold onCall
      dsimp only
      split_ifs <;> rfl
    rw [heffects] at houtcome
    rcases callRequest_spec call l.conn with hrefused | haccepted
    · rw [hrefused] at houtcome
      cases houtcome
    · obtain ⟨frame, hresult⟩ := haccepted.result
      rw [hresult] at houtcome
      simp at houtcome
  | reply frame => cases houtcome
  | deliver count => exact acknowledged_deliver h henabled hturn houtcome rfl
  | timeout kind =>
    obtain ⟨failure, hresult, _, hnot⟩ := (fireTimeout_spec kind l.conn).result
    have heffects : (machine.step l (.timeout kind)).2 = (fireTimeout kind l.conn).2 := rfl
    rw [heffects, hresult] at houtcome
    exact absurd (List.mem_singleton.mp houtcome).symm hnot

/-- **Outcomes belong to their replies.** In every run on a ready connection in
which replies arrive in the order the driver dispatches, each outcome of a
request is computed from replies to its own frames only, and a control request
that the panel answered with an error is not acknowledged. -/
theorem outcomesOwn_of_inTurn (c : C3Connection) (hready : ReadyIdle c)
    (hbuffer : c.readBuffer = []) (events : List LinkEvent)
    (henabled : machine.EachStep Enabled { conn := c } events)
    (hturn : machine.EachStep InTurn { conn := c } events) :
    machine.EachStep OutcomesOwn { conn := c } events :=
  Mealy.eachStep_of_invariant (fun _ _ h hP => inv_next h hP.1 hP.2)
    (fun _ _ h hP => h.outcomesOwn hP.1 hP.2) (inv_init hready hbuffer)
    (henabled.and hturn)

/-- A log request and a control request that wait for their replies at the same time. The replies
come in the order in which the driver looks for them, the first in two chunks. -/
theorem requestsInTurn_outcomesOwn :
    machine.EachStep OutcomesOwn { conn := sessionOpen }
      [.call .requestRealtimeLog, .call (.control .cancelAlarm),
        .reply (encodeFrame kReplyOk 1 0 [] true), .reply (encodeFrame kReplyOk 1 0 [] true),
        .deliver 5, .deliver 7, .deliver 12] :=
  outcomesOwn_of_inTurn sessionOpen (by decide +kernel) (by decide +kernel) _ (by decide +kernel)
    (by decide +kernel)

/-- A realtime log request while a control request is pending. The panel answers
the control request with an error and the log request with data. -/
def crossedRun : List LinkEvent :=
  [.call (.control .cancelAlarm), .call .requestRealtimeLog,
    .reply (encodeFrame kReplyError 1 0 [] true), .reply (encodeFrame kReplyOk 1 0 [] true),
    .deliver 12, .deliver 12]

/-- The driver takes the error for the reply to the log request, and acknowledges
the control request with the reply to the log request. -/
theorem crossedRun_outcomesForeign :
    ¬ ∀ (c : C3Connection) (events : List LinkEvent), ReadyIdle c → c.readBuffer = [] →
      machine.EachStep Enabled { conn := c } events →
      machine.EachStep OutcomesOwn { conn := c } events := by
  intro h
  exact absurd (h sessionOpen crossedRun (by decide +kernel) (by decide +kernel)
    (by decide +kernel)) (by decide +kernel)

end Link

end QtAppBase.C3
