import QtAppBase.Mq.Connection
import QtAppBase.Library.Provenance
import Mathlib.Tactic.Common

/-!
# Whose bytes the AMQP parser is given

The socket is connected again and again, and each time a new `AMQP::Connection`
is made, but the input buffer belongs to the driver and outlives them. The
machine here numbers the TCP connections, records every received byte with the
number of the connection it arrived on, and remembers for which connection the
current `AMQP::Connection` was made.

Callbacks the library makes from inside `parse` touch neither the buffer nor the
`AMQP::Connection`, so they are taken as events of their own.
-/

namespace QtAppBase.Mq

open Library QtAppBase.Core Qt

variable {α : Type*} (lib : AmqpLibrary α)

/-- An `MqConnection` with the record of where its bytes came from. -/
structure Tracked (α : Type*) where
  conn : MqConnection α := {}
  /-- The number of TCP connections made so far, which numbers the current one. -/
  epoch : ℕ := 0
  /-- The TCP connection for which the last `AMQP::Connection` was made. -/
  owner : ℕ := 0
  /-- Every byte received, with the TCP connection it arrived on. -/
  received : List (UInt8 × ℕ) := []

namespace Tracked

/-- Number the TCP connections. -/
def nextEpoch (t : Tracked α) : Event → ℕ
  | .socketConnected => t.epoch + 1
  | _ => t.epoch

/-- A new `AMQP::Connection` is made when the socket connects, and only then. -/
def nextOwner (t : Tracked α) : Event → ℕ
  | .socketConnected => t.epoch + 1
  | _ => t.owner

/-- Record what arrives. -/
def nextReceived (t : Tracked α) : Event → List (UInt8 × ℕ)
  | .readyRead chunk => t.received ++ tagAll t.epoch chunk
  | _ => t.received

/-- The tracked machine. -/
def machine : Mealy (Tracked α) Event Effect where
  step t e :=
    let r := t.conn.handle lib e
    (⟨r.1, t.nextEpoch e, t.nextOwner e, t.nextReceived e⟩, r.2)

/-- The events come from the socket, the timers and the library as they can. -/
def Enabled (t : Tracked α) (e : Event) : Prop := t.conn.Enabled e

/-- Everything this step hands to the parser was received on the TCP connection
for which its `AMQP::Connection` was made. -/
def ParsesOwnBytes (t : Tracked α) (e : Event) : Prop :=
  ∀ data, .parse data ∈ ((machine lib).step t e).2 →
    Provenance ((machine lib).next t e).received data (· = ((machine lib).next t e).owner)

/-- When the socket connects, no bytes of an earlier connection are buffered. -/
def ConnectsWithEmptyBuffer (t : Tracked α) : Event → Prop
  | .socketConnected => t.conn.inputBuffer = []
  | _ => True

/-- The ownership invariant: the buffered bytes came from the current TCP
connection, and so did the `AMQP::Connection`. -/
structure Inv (t : Tracked α) : Prop where
  /-- Every `readyRead` reads all there is. -/
  unread_nil : t.conn.socket.unread = []
  /-- The buffer holds bytes of the current TCP connection. -/
  buffered : Provenance t.received t.conn.inputBuffer (· = t.epoch)
  /-- An existing `AMQP::Connection` was made for the current TCP connection. -/
  owned : t.conn.connection.isSome → t.owner = t.epoch

/-- A new object has received nothing. -/
theorem inv_init : Inv ({} : Tracked α) :=
  ⟨rfl, Provenance.nil _ _, by simp⟩

end Tracked

namespace MqConnection

/-- An operation on `state_` hands nothing to the parser. -/
theorem onState_parse (f : ConnectionState → Reaction ConnectionState Signal)
    (c : MqConnection α) (data : QByteArray) : .parse data ∉ (onState f c).2 := by
  intro hmem
  obtain ⟨signal, _, hsignal⟩ := List.mem_filterMap.mp hmem
  cases signal <;> simp [forward] at hsignal

/-- What an event that neither connects the socket nor brings bytes leaves
behind: the buffer and the parser are kept or dropped, and nothing is parsed. -/
structure Untouched (before after : MqConnection α) (effects : List Effect) : Prop where
  /-- The buffer is kept or cleared. -/
  inputBuffer : after.inputBuffer = before.inputBuffer ∨ after.inputBuffer = []
  /-- The parser is kept or dropped. -/
  connection : after.connection = before.connection ∨ after.connection = none
  /-- Unread bytes stay or are discarded. -/
  unread : after.socket.unread = before.socket.unread ∨ after.socket.unread = []
  /-- Nothing is handed to the parser. -/
  parse : ∀ data, .parse data ∉ effects

/-- Starting to connect keeps the unread bytes or discards them. -/
theorem unread_connectToHost (launch : Launch) (s : TcpSocket) :
    (s.connectToHost launch).unread = s.unread ∨ (s.connectToHost launch).unread = [] := by
  unfold TcpSocket.connectToHost
  split
  · cases launch <;> exact Or.inr rfl
  · exact Or.inl rfl

/-- The connect callable touches neither the buffer nor the parser. -/
theorem connectFn_untouched (launch : Launch) (c : MqConnection α) :
    Untouched c (c.connectFn launch) [] := by
  have hunread := unread_connectToHost launch c.socket
  cases launch with
  | started => exact ⟨Or.inl rfl, Or.inl rfl, hunread, by simp⟩
  | failed error => exact ⟨Or.inl rfl, Or.inl rfl, hunread, by simp⟩

/-- The error handler touches neither the buffer nor the parser. -/
theorem onSocketError_untouched (error : QString) (dropped : Bool) (c : MqConnection α) :
    Untouched c (c.onSocketError error dropped).1 (c.onSocketError error dropped).2 := by
  have hunread : (if dropped then c.socket.drop else c.socket).unread = c.socket.unread := by
    cases dropped <;> rfl
  unfold onSocketError
  dsimp only
  split
  · exact ⟨Or.inl rfl, Or.inl rfl, Or.inl hunread, onState_parse _ _⟩
  · exact ⟨Or.inl rfl, Or.inl rfl, Or.inl hunread, by simp⟩

/-- A retry goes through the disconnect and connect callables, and so touches
neither the buffer nor the parser. -/
theorem onReconnectTick_untouched (launch : Launch) (c : MqConnection α) :
    Untouched c (c.onReconnectTick launch).1 (c.onReconnectTick launch).2 := by
  have hdisconnected : Untouched c (if c.state.disconnect then c.disconnectFn else c) [] := by
    split
    · exact ⟨Or.inl rfl, Or.inl rfl, Or.inr rfl, by simp⟩
    · exact ⟨Or.inl rfl, Or.inl rfl, Or.inl rfl, by simp⟩
  unfold onReconnectTick
  generalize (if c.state.disconnect then c.disconnectFn else c) = d at hdisconnected ⊢
  have hconnecting : Untouched d (if d.state.connect then d.connectFn launch else d) [] := by
    split
    · exact connectFn_untouched launch d
    · exact ⟨Or.inl rfl, Or.inl rfl, Or.inl rfl, by simp⟩
  dsimp only
  generalize (if d.state.connect then d.connectFn launch else d) = k at hconnecting ⊢
  refine ⟨?_, ?_, ?_, onState_parse _ _⟩
  · rcases hconnecting.inputBuffer with h | h
    · exact hdisconnected.inputBuffer.imp h.trans h.trans
    · exact Or.inr h
  · rcases hconnecting.connection with h | h
    · exact hdisconnected.connection.imp h.trans h.trans
    · exact Or.inr h
  · rcases hconnecting.unread with h | h
    · exact hdisconnected.unread.imp h.trans h.trans
    · exact Or.inr h

/-- Only a connecting socket and arriving bytes touch the buffer or the parser. -/
theorem handle_untouched (c : MqConnection α) (e : Event) (hconnected : e ≠ .socketConnected)
    (hread : ∀ chunk, e ≠ .readyRead chunk) :
    Untouched c (c.handle lib e).1 (c.handle lib e).2 := by
  cases e with
  | connectToHost host port vhost user password launch =>
    let cleared : MqConnection α := { c with
      heartbeatTimer := none, connection := none, inputBuffer := [], ready := false, error := ""
      host := host, port := port, vhost := vhost, user := user, password := password
      state := c.state.setHandlers true true true true }
    have hconnecting := connectFn_untouched launch cleared
    refine ⟨Or.inr ?_, Or.inr ?_, hconnecting.unread, onState_parse _ _⟩
    · exact hconnecting.inputBuffer.elim id id
    · exact hconnecting.connection.elim id id
  | socketConnected => exact absurd rfl hconnected
  | readyRead chunk => exact absurd rfl (hread chunk)
  | socketError error dropped => exact onSocketError_untouched error dropped c
  | socketDisconnected => exact ⟨Or.inl rfl, Or.inl rfl, Or.inl rfl, by simp [handle]⟩
  | heartbeatTimeout =>
    change Untouched c c.onHeartbeatTimeout.1 c.onHeartbeatTimeout.2
    unfold onHeartbeatTimeout
    split <;> exact ⟨Or.inl rfl, Or.inl rfl, Or.inl rfl, by simp⟩
  | amqpData data => exact ⟨Or.inl rfl, Or.inl rfl, Or.inl rfl, by simp [handle]⟩
  | amqpReady => exact ⟨Or.inl rfl, Or.inl rfl, Or.inl rfl, onState_parse _ _⟩
  | amqpError message =>
    change Untouched c (c.onError message).1 (c.onError message).2
    unfold onError
    split
    · exact ⟨Or.inl rfl, Or.inl rfl, Or.inl rfl, onState_parse _ _⟩
    · exact ⟨Or.inl rfl, Or.inl rfl, Or.inl rfl, by simp⟩
  | amqpClosed =>
    refine ⟨Or.inl rfl, Or.inl rfl, Or.inl ?_, by simp [handle]⟩
    change c.socket.disconnectFromHost.unread = c.socket.unread
    unfold TcpSocket.disconnectFromHost
    split <;> rfl
  | amqpNegotiate interval => exact ⟨Or.inl rfl, Or.inl rfl, Or.inl rfl, by simp [handle]⟩
  | heartbeatTick => exact ⟨Or.inl rfl, Or.inl rfl, Or.inl rfl, onState_parse _ _⟩
  | reconnectTick launch => exact onReconnectTick_untouched launch c

/-- Reading hands the parser ends of the buffered bytes only, keeps such an end
in the buffer, and neither makes nor drops the parser. -/
theorem readSocket_suffix (c : MqConnection α) :
    (readSocket lib c).1.inputBuffer <:+ c.inputBuffer ++ c.socket.unread ∧
      (readSocket lib c).1.connection.isSome = c.connection.isSome ∧
      ∀ data, .parse data ∈ (readSocket lib c).2 →
        data <:+ c.inputBuffer ++ c.socket.unread ∧ c.connection.isSome := by
  let motive : Option α × List Effect → QByteArray → Prop := fun s buffer =>
    buffer <:+ c.inputBuffer ++ c.socket.unread ∧ s.1.isSome = c.connection.isSome ∧
      ∀ data, .parse data ∈ s.2 →
        data <:+ c.inputBuffer ++ c.socket.unread ∧ c.connection.isSome
  -- one call of the consume function cuts the buffer at the front
  have hcall : ∀ s buffer, motive s buffer →
      motive (consume lib s buffer).2 (buffer.drop (consume lib s buffer).1) := by
    rintro ⟨parser, effects⟩ buffer ⟨hbuffer, hsome, heffects⟩
    refine ⟨(List.drop_suffix _ _).trans hbuffer, ?_, ?_⟩
    · cases parser <;> exact hsome
    · cases parser with
      | none => exact heffects
      | some a =>
        intro data hdata
        rcases List.mem_append.mp hdata with hdata | hdata
        · exact heffects data hdata
        · obtain rfl : data = buffer := by simpa using hdata
          exact ⟨hbuffer, by rw [← hsome]; rfl⟩
  have hstart : motive (c.connection, []) (c.inputBuffer ++ c.socket.unread) :=
    ⟨List.suffix_refl _, rfl, by simp⟩
  exact feedLoop_induct (motive := motive) hcall _ hstart

end MqConnection

namespace Tracked

open MqConnection

variable {lib} {t : Tracked α}

/-- Arriving bytes are recorded and buffered alike. -/
theorem arriving (h : Inv t) (chunk : QByteArray) :
    Provenance (t.received ++ tagAll t.epoch chunk)
      (t.conn.inputBuffer ++ (t.conn.socket.receive chunk).unread) (· = t.epoch) := by
  have hunread : (t.conn.socket.receive chunk).unread = chunk := by
    simp [TcpSocket.receive, h.unread_nil]
  have harrived : Provenance (t.received ++ tagAll t.epoch chunk)
      (t.conn.inputBuffer ++ (tagAll t.epoch chunk).map Prod.fst) (· = t.epoch) :=
    h.buffered.append (fun p hp => (mem_tagAll.mp hp).2)
  rw [tagAll_fst] at harrived
  rwa [hunread]

/-- A step that connects with an empty buffer, or does not connect, keeps the invariant. -/
theorem inv_next {e : Event} (h : Inv t) (hempty : t.ConnectsWithEmptyBuffer e) :
    Inv ((machine lib).next t e) := by
  by_cases hconnected : e = .socketConnected
  · subst hconnected
    have hbuffer : t.conn.inputBuffer = [] := hempty
    refine ⟨h.unread_nil, ?_, fun _ => rfl⟩
    change Provenance t.received t.conn.inputBuffer (· = t.epoch + 1)
    rw [hbuffer]
    exact Provenance.nil _ _
  by_cases hread : ∃ chunk, e = .readyRead chunk
  · obtain ⟨chunk, rfl⟩ := hread
    obtain ⟨hsuffix, hsome, _⟩ :=
      readSocket_suffix lib { t.conn with socket := t.conn.socket.receive chunk }
    refine ⟨rfl, (arriving h chunk).suffix hsuffix, ?_⟩
    intro hconnection
    exact h.owned (hsome ▸ hconnection)
  · have hread : ∀ chunk, e ≠ .readyRead chunk := fun chunk he => hread ⟨chunk, he⟩
    have hkept := handle_untouched lib t.conn e hconnected hread
    have hepoch : t.nextEpoch e = t.epoch := by cases e <;> simp_all [nextEpoch]
    have howner : t.nextOwner e = t.owner := by cases e <;> simp_all [nextOwner]
    have hreceived : t.nextReceived e = t.received := by cases e <;> simp_all [nextReceived]
    refine ⟨?_, ?_, ?_⟩
    · exact hkept.unread.elim (fun hsame => hsame.trans h.unread_nil) id
    · change Provenance (t.nextReceived e) _ (· = t.nextEpoch e)
      rw [hreceived, hepoch]
      rcases hkept.inputBuffer with hsame | hnil
      · exact hsame ▸ h.buffered
      · exact hnil ▸ Provenance.nil _ _
    · intro hconnection
      change t.nextOwner e = t.nextEpoch e
      rw [howner, hepoch]
      rcases hkept.connection with hsame | hnone
      · exact h.owned (hsame ▸ hconnection)
      · simp_all [machine, Mealy.next]

/-- Under the invariant, what is handed to the parser is its own. -/
theorem Inv.parsesOwnBytes (h : Inv t) (e : Event) : t.ParsesOwnBytes lib e := by
  intro data hdata
  by_cases hread : ∃ chunk, e = .readyRead chunk
  · obtain ⟨chunk, rfl⟩ := hread
    obtain ⟨hsuffix, hsome⟩ :=
      (readSocket_suffix lib { t.conn with socket := t.conn.socket.receive chunk }).2.2 data hdata
    have howner : t.owner = t.epoch := h.owned hsome
    change Provenance (t.received ++ tagAll t.epoch chunk) data (· = t.owner)
    rw [howner]
    exact (arriving h chunk).suffix hsuffix
  · by_cases hconnected : e = .socketConnected
    · subst hconnected
      simp [machine, handle] at hdata
    · have hkept := handle_untouched lib t.conn e hconnected (fun chunk he => hread ⟨chunk, he⟩)
      exact absurd hdata (hkept.parse data)

/-- **The parser is given its own bytes.** In every run in which the socket
never connects while bytes are still buffered, everything handed to an
`AMQP::Connection` was received on the TCP connection it was made for. -/
theorem parsesOwnBytes_of_emptyBuffer (lib : AmqpLibrary α) (events : List Event)
    (hempty : (machine lib).EachStep ConnectsWithEmptyBuffer {} events) :
    (machine lib).EachStep (ParsesOwnBytes lib) {} events :=
  Mealy.eachStep_of_invariant (I := Inv) (fun _ _ h hP => inv_next h hP)
    (fun _ e h _ => h.parsesOwnBytes e) inv_init hempty

end Tracked

/-- The bytes of the complete AMQP frames at the front of the data: a type, two
channel bytes, a payload size in four, the payload, and an end byte. -/
def completeFrames : ℕ → QByteArray → ℕ
  | fuel + 1, _ :: _ :: _ :: a :: b :: c :: d :: rest =>
    let size := ((a.toNat * 256 + b.toNat) * 256 + c.toNat) * 256 + d.toNat
    if rest.length < size + 1 then 0
    else size + 8 + completeFrames fuel (rest.drop (size + 1))
  | _, _ => 0

/-- Complete frames end within the data. -/
theorem completeFrames_le (fuel : ℕ) (data : QByteArray) :
    completeFrames fuel data ≤ data.length := by
  fun_induction completeFrames fuel data with
  | case1 => omega
  | case2 fuel _ _ _ a b c d rest size hcomplete ih =>
    rw [List.length_drop] at ih
    simp only [List.length_cons]
    omega
  | case3 => omega

/-- A library that consumes complete frames and keeps no state. -/
def frameLibrary : AmqpLibrary Unit where
  create _ _ _ := ()
  parse a data := (completeFrames data.length data, a)
  consumes_le _ data := completeFrames_le data.length data

namespace Tracked

/-- A connection dropped between two frames, an automatic retry, and a frame in
two chunks on the second connection. -/
theorem dropBetweenFrames_parsesOwnBytes :
    (machine frameLibrary).EachStep (ParsesOwnBytes frameLibrary) {}
      [.connectToHost "broker" 5672 "/" "guest" "guest" .started, .socketConnected,
        .readyRead [1, 0, 0, 0, 0, 0, 0, 206], .socketError "remote host closed" true,
        .reconnectTick .started, .socketConnected, .readyRead [1, 0, 0],
        .readyRead [0, 0, 0, 0, 206]] :=
  parsesOwnBytes_of_emptyBuffer frameLibrary _
    (by simp only [Mealy.EachStep, ConnectsWithEmptyBuffer]; decide)

/-- A connection dropped in the middle of a frame, an automatic retry, and the
first frame of the second connection. -/
def dropMidFrameRun : List Event :=
  [.connectToHost "broker" 5672 "/" "guest" "guest" .started, .socketConnected,
    .readyRead [1, 0, 0], .socketError "remote host closed" true, .reconnectTick .started,
    .socketConnected, .readyRead [1, 0, 0, 0, 0, 0, 0, 206]]

/-- The second `AMQP::Connection` is given the partial frame of the first. -/
theorem dropMidFrameRun_mixes :
    ¬ ∀ (lib : AmqpLibrary Unit) events, (machine lib).EachStep Enabled {} events →
      (machine lib).EachStep (ParsesOwnBytes lib) {} events := by
  intro h
  have hrun := h frameLibrary dropMidFrameRun
    (by simp only [dropMidFrameRun, Mealy.EachStep, Enabled]; decide)
  simp only [dropMidFrameRun, Mealy.EachStep, ParsesOwnBytes] at hrun
  obtain ⟨-, -, -, -, -, -, hlast, -⟩ := hrun
  exact absurd (hlast [1, 0, 0, 1, 0, 0, 0, 0, 0, 0, 206] (by decide)) (by decide)

end Tracked

end QtAppBase.Mq
