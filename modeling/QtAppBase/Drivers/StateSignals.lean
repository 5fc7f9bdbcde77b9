import QtAppBase.Core.Signals
import QtAppBase.C3.Routine
import QtAppBase.Modbus.Chunking
import QtAppBase.Mq.Connection

/-!
# What the drivers say about the connection

Each of the three drivers forwards `connectionStateChanged` from its `state_`
member, from many handlers and sometimes several times in one of them. The user
interface and the services follow the signal instead of asking, which is right
only as long as the signal never repeats itself and never misses a change.
-/

namespace QtAppBase

open Library QtAppBase.Core Qt

/-! ### The C3 driver -/

/-- The value a forwarded `connectionStateChanged` carries. -/
def C3.Effect.connected? : C3.Effect → Option Bool
  | .connectionStateChanged connected => some connected
  | _ => none

namespace C3.C3Connection

variable {c d : C3Connection}

/-- What the driver says about its `state_`. -/
def stateAnnouncer : Announcer C3Connection Effect Bool where
  shown c := c.state.connected
  announced := Effect.connected?

/-- An operation on `state_` is announced. -/
theorem onState_tells {f : ConnectionState → Reaction ConnectionState Signal}
    (hf : ∀ s, ConnectionState.Tells s (f s)) (c : C3Connection) :
    stateAnnouncer.Tells c (onState f c) := by
  refine (hf c.state).connected.forwarded ?_ rfl rfl rfl
  rintro (connected | reconnecting) <;> rfl

theorem Aside.tells {r : Reaction C3Connection Effect} (h : Aside c r) :
    stateAnnouncer.Tells c r := by
  refine Announcer.tells_quiet h.connected fun effect heffect => ?_
  have haside := h.effects effect heffect
  cases effect with
  | connectionStateChanged connected => cases haside
  | _ => rfl

theorem callRequest_tells (call : RequestCall) (c : C3Connection) :
    stateAnnouncer.Tells c (c.callRequest call) := by
  obtain ⟨hstate, hwritten⟩ := callRequest_written call c
  have hquiet : ∀ effect ∈ (c.callRequest call).2, effect.connected? = none := by
    rcases hwritten with hnothing | ⟨-, hframe⟩
    · simp [hnothing]
    · simp [hframe, Effect.connected?]
  exact Announcer.tells_quiet (congrArg ConnectionState.connected hstate) hquiet

/-- Every event of the C3 driver announces what it changes. -/
theorem handle_tells (c : C3Connection) (e : Event) : stateAnnouncer.Tells c (c.handle e) := by
  by_cases hcall : ∃ call, e = .request call
  · obtain ⟨call, rfl⟩ := hcall
    exact callRequest_tells call c
  · rcases handle_aside c (fun call he => hcall ⟨call, he⟩) with haside | ⟨q, op, hq, hr⟩
    · exact haside.tells
    · rw [hr]
      exact hq.tells.andThen (onState_tells (fun s => s.perform_tells op) q.1)

end C3.C3Connection

/-! ### The Modbus driver -/

/-- The value a forwarded `connectionStateChanged` carries. -/
def Modbus.Effect.connected? : Modbus.Effect → Option Bool
  | .connectionStateChanged connected => some connected
  | _ => none

namespace Modbus.ModbusConnection

variable {c d : ModbusConnection}

/-- What the driver says about its `state_`, which is also its `isReady`. -/
def stateAnnouncer : Announcer ModbusConnection Effect Bool where
  shown c := c.isReady
  announced := Effect.connected?

/-- An operation on `state_` is announced. -/
theorem onState_tells {f : ConnectionState → Reaction ConnectionState Signal}
    (hf : ∀ s, ConnectionState.Tells s (f s)) (c : ModbusConnection) :
    stateAnnouncer.Tells c (onState f c) := by
  refine (hf c.state).connected.forwarded ?_ rfl rfl rfl
  rintro (connected | reconnecting) <;> rfl

/-- A handler that leaves `state_` alone and says nothing about it. -/
theorem tells_aside {effects : List Effect} (hstate : d.state = c.state)
    (hsilent : effects.filterMap Effect.connected? = []) :
    stateAnnouncer.Tells c (d, effects) :=
  Announcer.tells_quiet (congrArg ConnectionState.connected hstate)
    (List.filterMap_eq_nil_iff.mp hsilent)

theorem sendRequest_tells (pendingRequest : PendingRequest) (frame : QByteArray)
    (c : ModbusConnection) : stateAnnouncer.Tells c (c.sendRequest pendingRequest frame) := by
  unfold sendRequest
  split_ifs <;> exact tells_aside rfl rfl

theorem onResponse_tells {β : Type} (response : Response β) {succeeded : β → Effect}
    {failed : QString → Effect} (hsucceeded : ∀ content, (succeeded content).connected? = none)
    (hfailed : ∀ error, (failed error).connected? = none) (c : ModbusConnection) :
    stateAnnouncer.Tells c (c.onResponse response succeeded failed) := by
  unfold onResponse
  split
  · exact tells_aside rfl rfl
  · refine Announcer.tells_quiet rfl fun effect heffect => ?_
    rw [List.mem_singleton.mp heffect]
    split
    · exact hsucceeded _
    · exact hfailed _
    · exact hfailed _

/-- Received bytes lead to outcomes only. -/
theorem onSocketReadyRead_tells (c : ModbusConnection) :
    stateAnnouncer.Tells c c.onSocketReadyRead := by
  unfold onSocketReadyRead
  dsimp only
  cases c.readAll.pendingRequest with
  | none => exact tells_aside rfl rfl
  | _ => exact (onResponse_tells _ (fun _ => rfl) (fun _ => rfl) c.readAll).of_shown rfl

/-- Every event of the Modbus driver announces what it changes. -/
theorem handle_tells (c : ModbusConnection) (e : Event) :
    stateAnnouncer.Tells c (c.handle e) := by
  cases e with
  | connectToHost host port launch =>
    have hconnect := onState_tells (ConnectionState.beginAutoConnect_tells (connectCall launch))
    exact (hconnect _).of_shown rfl
  | disconnectNow =>
    have hdisconnect := onState_tells ConnectionState.disconnectNow_tells
      (if c.state.disconnect then c.disconnectFn else c)
    refine Announcer.Tells.of_shown hdisconnect ?_
    split_ifs <;> rfl
  | setRequestTimeoutMs ms => exact tells_aside rfl rfl
  | request call => cases call <;> exact sendRequest_tells _ _ c
  | socketConnected =>
    exact (onState_tells (ConnectionState.reportPendingConnectResult_tells true) _).of_shown rfl
  | socketError error dropped =>
    exact (onState_tells (ConnectionState.reportPendingConnectResult_tells false) _).of_shown rfl
  | socketDisconnected => exact tells_aside rfl rfl
  | readyRead chunk =>
    have hread := onSocketReadyRead_tells { c with socket := c.socket.receive chunk }
    exact hread.of_shown rfl
  | requestTimeout =>
    refine tells_aside rfl ?_
    cases c.pendingRequest <;> rfl
  | heartbeatTick => exact onState_tells (ConnectionState.onHeartbeatTick_tells c.probeFn) c
  | reconnectTick launch =>
    have hretry := onState_tells (ConnectionState.reconnectTimeout_tells (connectCall launch))
    refine (hretry _).of_shown ?_
    split_ifs <;> rfl

end Modbus.ModbusConnection

/-! ### The AMQP driver -/

/-- The value a forwarded `connectionStateChanged` carries. -/
def Mq.Effect.connected? : Mq.Effect → Option Bool
  | .connectionStateChanged connected => some connected
  | _ => none

namespace Mq.MqConnection

variable {α : Type*} {lib : AmqpLibrary α} {c d : MqConnection α}

variable (α) in
/-- What the driver says about its `state_`. -/
def stateAnnouncer : Announcer (MqConnection α) Effect Bool where
  shown c := c.state.connected
  announced := Effect.connected?

variable (lib) in
/-- The state machine driven by its events. -/
def machine : Mealy (MqConnection α) Event Effect := ⟨handle lib⟩

/-- An operation on `state_` is announced. -/
theorem onState_tells {f : ConnectionState → Reaction ConnectionState Signal}
    (hf : ∀ s, ConnectionState.Tells s (f s)) (c : MqConnection α) :
    (stateAnnouncer α).Tells c (onState f c) := by
  refine (hf c.state).connected.forwarded ?_ rfl rfl rfl
  rintro (connected | reconnecting) <;> rfl

/-- A handler that leaves `state_` alone and says nothing about it. -/
theorem tells_aside {effects : List Effect} (hstate : d.state = c.state)
    (hsilent : effects.filterMap Effect.connected? = []) :
    (stateAnnouncer α).Tells c (d, effects) :=
  Announcer.tells_quiet (congrArg ConnectionState.connected hstate)
    (List.filterMap_eq_nil_iff.mp hsilent)

/-- The parser is all that hears of received bytes. -/
theorem readSocket_quiet (c : MqConnection α) :
    ∀ effect ∈ (readSocket lib c).2, effect.connected? = none := by
  let motive : Option α × List Effect → QByteArray → Prop := fun s _ =>
    ∀ effect ∈ s.2, effect.connected? = none
  have hcall : ∀ s buffer, motive s buffer →
      motive (consume lib s buffer).2 (buffer.drop (consume lib s buffer).1) := by
    rintro ⟨parser, effects⟩ buffer hsilent
    cases parser with
    | none => exact hsilent
    | some a =>
      intro effect heffect
      rcases List.mem_append.mp heffect with hbefore | hparse
      · exact hsilent effect hbefore
      · rw [List.mem_singleton.mp hparse]
        rfl
  have hstart : motive (c.connection, []) (c.inputBuffer ++ c.socket.unread) := nofun
  exact feedLoop_induct (motive := motive) hcall _ hstart

theorem readSocket_tells (c : MqConnection α) :
    (stateAnnouncer α).Tells c (readSocket lib c) :=
  Announcer.tells_quiet rfl (readSocket_quiet c)

/-- Every event of the AMQP driver announces what it changes. -/
theorem handle_tells (c : MqConnection α) (e : Event) :
    (stateAnnouncer α).Tells c (c.handle lib e) := by
  have hreport := ConnectionState.reportPendingConnectResult_tells
  cases e with
  | connectToHost host port vhost user password launch =>
    have hconnect := onState_tells (α := α)
      (ConnectionState.beginAutoConnect_tells (connectCall launch))
    refine (hconnect _).of_shown ?_
    cases launch <;> rfl
  | socketConnected => exact tells_aside rfl rfl
  | socketError error dropped =>
    change (stateAnnouncer α).Tells c (c.onSocketError error dropped)
    unfold onSocketError
    dsimp only
    by_cases hattempt : c.connectAttemptPending = true
    · rw [if_pos hattempt]
      exact (onState_tells (hreport false) _).of_shown rfl
    · rw [if_neg hattempt]
      exact tells_aside rfl rfl
  | socketDisconnected => exact tells_aside rfl rfl
  | readyRead chunk =>
    exact (readSocket_tells { c with socket := c.socket.receive chunk }).of_shown rfl
  | heartbeatTimeout =>
    change (stateAnnouncer α).Tells c c.onHeartbeatTimeout
    unfold onHeartbeatTimeout
    split_ifs <;> exact tells_aside rfl rfl
  | amqpData data => exact tells_aside rfl rfl
  | amqpReady => exact (onState_tells (hreport true) _).of_shown rfl
  | amqpError message =>
    change (stateAnnouncer α).Tells c (c.onError message)
    unfold onError
    split_ifs
    · exact (onState_tells (hreport false) _).of_shown rfl
    · exact tells_aside rfl rfl
  | amqpClosed => exact tells_aside rfl rfl
  | amqpNegotiate interval => exact tells_aside rfl rfl
  | heartbeatTick => exact onState_tells (ConnectionState.onHeartbeatTick_tells c.probeFn) c
  | reconnectTick launch =>
    have hretry := onState_tells (α := α)
      (ConnectionState.reconnectTimeout_tells (connectCall launch))
    refine (hretry _).of_shown ?_
    split_ifs <;> cases launch <;> rfl

end Mq.MqConnection

/-- **The drivers keep their listeners up to date.** In every run of each driver the
`connectionStateChanged` values alternate, beginning with the opposite of the state the
run began with, and the last one is the state the run ends with. -/
theorem connectionStateChanged_alternates {α : Type*} (lib : Mq.AmqpLibrary α)
    (c3 : C3.C3Connection) (c3Events : List C3.Event)
    (modbus : Modbus.ModbusConnection) (modbusEvents : List Modbus.Event)
    (mq : Mq.MqConnection α) (mqEvents : List Mq.Event) :
    let c3Values := c3.state.connected ::
      (C3.C3Connection.machine.emitted c3 c3Events).filterMap C3.Effect.connected?
    let modbusValues := modbus.isReady ::
      (Modbus.ModbusConnection.machine.emitted modbus modbusEvents).filterMap
        Modbus.Effect.connected?
    let mqValues := mq.state.connected ::
      ((Mq.MqConnection.machine lib).emitted mq mqEvents).filterMap Mq.Effect.connected?
    (c3Values.IsChain (· ≠ ·) ∧
      c3Values.getLast? = some (C3.C3Connection.machine.after c3 c3Events).state.connected) ∧
    (modbusValues.IsChain (· ≠ ·) ∧
      modbusValues.getLast? =
        some (Modbus.ModbusConnection.machine.after modbus modbusEvents).isReady) ∧
    (mqValues.IsChain (· ≠ ·) ∧
      mqValues.getLast? =
        some ((Mq.MqConnection.machine lib).after mq mqEvents).state.connected) :=
  ⟨Announcer.tells_run (A := C3.C3Connection.stateAnnouncer) (M := C3.C3Connection.machine)
      C3.C3Connection.handle_tells c3 c3Events,
    Announcer.tells_run (A := Modbus.ModbusConnection.stateAnnouncer)
      (M := Modbus.ModbusConnection.machine) Modbus.ModbusConnection.handle_tells modbus
      modbusEvents,
    Announcer.tells_run (A := Mq.MqConnection.stateAnnouncer α) (M := Mq.MqConnection.machine lib)
      Mq.MqConnection.handle_tells mq mqEvents⟩

end QtAppBase
