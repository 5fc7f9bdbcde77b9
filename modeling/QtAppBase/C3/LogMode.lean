import QtAppBase.C3.Routine
import QtAppBase.Library.Levels
import Mathlib.Data.Bool.Basic
import Mathlib.Order.Lattice

/-!
# The mode of the realtime log

A panel that answers the binary request with a payload that is no sequence of
binary records is asked for key/value records from then on. The mode is a member
of the driver, not of the session, so that disconnects, reconnects and failures
do not bring the binary request back.
-/

namespace QtAppBase.C3

open Library QtAppBase.Core Qt

/-- The mode an effect belongs to, if it has to do with the realtime log; `true`
stands for key/value. -/
def Effect.keyValue? : Effect → Option Bool
  | .write frame =>
    if frameCommand frame = kCommandRtlogBinary then some false
    else if frameCommand frame = kCommandRtlogKeyValue then some true
    else none
  | .realtimeLogReceived _ => some false
  | .realtimeLogKeyValueReceived _ => some true
  | _ => none

namespace C3Connection

variable {c : C3Connection}

/-- The mode of the next request. -/
def keyValue (c : C3Connection) : Bool := c.rtlogCommand ≠ kCommandRtlogBinary

/-- The mode is one of the two, and the reply that is awaited is in this mode. -/
structure ModeCoherent (c : C3Connection) : Prop where
  command : c.rtlogCommand = kCommandRtlogBinary ∨ c.rtlogCommand = kCommandRtlogKeyValue
  binary : c.rtLogQueryStep = .awaitingBinaryReply → c.keyValue = false
  awaited : c.rtLogQueryStep = .awaitingKeyValueReply → c.keyValue = true

/-- A step keeps the modes coherent, and what it emits lies between the mode before
and the mode after. -/
structure ModeStep (c : C3Connection) (r : Reaction C3Connection Effect) : Prop where
  coherent : ModeCoherent r.1
  rises : Rises c.keyValue (r.2.filterMap Effect.keyValue?) r.1.keyValue

/-- No routine effect belongs to a mode. -/
theorem keyValue?_routine {effect : Effect} (haside : effect.isAside = true)
    (hunlogged : effect.isLog = false) : effect.keyValue? = none := by
  cases effect with
  | write frame =>
    have hown : frameCommand frame ∈ ownCommands := of_decide_eq_true haside
    have hbinary : frameCommand frame ≠ kCommandRtlogBinary := by
      intro h
      rw [h] at hown
      exact absurd hown (by decide)
    have hkeyValue : frameCommand frame ≠ kCommandRtlogKeyValue := by
      intro h
      rw [h] at hown
      exact absurd hown (by decide)
    simp [Effect.keyValue?, hbinary, hkeyValue]
  | realtimeLogReceived _ | realtimeLogKeyValueReceived _ => cases hunlogged
  | _ => rfl

theorem Routine.modeStep {r : Reaction C3Connection Effect} (hr : Routine c r)
    (h : ModeCoherent c) : ModeStep c r := by
  have hmode : r.1.keyValue = c.keyValue := by rw [keyValue, keyValue, hr.rtlogCommand]
  refine ⟨⟨hr.rtlogCommand ▸ h.command, fun hstep => ?_, fun hstep => ?_⟩, ?_⟩
  · rcases hr.rtLogQueryStep with hkept | hnone
    · rw [hmode, h.binary (hkept.symm.trans hstep)]
    · cases hnone.symm.trans hstep
  · rcases hr.rtLogQueryStep with hkept | hnone
    · rw [hmode, h.awaited (hkept.symm.trans hstep)]
    · cases hnone.symm.trans hstep
  · rw [List.filterMap_eq_nil_iff.mpr fun effect heffect =>
      keyValue?_routine (hr.effects effect heffect) (hr.unlogged effect heffect), hmode]
    exact le_refl _

theorem ModeStep.andThen {r : Reaction C3Connection Effect}
    {f : C3Connection → Reaction C3Connection Effect} (h : ModeStep c r)
    (hf : ModeStep r.1 (f r.1)) : ModeStep c (r.andThen f) := by
  refine ⟨hf.coherent, ?_⟩
  rw [Reaction.andThen_snd, List.filterMap_append]
  exact h.rises.append hf.rises

/-- An operation on `state_` has nothing to do with the mode. -/
theorem onState_modeStep (f : ConnectionState → Reaction ConnectionState Signal)
    (h : ModeCoherent c) : ModeStep c (onState f c) := by
  have hnone : (onState f c).2.filterMap Effect.keyValue? = [] := by
    rw [List.filterMap_eq_nil_iff]
    intro effect heffect
    obtain ⟨connected, rfl⟩ := onState_forwards heffect
    rfl
  refine ⟨⟨h.command, h.binary, h.awaited⟩, ?_⟩
  rw [hnone]
  exact le_refl c.keyValue

/-- A single effect between two levels. -/
theorem rises_single {effect : Effect} {mode before after : Bool}
    (htag : effect.keyValue? = some mode) (hbefore : before ≤ mode) (hafter : mode ≤ after) :
    Rises before ([effect].filterMap Effect.keyValue?) after := by
  rw [List.filterMap_cons_some htag]
  exact ⟨hbefore, hafter⟩

/-- An answer is in the mode of its request, and the switch is a step up. -/
theorem onRtLogQueryData_modeStep (h : ModeCoherent c) : ModeStep c c.onRtLogQueryData := by
  have hended : ModeCoherent c.takeRtLogReply := ⟨h.command, nofun, nofun⟩
  have hswitched : ModeCoherent { c.takeRtLogReply with rtlogCommand := kCommandRtlogKeyValue } :=
    ⟨Or.inr rfl, nofun, nofun⟩
  obtain heq | ⟨hstep, _, heq⟩ | ⟨hstep, heq⟩ | ⟨hstep, _, heq⟩ | ⟨_, heq⟩ :=
    onRtLogQueryData_cases c
  · rw [heq]
    exact ⟨h, le_refl c.keyValue⟩
  · rw [heq]
    exact ⟨hended, rises_single rfl (h.binary hstep).le (Bool.false_le _)⟩
  · rw [heq]
    exact ⟨hswitched, rises_single rfl (h.binary hstep).le (Bool.false_le _)⟩
  · rw [heq]
    exact ⟨hended, rises_single rfl (Bool.le_true _) (h.awaited hstep).ge⟩
  · rw [heq]
    exact ⟨hended, le_refl c.keyValue⟩

/-- The frame of a request for the realtime log is in the mode in force. -/
theorem requestFrame_keyValue? (h : ModeCoherent c) :
    (Effect.write (c.requestFrame .requestRealtimeLog)).keyValue? = some c.keyValue := by
  unfold requestFrame keyValue
  rcases h.command with hbinary | hkeyValue
  · rw [hbinary]
    rfl
  · rw [hkeyValue]
    rfl

/-- A request for the realtime log is made in the mode in force. -/
theorem requestRealtimeLog_modeStep (h : ModeCoherent c) : ModeStep c c.requestRealtimeLog := by
  have hframe := requestFrame_keyValue? h
  unfold requestRealtimeLog
  dsimp only
  by_cases hrefused : (!c.isReady || c.rtLogQueryPending) = true
  · rw [if_pos hrefused]
    exact ⟨h, le_refl c.keyValue⟩
  · rw [if_neg hrefused]
    refine ⟨⟨h.command, ?_, ?_⟩, rises_single hframe (le_refl _) (le_refl _)⟩
    · intro hstep
      by_contra hmode
      simp_all [keyValue]
    · intro hstep
      by_contra hmode
      simp_all [keyValue]

/-- A handler that leaves the log mode alone. -/
theorem modeStep_of {d : C3Connection} {effects : List Effect} (h : ModeCoherent c)
    (hcommand : d.rtlogCommand = c.rtlogCommand) (hstep : d.rtLogQueryStep = c.rtLogQueryStep)
    (hquiet : effects.filterMap Effect.keyValue? = []) : ModeStep c (d, effects) := by
  have hmode : d.keyValue = c.keyValue := by rw [keyValue, keyValue, hcommand]
  refine ⟨⟨hcommand ▸ h.command, fun hb => ?_, fun ha => ?_⟩, ?_⟩
  · rw [hmode, h.binary (hstep.symm.trans hb)]
  · rw [hmode, h.awaited (hstep.symm.trans ha)]
  · rw [hquiet, hmode]
    exact le_refl _

theorem sendControlRequest_modeStep {operation : ControlOperation} {param1 param2 param3 : UInt8}
    (h : ModeCoherent c) : ModeStep c (sendControlRequest operation param1 param2 param3 c) := by
  unfold sendControlRequest
  split_ifs <;> exact modeStep_of h rfl rfl rfl

theorem callRequest_modeStep {call : RequestCall} (h : ModeCoherent c) :
    ModeStep c (c.callRequest call) := by
  cases call with
  | requestRealtimeLog => exact requestRealtimeLog_modeStep h
  | control call => cases call <;> exact sendControlRequest_modeStep h
  | requestTableData tableName =>
    unfold callRequest requestTableData
    dsimp only
    split_ifs <;> exact modeStep_of h rfl rfl rfl
  | requestTableRecordCount tableName =>
    unfold callRequest requestTableRecordCount
    dsimp only
    split_ifs <;> exact modeStep_of h rfl rfl rfl
  | requestDeviceParams parameterNames =>
    unfold callRequest requestDeviceParams
    dsimp only
    split_ifs <;> exact modeStep_of h rfl rfl rfl
  | setDeviceParams values =>
    unfold callRequest setDeviceParams
    dsimp only
    split_ifs <;> exact modeStep_of h rfl rfl rfl

/-- Every event is a step of the mode. -/
theorem handle_modeStep (h : ModeCoherent c) (e : Event) : ModeStep c (c.handle e) := by
  rcases handle_cases c e with ⟨call, rfl⟩ | (hroutine | ⟨q, op, hq, hr⟩) | ⟨q, hq, hr⟩
  · exact callRequest_modeStep h
  · exact hroutine.modeStep h
  · rw [hr]
    exact (hq.modeStep h).andThen (onState_modeStep _ (hq.modeStep h).coherent)
  · rw [hr]
    have hmode := (hq.modeStep h).coherent
    have hlog : ModeStep q.1 q.1.readAll.onRtLogQueryData := by
      have hread := onRtLogQueryData_modeStep (c := q.1.readAll) ⟨hmode.command, hmode.binary,
        hmode.awaited⟩
      exact ⟨hread.coherent, hread.rises⟩
    exact (hq.modeStep h).andThen hlog

/-- **The log mode is sticky.** Over every run of a driver, whatever happens to the
connection and the session, its realtime log is binary up to some point and
key/value from there on, in the requests on the wire and in the answers handed on;
and no key/value request or answer comes from a driver that is still in binary mode. -/
theorem keyValue_sticky (es : List Event) :
    let modes := (machine.emitted {} es).filterMap Effect.keyValue?
    modes.Pairwise (· ≤ ·) ∧ ∀ mode ∈ modes, mode ≤ (machine.after {} es).keyValue := by
  have hstart : ModeCoherent {} := ⟨Or.inl rfl, nofun, nofun⟩
  have hrun : Rises (keyValue {}) ((machine.emitted {} es).filterMap Effect.keyValue?)
      (machine.after {} es).keyValue :=
    rises_run (M := machine) (I := ModeCoherent) (fun c e h => (handle_modeStep h e).coherent)
      (fun c e h => (handle_modeStep h e).rises) hstart es
  exact ⟨hrun.pairwise, hrun.le_end⟩

end C3Connection

end QtAppBase.C3
