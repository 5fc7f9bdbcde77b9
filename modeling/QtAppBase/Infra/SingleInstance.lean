import QtAppBase.Library.Conveying
import QtAppBase.Qt.Values
import Mathlib.Data.List.Nodup
import Mathlib.Data.List.Perm.Basic
import Mathlib.Logic.Function.Basic

/-!
# One instance of the application

Instances of the application agree through the name of a local server. The
constructor of `SingleInstance` probes the name and, when nobody answers, listens on
it; a name that cannot be listened on is taken for a leftover of a crash, removed, and
listened on once more. Other instances run between any two of these steps. One that is
refused asks the primary to raise its window, and ends.

The name is a file: it outlives a server that crashed, and a server that closes
removes it, whoever has listened on it since. A probe and a request are connections to
the server, and the server tells them apart by what it reads from them.
-/

namespace QtAppBase.Infra

open Library Qt

/-- `kRaiseMessage`. -/
def kRaiseMessage : QByteArray := toLatin1 "raise"

/-- How far an instance has come. -/
inductive Phase where
  | absent
  /-- Nobody has answered the probe. -/
  | probed
  /-- `listen` has failed. -/
  | refused
  /-- The name has been removed. -/
  | removed
  /-- `m_primary`, with a listening server. -/
  | primary
  /-- The constructor has returned without `m_primary`. -/
  | secondary
  | gone
  deriving DecidableEq, Repr

/-- The instance is in the constructor. -/
def Phase.isConstructing : Phase → Bool
  | .probed | .refused | .removed => true
  | _ => false

/-- A connection to a server, as the server has it. -/
structure Connection where
  server : ℕ
  /-- What its client has written, before it is read. -/
  written : QByteArray := []
  /-- The server has asked for it and listens to `readyRead`. -/
  accepted : Bool := false
  /-- The server has called `disconnectFromServer`. -/
  disconnected : Bool := false
  deriving DecidableEq, Repr

/-- All instances, who listened last on the name while there is a file for it, and all
connections there have been, the oldest first. -/
structure Instances where
  phase : ℕ → Phase := fun _ => .absent
  name : Option ℕ := none
  connections : List Connection := []

/-- What `write` and `waitForBytesWritten` do: the message is not written, only so many bytes
of it go out in time, or all of it. -/
inductive RaiseAnswer where
  | failed
  | slow (bytes : ℕ)
  | done
  deriving DecidableEq, Repr

/-- What goes out of the message. -/
def RaiseAnswer.sent : RaiseAnswer → QByteArray
  | .failed => []
  | .slow bytes => kRaiseMessage.take bytes
  | .done => kRaiseMessage

/-- A step of one instance. -/
inductive InstanceEvent where
  /-- `connectToServer` and `waitForConnected`; a server that listens can be too slow. -/
  | probe (pid : ℕ) (inTime : Bool)
  /-- The first `listen`; it can fail for want of permission too. -/
  | listen (pid : ℕ) (permitted : Bool)
  | removeServer (pid : ℕ)
  /-- The second `listen`. -/
  | listenAgain (pid : ℕ) (permitted : Bool)
  /-- `signalPrimaryToRaise`, after which the instance ends. -/
  | signalPrimaryToRaise (pid : ℕ) (inTime : Bool) (answer : RaiseAnswer)
  /-- The slot of `newConnection`. -/
  | newConnection (pid : ℕ)
  /-- The slot of `readyRead`, when so many bytes of a connection have arrived. -/
  | readyRead (pid number bytes : ℕ)
  /-- The end of an instance: an orderly one closes its server. -/
  | exit (pid : ℕ) (orderly : Bool)
  deriving DecidableEq, Repr

/-- A call of `signalPrimaryToRaise`: the server it connects to, the number of the connection,
what goes out on it, and what the call returns. -/
structure RaiseSignal where
  reached : Option ℕ
  number : ℕ
  sent : QByteArray
  returned : Bool
  deriving DecidableEq, Repr

/-- What can be observed. -/
inductive InstanceEffect where
  /-- The server raises its window because of a connection. -/
  | raiseRequested (pid number : ℕ)
  | signalled (pid : ℕ) (signal : RaiseSignal)
  deriving DecidableEq, Repr

namespace Instances

/-- The instance moves on. -/
def setPhase (pid : ℕ) (phase : Phase) (w : Instances) : Instances :=
  { w with phase := Function.update w.phase pid phase }

/-- The server that answers on the name: one that listened on it and still does. -/
def answering (w : Instances) (inTime : Bool) : Option ℕ :=
  w.name.filter fun pid => inTime && w.phase pid = .primary

/-- `listen`: it fails while there is a file for the name. -/
def listenOn (pid : ℕ) (permitted : Bool) (failed : Phase) (w : Instances) : Instances :=
  if permitted && w.name.isNone then { w.setPhase pid .primary with name := some pid }
  else w.setPhase pid failed

/-- Somebody connects to a server and writes to it. -/
def connect (server : ℕ) (written : QByteArray) (w : Instances) : Instances :=
  { w with connections := w.connections ++ [{ server := server, written := written }] }

/-- The probe of the constructor: a connection that is closed at once. -/
def probe (pid : ℕ) (inTime : Bool) (w : Instances) : Instances :=
  match w.answering inTime with
  | some primary => (w.setPhase pid .secondary).connect primary []
  | none => w.setPhase pid .probed

/-- `QLocalServer::removeServer`. -/
def removeServer (pid : ℕ) (w : Instances) : Instances :=
  { w.setPhase pid .removed with name := none }

/-- `signalPrimaryToRaise`: the server is connected to, and the message is written. -/
def signalPrimaryToRaise (pid : ℕ) (inTime : Bool) (answer : RaiseAnswer) (w : Instances) :
    Reaction Instances InstanceEffect :=
  match w.answering inTime with
  | none => (w.setPhase pid .gone, [.signalled pid ⟨none, w.connections.length, [], false⟩])
  | some primary =>
    ((w.setPhase pid .gone).connect primary answer.sent,
     [.signalled pid ⟨some primary, w.connections.length, answer.sent, answer = .done⟩])

/-- The slot of `newConnection`: all pending connections are listened to. -/
def newConnection (pid : ℕ) (w : Instances) : Instances :=
  { w with connections := w.connections.map fun connection =>
      if connection.server = pid then { connection with accepted := true } else connection }

/-- The server leaves a connection. -/
def disconnectFromServer (number : ℕ) (connection : Connection) (w : Instances) : Instances :=
  { w with connections := w.connections.set number { connection with disconnected := true } }

/-- The slot of `readyRead`: what has arrived is read, and the connection is closed. -/
def readyRead (pid number bytes : ℕ) (w : Instances) : Reaction Instances InstanceEffect :=
  match w.connections[number]? with
  | none => (w, [])
  | some connection =>
    if connection.server = pid ∧ connection.accepted ∧ ¬ connection.disconnected then
      (w.disconnectFromServer number connection,
       if connection.written.take bytes ≠ [] then [.raiseRequested pid number] else [])
    else (w, [])

/-- The end of an instance. -/
def exit (pid : ℕ) (orderly : Bool) (w : Instances) : Instances :=
  { w.setPhase pid .gone with
    name := if orderly && w.phase pid = .primary then none else w.name }

/-- The instance takes the step if it has come to it. -/
def arrived (pid : ℕ) (phase : Phase) (step : Instances → Reaction Instances InstanceEffect)
    (w : Instances) : Reaction Instances InstanceEffect :=
  if w.phase pid = phase then step w else (w, [])

/-- What one event does. -/
def handle (w : Instances) : InstanceEvent → Reaction Instances InstanceEffect
  | .probe pid inTime => w.arrived pid .absent fun w => .silently (w.probe pid inTime)
  | .listen pid permitted =>
    w.arrived pid .probed fun w => .silently (w.listenOn pid permitted .refused)
  | .removeServer pid => w.arrived pid .refused fun w => .silently (w.removeServer pid)
  | .listenAgain pid permitted =>
    w.arrived pid .removed fun w => .silently (w.listenOn pid permitted .secondary)
  | .signalPrimaryToRaise pid inTime answer =>
    w.arrived pid .secondary (signalPrimaryToRaise pid inTime answer)
  | .newConnection pid => w.arrived pid .primary fun w => .silently (w.newConnection pid)
  | .readyRead pid number bytes => w.arrived pid .primary (readyRead pid number bytes)
  | .exit pid orderly => .silently (w.exit pid orderly)

/-- The state machine driven by its events. -/
def machine : Mealy Instances InstanceEvent InstanceEffect := ⟨handle⟩

variable {w : Instances} {pid other : ℕ}

@[simp] theorem setPhase_name (pid : ℕ) (phase : Phase) (w : Instances) :
    (w.setPhase pid phase).name = w.name := rfl

@[simp] theorem setPhase_connections (pid : ℕ) (phase : Phase) (w : Instances) :
    (w.setPhase pid phase).connections = w.connections := rfl

@[simp] theorem setPhase_self (pid : ℕ) (phase : Phase) (w : Instances) :
    (w.setPhase pid phase).phase pid = phase := Function.update_self ..

theorem setPhase_other (phase : Phase) (hother : other ≠ pid) :
    (w.setPhase pid phase).phase other = w.phase other := Function.update_of_ne hother ..

/-! ### At most one primary -/

/-- The instance is primary, or on its way to it. -/
def Contends (w : Instances) (pid : ℕ) : Prop :=
  w.phase pid = .primary ∨ (w.phase pid).isConstructing = true

/-- What holds as long as nobody is overtaken: at most one instance contends, a primary has
the name, and what listened on the name is a primary or has crashed. -/
structure Settled (w : Instances) : Prop where
  alone : ∀ pid other, w.Contends pid → w.Contends other → pid = other
  named : ∀ pid, w.phase pid = .primary → w.name = some pid
  owner : ∀ pid, w.name = some pid → w.phase pid = .primary ∨ w.phase pid = .gone

/-- A probe in the middle of another constructor, or one that gives up on a server that
listens, leads to a second primary. -/
def Exclusive (w : Instances) : InstanceEvent → Prop
  | .probe _ inTime => (∀ pid, (w.phase pid).isConstructing = false) ∧ inTime = true
  | _ => True

theorem contends_of_constructing (h : (w.phase pid).isConstructing = true) : w.Contends pid :=
  Or.inr h

theorem Contends.not_gone (h : w.Contends pid) :
    w.phase pid ≠ .gone ∧ w.phase pid ≠ .secondary ∧ w.phase pid ≠ .absent := by
  rcases h with h | h
  · rw [h]
    decide
  · refine ⟨?_, ?_, ?_⟩ <;> rintro heq <;> rw [heq] at h <;> cases h

/-- An instance that stops contending, or never did. -/
theorem Settled.retire {phase : Phase} (h : w.Settled) (hphase : phase = .secondary ∨ phase = .gone)
    (hname : w.name = some pid → phase = .gone) : (w.setPhase pid phase).Settled := by
  have hcontends : ∀ other, (w.setPhase pid phase).Contends other →
      other ≠ pid ∧ w.Contends other := by
    intro other hother
    have hne : other ≠ pid := by
      rintro rfl
      have hstate := hother.not_gone
      rw [setPhase_self] at hstate
      rcases hphase with rfl | rfl
      · exact hstate.2.1 rfl
      · exact hstate.1 rfl
    exact ⟨hne, by rwa [Contends, setPhase_other _ hne] at hother⟩
  refine ⟨fun p q hp hq => ?_, fun p hp => ?_, fun p hp => ?_⟩
  · exact h.alone p q (hcontends p hp).2 (hcontends q hq).2
  · obtain ⟨hne, -⟩ := hcontends p (Or.inl hp)
    rw [setPhase_other _ hne] at hp
    exact h.named p hp
  · by_cases hpid : p = pid
    · subst hpid
      rw [setPhase_self]
      exact Or.inr (hname hp)
    · rw [setPhase_other _ hpid]
      exact h.owner p hp

/-- The name of a primary is given up with it. -/
theorem Settled.unnamed (h : w.Settled) (hnone : ∀ p, w.phase p ≠ .primary) :
    Settled { w with name := none } :=
  ⟨h.alone, fun p hp => absurd hp (hnone p), nofun⟩

/-- The only instance in the constructor goes on in it. -/
theorem Settled.advance (phase : Phase) (h : w.Settled)
    (halone : ∀ other, w.Contends other → other = pid) (hname : w.name ≠ some pid)
    (hphase : phase.isConstructing = true) : (w.setPhase pid phase).Settled := by
  have hcontends : ∀ other, (w.setPhase pid phase).Contends other → other = pid := by
    intro other hother
    by_contra hne
    rw [Contends, setPhase_other _ hne] at hother
    exact hne (halone other hother)
  refine ⟨fun p q hp hq => (hcontends p hp).trans (hcontends q hq).symm, fun p hp => ?_,
    fun p hp => ?_⟩
  · obtain rfl := hcontends p (Or.inl hp)
    rw [setPhase_self] at hp
    rw [hp] at hphase
    cases hphase
  · by_cases hpid : p = pid
    · exact absurd (hpid ▸ hp) hname
    · rw [setPhase_other _ hpid]
      exact h.owner p hp

/-- A constructing instance has nobody to compete with, and the name is not its own. -/
theorem Settled.constructing (h : w.Settled) (hphase : (w.phase pid).isConstructing = true) :
    (∀ other, w.Contends other → other = pid) ∧ w.name ≠ some pid := by
  have hcontends : w.Contends pid := contends_of_constructing hphase
  refine ⟨fun other hother => h.alone other pid hother hcontends, fun hname => ?_⟩
  rcases h.owner pid hname with hprimary | hgone
  · rw [hprimary] at hphase
    cases hphase
  · exact hcontends.not_gone.1 hgone

theorem Settled.listenOn {failed : Phase} (h : w.Settled) {permitted : Bool}
    (hphase : (w.phase pid).isConstructing = true)
    (hfailed : failed = .secondary ∨ failed.isConstructing = true) :
    (w.listenOn pid permitted failed).Settled := by
  obtain ⟨halone, hname⟩ := h.constructing hphase
  unfold Instances.listenOn
  split_ifs with hfree
  · refine ⟨fun p q hp hq => ?_, fun p hp => ?_, fun p hp => ?_⟩
    · have hpid : ∀ other, (w.setPhase pid .primary).Contends other → other = pid := by
        intro other hother
        by_contra hne
        rw [Contends, setPhase_other _ hne] at hother
        exact hne (halone other hother)
      exact (hpid p hp).trans (hpid q hq).symm
    · by_contra hne
      have hother : p ≠ pid := fun heq => hne (congrArg some heq.symm)
      have hprimary : w.phase p = .primary := (setPhase_other .primary hother).symm.trans hp
      exact hother (halone p (Or.inl hprimary))
    · obtain rfl := Option.some.inj hp
      exact Or.inl (setPhase_self ..)
  · rcases hfailed with rfl | hfailed
    · exact h.retire (Or.inl rfl) fun heq => absurd heq hname
    · exact h.advance _ halone hname hfailed

/-- Somebody who is in time is answered by the primary, if there is one. -/
theorem Settled.answering_iff (h : w.Settled) :
    w.answering true = some pid ↔ w.phase pid = .primary := by
  unfold answering
  rw [Option.filter_eq_some_iff]
  constructor
  · rintro ⟨-, hprimary⟩
    simpa using hprimary
  · intro hprimary
    exact ⟨h.named pid hprimary, by simpa using hprimary⟩

/-- Who is primary does not depend on the connections. -/
theorem Settled.of_connections (h : w.Settled) (connections : List Connection) :
    Settled { w with connections := connections } := ⟨h.alone, h.named, h.owner⟩

/-- An instance probes while nobody is in the constructor. -/
theorem Settled.probe (h : w.Settled) (hphase : w.phase pid = .absent)
    (hfree : ∀ other, (w.phase other).isConstructing = false) : (w.probe pid true).Settled := by
  have hname : w.name ≠ some pid := by
    intro hname
    rcases h.owner pid hname with hprimary | hgone
    · cases hphase.symm.trans hprimary
    · cases hphase.symm.trans hgone
  unfold Instances.probe
  cases hanswering : w.answering true with
  | some primary =>
    exact (h.retire (Or.inl rfl) fun heq => absurd heq hname).of_connections _
  | none =>
    refine h.advance _ (fun other hother => ?_) hname rfl
    rcases hother with hprimary | hconstructing
    · rw [h.answering_iff.mpr hprimary] at hanswering
      cases hanswering
    · rw [hfree other] at hconstructing
      cases hconstructing

/-- While an instance removes the name, nobody is primary. -/
theorem Settled.removeServer (h : w.Settled) (hphase : (w.phase pid).isConstructing = true) :
    (w.removeServer pid).Settled := by
  obtain ⟨halone, hname⟩ := h.constructing hphase
  refine (h.advance .removed halone hname rfl).unnamed fun p hp => ?_
  by_cases hpid : p = pid
  · rw [hpid, setPhase_self] at hp
    cases hp
  · rw [setPhase_other _ hpid] at hp
    exact hpid (halone p (Or.inl hp))

theorem Settled.signalPrimaryToRaise (h : w.Settled) (inTime : Bool) (answer : RaiseAnswer) :
    (w.signalPrimaryToRaise pid inTime answer).1.Settled := by
  have hretired : (w.setPhase pid .gone).Settled := h.retire (Or.inr rfl) fun _ => rfl
  unfold Instances.signalPrimaryToRaise
  cases w.answering inTime with
  | none => exact hretired
  | some primary => exact hretired.of_connections _

theorem Settled.readyRead (h : w.Settled) (number bytes : ℕ) :
    (w.readyRead pid number bytes).1.Settled := by
  unfold Instances.readyRead
  split
  · exact h
  · split_ifs
    · exact h.of_connections _
    · exact h.of_connections _
    · exact h

/-- The end of an instance, orderly or not. -/
theorem Settled.exit (h : w.Settled) (pid : ℕ) (orderly : Bool) : (w.exit pid orderly).Settled := by
  have hretired : (w.setPhase pid .gone).Settled := h.retire (Or.inr rfl) fun _ => rfl
  unfold Instances.exit
  split_ifs with hcloses
  · refine hretired.unnamed fun p hp => ?_
    have hprimary : w.phase pid = .primary := by simpa using (Bool.and_eq_true_iff.mp hcloses).2
    have hne : p ≠ pid := by
      rintro rfl
      rw [setPhase_self] at hp
      cases hp
    rw [setPhase_other _ hne] at hp
    exact hne (h.alone p pid (Or.inl hp) (Or.inl hprimary))
  · exact hretired

/-- A step that is not taken changes nothing. -/
theorem Settled.arrived {phase : Phase} {step : Instances → Reaction Instances InstanceEffect}
    (h : w.Settled) (hstep : w.phase pid = phase → (step w).1.Settled) :
    (w.arrived pid phase step).1.Settled := by
  unfold Instances.arrived
  split_ifs with hphase
  · exact hstep hphase
  · exact h

theorem handle_settled (h : w.Settled) (e : InstanceEvent) (hexclusive : w.Exclusive e) :
    (w.handle e).1.Settled := by
  cases e with
  | probe pid inTime =>
    obtain ⟨hfree, rfl⟩ := hexclusive
    exact h.arrived fun hphase => h.probe hphase hfree
  | listen pid permitted =>
    exact h.arrived fun hphase => h.listenOn (by rw [hphase]; rfl) (Or.inr rfl)
  | removeServer pid => exact h.arrived fun hphase => h.removeServer (by rw [hphase]; rfl)
  | listenAgain pid permitted =>
    exact h.arrived fun hphase => h.listenOn (by rw [hphase]; rfl) (Or.inl rfl)
  | signalPrimaryToRaise pid inTime answer =>
    exact h.arrived fun _ => h.signalPrimaryToRaise inTime answer
  | newConnection pid => exact h.arrived fun _ => h.of_connections _
  | readyRead pid number bytes => exact h.arrived fun _ => h.readyRead number bytes
  | exit pid orderly => exact h.exit pid orderly

theorem settled_init : Settled {} := by
  refine ⟨fun p q hp _ => ?_, nofun, nofun⟩
  rcases hp with hp | hp <;> cases hp

/-- **At most one primary, and it can be reached.** In every run in which no instance probes
while another is in its constructor, nor gives up on a server that listens, at most one
instance at a time is primary; the name is its own, so that a second instance that is in
time reaches the primary exactly if there is one, and is told so if its message goes out. -/
theorem primary_unique (events : List InstanceEvent)
    (hexclusive : machine.EachStep Exclusive {} events) :
    machine.EachState (fun w => (∀ p q, w.phase p = .primary → w.phase q = .primary → p = q) ∧
      ∀ p, w.phase p = .primary → w.name = some p) {} events ∧
    machine.EachStep (fun w e => ∀ pid answer, e = .signalPrimaryToRaise pid true answer →
      w.phase pid = .secondary → ∃ signal, (w.handle e).2 = [.signalled pid signal] ∧
        (∀ p, signal.reached = some p ↔ w.phase p = .primary) ∧
        (signal.returned = true ↔ (∃ p, w.phase p = .primary) ∧ answer = .done)) {} events := by
  have hstep : ∀ w e, w.Settled → w.Exclusive e → (machine.next w e).Settled :=
    fun _ e h => handle_settled h e
  refine ⟨Mealy.eachState_of_invariant hstep ?_ settled_init hexclusive,
    Mealy.eachStep_of_invariant hstep ?_ settled_init hexclusive⟩
  · exact fun w h => ⟨fun p q hp hq => h.alone p q (Or.inl hp) (Or.inl hq), h.named⟩
  · rintro w _ h - pid answer rfl hphase
    change ∃ signal, (w.arrived pid .secondary _).2 = _ ∧ _
    rw [Instances.arrived, if_pos hphase, Instances.signalPrimaryToRaise]
    cases hanswering : w.answering true with
    | none =>
      have hnobody : ∀ p, w.phase p ≠ .primary := by
        intro p hp
        rw [h.answering_iff.mpr hp] at hanswering
        cases hanswering
      refine ⟨_, rfl, fun p => iff_of_false nofun (hnobody p), iff_of_false nofun ?_⟩
      rintro ⟨⟨p, hp⟩, -⟩
      exact hnobody p hp
    | some primary =>
      refine ⟨_, rfl, fun p => ?_, ?_⟩
      · rw [← h.answering_iff, hanswering]
      · rw [decide_eq_true_iff]
        exact (and_iff_right ⟨primary, h.answering_iff.mp hanswering⟩).symm

/-- A launch, a crash, and two launches more: the leftover name is taken. -/
def relaunchRun : List InstanceEvent :=
  [.probe 0 true, .listen 0 true, .exit 0 false, .probe 1 true, .listen 1 true, .removeServer 1,
    .listenAgain 1 true, .probe 2 true, .signalPrimaryToRaise 2 true .done, .newConnection 1,
    .readyRead 1 1 5]

/-- In it nobody is overtaken. -/
theorem relaunchRun_unique :
    machine.EachState (fun w => (∀ p q, w.phase p = .primary → w.phase q = .primary → p = q) ∧
      ∀ p, w.phase p = .primary → w.name = some p) {} relaunchRun := by
  have hexclusive : machine.EachStep Exclusive {} relaunchRun := by
    refine ⟨⟨fun _ => rfl, rfl⟩, trivial, trivial, ⟨?_, rfl⟩, trivial, trivial, trivial,
      ⟨?_, rfl⟩, trivial, trivial, trivial, trivial⟩
    · rintro (_ | p) <;> rfl
    · rintro (_ | _ | p) <;> rfl
  exact (primary_unique relaunchRun hexclusive).1

/-- Of two instances that probe before either listens, both become primary. -/
example : let w := machine.after {} [.probe 0 true, .probe 1 true, .listen 0 true, .listen 1 true,
    .removeServer 1, .listenAgain 1 true]
    w.phase 0 = .primary ∧ w.phase 1 = .primary := by
  decide

/-! ### Messages -/

/-- The connection of a call whose message, or some of it, goes out to an instance. -/
def sentTo (pid : ℕ) : InstanceEffect → Option ℕ
  | .signalled _ signal =>
    if signal.reached = some pid ∧ signal.sent ≠ [] then some signal.number else none
  | .raiseRequested .. => none

/-- The connection because of which an instance raises its window. -/
def raisedBy (pid : ℕ) : InstanceEffect → Option ℕ
  | .raiseRequested other number => if other = pid then some number else none
  | .signalled .. => none

/-- A connection of an instance has something to be read. -/
def Waits (w : Instances) (pid number : ℕ) : Prop :=
  ∃ connection ∈ w.connections[number]?, connection.server = pid ∧
    connection.disconnected = false ∧ connection.written ≠ []

instance (w : Instances) (pid number : ℕ) : Decidable (w.Waits pid number) :=
  inferInstanceAs (Decidable (∃ connection ∈ w.connections[number]?, _))

/-- The connections of an instance that have something to be read. -/
def waiting (pid : ℕ) (w : Instances) : List ℕ :=
  (List.range w.connections.length).filter fun number => w.Waits pid number

/-- A message goes from the call to the window of the server. -/
def raiseLane (pid : ℕ) : Lane Instances InstanceEffect ℕ := ⟨sentTo pid, raisedBy pid, waiting pid⟩

/-- `readyRead` is emitted when something has arrived. -/
def Arriving (w : Instances) : InstanceEvent → Prop
  | .readyRead _ number bytes =>
    ∀ connection ∈ w.connections[number]?, connection.written.take bytes ≠ []
  | _ => True

instance (w : Instances) : ∀ e, Decidable (w.Arriving e)
  | .readyRead _ number _ =>
    inferInstanceAs (Decidable (∀ connection ∈ w.connections[number]?, _))
  | .probe .. | .listen .. | .removeServer _ | .listenAgain .. | .signalPrimaryToRaise ..
  | .newConnection _ | .exit .. => isTrue trivial

theorem mem_waiting {number : ℕ} : number ∈ w.waiting pid ↔ w.Waits pid number := by
  rw [waiting, List.mem_filter, List.mem_range, decide_eq_true_iff, and_iff_right_iff_imp]
  rintro ⟨connection, hconnection, -⟩
  exact (List.getElem?_eq_some_iff.mp hconnection).1

theorem waiting_nodup (pid : ℕ) (w : Instances) : (w.waiting pid).Nodup :=
  List.nodup_range.filter _

/-- What is raised, and waits afterwards, is what waited before, and what is sent. -/
theorem conveys_of_perm {v : Instances} {effects : List InstanceEffect} (sent raised : List ℕ)
    (hsent : effects.filterMap (sentTo pid) = sent)
    (hraised : effects.filterMap (raisedBy pid) = raised)
    (hperm : (raised ++ v.waiting pid).Perm (w.waiting pid ++ sent)) :
    (raiseLane pid).Conveys List.Perm w (v, effects) := by
  change (effects.filterMap (raisedBy pid) ++ v.waiting pid).Perm
    (w.waiting pid ++ effects.filterMap (sentTo pid))
  rwa [hsent, hraised]

/-- What leaves the connections waiting as they are conveys. -/
theorem conveys_quiet {v : Instances} {effects : List InstanceEffect}
    (hsent : effects.filterMap (sentTo pid) = []) (hraised : effects.filterMap (raisedBy pid) = [])
    (h : ∀ number, v.Waits pid number ↔ w.Waits pid number) :
    (raiseLane pid).Conveys List.Perm w (v, effects) := by
  refine conveys_of_perm [] [] hsent hraised ?_
  rw [List.nil_append, List.append_nil,
    List.perm_ext_iff_of_nodup (waiting_nodup ..) (waiting_nodup ..)]
  intro number
  rw [mem_waiting, mem_waiting, h]

@[simp] theorem setPhase_waits (phase : Phase) (number : ℕ) :
    (w.setPhase other phase).Waits pid number ↔ w.Waits pid number := Iff.rfl

/-- A new connection waits if something is written to it. -/
theorem connect_waits {server number : ℕ} {written : QByteArray} :
    (w.connect server written).Waits pid number ↔ w.Waits pid number ∨
      number = w.connections.length ∧ server = pid ∧ written ≠ [] := by
  unfold Waits connect
  rcases Nat.lt_trichotomy number w.connections.length with hlt | rfl | hgt
  · rw [List.getElem?_append_left hlt]
    simp [hlt.ne]
  · simp
  · rw [List.getElem?_eq_none (by simp; omega), List.getElem?_eq_none hgt.le]
    simp [hgt.ne']

/-- Which are the connections there have been. -/
theorem Waits.lt {number : ℕ} (h : w.Waits pid number) : number < w.connections.length := by
  obtain ⟨connection, hconnection, -⟩ := h
  exact (List.getElem?_eq_some_iff.mp hconnection).1

/-- A message that is sent waits. -/
theorem signalPrimaryToRaise_conveys (other : ℕ) (inTime : Bool) (answer : RaiseAnswer) :
    (raiseLane pid).Conveys List.Perm w (w.signalPrimaryToRaise other inTime answer) := by
  unfold Instances.signalPrimaryToRaise
  cases w.answering inTime with
  | none => exact conveys_quiet (by simp [sentTo]) rfl fun _ => setPhase_waits ..
  | some primary =>
    have hwaits : ∀ number,
        ((w.setPhase other .gone).connect primary answer.sent).Waits pid number ↔
          w.Waits pid number ∨
            number = w.connections.length ∧ primary = pid ∧ answer.sent ≠ [] := by
      intro number
      rw [connect_waits, setPhase_waits, setPhase_connections]
    by_cases hsent : primary = pid ∧ answer.sent ≠ []
    · have hnew : w.connections.length ∉ w.waiting pid := by
        rw [mem_waiting]
        exact fun h => absurd h.lt (Nat.lt_irrefl _)
      have hnodup : (w.waiting pid ++ [w.connections.length]).Nodup :=
        (List.perm_append_singleton _ _).nodup_iff.mpr
          (List.nodup_cons.mpr ⟨hnew, waiting_nodup ..⟩)
      refine conveys_of_perm [w.connections.length] [] (by simp [sentTo, hsent]) rfl ?_
      refine (List.perm_ext_iff_of_nodup (waiting_nodup ..) hnodup).mpr fun number => ?_
      rw [mem_waiting, hwaits, List.mem_append, mem_waiting, List.mem_singleton,
        and_iff_left hsent]
    · refine conveys_quiet (by simp [sentTo, hsent]) rfl fun number => ?_
      rw [hwaits, or_iff_left fun h => hsent h.2]

/-- A connection that the server leaves does not wait. -/
theorem disconnectFromServer_waits {number k : ℕ} {connection : Connection}
    (hconnection : w.connections[number]? = some connection) :
    (w.disconnectFromServer number connection).Waits pid k ↔ w.Waits pid k ∧ k ≠ number := by
  unfold Waits disconnectFromServer
  by_cases hk : k = number
  · subst hk
    simp [(List.getElem?_eq_some_iff.mp hconnection).1]
  · simp [List.getElem?_set_ne (Ne.symm hk), hk]

/-- A connection that is read raises the window, and does not wait any more. -/
theorem readyRead_conveys (other number bytes : ℕ)
    (harriving : w.Arriving (.readyRead other number bytes)) :
    (raiseLane pid).Conveys List.Perm w (w.readyRead other number bytes) := by
  unfold Instances.readyRead
  cases hconnection : w.connections[number]? with
  | none => exact conveys_quiet rfl rfl fun _ => Iff.rfl
  | some connection =>
    have hbytes := harriving connection hconnection
    dsimp only
    rw [if_pos hbytes]
    split_ifs with hserved
    · obtain ⟨hserver, -, hopen⟩ := hserved
      have hleft : ∀ k, (w.disconnectFromServer number connection).Waits pid k ↔
          w.Waits pid k ∧ k ≠ number := fun _ => disconnectFromServer_waits hconnection
      by_cases hother : other = pid
      · subst hother
        have hwritten : connection.written ≠ [] := by
          rintro hnil
          rw [hnil, List.take_nil] at hbytes
          exact hbytes rfl
        have hwaited : w.Waits other number :=
          ⟨connection, hconnection, hserver, Bool.eq_false_iff.mpr hopen, hwritten⟩
        have hnodup : (number :: (w.disconnectFromServer number connection).waiting other).Nodup :=
          List.nodup_cons.mpr ⟨fun h => ((hleft _).mp (mem_waiting.mp h)).2 rfl, waiting_nodup ..⟩
        refine conveys_of_perm [] [number] rfl (by simp [raisedBy]) ?_
        rw [List.append_nil]
        refine (List.perm_ext_iff_of_nodup hnodup (waiting_nodup ..)).mpr fun k => ?_
        rw [List.mem_cons, mem_waiting, mem_waiting, hleft]
        by_cases hk : k = number
        · simp [hk, hwaited]
        · simp [hk]
      · refine conveys_quiet rfl (by simp [raisedBy, hother]) fun k => ?_
        rw [hleft, and_iff_left_iff_imp]
        rintro ⟨same, hsame, hpid, -⟩ rfl
        obtain rfl := Option.some.inj (hconnection.symm.trans hsame)
        exact hother (hserver.symm.trans hpid)
    · exact conveys_quiet rfl rfl fun _ => Iff.rfl

/-- The slot of `newConnection` only listens. -/
theorem newConnection_waits (other number : ℕ) :
    (w.newConnection other).Waits pid number ↔ w.Waits pid number := by
  unfold Waits newConnection
  simp only [List.getElem?_map, Option.mem_def, Option.map_eq_some_iff]
  constructor
  · rintro ⟨_, ⟨connection, hconnection, rfl⟩, hwaits⟩
    refine ⟨connection, hconnection, ?_⟩
    split_ifs at hwaits <;> exact hwaits
  · rintro ⟨connection, hconnection, hwaits⟩
    refine ⟨_, ⟨connection, hconnection, rfl⟩, ?_⟩
    split_ifs <;> exact hwaits

/-- A step that is not taken says nothing. -/
theorem arrived_conveys {phase : Phase} {step : Instances → Reaction Instances InstanceEffect}
    (h : (raiseLane pid).Conveys List.Perm w (step w)) :
    (raiseLane pid).Conveys List.Perm w (w.arrived other phase step) := by
  unfold Instances.arrived
  split_ifs
  · exact h
  · exact conveys_quiet rfl rfl fun _ => Iff.rfl

theorem handle_conveys {e : InstanceEvent} (harriving : w.Arriving e) :
    (raiseLane pid).Conveys List.Perm w (w.handle e) := by
  cases e with
  | probe other inTime =>
    refine arrived_conveys ?_
    unfold Instances.probe
    cases w.answering inTime with
    | none => exact conveys_quiet rfl rfl fun _ => setPhase_waits ..
    | some primary =>
      -- nothing is written to it
      refine conveys_quiet rfl rfl fun number => ?_
      rw [connect_waits, setPhase_waits, or_iff_left fun h => h.2.2 rfl]
  | listen other permitted =>
    refine arrived_conveys ?_
    unfold Instances.listenOn
    split_ifs <;> exact conveys_quiet rfl rfl fun _ => Iff.rfl
  | removeServer other => exact arrived_conveys (conveys_quiet rfl rfl fun _ => Iff.rfl)
  | listenAgain other permitted =>
    refine arrived_conveys ?_
    unfold Instances.listenOn
    split_ifs <;> exact conveys_quiet rfl rfl fun _ => Iff.rfl
  | signalPrimaryToRaise other inTime answer =>
    exact arrived_conveys (signalPrimaryToRaise_conveys other inTime answer)
  | newConnection other =>
    exact arrived_conveys (conveys_quiet rfl rfl fun number => newConnection_waits other number)
  | readyRead other number bytes =>
    exact arrived_conveys (readyRead_conveys other number bytes harriving)
  | exit other orderly => exact conveys_quiet rfl rfl fun _ => Iff.rfl

/-- What a call in a reaction comes to: if it reaches a server, it opens the next connection,
and if it returns true, it has sent the whole message to a primary. -/
structure Signals (w v : Instances) (signal : RaiseSignal) : Prop where
  number : signal.number = w.connections.length
  opened : signal.reached ≠ none → w.connections.length < v.connections.length
  sent : signal.returned = true → signal.sent = kRaiseMessage
  reached : signal.returned = true →
    ∃ primary, signal.reached = some primary ∧ w.phase primary = .primary

/-- A reaction keeps the connections there have been, and makes one call or none. -/
def Calls (w : Instances) (r : Reaction Instances InstanceEffect) : Prop :=
  w.connections.length ≤ r.1.connections.length ∧
    ((∃ other signal, r.2 = [.signalled other signal] ∧ Signals w r.1 signal) ∨
      ∀ other signal, .signalled other signal ∉ r.2)

theorem calls_silently {v : Instances} (h : w.connections.length ≤ v.connections.length) :
    Calls w (.silently v) := ⟨h, Or.inr fun _ _ => List.not_mem_nil⟩

theorem calls_arrived {phase : Phase} {step : Instances → Reaction Instances InstanceEffect}
    (h : Calls w (step w)) : Calls w (w.arrived other phase step) := by
  unfold Instances.arrived
  split_ifs
  · exact h
  · exact calls_silently (Nat.le_refl _)

theorem signalPrimaryToRaise_calls (inTime : Bool) (answer : RaiseAnswer) :
    Calls w (w.signalPrimaryToRaise other inTime answer) := by
  unfold Instances.signalPrimaryToRaise
  cases hanswering : w.answering inTime with
  | none =>
    exact ⟨Nat.le_refl _, Or.inl ⟨other, _, rfl, rfl, fun hnone => absurd rfl hnone, nofun, nofun⟩⟩
  | some primary =>
    have hopened : w.connections.length <
        ((w.setPhase other .gone).connect primary answer.sent).connections.length := by
      simp [connect]
    refine ⟨hopened.le, Or.inl ⟨other, _, rfl, rfl, fun _ => hopened, fun hdone => ?_,
      fun _ => ⟨primary, rfl, ?_⟩⟩⟩
    · rw [of_decide_eq_true hdone]
      rfl
    · rw [answering, Option.filter_eq_some_iff, Bool.and_eq_true, decide_eq_true_iff] at hanswering
      exact hanswering.2.2

theorem readyRead_calls (number bytes : ℕ) : Calls w (w.readyRead other number bytes) := by
  unfold Instances.readyRead
  split
  · exact calls_silently (Nat.le_refl _)
  · split_ifs
    · exact ⟨by simp [disconnectFromServer], Or.inr (by simp)⟩
    · exact ⟨by simp [disconnectFromServer], Or.inr (by simp)⟩
    · exact calls_silently (Nat.le_refl _)

theorem listenOn_connections (permitted : Bool) (failed : Phase) :
    (w.listenOn other permitted failed).connections = w.connections := by
  unfold Instances.listenOn
  split_ifs <;> rfl

theorem handle_calls (w : Instances) (e : InstanceEvent) : Calls w (w.handle e) := by
  cases e with
  | probe other inTime =>
    refine calls_arrived (calls_silently ?_)
    unfold Instances.probe
    split
    · simp [connect]
    · exact Nat.le_refl _
  | listen other permitted =>
    exact calls_arrived (calls_silently (by rw [listenOn_connections]))
  | removeServer other => exact calls_arrived (calls_silently (Nat.le_refl _))
  | listenAgain other permitted =>
    exact calls_arrived (calls_silently (by rw [listenOn_connections]))
  | signalPrimaryToRaise other inTime answer =>
    exact calls_arrived (signalPrimaryToRaise_calls inTime answer)
  | newConnection other => exact calls_arrived (calls_silently (by simp [newConnection]))
  | readyRead other number bytes => exact calls_arrived (readyRead_calls number bytes)
  | exit other orderly => exact calls_silently (Nat.le_refl _)

/-- What a step sends, it sends on the next connection. -/
theorem handle_sends (pid : ℕ) (w : Instances) (e : InstanceEvent) :
    (w.handle e).2.filterMap (sentTo pid) = [] ∨
      (w.handle e).2.filterMap (sentTo pid) = [w.connections.length] ∧
        w.connections.length < (w.handle e).1.connections.length := by
  rcases (w.handle_calls e).2 with ⟨other, signal, hsignalled, hsignals⟩ | hnone
  · rw [hsignalled]
    by_cases hsent : signal.reached = some pid ∧ signal.sent ≠ []
    · right
      refine ⟨?_, hsignals.opened (by simp [hsent.1])⟩
      simp [sentTo, hsent, hsignals.number]
    · left
      simp [sentTo, hsent]
  · left
    rw [List.filterMap_eq_nil_iff]
    intro effect heffect
    cases effect with
    | raiseRequested _ _ => rfl
    | signalled other signal => exact absurd heffect (hnone other signal)

/-- No connection is counted twice. -/
theorem sent_ascending (pid : ℕ) (w : Instances) (events : List InstanceEvent) :
    ((machine.emitted w events).filterMap (sentTo pid)).Pairwise (· < ·) ∧
      ∀ number ∈ (machine.emitted w events).filterMap (sentTo pid),
        w.connections.length ≤ number := by
  induction events generalizing w with
  | nil => exact ⟨.nil, nofun⟩
  | cons e events ih =>
    obtain ⟨hpairwise, hlater⟩ := ih (machine.next w e)
    have hlength := (w.handle_calls e).1
    have hrest : ∀ number ∈ (machine.emitted (machine.next w e) events).filterMap (sentTo pid),
        w.connections.length ≤ number := fun number hnumber => hlength.trans (hlater number hnumber)
    rw [Mealy.emitted_cons, List.filterMap_append]
    change ((w.handle e).2.filterMap (sentTo pid) ++ _).Pairwise _ ∧
      ∀ number ∈ (w.handle e).2.filterMap (sentTo pid) ++ _, _
    rcases w.handle_sends pid e with hnone | ⟨hone, hopened⟩
    · rw [hnone]
      exact ⟨hpairwise, hrest⟩
    · rw [hone]
      refine ⟨List.pairwise_cons.mpr ⟨fun number hnumber => ?_, hpairwise⟩, ?_⟩
      · exact hopened.trans_le (hlater number hnumber)
      · rintro number (_ | ⟨_, hnumber⟩)
        · exact Nat.le_refl _
        · exact hrest number hnumber

/-- **Every message raises the window once.** In every run in which `readyRead` comes with
something to read, also in one with two primaries, the connections because of which an
instance raises its window are those on which a message was sent to it, each once, but for
those it has not read; nobody else raises it, and no probe does. A call that returns true
has sent the whole message to a primary. -/
theorem raises_conserved (pid : ℕ) (events : List InstanceEvent)
    (harriving : machine.EachStep Arriving {} events) :
    let raised := (machine.emitted {} events).filterMap (raisedBy pid)
    let sent := (machine.emitted {} events).filterMap (sentTo pid)
    (raised ++ (machine.after {} events).waiting pid).Perm sent ∧ sent.Nodup ∧
      machine.EachStep (fun w e => ∀ other signal, .signalled other signal ∈ (w.handle e).2 →
        signal.returned = true → signal.sent = kRaiseMessage ∧
          ∃ primary, signal.reached = some primary ∧ w.phase primary = .primary) {} events := by
  refine ⟨?_, (sent_ascending pid {} events).1.imp Nat.ne_of_lt, ?_⟩
  · exact Lane.conveys_run (L := raiseLane pid) (M := machine) (I := fun _ => True) conveying_perm
      (fun _ _ _ _ => trivial) (fun w e _ he => handle_conveys he) trivial harriving
  · refine Mealy.eachStep_of_invariant (I := fun _ => True) (fun _ _ _ _ => trivial) ?_ trivial
      harriving
    intro w e _ _ other signal hmem
    rcases (w.handle_calls e).2 with ⟨_, _, hsignalled, hsignals⟩ | hnone
    · rw [hsignalled, List.mem_singleton, InstanceEffect.signalled.injEq] at hmem
      obtain ⟨-, rfl⟩ := hmem
      exact fun hreturned => ⟨hsignals.sent hreturned, hsignals.reached hreturned⟩
    · exact absurd hmem (hnone other signal)

/-- A second instance probes and then raises the window of the first. -/
def raiseRun : List InstanceEvent :=
  [.probe 0 true, .listen 0 true, .probe 1 true, .newConnection 0,
    .signalPrimaryToRaise 1 true .done, .newConnection 0, .readyRead 0 1 2]

theorem raiseRun_conserved :
    let raised := (machine.emitted {} raiseRun).filterMap (raisedBy 0)
    let sent := (machine.emitted {} raiseRun).filterMap (sentTo 0)
    raised = [1] ∧ (raised ++ (machine.after {} raiseRun).waiting 0).Perm sent := by
  exact ⟨by decide, (raises_conserved 0 raiseRun (by decide)).1⟩

end Instances

end QtAppBase.Infra
