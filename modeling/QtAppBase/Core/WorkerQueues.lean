import QtAppBase.Core.Worker
import QtAppBase.Core.WorkerThreads
import QtAppBase.Library.Labelled

/-!
# One worker with one context

A worker that only ever serves one context, where neither of the two goes, is a pair
of queues: jobs whose results have not been posted, and results that have not been
handed on. What else goes on in the process does not show.
-/

namespace QtAppBase.Core

open Library

namespace Workers

/-- What is done with the two queues: a call, the oldest job is finished, or the oldest
result taken. -/
inductive QueueStep where
  | call (job : Job)
  | finish
  | take
  deriving DecidableEq, Repr

/-- The job of a call. -/
def QueueStep.called : QueueStep → Option Job
  | .call job => some job
  | _ => none

/-- The two queues, with the results that are taken. -/
def queueMachine : Mealy (Worker Job Unit) QueueStep Job :=
  ⟨fun q => fun
    | .call job => (q.call job, [])
    | .finish => ((q.finish (fun _ _ => ((), ())) ()).1, [])
    | .take => (q.take.2, (q.take.1.map Prod.fst).toList)⟩

section Projection

variable (worker context : ℕ)

/-- The two queues that there are between a worker and a context. -/
def queues (w : Workers) : Worker Job Unit where
  queue := (w.addressed ++ w.checked ++ w.finished ++ w.running ++ w.queued).filter
    (meant worker context)
  posted := (w.posted.filter (meant worker context)).map (·, ())

/-- A job that moves is a step if it is meant. -/
def stepOf (step : Job → QueueStep) (job : Option Job) : List QueueStep :=
  ((job.filter (meant worker context)).map step).toList

/-- The step of the queues that an event is: a call, the post of a result, its delivery. -/
def queueStep (w : Workers) : WorkerEvent → List QueueStep
  | .call other true target onDone =>
    stepOf worker context .call (some ⟨w.calls, other, target, onDone⟩)
  | .send other =>
    stepOf worker context (fun _ => .finish) (w.addressed.find? (·.worker = other))
  | .deliver other =>
    stepOf worker context (fun _ => .take) (w.posted.find? (·.context = some other))
  | _ => []

/-- The worker serves this context only, and both stay. -/
def Dedicated : WorkerEvent → Prop
  | .call other _ target onDone => other = worker → target = some context ∧ onDone = true
  | .post other _ => other ≠ worker
  | .destroyContext other => other ≠ context
  | .quit other => other ≠ worker
  | _ => True

instance : ∀ e, Decidable (Dedicated worker context e)
  | .call other _ target onDone =>
    inferInstanceAs (Decidable (other = worker → target = some context ∧ onDone = true))
  | .post other _ => inferInstanceAs (Decidable (other ≠ worker))
  | .destroyContext other => inferInstanceAs (Decidable (other ≠ context))
  | .quit other => inferInstanceAs (Decidable (other ≠ worker))
  | .begin _ | .finish _ | .check _ | .address _ | .send _ | .deliver _ | .close _ => isTrue trivial

end Projection

variable {worker context : ℕ} {w : Workers}

/-- What an event does to the queues is the step that it is. -/
abbrev Moves (worker context : ℕ) : Workers → WorkerEvent → Prop :=
  machine.Follows queueMachine (queueStep worker context) (queues worker context)
    (resultLane worker context).passed

theorem enqueue_queues (job : Job) : (w.enqueue job).1.queues worker context =
    queueMachine.after (w.queues worker context) (stepOf worker context .call (some job)) := by
  unfold queues enqueue stepOf
  cases hmeant : meant worker context job <;>
    simp [hmeant, queueMachine, Mealy.next, Worker.call, Option.filter]

/-- A call that is meant joins the queue. -/
theorem call_moves (other : ℕ) (hasJob : Bool) (target : Option ℕ) (onDone : Bool) :
    Moves worker context w (.call other hasJob target onDone) := by
  cases hasJob with
  | false => exact Mealy.follows_silently rfl rfl rfl
  | true =>
    refine ⟨enqueue_queues _, ?_⟩
    change [] = queueMachine.emitted _ (stepOf worker context .call _)
    unfold stepOf
    cases hmeant : meant worker context ⟨w.calls, other, target, onDone⟩ <;>
      simp [hmeant, queueMachine, Option.filter]

/-- What is posted without a context does not show. -/
theorem post_moves (other : ℕ) (hasJob : Bool) : Moves worker context w (.post other hasJob) := by
  cases hasJob with
  | false => exact Mealy.follows_silently rfl rfl rfl
  | true =>
    refine Mealy.follows_silently rfl ((enqueue_queues _).trans ?_) rfl
    have hmeant : meant worker context ⟨w.calls, other, none, false⟩ = false := by
      simp [meant]
    simp [stepOf, hmeant, Option.filter]

/-- A closure that goes on stays in its queue. -/
theorem begin_moves (other : ℕ) : Moves worker context w (.begin other) := by
  refine Mealy.follows_silently rfl ?_ ?_
  · change queues worker context (w.begin other).1 = _
    unfold begin
    split_ifs
    · rfl
    · cases hfound : w.queued.find? (·.worker = other) with
      | none => rfl
      | some job =>
        simp only [queues, Reaction.silently, List.filter_append, List.append_assoc,
          worker_moved hfound]
  · change (w.begin other).2.filterMap _ = []
    unfold begin
    split_ifs
    · rfl
    · split <;> rfl

theorem finish_moves (other : ℕ) : Moves worker context w (.finish other) := by
  refine Mealy.follows_silently rfl ?_ ?_
  · change queues worker context (w.finish other).1 = _
    unfold finish
    cases hfound : w.running.find? (·.worker = other) with
    | none => rfl
    | some job => simp only [queues, List.filter_append, List.append_assoc, worker_moved hfound]
  · change (w.finish other).2.filterMap _ = []
    unfold finish
    split <;> rfl

/-- What does not live is not meant. -/
theorem not_meant_of_isNull {job : Job} (h : context ∉ w.destroyed)
    (hnull : w.isNull job.context = true) : meant worker context job = false := by
  rw [← Bool.not_eq_true]
  exact fun hmeant => h ((isNull_meant hmeant).mp hnull)

theorem check_moves (h : context ∉ w.destroyed) (other : ℕ) :
    Moves worker context w (.check other) := by
  refine Mealy.follows_silently rfl ?_ ?_
  · change queues worker context (w.check other).1 = _
    unfold check
    cases hfound : w.finished.find? (·.worker = other) with
    | none => rfl
    | some job =>
      dsimp only
      split_ifs with hnull
      · have hmeant : meant worker context job = false := by
          rw [← Bool.not_eq_true]
          intro hmeant
          rw [(meant_iff.mp hmeant).2.2, Bool.not_true, Bool.or_false] at hnull
          exact h ((isNull_meant hmeant).mp hnull)
        simp [queues, Reaction.silently, worker_moved hfound, hmeant]
      · simp only [queues, Reaction.silently, List.filter_append, List.append_assoc,
          worker_moved hfound]
  · change (w.check other).2.filterMap _ = []
    unfold check
    dsimp only
    split
    · rfl
    · split_ifs <;> rfl

theorem address_moves (h : context ∉ w.destroyed) (other : ℕ) :
    Moves worker context w (.address other) := by
  refine Mealy.follows_silently rfl ?_ ?_
  · change queues worker context (w.address other).1 = _
    unfold address
    cases hfound : w.checked.find? (·.worker = other) with
    | none => rfl
    | some job =>
      dsimp only
      split_ifs with hnull
      · simp [queues, Reaction.silently, worker_moved hfound, not_meant_of_isNull h hnull]
      · simp only [queues, Reaction.silently, List.filter_append, List.append_assoc,
          worker_moved hfound]
  · change (w.address other).2.filterMap _ = []
    unfold address
    dsimp only
    split
    · rfl
    · split_ifs <;> rfl

/-- The result that is posted is that of the oldest job. -/
theorem send_moves (h : context ∉ w.destroyed) (other : ℕ) :
    Moves worker context w (.send other) := by
  have hstep : queueStep worker context w (.send other) =
    stepOf worker context (fun _ => .finish) (w.addressed.find? (·.worker = other)) := rfl
  unfold Moves Mealy.Follows
  rw [hstep]
  change (queues worker context (w.send other).1 = _ ∧ (w.send other).2.filterMap _ = _)
  unfold send
  cases hfound : w.addressed.find? (·.worker = other) with
  | none => simp [stepOf]
  | some job =>
    dsimp only
    split_ifs with hnull
    · have hmeant : meant worker context job = false := not_meant_of_isNull h hnull
      constructor
      · simp [stepOf, queues, Option.filter, worker_moved hfound, hmeant]
      · simp [stepOf, resultLane, Option.filter, hmeant]
    · cases hmeant : meant worker context job with
      | false =>
        constructor
        · simp [stepOf, queues, Reaction.silently, Option.filter, worker_moved hfound, hmeant]
        · simp [stepOf, Reaction.silently, Option.filter, hmeant]
      | true =>
        constructor
        · simp [stepOf, queues, queueMachine, Mealy.next, Worker.finish, Reaction.silently,
            Option.filter, worker_moved hfound, hmeant]
        · simp [stepOf, queueMachine, Reaction.silently, Option.filter, hmeant]

/-- The result that is delivered is the oldest one. -/
theorem deliver_moves (other : ℕ) : Moves worker context w (.deliver other) := by
  have hstep : queueStep worker context w (.deliver other) =
    stepOf worker context (fun _ => .take) (w.posted.find? (·.context = some other)) := rfl
  unfold Moves Mealy.Follows
  rw [hstep]
  change (queues worker context (w.deliver other).1 = _ ∧ (w.deliver other).2.filterMap _ = _)
  unfold deliver
  cases hfound : w.posted.find? (·.context = some other) with
  | none => simp [stepOf]
  | some job =>
    cases hmeant : meant worker context job with
    | false =>
      constructor
      · simp [stepOf, queues, Option.filter, context_moved hfound, hmeant]
      · simp [stepOf, resultLane, Option.filter, hmeant]
    | true =>
      constructor
      · simp [stepOf, queues, queueMachine, Mealy.next, Worker.take, Option.filter,
          context_moved hfound, hmeant]
      · simp [stepOf, queues, queueMachine, Worker.take, resultLane, Option.filter,
          context_moved hfound, hmeant]

/-- What stays of the closures when a context or a worker goes is what is meant. -/
theorem filter_kept {jobs : List Job} {p : Job → Bool}
    (h : ∀ job, meant worker context job = true → p job = true) :
    (jobs.filter p).filter (meant worker context) = jobs.filter (meant worker context) := by
  rw [List.filter_filter]
  refine List.filter_congr fun job _ => ?_
  cases hmeant : meant worker context job with
  | false => rfl
  | true => exact h job hmeant

/-- Every event of a worker that is dedicated is such a move. -/
theorem handle_moves {e : WorkerEvent} (h : context ∉ w.destroyed)
    (he : Dedicated worker context e) : Moves worker context w e := by
  cases e with
  | call other hasJob target onDone => exact call_moves other hasJob target onDone
  | post other hasJob => exact post_moves other hasJob
  | begin other => exact begin_moves other
  | finish other => exact finish_moves other
  | check other => exact check_moves h other
  | address other => exact address_moves h other
  | send other => exact send_moves h other
  | deliver other => exact deliver_moves other
  | destroyContext other =>
    refine Mealy.follows_silently rfl ?_ rfl
    change queues worker context (w.destroyContext other) = _
    unfold queues destroyContext
    dsimp only
    rw [filter_kept fun job hmeant => by simpa [(meant_iff.mp hmeant).2.1] using Ne.symm he]
  | close other => exact Mealy.follows_silently rfl rfl rfl
  | quit other =>
    refine Mealy.follows_silently rfl ?_ ?_
    · change queues worker context (w.quit other).1 = _
      unfold quit
      split_ifs
      · rfl
      · simp only [queues, List.filter_append]
        rw [filter_kept fun job hmeant => by simpa [(meant_iff.mp hmeant).1] using Ne.symm he]
    · change (w.quit other).2.filterMap _ = []
      unfold quit
      split_ifs
      · rfl
      · rw [List.filterMap_map, List.filterMap_eq_nil_iff]
        exact fun job _ => rfl

/-- The calls among the steps are the jobs that are accepted. -/
theorem queueStep_called (w : Workers) (e : WorkerEvent) :
    (queueStep worker context w e).filterMap QueueStep.called =
      (w.handle e).2.filterMap (resultLane worker context).taken := by
  have hother : ∀ e, w.submitted e = none →
      (w.handle e).2.filterMap (resultLane worker context).taken = [] := by
    intro e hnone
    rw [List.filterMap_eq_nil_iff]
    intro effect heffect
    cases effect with
    | accepted job => exact absurd (hnone.symm.trans (w.handle_explains e _ heffect)) nofun
    | _ => rfl
  have hsilent : ∀ (step : QueueStep) (job : Option Job), step.called = none →
      (stepOf worker context (fun _ => step) job).filterMap QueueStep.called = [] := by
    intro step job hstep
    rw [List.filterMap_eq_nil_iff]
    intro other hmem
    obtain ⟨_, _, rfl⟩ := Option.map_eq_some_iff.mp (Option.mem_toList.mp hmem)
    exact hstep
  cases e with
  | call other hasJob target onDone =>
    cases hasJob with
    | false => rfl
    | true =>
      change (stepOf worker context .call _).filterMap _ = [WorkerEffect.accepted _].filterMap _
      cases hmeant : meant worker context ⟨w.calls, other, target, onDone⟩ <;>
        simp [stepOf, resultLane, Option.filter, QueueStep.called, hmeant]
  | post other hasJob =>
    cases hasJob with
    | false => rfl
    | true => simp [queueStep, handle, post, enqueue, resultLane, meant]
  | send other => exact (hsilent .finish _ rfl).trans (hother _ rfl).symm
  | deliver other => exact (hsilent .take _ rfl).trans (hother _ rfl).symm
  | begin _ | finish _ | check _ | address _ | destroyContext _ | close _ | quit _ =>
    exact (hother _ rfl).symm

/-- **A dedicated worker is a pair of queues.** Whatever the other workers do, and however the
threads take their turns, the calls of a worker that only ever serves one context, the posts
of their results and the deliveries are the steps of two queues, which hold what is on the
way and give out what is delivered, as long as neither of the two goes. -/
theorem dedicated_queues (worker context : ℕ) (events : List WorkerEvent)
    (hdedicated : machine.EachStep (fun _ e => Dedicated worker context e) {} events) :
    let steps := machine.labels (queueStep worker context) {} events
    (machine.after {} events).queues worker context = queueMachine.after {} steps ∧
      (machine.emitted {} events).filterMap (resultLane worker context).passed =
        queueMachine.emitted {} steps ∧
      steps.filterMap QueueStep.called =
        (machine.emitted {} events).filterMap (resultLane worker context).taken := by
  have hkept : ∀ w e, context ∉ w.destroyed → Dedicated worker context e →
      context ∉ (machine.next w e).destroyed := by
    intro w e hlive he hmem
    rcases destroyed_mem hmem with hbefore | rfl
    · exact hlive hbefore
    · exact he rfl
  have hsimulation := Mealy.labelled_simulation hkept (fun w e hlive he => handle_moves hlive he)
    List.not_mem_nil hdedicated
  exact ⟨hsimulation.1, hsimulation.2, Mealy.labels_filterMap queueStep_called⟩

/-- Two workers, one of which loses its context. -/
def twoWorkers : List WorkerEvent :=
  [.call 0 true (some 7) true, .call 1 true (some 8) true, .begin 1, .begin 0,
    .destroyContext 8, .finish 1, .check 1, .finish 0, .check 0, .address 0, .send 0, .deliver 7]

theorem twoWorkers_queues :
    let steps := machine.labels (queueStep 0 7) {} twoWorkers
    (machine.after {} twoWorkers).queues 0 7 = queueMachine.after {} steps ∧
      (machine.emitted {} twoWorkers).filterMap (resultLane 0 7).passed =
        queueMachine.emitted {} steps ∧
      steps.filterMap QueueStep.called =
        (machine.emitted {} twoWorkers).filterMap (resultLane 0 7).taken :=
  dedicated_queues 0 7 twoWorkers (by decide)

end Workers

end QtAppBase.Core
