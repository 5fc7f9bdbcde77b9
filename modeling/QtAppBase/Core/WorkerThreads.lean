import QtAppBase.Library.Conveying
import QtAppBase.Library.Stamps
import Mathlib.Algebra.Group.Int.Defs

/-!
# Workers, their threads and their contexts

A process may have any number of workers. `call` queues a closure on the thread of its
worker; the thread runs one after the other. Behind the job, the closure asks whether
the context of the call still exists, takes its address, and posts the result to it.
The threads take their turns in any order, also between these steps, and the context
may be destroyed at any time. `pending` is one counter for all workers.
-/

namespace QtAppBase.Core

open Library

/-- A closure that `call` or `post` has queued. -/
structure Job where
  /-- The number of the call, counted over all workers. -/
  id : ℕ
  worker : ℕ
  /-- The context, unless the pointer is null; `post` has none. -/
  context : Option ℕ
  /-- Whether there is an `onDone` to call. -/
  onDone : Bool
  deriving DecidableEq, Repr

/-- The workers of a process, with the events on their threads and on those of the contexts. -/
structure Workers where
  /-- `g_pending`. -/
  pending : ℤ := 0
  calls : ℕ := 0
  /-- Jobs that have not begun, oldest first. -/
  queued : List Job := []
  /-- Jobs that have begun, at most one for each worker. -/
  running : List Job := []
  /-- Closures whose job is done, before `guard` is asked. -/
  finished : List Job := []
  /-- Closures that have found their context. -/
  checked : List Job := []
  /-- Closures that hold the address of their context, and are about to post to it. -/
  addressed : List Job := []
  /-- Results on their way to `onDone`, oldest first. -/
  posted : List Job := []
  /-- The contexts that have been destroyed. -/
  destroyed : List ℕ := []
  /-- The workers whose destructor has begun. -/
  closing : List ℕ := []
  /-- The workers whose thread has ended. -/
  ended : List ℕ := []
  deriving DecidableEq, Repr

/-- What can be observed. -/
inductive WorkerEffect where
  | accepted (job : Job)
  | finished (job : Job)
  /-- `onDone` is called. -/
  | delivered (job : Job)
  /-- A result is posted to the address of an object that is gone. -/
  | stray (job : Job)
  /-- A job that has not begun is deleted with the thread. -/
  | discarded (job : Job)
  deriving DecidableEq, Repr

/-- What can happen: the two calls, with a callable or not; the thread of a worker takes its
next closure, or a step in it: the job is done, `guard` is asked, turned into an address,
and posted to; the thread of a context takes the next result; a context is destroyed; the
destructor of a worker begins, and its thread ends. -/
inductive WorkerEvent where
  | call (worker : ℕ) (job : Bool) (context : Option ℕ) (onDone : Bool)
  | post (worker : ℕ) (job : Bool)
  | begin (worker : ℕ)
  | finish (worker : ℕ)
  | check (worker : ℕ)
  | address (worker : ℕ)
  | send (worker : ℕ)
  | deliver (context : ℕ)
  | destroyContext (context : ℕ)
  | close (worker : ℕ)
  | quit (worker : ℕ)
  deriving DecidableEq, Repr

namespace Workers

/-- `g_pending.ref()`, and the closure goes to the thread of the worker. -/
def enqueue (job : Job) (w : Workers) : Reaction Workers WorkerEffect :=
  ({ w with pending := w.pending + 1, calls := w.calls + 1, queued := w.queued ++ [job] },
    [.accepted job])

/-- `Worker::call`. -/
def call (worker : ℕ) (job : Bool) (context : Option ℕ) (onDone : Bool) (w : Workers) :
    Reaction Workers WorkerEffect :=
  if !job then (w, []) else w.enqueue ⟨w.calls, worker, context, onDone⟩

/-- `Worker::post`. -/
def post (worker : ℕ) (job : Bool) (w : Workers) : Reaction Workers WorkerEffect :=
  if !job then (w, []) else w.enqueue ⟨w.calls, worker, none, false⟩

/-- A closure of the worker is under way. -/
def Busy (w : Workers) (worker : ℕ) : Prop :=
  worker ∈ (w.running ++ w.finished ++ w.checked ++ w.addressed).map Job.worker

instance (w : Workers) (worker : ℕ) : Decidable (w.Busy worker) :=
  inferInstanceAs (Decidable (_ ∈ _))

/-- The event loop of a thread takes its next closure, unless one is under way. -/
def begin (worker : ℕ) (w : Workers) : Reaction Workers WorkerEffect :=
  if worker ∈ w.ended ∨ w.Busy worker then (w, [])
  else
    match w.queued.find? (·.worker = worker) with
    | none => (w, [])
    | some job =>
      .silently { w with queued := w.queued.erase job, running := w.running ++ [job] }

/-- `QPointer::isNull` of the guard. -/
def isNull (w : Workers) : Option ℕ → Bool
  | none => true
  | some context => context ∈ w.destroyed

/-- The job is done: `g_pending.deref()`. -/
def finish (worker : ℕ) (w : Workers) : Reaction Workers WorkerEffect :=
  match w.running.find? (·.worker = worker) with
  | none => (w, [])
  | some job =>
    ({ w with running := w.running.erase job, pending := w.pending - 1,
              finished := w.finished ++ [job] }, [.finished job])

/-- The closure ends if there is no context or no `onDone`. -/
def check (worker : ℕ) (w : Workers) : Reaction Workers WorkerEffect :=
  match w.finished.find? (·.worker = worker) with
  | none => (w, [])
  | some job =>
    let w := { w with finished := w.finished.erase job }
    if w.isNull job.context || !job.onDone then .silently w
    else .silently { w with checked := w.checked ++ [job] }

/-- `guard` is converted for `invokeMethod`, which does nothing with a null pointer. -/
def address (worker : ℕ) (w : Workers) : Reaction Workers WorkerEffect :=
  match w.checked.find? (·.worker = worker) with
  | none => (w, [])
  | some job =>
    let w := { w with checked := w.checked.erase job }
    if w.isNull job.context then .silently w
    else .silently { w with addressed := w.addressed ++ [job] }

/-- `invokeMethod` posts to the address, without asking again. -/
def send (worker : ℕ) (w : Workers) : Reaction Workers WorkerEffect :=
  match w.addressed.find? (·.worker = worker) with
  | none => (w, [])
  | some job =>
    let w := { w with addressed := w.addressed.erase job }
    if w.isNull job.context then (w, [.stray job])
    else .silently { w with posted := w.posted ++ [job] }

/-- The thread of a context takes the next result that is posted to it. -/
def deliver (context : ℕ) (w : Workers) : Reaction Workers WorkerEffect :=
  match w.posted.find? (·.context = some context) with
  | none => (w, [])
  | some job => ({ w with posted := w.posted.erase job }, [.delivered job])

/-- The destructor of an object removes what is posted to it. -/
def destroyContext (context : ℕ) (w : Workers) : Workers :=
  { w with destroyed := context :: w.destroyed,
           posted := w.posted.filter (·.context ≠ some context) }

/-- A thread whose event loop has been told to quit ends between two closures, perhaps with
some that are still queued. -/
def quit (worker : ℕ) (w : Workers) : Reaction Workers WorkerEffect :=
  if worker ∉ w.closing ∨ w.Busy worker then (w, [])
  else
    ({ w with ended := worker :: w.ended, queued := w.queued.filter (·.worker ≠ worker) },
      (w.queued.filter (·.worker = worker)).map .discarded)

/-- What one event does. -/
def handle (w : Workers) : WorkerEvent → Reaction Workers WorkerEffect
  | .call worker job context onDone => w.call worker job context onDone
  | .post worker job => w.post worker job
  | .begin worker => w.begin worker
  | .finish worker => w.finish worker
  | .check worker => w.check worker
  | .address worker => w.address worker
  | .send worker => w.send worker
  | .deliver context => w.deliver context
  | .destroyContext context => .silently (w.destroyContext context)
  | .close worker => .silently { w with closing := worker :: w.closing }
  | .quit worker => w.quit worker

/-- The state machine driven by its events. -/
def machine : Mealy Workers WorkerEvent WorkerEffect := ⟨handle⟩

/-! ### What an event does -/

/-- The closure that a call or a post submits. -/
def submitted (w : Workers) : WorkerEvent → Option Job
  | .call worker true context onDone => some ⟨w.calls, worker, context, onDone⟩
  | .post worker true => some ⟨w.calls, worker, none, false⟩
  | _ => none

/-- What an event can do: nothing, or a job goes one step further or is let go of. -/
inductive Does (w : Workers) : WorkerEvent → Reaction Workers WorkerEffect → Prop
  | nothing (e : WorkerEvent) : Does w e (w, [])
  | submit {e : WorkerEvent} {job : Job} (hsubmitted : w.submitted e = some job) :
    Does w e (w.enqueue job)
  | begin {worker : ℕ} {job : Job} (hfound : w.queued.find? (·.worker = worker) = some job) :
    Does w (.begin worker)
      (.silently { w with queued := w.queued.erase job, running := w.running ++ [job] })
  | finish {worker : ℕ} {job : Job} (hfound : w.running.find? (·.worker = worker) = some job) :
    Does w (.finish worker)
      ({ w with running := w.running.erase job, pending := w.pending - 1,
                finished := w.finished ++ [job] }, [.finished job])
  /-- There is no context or no `onDone`. -/
  | leave {worker : ℕ} {job : Job} (hfound : w.finished.find? (·.worker = worker) = some job)
      (hnull : (w.isNull job.context || !job.onDone) = true) :
    Does w (.check worker) (.silently { w with finished := w.finished.erase job })
  | check {worker : ℕ} {job : Job} (hfound : w.finished.find? (·.worker = worker) = some job)
      (hnull : ¬ (w.isNull job.context || !job.onDone) = true) :
    Does w (.check worker)
      (.silently { w with finished := w.finished.erase job, checked := w.checked ++ [job] })
  /-- The context went after `guard` was asked. -/
  | lose {worker : ℕ} {job : Job} (hfound : w.checked.find? (·.worker = worker) = some job)
      (hnull : w.isNull job.context = true) :
    Does w (.address worker) (.silently { w with checked := w.checked.erase job })
  | address {worker : ℕ} {job : Job} (hfound : w.checked.find? (·.worker = worker) = some job)
      (hnull : ¬ w.isNull job.context = true) :
    Does w (.address worker)
      (.silently { w with checked := w.checked.erase job, addressed := w.addressed ++ [job] })
  /-- The context went while the closure held its address. -/
  | stray {worker : ℕ} {job : Job} (hfound : w.addressed.find? (·.worker = worker) = some job)
      (hnull : w.isNull job.context = true) :
    Does w (.send worker) ({ w with addressed := w.addressed.erase job }, [.stray job])
  | send {worker : ℕ} {job : Job} (hfound : w.addressed.find? (·.worker = worker) = some job)
      (hnull : ¬ w.isNull job.context = true) :
    Does w (.send worker)
      (.silently { w with addressed := w.addressed.erase job, posted := w.posted ++ [job] })
  | deliver {context : ℕ} {job : Job}
      (hfound : w.posted.find? (·.context = some context) = some job) :
    Does w (.deliver context) ({ w with posted := w.posted.erase job }, [.delivered job])
  | destroyContext (context : ℕ) :
    Does w (.destroyContext context) (.silently (w.destroyContext context))
  | close (worker : ℕ) :
    Does w (.close worker) (.silently { w with closing := worker :: w.closing })
  | quit (worker : ℕ) :
    Does w (.quit worker)
      ({ w with ended := worker :: w.ended, queued := w.queued.filter (·.worker ≠ worker) },
        (w.queued.filter (·.worker = worker)).map .discarded)

/-- **What one event does.** The invariants below follow from these cases. -/
theorem handle_does (w : Workers) (e : WorkerEvent) : w.Does e (w.handle e) := by
  unfold handle
  cases e with
  | call worker hasJob context onDone =>
    cases hasJob with
    | false => exact .nothing _
    | true => exact show w.Does _ (w.enqueue ⟨w.calls, worker, context, onDone⟩) from .submit rfl
  | post worker hasJob =>
    cases hasJob with
    | false => exact .nothing _
    | true => exact show w.Does _ (w.enqueue ⟨w.calls, worker, none, false⟩) from .submit rfl
  | begin worker =>
    dsimp only [begin]
    split_ifs
    · exact .nothing _
    · cases hfound : w.queued.find? (·.worker = worker) with
      | none => exact .nothing _
      | some job => exact .begin hfound
  | finish worker =>
    dsimp only [finish]
    cases hfound : w.running.find? (·.worker = worker) with
    | none => exact .nothing _
    | some job => exact .finish hfound
  | check worker =>
    dsimp only [check]
    cases hfound : w.finished.find? (·.worker = worker) with
    | none => exact .nothing _
    | some job =>
      dsimp only
      split_ifs with hnull
      · exact .leave hfound hnull
      · exact .check hfound hnull
  | address worker =>
    dsimp only [address]
    cases hfound : w.checked.find? (·.worker = worker) with
    | none => exact .nothing _
    | some job =>
      dsimp only
      split_ifs with hnull
      · exact .lose hfound hnull
      · exact .address hfound hnull
  | send worker =>
    dsimp only [send]
    cases hfound : w.addressed.find? (·.worker = worker) with
    | none => exact .nothing _
    | some job =>
      dsimp only
      split_ifs with hnull
      · exact .stray hfound hnull
      · exact .send hfound hnull
  | deliver context =>
    dsimp only [deliver]
    cases hfound : w.posted.find? (·.context = some context) with
    | none => exact .nothing _
    | some job => exact .deliver hfound
  | destroyContext context => exact .destroyContext context
  | close worker => exact .close worker
  | quit worker =>
    dsimp only [quit]
    split_ifs
    · exact .nothing _
    · exact .quit worker

/-! ### Results come in the order of the calls -/

variable {w : Workers} {r : List Job → List Job → Prop}

section Lanes

variable (worker context : ℕ)

/-- The jobs of a worker whose results are for a context. -/
def meant (job : Job) : Bool :=
  job.worker = worker && job.context = some context && job.onDone

/-- What is on the way from a worker to a context. -/
def resultLane : Lane Workers WorkerEffect Job where
  taken
    | .accepted job => if meant worker context job then some job else none
    | _ => none
  passed
    | .delivered job => if meant worker context job then some job else none
    | _ => none
  lane w := (w.posted ++ w.addressed ++ w.checked ++ w.finished ++ w.running ++ w.queued).filter
    (meant worker context)

end Lanes

variable {worker context : ℕ}

theorem meant_iff {job : Job} : meant worker context job = true ↔
    job.worker = worker ∧ job.context = some context ∧ job.onDone = true := by
  unfold meant
  simp [and_assoc]

/-- The first job of a worker is the first that is meant, if it is meant at all. -/
theorem worker_moved {jobs : List Job} {job : Job} {other : ℕ}
    (hfound : jobs.find? (·.worker = other) = some job) :
    jobs.filter (meant worker context) =
      [job].filter (meant worker context) ++ (jobs.erase job).filter (meant worker context) := by
  obtain ⟨front, back, hjobs, herase, hjob, hfront⟩ := exists_first hfound
  rw [herase, hjobs]
  refine filter_moved fun h b hb => ?_
  rw [← Bool.not_eq_true, meant_iff]
  rintro ⟨hworker, -⟩
  have hother := (meant_iff.mp h).1.symm.trans (of_decide_eq_true hjob)
  exact of_decide_eq_false (hfront b hb) (hworker.trans hother)

/-- So is the first result for a context. -/
theorem context_moved {jobs : List Job} {job : Job} {other : ℕ}
    (hfound : jobs.find? (·.context = some other) = some job) :
    jobs.filter (meant worker context) =
      [job].filter (meant worker context) ++ (jobs.erase job).filter (meant worker context) := by
  obtain ⟨front, back, hjobs, herase, hjob, hfront⟩ := exists_first hfound
  rw [herase, hjobs]
  refine filter_moved fun h b hb => ?_
  rw [← Bool.not_eq_true, meant_iff]
  rintro ⟨-, hcontext, -⟩
  have hother := (meant_iff.mp h).2.1.symm.trans (of_decide_eq_true hjob)
  exact of_decide_eq_false (hfront b hb) (hcontext.trans hother)

theorem enqueue_conveys (hr : Conveying r) (job : Job) :
    (resultLane worker context).Conveys r w (w.enqueue job) := by
  have hqueued : (w.queued ++ [job]).filter (meant worker context) =
      w.queued.filter (meant worker context) ++ [job].filter (meant worker context) :=
    List.filter_append ..
  unfold Lane.Conveys enqueue resultLane
  simp only [List.filter_append, hqueued, List.append_assoc]
  cases hjob : meant worker context job <;> simpa [hjob] using hr.refl _

/-- A job that leaves the lane in the middle is lost, if it was meant at all. -/
theorem lost_conveys (hr : Conveying r) {x : Reaction Workers WorkerEffect} {jobs : List Job}
    {job : Job} {other : ℕ} (front back : List Job)
    (hfound : jobs.find? (·.worker = other) = some job)
    (htaken : x.2.filterMap (resultLane worker context).taken = [])
    (hpassed : x.2.filterMap (resultLane worker context).passed = [])
    (hbefore : (resultLane worker context).lane w =
      (front ++ (jobs ++ back)).filter (meant worker context))
    (hafter : (resultLane worker context).lane x.1 =
      (front ++ (jobs.erase job ++ back)).filter (meant worker context))
    (hlost : meant worker context job = true → ∀ k l : List Job, k.Sublist l → r k l) :
    (resultLane worker context).Conveys r w x := by
  rw [List.filter_append, List.filter_append, worker_moved hfound] at hbefore
  rw [List.filter_append, List.filter_append] at hafter
  cases hmeant : meant worker context job with
  | false =>
    refine Lane.conveys_aside hr htaken hpassed ?_
    rw [hbefore, hafter]
    simp [hmeant]
  | true =>
    rw [Lane.Conveys, htaken, hpassed, hbefore, hafter, List.nil_append, List.append_nil]
    refine hlost hmeant _ _ ?_
    exact (List.Sublist.refl _).append
      ((List.sublist_append_right _ _).append (List.Sublist.refl _))

/-- A job that is meant has a context to be asked for. -/
theorem isNull_meant {job : Job} (hmeant : meant worker context job = true) :
    w.isNull job.context = true ↔ context ∈ w.destroyed := by
  rw [(meant_iff.mp hmeant).2.1, isNull, decide_eq_true_iff]

/-- What is passed on is the first that is posted to the context. -/
theorem deliver_conveys (hr : Conveying r) {job : Job} {other : ℕ}
    (hfound : w.posted.find? (·.context = some other) = some job) :
    (resultLane worker context).Conveys r w
      ({ w with posted := w.posted.erase job }, [.delivered job]) := by
  unfold Lane.Conveys resultLane
  simp only [List.filter_append, context_moved hfound, List.append_assoc]
  cases hmeant : meant worker context job <;> simpa [hmeant] using hr.refl _

/-- A filter takes nothing away that is meant, or there is a loss. -/
theorem filter_related (hr : Conveying r) (jobs : List Job) {p : Job → Bool}
    (hlost : (∀ job, meant worker context job = true → p job = true) ∨
      ∀ k l : List Job, k.Sublist l → r k l) :
    r ((jobs.filter p).filter (meant worker context)) (jobs.filter (meant worker context)) := by
  rcases hlost with hkept | hlost
  · have hsame : (jobs.filter p).filter (meant worker context) =
        jobs.filter (meant worker context) := by
      rw [List.filter_filter]
      refine List.filter_congr fun job _ => ?_
      cases hmeant : meant worker context job with
      | false => rfl
      | true => rw [hkept job hmeant]; rfl
    rw [hsame]
    exact hr.refl _
  · exact hlost _ _ (List.filter_sublist.filter _)

theorem destroyContext_conveys (hr : Conveying r) (other : ℕ)
    (hlost : other = context → ∀ k l : List Job, k.Sublist l → r k l) :
    (resultLane worker context).Conveys r w (.silently (w.destroyContext other)) := by
  unfold Lane.Conveys resultLane destroyContext
  simp only [Reaction.silently, List.filterMap_nil, List.nil_append, List.append_nil,
    List.filter_append, List.append_assoc]
  refine hr.append (filter_related hr _ ?_) (hr.refl _)
  by_cases hother : other = context
  · exact Or.inr (hlost hother)
  · refine Or.inl fun job hmeant => ?_
    simp [(meant_iff.mp hmeant).2.1, Ne.symm hother]

theorem quit_conveys (hr : Conveying r) (other : ℕ)
    (hlost : other = worker → ∀ k l : List Job, k.Sublist l → r k l) :
    (resultLane worker context).Conveys r w
      ({ w with ended := other :: w.ended, queued := w.queued.filter (·.worker ≠ other) },
        (w.queued.filter (·.worker = other)).map .discarded) := by
  have hsilent : ∀ pick : WorkerEffect → Option Job, (∀ job, pick (.discarded job) = none) →
      ((w.queued.filter (·.worker = other)).map WorkerEffect.discarded).filterMap pick = [] := by
    intro pick hpick
    rw [List.filterMap_map, List.filterMap_eq_nil_iff]
    exact fun job _ => hpick job
  unfold Lane.Conveys
  rw [hsilent _ fun _ => rfl, hsilent _ fun _ => rfl]
  unfold resultLane
  simp only [List.nil_append, List.append_nil, List.filter_append]
  refine hr.append (hr.refl _) (filter_related hr _ ?_)
  by_cases hother : other = worker
  · exact Or.inr (hlost hother)
  · refine Or.inl fun job hmeant => ?_
    simp [(meant_iff.mp hmeant).1, Ne.symm hother]

/-- **Every event keeps the order.** Something is lost only with the context or the worker. -/
theorem handle_conveys (hr : Conveying r) (e : WorkerEvent)
    (hlost : (context ∈ w.destroyed ∨ e = .destroyContext context ∨ e = .quit worker) →
      ∀ k l : List Job, k.Sublist l → r k l) :
    (resultLane worker context).Conveys r w (w.handle e) := by
  have h := w.handle_does e
  generalize w.handle e = x at h
  cases h with
  | nothing => exact Lane.conveys_aside hr rfl rfl rfl
  | submit => exact enqueue_conveys hr _
  | begin hfound | finish hfound | check hfound | address hfound | send hfound =>
    refine Lane.conveys_aside hr rfl rfl ?_
    simp only [resultLane, Reaction.silently, List.filter_append, List.append_assoc,
      worker_moved hfound]
  | leave hfound hnull =>
    refine lost_conveys hr (w.posted ++ w.addressed ++ w.checked) (w.running ++ w.queued) hfound
      rfl rfl (by simp [resultLane]) (by simp [resultLane, Reaction.silently]) fun hmeant => ?_
    rw [(meant_iff.mp hmeant).2.2, Bool.not_true, Bool.or_false] at hnull
    exact hlost (Or.inl ((isNull_meant hmeant).mp hnull))
  | lose hfound hnull =>
    exact lost_conveys hr (w.posted ++ w.addressed) (w.finished ++ w.running ++ w.queued) hfound
      rfl rfl (by simp [resultLane]) (by simp [resultLane, Reaction.silently])
      fun hmeant => hlost (Or.inl ((isNull_meant hmeant).mp hnull))
  | stray hfound hnull =>
    exact lost_conveys hr w.posted (w.checked ++ w.finished ++ w.running ++ w.queued) hfound
      rfl rfl (by simp [resultLane]) (by simp [resultLane])
      fun hmeant => hlost (Or.inl ((isNull_meant hmeant).mp hnull))
  | deliver hfound => exact deliver_conveys hr hfound
  | destroyContext other =>
    exact destroyContext_conveys hr other fun h => hlost (Or.inr (Or.inl (congrArg _ h)))
  | close => exact Lane.conveys_aside hr rfl rfl rfl
  | quit other => exact quit_conveys hr other fun h => hlost (Or.inr (Or.inr (congrArg _ h)))

/-- The context of a job lives, and there is an `onDone` for it. -/
def Awaited (w : Workers) (job : Job) : Prop :=
  ∃ context, job.context = some context ∧ context ∉ w.destroyed ∧ job.onDone = true

/-- A closure that has found its context has an `onDone`; and a context whose address is held,
or that is posted to, lives. -/
structure Live (w : Workers) : Prop where
  checked : ∀ job ∈ w.checked, job.onDone = true
  addressed : ∀ job ∈ w.addressed, w.Awaited job
  posted : ∀ job ∈ w.posted, w.Awaited job

/-- No context is destroyed while a closure holds its address. -/
def Unhurried (w : Workers) : WorkerEvent → Prop
  | .destroyContext context => ∀ job ∈ w.addressed, job.context ≠ some context
  | _ => True

instance (w : Workers) : ∀ e, Decidable (w.Unhurried e)
  | .destroyContext _ => inferInstanceAs (Decidable (∀ job ∈ w.addressed, _))
  | .call .. | .post .. | .begin _ | .finish _ | .check _ | .address _ | .send _ | .deliver _
  | .close _ | .quit _ => isTrue trivial

/-- A context that is not null lives. -/
theorem awaited_of_isNull {job : Job} (hnull : ¬ w.isNull job.context = true)
    (honDone : job.onDone = true) : w.Awaited job := by
  unfold isNull at hnull
  split at hnull
  · exact absurd rfl hnull
  · rename_i context htarget
    exact ⟨context, htarget, by simpa using hnull, honDone⟩

/-- A context that is not destroyed lives on. -/
theorem Awaited.destroyContext {job : Job} {other : ℕ} (h : w.Awaited job)
    (hother : job.context ≠ some other) : (w.destroyContext other).Awaited job := by
  obtain ⟨context, hcontext, hlive, honDone⟩ := h
  refine ⟨context, hcontext, ?_, honDone⟩
  rintro (_ | ⟨_, hmem⟩)
  · exact hother hcontext
  · exact hlive hmem

/-- What one list keeps and one job joins is true of all of it. -/
theorem forall_mem_snoc {jobs : List Job} {job : Job} {p : Job → Prop} (h : ∀ b ∈ jobs, p b)
    (hjob : p job) : ∀ b ∈ jobs ++ [job], p b := by
  intro b hb
  rcases List.mem_append.mp hb with hbefore | hnew
  · exact h b hbefore
  · rw [List.mem_singleton.mp hnew]
    exact hjob

/-- A result is posted to a context that lives, and goes with it. -/
theorem Live.handle {e : WorkerEvent} (h : w.Live) (he : w.Unhurried e) : (w.handle e).1.Live := by
  have hdoes := w.handle_does e
  generalize w.handle e = x at hdoes
  cases hdoes with
  | nothing | submit | begin | finish | leave | close | quit =>
    exact ⟨h.checked, h.addressed, h.posted⟩
  | check _ hnull =>
    rw [Bool.not_eq_true, Bool.or_eq_false_iff] at hnull
    exact ⟨forall_mem_snoc h.checked (by simpa using hnull.2), h.addressed, h.posted⟩
  | lose =>
    exact ⟨fun b hb => h.checked b (List.mem_of_mem_erase hb), h.addressed, h.posted⟩
  | address hfound hnull =>
    have honDone := h.checked _ (List.mem_of_find?_eq_some hfound)
    exact ⟨fun b hb => h.checked b (List.mem_of_mem_erase hb),
      forall_mem_snoc h.addressed (awaited_of_isNull hnull honDone), h.posted⟩
  | stray =>
    exact ⟨h.checked, fun b hb => h.addressed b (List.mem_of_mem_erase hb), h.posted⟩
  | send hfound =>
    have hawaited := h.addressed _ (List.mem_of_find?_eq_some hfound)
    exact ⟨h.checked, fun b hb => h.addressed b (List.mem_of_mem_erase hb),
      forall_mem_snoc h.posted hawaited⟩
  | deliver =>
    exact ⟨h.checked, h.addressed, fun job hjob => h.posted job (List.mem_of_mem_erase hjob)⟩
  | destroyContext other =>
    refine ⟨h.checked, fun job hjob => (h.addressed job hjob).destroyContext (he job hjob),
      fun job hjob => ?_⟩
    obtain ⟨hposted, hother⟩ := List.mem_filter.mp hjob
    exact (h.posted job hposted).destroyContext (of_decide_eq_true hother)

/-- Why something is accepted or delivered, or posted to an object that is gone. -/
def Explains (w : Workers) (e : WorkerEvent) : WorkerEffect → Prop
  | .accepted job => w.submitted e = some job
  | .delivered job => ∃ context, e = .deliver context ∧ job.context = some context ∧ job ∈ w.posted
  | .stray job => job ∈ w.addressed ∧ w.isNull job.context = true
  | _ => True

/-- What is submitted is accepted, and results are delivered by the thread of their context
and posted by those that hold its address. -/
theorem handle_explains (w : Workers) (e : WorkerEvent) :
    ∀ effect ∈ (w.handle e).2, w.Explains e effect := by
  have h := w.handle_does e
  generalize w.handle e = x at h
  cases h with
  | nothing | begin | leave | check | lose | address | send | destroyContext | close => exact nofun
  | submit hsubmitted => exact List.forall_mem_singleton.mpr hsubmitted
  | finish => exact List.forall_mem_singleton.mpr trivial
  | stray hfound hnull =>
    exact List.forall_mem_singleton.mpr ⟨List.mem_of_find?_eq_some hfound, hnull⟩
  | deliver hfound =>
    exact List.forall_mem_singleton.mpr
      ⟨_, rfl, of_decide_eq_true (List.find?_some hfound :), List.mem_of_find?_eq_some hfound⟩
  | quit =>
    intro effect heffect
    obtain ⟨discarded, -, rfl⟩ := List.mem_map.mp heffect
    trivial

/-- The job that is accepted. -/
def accepted? : WorkerEffect → Option Job
  | .accepted job => some job
  | _ => none

theorem submitted_id {e : WorkerEvent} {job : Job} (h : w.submitted e = some job) :
    job.id = w.calls := by
  unfold submitted at h
  split at h <;> cases h <;> rfl

/-- Accepted jobs are numbered. -/
theorem handle_numbered (w : Workers) (e : WorkerEvent) :
    Stamps (fun n job => job.id = n) (fun n w => w.calls = n) accepted? w.calls (w.handle e) := by
  have h := w.handle_does e
  generalize w.handle e = x at h
  cases h with
  | submit hsubmitted => exact stamps_one rfl (submitted_id hsubmitted) rfl
  | quit =>
    refine stamps_nothing ?_ rfl
    rw [List.filterMap_map, List.filterMap_eq_nil_iff]
    exact fun job _ => rfl
  | _ => exact stamps_nothing rfl rfl

/-- The jobs accepted in a run, in the order of their numbers. -/
theorem accepted_pairwise (worker context : ℕ) (events : List WorkerEvent) :
    ((machine.emitted {} events).filterMap (resultLane worker context).taken).Pairwise
      (·.id < ·.id) := by
  have hstep : ∀ n (w : Workers) e, w.calls = n → True →
      Stamps (fun n job => job.id = n) (fun n w => w.calls = n) accepted? n (machine.step w e) := by
    rintro _ w e rfl -
    exact w.handle_numbered e
  have hstamped : Stamped machine (fun _ _ n (job : Job) => job.id = n) accepted? 0 {} events :=
    (stamped_run (s := {}) hstep rfl (Mealy.eachStep_trivial _ _)).1
  have hnumbered : Consecutive (fun n (job : Job) => job.id = n) 0
      ((machine.emitted {} events).filterMap accepted?) := hstamped.consecutive fun _ _ _ _ => id
  have hall : ((machine.emitted {} events).filterMap accepted?).Pairwise (·.id < ·.id) := by
    rw [List.pairwise_iff_getElem]
    intro i j hi hj hij
    rw [hnumbered.get i hi, hnumbered.get j hj]
    omega
  have htaken : (resultLane worker context).taken =
      fun effect => (accepted? effect).bind (Option.guard (meant worker context)) := by
    funext effect
    cases effect with
    | accepted job =>
      change (if _ then _ else _) = Option.guard _ job
      unfold Option.guard
      rfl
    | _ => rfl
  rw [htaken, ← List.filterMap_filterMap, List.filterMap_eq_filter]
  exact hall.filter _

/-- **Results come in order, and only to those that live.** Over every interleaving of the
threads in which no context is destroyed just while a closure holds its address, what a
worker delivers to a context are results of calls to this worker with this context, in the
order of these calls, each at most once; whenever a result is delivered, its context has not
been destroyed; and nothing is posted to an object that is gone. -/
theorem results_inOrder (worker context : ℕ) (events : List WorkerEvent)
    (hunhurried : machine.EachStep Unhurried {} events) :
    let delivered := (machine.emitted {} events).filterMap (resultLane worker context).passed
    let called := (machine.emitted {} events).filterMap (resultLane worker context).taken
    (delivered.Sublist called ∧ called.Pairwise (·.id < ·.id)) ∧
    machine.EachStep (fun w e =>
      (∀ job, .delivered job ∈ (w.handle e).2 → ∃ context, e = .deliver context ∧
        job.context = some context ∧ context ∉ w.destroyed ∧ job.onDone = true) ∧
      ∀ job, .stray job ∉ (w.handle e).2) {} events := by
  refine ⟨⟨?_, accepted_pairwise worker context events⟩, ?_⟩
  · have hconveys : (resultLane worker context).Conveys List.Sublist {}
        (machine.after {} events, machine.emitted {} events) :=
      Lane.conveys_run conveying_sublist (I := fun _ => True) (P := fun _ _ => True)
        (fun _ _ _ _ => trivial)
        (fun w e _ _ => handle_conveys conveying_sublist e fun _ _ _ h => h) trivial
        (Mealy.eachStep_trivial _ _)
    exact (List.sublist_append_left _ _).trans hconveys
  · refine Mealy.eachStep_of_invariant (M := machine) (I := Live) (fun w e h he => h.handle he)
      ?_ ⟨nofun, nofun, nofun⟩ hunhurried
    intro w e hlive _
    constructor
    · intro job hjob
      obtain ⟨context, rfl, hcontext, hposted⟩ := w.handle_explains e _ hjob
      obtain ⟨target, htarget, hdestroyed, honDone⟩ := hlive.posted job hposted
      obtain rfl := Option.some.inj (htarget.symm.trans hcontext)
      exact ⟨target, rfl, hcontext, hdestroyed, honDone⟩
    · intro job hjob
      obtain ⟨haddressed, hnull⟩ := w.handle_explains e _ hjob
      obtain ⟨context, hcontext, hlives, -⟩ := hlive.addressed job haddressed
      rw [hcontext] at hnull
      exact hlives (of_decide_eq_true hnull)

/-- A context that is destroyed at that moment is posted to all the same. -/
example : .stray ⟨0, 0, some 7, true⟩ ∈ machine.emitted {} [.call 0 true (some 7) true, .begin 0,
    .finish 0, .check 0, .address 0, .destroyContext 7, .send 0] := by decide

/-- A context is destroyed after it has been found, and another one gets its result. -/
def foundThenDestroyed : List WorkerEvent :=
  [.call 0 true (some 7) true, .call 1 true (some 8) true, .begin 0, .begin 1, .finish 0,
    .finish 1, .check 0, .check 1, .destroyContext 7, .address 0, .address 1, .send 0, .send 1,
    .deliver 8]

theorem foundThenDestroyed_inOrder :
    let delivered := (machine.emitted {} foundThenDestroyed).filterMap (resultLane 1 8).passed
    let called := (machine.emitted {} foundThenDestroyed).filterMap (resultLane 1 8).taken
    (delivered.Sublist called ∧ called.Pairwise (·.id < ·.id)) ∧
    machine.EachStep (fun w e =>
      (∀ job, .delivered job ∈ (w.handle e).2 → ∃ context, e = .deliver context ∧
        job.context = some context ∧ context ∉ w.destroyed ∧ job.onDone = true) ∧
      ∀ job, .stray job ∉ (w.handle e).2) {} foundThenDestroyed :=
  results_inOrder 1 8 foundThenDestroyed (by decide)

/-- Only contexts that are destroyed are. -/
theorem destroyed_mem {e : WorkerEvent} (h : context ∈ (w.handle e).1.destroyed) :
    context ∈ w.destroyed ∨ e = .destroyContext context := by
  have hdoes := w.handle_does e
  generalize w.handle e = x at hdoes h
  cases hdoes with
  | destroyContext other =>
    rcases List.mem_cons.mp h with rfl | hbefore
    · exact Or.inr rfl
    · exact Or.inl hbefore
  | _ => exact Or.inl h

/-- **No result is lost.** As long as neither the context nor the worker goes, every call of
this worker with this context is accounted for: its result has been delivered, in turn, or it
is still on the way. -/
theorem results_complete (worker context : ℕ) (events : List WorkerEvent)
    (hstay : machine.EachStep (fun _ e => e ≠ .destroyContext context ∧ e ≠ .quit worker) {}
      events) :
    (machine.emitted {} events).filterMap (resultLane worker context).passed ++
        (resultLane worker context).lane (machine.after {} events) =
      (machine.emitted {} events).filterMap (resultLane worker context).taken := by
  refine Lane.conveys_run (L := resultLane worker context) conveying_eq (M := machine)
    (I := fun w => context ∉ w.destroyed) ?_ ?_ List.not_mem_nil hstay
  · intro w e hlive he
    exact fun hmem => (destroyed_mem hmem).elim hlive he.1
  · intro w e hlive he
    refine handle_conveys conveying_eq e fun hlost => ?_
    rcases hlost with hdestroyed | hdestroyed | hquit
    · exact absurd hdestroyed hlive
    · exact absurd hdestroyed he.1
    · exact absurd hquit he.2

/-- Two calls, the first of which is done. -/
def twoCalls : List WorkerEvent :=
  [.call 0 true (some 7) true, .call 0 true (some 7) true, .begin 0, .finish 0, .check 0,
    .address 0, .send 0, .deliver 7, .begin 0]

theorem twoCalls_complete :
    (machine.emitted {} twoCalls).filterMap (resultLane 0 7).passed ++
        (resultLane 0 7).lane (machine.after {} twoCalls) =
      (machine.emitted {} twoCalls).filterMap (resultLane 0 7).taken :=
  results_complete 0 7 twoCalls (by decide)

/-! ### What is pending -/

/-- A job that is discarded. -/
def isDiscarded : WorkerEffect → Bool
  | .discarded _ => true
  | _ => false

/-- What the counter says beyond the jobs there are. -/
def surplus (w : Workers) : ℤ := w.pending - (w.queued.length + w.running.length)

/-- A list is one longer than without one of its items. -/
theorem length_found {jobs : List Job} {job : Job} {p : Job → Bool}
    (hfound : jobs.find? p = some job) : jobs.length = (jobs.erase job).length + 1 :=
  (List.length_erase_add_one (List.mem_of_find?_eq_some hfound)).symm

/-- It grows with the jobs that are discarded. -/
theorem handle_surplus (w : Workers) (e : WorkerEvent) :
    (w.handle e).1.surplus = w.surplus + (w.handle e).2.countP isDiscarded := by
  have h := w.handle_does e
  generalize w.handle e = x at h
  cases h with
  | submit => simp [surplus, enqueue, isDiscarded]; omega
  | begin hfound => simp [surplus, length_found hfound]; omega
  | finish hfound => simp [surplus, length_found hfound, isDiscarded]; omega
  | quit other =>
    have hlength : w.queued.length = (w.queued.filter (·.worker = other)).length +
        (w.queued.filter (·.worker ≠ other)).length := by
      rw [← List.countP_eq_length_filter, ← List.countP_eq_length_filter]
      simpa using List.length_eq_countP_add_countP (·.worker = other) (l := w.queued)
    have hall : ((w.queued.filter (·.worker = other)).map WorkerEffect.discarded).countP
        isDiscarded = (w.queued.filter (·.worker = other)).length := by
      rw [List.countP_map]
      exact List.countP_eq_length.mpr fun _ _ => rfl
    unfold surplus
    dsimp only
    rw [hall]
    omega
  | _ => exact (Int.add_zero _).symm

/-- **What is pending.** The counter is the number of jobs, of all workers, that have not
finished, and never comes down again for those that are discarded with the thread of their
worker. -/
theorem pending_counts (events : List WorkerEvent) :
    (machine.after {} events).pending =
      (machine.after {} events).queued.length + (machine.after {} events).running.length +
        (machine.emitted {} events).countP isDiscarded := by
  have hrun : ∀ w : Workers, (machine.after w events).surplus =
      w.surplus + (machine.emitted w events).countP isDiscarded := by
    induction events with
    | nil => exact fun w => (Int.add_zero _).symm
    | cons e events ih =>
      intro w
      have hstep := w.handle_surplus e
      rw [Mealy.after_cons, Mealy.emitted_cons, List.countP_append, ih]
      change (w.handle e).1.surplus + _ =
        w.surplus + (((w.handle e).2.countP isDiscarded + _ : ℕ) : ℤ)
      rw [hstep, Int.natCast_add]
      omega
  have hsurplus := hrun {}
  unfold surplus at hsurplus
  simp only [List.length_nil] at hsurplus
  omega

end Workers

end QtAppBase.Core
