import Mathlib.Data.List.Basic

/-!
# The worker thread

`Worker::call` queues a job on the worker thread. When the job has run, its
result is queued, with `onDone`, on the thread of the context. Both queues are
event queues of Qt and serve their entries in the order they were posted. The
model keeps the job where the code keeps the two closures, and the context lives
as long as the worker.
-/

namespace QtAppBase.Core

variable {J R S : Type*}

/-- The two queues of a worker. -/
structure Worker (J R : Type*) where
  /-- Jobs not yet finished, oldest first. -/
  queue : List J := []
  /-- Finished jobs with their results, whose `onDone` has not been called, oldest first. -/
  posted : List (J × R) := []

namespace Worker

/-- `Worker::call`. -/
def call (job : J) (w : Worker J R) : Worker J R := { w with queue := w.queue ++ [job] }

@[simp] theorem call_queue (job : J) (w : Worker J R) :
    (w.call job).queue = w.queue ++ [job] := rfl

@[simp] theorem call_posted (job : J) (w : Worker J R) : (w.call job).posted = w.posted := rfl

/-- The worker thread finishes its oldest job and posts the result. The job
acts on what the thread works on. -/
def finish (run : J → S → R × S) (w : Worker J R) (s : S) : Worker J R × S :=
  match w.queue with
  | [] => (w, s)
  | job :: queue =>
    let done := run job s
    ({ queue := queue, posted := w.posted ++ [(job, done.1)] }, done.2)

/-- The thread of the context takes the oldest result to hand it to `onDone`. -/
def take (w : Worker J R) : Option (J × R) × Worker J R :=
  match w.posted with
  | [] => (none, w)
  | done :: posted => (some done, { w with posted := posted })

end Worker

end QtAppBase.Core
