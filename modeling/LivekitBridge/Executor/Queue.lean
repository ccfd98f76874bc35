import LivekitBridge.Lib.Machine
import LivekitBridge.Lib.Threads

/-!
# The executor queue

`ros_executor_queue.hpp` and `ros_executor_queue.cpp`.  Work is submitted from any
thread and runs on the thread of the node's executor that drains the queue.

`Queue` is what `state->mutex` guards, together with the waitable and its guard
condition.  A call in progress is a `Frame`: the point of the source where it is,
with the local variables it still uses.  `advance` runs a frame to its next point,
one section of the mutex or one action outside it at a time, and a run interleaves
the threads at these points.  A thread may call into the queue when it is outside
it, or from inside a task that it runs; what it calls then goes on top of the
task's frame, and the task cannot go on before it returns.

A drain may be called at any time: the executor need not have seen the guard
condition, whose flag it takes down when it starts.  The weak pointer of the waitable
is not modelled; it expires after the destructor's `shutdown`, and a drain that comes
later than a shutdown does nothing anyway.
-/

namespace LivekitBridge

open Lib

/-- A submitted task, with its promise; each `submit` makes a new one. -/
abbrev TaskId := Nat

/-- What a task's promise is set to. -/
inductive TaskOutcome
  /-- `set_value` -/
  | value
  /-- `set_exception`, with what the task threw -/
  | exception
  /-- `set_exception`, "ROS executor queue is shut down." -/
  | shutDown
deriving DecidableEq, Repr

/-- What a step did. -/
inductive QueueEvent
  /-- `submit` pushed the task. -/
  | enqueued (task : TaskId)
  /-- `submit` found the queue shut down. -/
  | rejected (task : TaskId)
  /-- `drain` took the task from the queue to run it. -/
  | started (task : TaskId)
  /-- `task.run` returned. -/
  | ran (task : TaskId)
  /-- `task.cancel` returned. -/
  | cancelled (task : TaskId)
  /-- The promise of the task was set. -/
  | promiseSet (task : TaskId) (outcome : TaskOutcome)
  /-- `shutdown` was set, and these tasks were queued. -/
  | shutdownSet (queued : List TaskId)
  /-- A `shutdown` returned to this thread. -/
  | shutdownReturned (thread : ThreadId)
deriving DecidableEq, Repr

/-- `State`, and what `wake` reads: whether `waitable_` is set, and the flag of its
guard condition. -/
structure Queue where
  tasks : List TaskId
  isShutdown : Bool
  isDraining : Bool
  drainOwner : Option ThreadId
  hasWaitable : Bool
  guard : Bool
  nextTask : TaskId
deriving DecidableEq, Repr

/-- A queue that was just constructed. -/
def Queue.initial : Queue := ⟨[], false, false, none, true, false, 0⟩

/-- A call in progress: where it is. -/
inductive Frame
  /-- `submit`, which found the queue shut down and has not cancelled the task -/
  | rejecting (task : TaskId)
  /-- `wake`, before its lock -/
  | waking
  /-- `wake`, before `waitable->wake` -/
  | triggering
  /-- `shutdown`, before its lock -/
  | shuttingDown
  /-- `shutdown`, in the loop over the tasks it moved out -/
  | cancelling (queued : List TaskId)
  /-- `awaitIdle` -/
  | awaiting
  /-- `execute`, before the first lock of `drain` -/
  | executing
  /-- `drain`, at the top of its loop -/
  | draining
  /-- `drain`, in `task.run` -/
  | running (task : TaskId)
  /-- `drain`, past the loop and before the lock of `finish` -/
  | finishing
deriving DecidableEq, Repr

/-! ### The code at each point -/

/-- How far a call gets: the queue, the point it is at or none if it has returned, and
what happened. -/
abbrev Progress := Queue × Option Frame × List QueueEvent

/-- `task.cancel` -/
def cancelTask (task : TaskId) : List QueueEvent :=
  [.promiseSet task .shutDown, .cancelled task]

/-- The end of `task.run`: what `fn` returned or threw goes to the promise. -/
def endTask (task : TaskId) (throws : Bool) : List QueueEvent :=
  [.promiseSet task (if throws then .exception else .value), .ran task]

/-- `submit`, to the end of its lock. -/
def Queue.submit (q : Queue) : Queue × Frame × List QueueEvent :=
  let task := q.nextTask
  let q := { q with nextTask := q.nextTask + 1 }
  if q.isShutdown then (q, .rejecting task, [.rejected task])
  else ({ q with tasks := q.tasks ++ [task] }, .waking, [.enqueued task])

/-- `execute` starts, and takes the guard condition's flag down. -/
def Queue.execute (q : Queue) : Queue := { q with guard := false }

/-- The lock of `wake`. -/
def Queue.wake (q : Queue) : Progress :=
  if q.isShutdown then (q, none, [])
  else if q.hasWaitable then (q, some .triggering, [])
  else (q, none, [])

/-- `waitable->wake`, and its handler. -/
def Queue.trigger (q : Queue) (throws : Bool) : Progress :=
  if throws then (q, some .shuttingDown, []) else ({ q with guard := true }, none, [])

/-- The lock of `shutdown`. -/
def Queue.shutdown (q : Queue) : Progress :=
  if q.isShutdown then (q, some .awaiting, [])
  else
    ({ q with isShutdown := true, tasks := [], hasWaitable := false },
      some (.cancelling q.tasks), [.shutdownSet q.tasks])

/-- The first lock of `drain`. -/
def Queue.drain (q : Queue) (thread : ThreadId) : Progress :=
  if q.isShutdown || q.isDraining then (q, none, [])
  else ({ q with isDraining := true, drainOwner := some thread }, some .draining, [])

/-- The lock in the loop of `drain`. -/
def Queue.claim (q : Queue) : Progress :=
  match q.tasks with
  | [] => (q, some .finishing, [])
  | task :: tasks => ({ q with tasks := tasks }, some (.running task), [.started task])

/-- `finish`, at the end of `drain`. -/
def Queue.finish (q : Queue) : Progress :=
  ({ q with isDraining := false, drainOwner := none }, none, [])

/-- Whether the wait of `awaitIdle` is over. -/
def Queue.isIdleFor (q : Queue) (thread : ThreadId) : Bool :=
  !q.isDraining || q.drainOwner == some thread

/-- A call goes on from where it is; none, if it has to wait.  `throws` says whether
what it does outside the lock throws: the guard condition, or the body of a task. -/
def advance (thread : ThreadId) (throws : Bool) (q : Queue) : Frame → Option Progress
  | .rejecting task => some (q, none, cancelTask task)
  | .waking => some q.wake
  | .triggering => some (q.trigger throws)
  | .shuttingDown => some q.shutdown
  | .cancelling [] => some (q, some .awaiting, [])
  | .cancelling (task :: queued) => some (q, some (.cancelling queued), cancelTask task)
  | .awaiting => if q.isIdleFor thread then some (q, none, [.shutdownReturned thread]) else none
  | .executing => some (q.drain thread)
  | .draining => some q.claim
  | .running task => some (q, some .draining, endTask task throws)
  | .finishing => some q.finish

/-! ### Runs of the queue -/

/-- The queue and the calls in progress; of the calls of one thread the innermost
comes first. -/
structure QueueState where
  queue : Queue
  frames : List (ThreadId × Frame)

/-- The thread is outside the queue, or its innermost call is a task's body. -/
def CanCall (frames : List (ThreadId × Frame)) (thread : ThreadId) : Prop :=
  ∀ call ∈ frames.find? (fun call => call.1 == thread), ∃ task, call.2 = .running task

/-- One step of one thread. -/
inductive QueueStep : QueueState → List QueueEvent → QueueState → Prop
  | submit (thread : ThreadId) (s : QueueState) : CanCall s.frames thread →
      QueueStep s s.queue.submit.2.2
        ⟨s.queue.submit.1, (thread, s.queue.submit.2.1) :: s.frames⟩
  | execute (thread : ThreadId) (s : QueueState) : CanCall s.frames thread →
      QueueStep s [] ⟨s.queue.execute, (thread, .executing) :: s.frames⟩
  | shutdown (thread : ThreadId) (s : QueueState) : CanCall s.frames thread →
      QueueStep s [] ⟨s.queue, (thread, .shuttingDown) :: s.frames⟩
  | advance (thread : ThreadId) (throws : Bool) (q q' : Queue) (frame : Frame)
      (next : Option Frame) (evs : List QueueEvent) (before after : List (ThreadId × Frame)) :
      (∀ call ∈ before, call.1 ≠ thread) → advance thread throws q frame = some (q', next, evs) →
      QueueStep ⟨q, before ++ (thread, frame) :: after⟩ evs
        ⟨q', before ++ (next.toList.map fun frame => (thread, frame)) ++ after⟩

def queueMachine : Machine QueueState QueueEvent where
  start s := s = ⟨.initial, []⟩
  step := QueueStep

end LivekitBridge
