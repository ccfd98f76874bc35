import LivekitBridge.Executor.Queue
import LivekitBridge.Lib.Simulation
import Mathlib.Tactic.Common
import Mathlib.Data.List.Range

/-!
# Exactly once, in order, nothing after shutdown

Where is a task?  In the queue, in a list of tasks that some thread is about to
cancel, under a `drain` that runs it, or done.  `Tasks` is the invariant: it counts
a task once over these places (`conserved`), keeps the order of the queue
(`ordered`, `ran`), and says that the thread in `drain_owner` is the only one past
the first lock of `drain` (`drains`, `owner`).

A step changes the queue and one call; the other calls are context.  `Moves` is what
every step does to the part it touches, `advance_moves` proves it point by point of
the source, and `Tasks.moves` puts the context around it, so that the interleaving is
dealt with once.
-/

namespace LivekitBridge

open Lib

/-! ### Places -/

/-- The tasks that a call is about to cancel. -/
def Frame.held : Frame → List TaskId
  | .rejecting task => [task]
  | .cancelling queued => queued
  | _ => []

/-- The task that a call runs. -/
def Frame.runs : Frame → List TaskId
  | .running task => [task]
  | _ => []

/-- The call is past the first lock of `drain`. -/
def Frame.isDrain : Frame → Bool
  | .draining => true
  | .running _ => true
  | .finishing => true
  | _ => false

/-- The tasks held for cancellation, over all calls. -/
def heldTasks (frames : List (ThreadId × Frame)) : List TaskId := frames.flatMap fun call => call.2.held

/-- The tasks that run, over all calls. -/
def runningTasks (frames : List (ThreadId × Frame)) : List TaskId :=
  frames.flatMap fun call => call.2.runs

/-- How many calls drain. -/
def drainsIn (frames : List (ThreadId × Frame)) : Nat := frames.countP fun call => call.2.isDrain

@[simp] theorem heldTasks_append (l l' : List (ThreadId × Frame)) :
    heldTasks (l ++ l') = heldTasks l ++ heldTasks l' := List.flatMap_append

@[simp] theorem runningTasks_append (l l' : List (ThreadId × Frame)) :
    runningTasks (l ++ l') = runningTasks l ++ runningTasks l' := List.flatMap_append

@[simp] theorem drainsIn_append (l l' : List (ThreadId × Frame)) :
    drainsIn (l ++ l') = drainsIn l + drainsIn l' := List.countP_append

/-- Only a drain runs tasks, and one at a time. -/
theorem length_runningTasks_le (frames : List (ThreadId × Frame)) :
    (runningTasks frames).length ≤ drainsIn frames := by
  induction frames with
  | nil => exact le_rfl
  | cons call frames ih =>
    obtain ⟨thread, frame⟩ := call
    rw [runningTasks, List.flatMap_cons, List.length_append, drainsIn, List.countP_cons]
    have hone : frame.runs.length ≤ if frame.isDrain = true then 1 else 0 := by
      cases frame <;> simp [Frame.runs, Frame.isDrain]
    have ih' : (frames.flatMap fun call => call.2.runs).length ≤
        frames.countP fun call => call.2.isDrain := ih
    dsimp only
    omega

theorem runningTasks_eq_nil {frames : List (ThreadId × Frame)} (h : drainsIn frames = 0) :
    runningTasks frames = [] := by
  have := length_runningTasks_le frames
  exact List.length_eq_zero_iff.mp (by omega)

theorem isDrain_eq_false {frames : List (ThreadId × Frame)} (h : drainsIn frames = 0) :
    ∀ call ∈ frames, call.2.isDrain = false := by
  intro call hm
  have := List.countP_eq_zero.mp h call hm
  simpa using this

/-! ### Histories -/

namespace QueueEvent

/-- The task whose `submit` this is. -/
def submitted? : QueueEvent → Option TaskId
  | enqueued task => some task
  | rejected task => some task
  | _ => none

/-- The task that is pushed. -/
def enqueued? : QueueEvent → Option TaskId
  | enqueued task => some task
  | _ => none

/-- The task that `drain` takes. -/
def started? : QueueEvent → Option TaskId
  | started task => some task
  | _ => none

/-- The task that has run. -/
def ran? : QueueEvent → Option TaskId
  | ran task => some task
  | _ => none

def cancelled? : QueueEvent → Option TaskId
  | cancelled task => some task
  | _ => none

def promiseSet? : QueueEvent → Option TaskId
  | promiseSet task _ => some task
  | _ => none

/-- The tasks that were queued when `shutdown` was set. -/
def dropped : QueueEvent → List TaskId
  | shutdownSet queued => queued
  | _ => []

end QueueEvent

open QueueEvent

/-- The pushed tasks are among the submitted ones, in the same order. -/
theorem enqueued_sublist_submitted (tr : List QueueEvent) :
    (tr.filterMap enqueued?).Sublist (tr.filterMap submitted?) := by
  induction tr with
  | nil => exact .slnil
  | cons e tr ih =>
    cases e with
    | enqueued task => exact ih.cons_cons task
    | rejected task => exact ih.cons task
    | _ => exact ih

/-! ### What a step does to what it touches -/

/-- The queue goes from `q` to `q'` while the calls `calls` become `calls'`. -/
structure Moves (q : Queue) (calls : List (ThreadId × Frame)) (evs : List QueueEvent) (q' : Queue)
    (calls' : List (ThreadId × Frame)) : Prop where
  submitted : List.range q.nextTask ++ evs.filterMap submitted? = List.range q'.nextTask
  conserved : ∀ task, q'.tasks.count task + (heldTasks calls').count task +
      (runningTasks calls').count task + (evs.filterMap ran?).count task +
      (evs.filterMap cancelled?).count task =
    q.tasks.count task + (heldTasks calls).count task + (runningTasks calls).count task +
      (evs.filterMap submitted?).count task
  settled : ∀ task, (evs.filterMap promiseSet?).count task =
    (evs.filterMap ran?).count task + (evs.filterMap cancelled?).count task
  ordered : q.tasks ++ evs.filterMap enqueued? =
    evs.filterMap started? ++ q'.tasks ++ evs.flatMap dropped
  /-- once it is shut down nothing is pushed and nothing is left to take -/
  closed : q.isShutdown = true → q'.isShutdown = true ∧ evs.filterMap enqueued? = []
  closes : q.isShutdown = false → q'.isShutdown = true → q'.tasks = []
  stays : q'.isShutdown = false → q.isShutdown = false ∧ evs.flatMap dropped = []
  ran : runningTasks calls ++ evs.filterMap started? = evs.filterMap ran? ++ runningTasks calls'
  /-- only a drain takes tasks -/
  quiet : drainsIn calls = 0 → evs.filterMap started? = [] ∧ evs.filterMap ran? = []
  drains : drainsIn calls ≤ q.isDraining.toNat →
    drainsIn calls' + q.isDraining.toNat = drainsIn calls + q'.isDraining.toNat
  owner : (∀ call ∈ calls, call.2.isDrain = true → q.drainOwner = some call.1) →
    ∀ call ∈ calls', call.2.isDrain = true → q'.drainOwner = some call.1
  /-- a thread that does not drain leaves the owner alone -/
  keeps : drainsIn calls = 0 → q.isDraining = true → q'.drainOwner = q.drainOwner

section Moves

variable {q q' : Queue} {calls calls' : List (ThreadId × Frame)} {evs : List QueueEvent}

theorem moves_outside (hd : drainsIn calls = 0) (hd' : drainsIn calls' = 0)
    (hdraining : q'.isDraining = q.isDraining) (howner : q'.drainOwner = q.drainOwner)
    (hstart : evs.filterMap started? = []) (hran : evs.filterMap ran? = [])
    (hset : evs.filterMap promiseSet? = evs.filterMap cancelled?)
    (hsub : List.range q.nextTask ++ evs.filterMap submitted? = List.range q'.nextTask)
    (hcount : ∀ task, q'.tasks.count task + (heldTasks calls').count task +
        (evs.filterMap cancelled?).count task =
      q.tasks.count task + (heldTasks calls).count task + (evs.filterMap submitted?).count task)
    (hordered : q.tasks ++ evs.filterMap enqueued? = q'.tasks ++ evs.flatMap dropped)
    (hclosed : q.isShutdown = true → q'.isShutdown = true ∧ evs.filterMap enqueued? = [])
    (hcloses : q.isShutdown = false → q'.isShutdown = true → q'.tasks = [])
    (hstays : q'.isShutdown = false → q.isShutdown = false ∧ evs.flatMap dropped = []) :
    Moves q calls evs q' calls' where
  submitted := hsub
  conserved task := by
    rw [runningTasks_eq_nil hd, runningTasks_eq_nil hd', hran, List.count_nil]
    exact hcount task
  settled task := by rw [hset, hran, List.count_nil, Nat.zero_add]
  ordered := by rw [hordered, hstart, List.nil_append]
  closed := hclosed
  closes := hcloses
  stays := hstays
  ran := by rw [runningTasks_eq_nil hd, runningTasks_eq_nil hd', hstart, hran]
  quiet _ := ⟨hstart, hran⟩
  drains _ := by rw [hd, hd', hdraining]
  owner _ call hm hdrain := by
    rw [isDrain_eq_false hd' call hm] at hdrain
    cases hdrain
  keeps _ _ := howner

/-- A call outside `drain` that leaves the queue alone, the guard condition apart: what
it no longer holds it has cancelled. -/
theorem moves_aside (q : Queue) (guard : Bool) (hd : drainsIn calls = 0) (hd' : drainsIn calls' = 0)
    (hsub : evs.filterMap submitted? = []) (henq : evs.filterMap enqueued? = [])
    (hstart : evs.filterMap started? = []) (hran : evs.filterMap ran? = [])
    (hdrop : evs.flatMap dropped = [])
    (hheld : heldTasks calls = evs.filterMap cancelled? ++ heldTasks calls')
    (hset : evs.filterMap promiseSet? = evs.filterMap cancelled?) :
    Moves q calls evs { q with guard := guard } calls' := by
  refine moves_outside hd hd' rfl rfl hstart hran hset ?_ ?_ ?_ ?_ ?_ ?_
  · rw [hsub, List.append_nil]
  · intro task
    rw [hheld, hsub, List.count_append, List.count_nil]
    dsimp only
    omega
  · rw [henq, hdrop]
  · exact fun h => ⟨h, henq⟩
  · intro h h'
    rw [h] at h'
    cases h'
  · exact fun h => ⟨h, hdrop⟩

/-- A call outside `drain` that goes on and does nothing. -/
theorem moves_still (q : Queue) (guard : Bool) (hd : drainsIn calls = 0) (hd' : drainsIn calls' = 0)
    (hheld : heldTasks calls = heldTasks calls') : Moves q calls [] { q with guard := guard } calls' :=
  moves_aside q guard hd hd' rfl rfl rfl rfl rfl hheld rfl

theorem moves_cancel (q : Queue) (task : TaskId) (hd : drainsIn calls = 0) (hd' : drainsIn calls' = 0)
    (hheld : heldTasks calls = task :: heldTasks calls') : Moves q calls (cancelTask task) q calls' :=
  moves_aside q q.guard hd hd' rfl rfl rfl rfl rfl hheld rfl

theorem moves_inside (hshut : q'.isShutdown = q.isShutdown) (hnext : q'.nextTask = q.nextTask)
    (hsub : evs.filterMap submitted? = []) (henq : evs.filterMap enqueued? = [])
    (hdrop : evs.flatMap dropped = []) (hcancel : evs.filterMap cancelled? = [])
    (hheld : heldTasks calls' = heldTasks calls)
    (hset : evs.filterMap promiseSet? = evs.filterMap ran?)
    (hordered : q.tasks = evs.filterMap started? ++ q'.tasks)
    (hran : runningTasks calls ++ evs.filterMap started? =
      evs.filterMap ran? ++ runningTasks calls')
    (hquiet : drainsIn calls = 0 → evs.filterMap started? = [] ∧ evs.filterMap ran? = [])
    (hdrains : drainsIn calls ≤ q.isDraining.toNat →
      drainsIn calls' + q.isDraining.toNat = drainsIn calls + q'.isDraining.toNat)
    (howner : (∀ call ∈ calls, call.2.isDrain = true → q.drainOwner = some call.1) →
      ∀ call ∈ calls', call.2.isDrain = true → q'.drainOwner = some call.1)
    (hkeeps : drainsIn calls = 0 → q.isDraining = true → q'.drainOwner = q.drainOwner) :
    Moves q calls evs q' calls' where
  submitted := by rw [hsub, List.append_nil, hnext]
  conserved task := by
    have htask := congrArg (List.count task) hran
    rw [List.count_append, List.count_append] at htask
    rw [hheld, hcancel, hsub, hordered, List.count_append]
    simp only [List.count_nil]
    omega
  settled task := by rw [hset, hcancel, List.count_nil, Nat.add_zero]
  ordered := by rw [henq, hdrop, List.append_nil, List.append_nil, ← hordered]
  closed h := ⟨hshut.trans h, henq⟩
  closes h h' := by
    rw [hshut, h] at h'
    cases h'
  stays h := ⟨hshut ▸ h, hdrop⟩
  ran := hran
  quiet := hquiet
  drains := hdrains
  owner := howner
  keeps := hkeeps

/-! ### The code at each point -/

/-- `submit` pushes the task, or keeps it to cancel it. -/
theorem submit_moves (q : Queue) (thread : ThreadId) :
    Moves q [] q.submit.2.2 q.submit.1 [(thread, q.submit.2.1)] := by
  unfold Queue.submit
  by_cases hshut : q.isShutdown = true
  · simp only [hshut, if_true]
    refine moves_outside rfl rfl rfl rfl rfl rfl rfl List.range_succ.symm ?_ ?_ ?_ ?_ ?_
    · intro task
      rfl
    · rfl
    · exact fun _ => ⟨rfl, rfl⟩
    · exact fun h => absurd (hshut.symm.trans h) (by decide)
    · exact fun h => absurd h (by simp)
  · simp only [hshut]
    rw [Bool.not_eq_true] at hshut
    refine moves_outside rfl rfl rfl rfl rfl rfl rfl List.range_succ.symm ?_ ?_ ?_ ?_ ?_
    · intro task
      exact List.count_append
    · exact (List.append_nil _).symm
    · exact fun h => absurd (hshut.symm.trans h) (by decide)
    · exact fun _ h => absurd h (by simp)
    · exact fun _ => ⟨hshut, rfl⟩

/-- `shutdown` moves the tasks out of the queue, unless another one did. -/
theorem shutdown_moves (q : Queue) (thread : ThreadId) :
    Moves q [(thread, .shuttingDown)] q.shutdown.2.2 q.shutdown.1
      (q.shutdown.2.1.toList.map fun frame => (thread, frame)) := by
  unfold Queue.shutdown
  by_cases hshut : q.isShutdown = true
  · rw [if_pos hshut]
    exact moves_still q q.guard rfl rfl rfl
  · rw [if_neg hshut]
    rw [Bool.not_eq_true] at hshut
    refine moves_outside rfl rfl rfl rfl rfl rfl rfl (List.append_nil _) ?_ ?_ ?_ ?_ ?_
    · intro task
      simp [heldTasks, Frame.held, List.filterMap_cons, submitted?, cancelled?]
    · simp [List.filterMap_cons, enqueued?, dropped]
    · exact fun h => absurd (hshut.symm.trans h) (by decide)
    · exact fun _ _ => rfl
    · exact fun h => absurd h (by simp)

/-- `drain` begins, unless there is one already. -/
theorem drain_moves (q : Queue) (thread : ThreadId) :
    Moves q [(thread, .executing)] (q.drain thread).2.2 (q.drain thread).1
      ((q.drain thread).2.1.toList.map fun frame => (thread, frame)) := by
  unfold Queue.drain
  by_cases hbusy : (q.isShutdown || q.isDraining) = true
  · rw [if_pos hbusy]
    exact moves_still q q.guard rfl rfl rfl
  · rw [if_neg hbusy]
    rw [Bool.not_eq_true, Bool.or_eq_false_iff] at hbusy
    obtain ⟨_, hidle⟩ := hbusy
    refine moves_inside rfl rfl rfl rfl rfl rfl rfl rfl rfl rfl (fun _ => ⟨rfl, rfl⟩) ?_ ?_ ?_
    · intro _
      rw [hidle]
      rfl
    · intro _ call hm _
      obtain rfl := List.mem_singleton.mp hm
      rfl
    · exact fun _ h => absurd (hidle.symm.trans h) (by decide)

/-- `drain` takes the front of the queue, or ends its loop. -/
theorem claim_moves (q : Queue) (thread : ThreadId) :
    Moves q [(thread, .draining)] q.claim.2.2 q.claim.1
      (q.claim.2.1.toList.map fun frame => (thread, frame)) := by
  have howner : (∀ call ∈ [(thread, Frame.draining)], call.2.isDrain = true →
      q.drainOwner = some call.1) → q.drainOwner = some thread :=
    fun h => h (thread, .draining) (List.mem_singleton.mpr rfl) rfl
  have hone : drainsIn [(thread, Frame.draining)] ≠ 0 := Nat.one_ne_zero
  unfold Queue.claim
  cases htasks : q.tasks with
  | nil =>
    refine moves_inside rfl rfl rfl rfl rfl rfl rfl rfl rfl rfl (fun h => absurd h hone)
      (fun _ => rfl) ?_ fun h => absurd h hone
    intro h call hm _
    obtain rfl := List.mem_singleton.mp hm
    exact howner h
  | cons task tasks =>
    refine moves_inside rfl rfl rfl rfl rfl rfl rfl rfl htasks rfl (fun h => absurd h hone)
      (fun _ => rfl) ?_ fun h => absurd h hone
    intro h call hm _
    obtain rfl := List.mem_singleton.mp hm
    exact howner h

/-- **Every point of the source moves tasks rightly.** -/
theorem advance_moves {thread : ThreadId} {throws : Bool} {frame : Frame} {next : Option Frame}
    (h : advance thread throws q frame = some (q', next, evs)) :
    Moves q [(thread, frame)] evs q' (next.toList.map fun frame => (thread, frame)) := by
  have hone : ∀ f : Frame, f.isDrain = true → drainsIn [(thread, f)] ≠ 0 := by
    intro f hf
    rw [drainsIn, List.countP_singleton, if_pos hf]
    exact Nat.one_ne_zero
  cases frame with
  | rejecting task =>
    cases h
    exact moves_cancel q task rfl rfl rfl
  | waking =>
    simp only [advance, Queue.wake] at h
    split at h
    · cases h
      exact moves_still q q.guard rfl rfl rfl
    · split at h
      · cases h
        exact moves_still q q.guard rfl rfl rfl
      · cases h
        exact moves_still q q.guard rfl rfl rfl
  | triggering =>
    cases throws with
    | true =>
      cases h
      exact moves_still q q.guard rfl rfl rfl
    | false =>
      cases h
      exact moves_still q true rfl rfl rfl
  | shuttingDown =>
    have hmoves := shutdown_moves q thread
    rw [Option.some.inj h] at hmoves
    exact hmoves
  | cancelling queued =>
    cases queued with
    | nil =>
      cases h
      exact moves_still q q.guard rfl rfl rfl
    | cons task queued =>
      cases h
      exact moves_cancel q task rfl rfl (by simp [heldTasks, Frame.held])
  | awaiting =>
    simp only [advance] at h
    split at h
    · cases h
      exact moves_aside q q.guard rfl rfl rfl rfl rfl rfl rfl rfl rfl
    · cases h
  | executing =>
    have hmoves := drain_moves q thread
    rw [Option.some.inj h] at hmoves
    exact hmoves
  | draining =>
    have hmoves := claim_moves q thread
    rw [Option.some.inj h] at hmoves
    exact hmoves
  | running task =>
    cases h
    refine moves_inside rfl rfl rfl rfl rfl rfl rfl rfl rfl rfl
      (fun h => absurd h (hone _ rfl)) (fun _ => rfl) ?_ fun h => absurd h (hone _ rfl)
    intro h call hm _
    obtain rfl := List.mem_singleton.mp hm
    exact h (thread, .running task) (List.mem_singleton.mpr rfl) rfl
  | finishing =>
    cases h
    refine moves_inside rfl rfl rfl rfl rfl rfl rfl rfl rfl rfl
      (fun h => absurd h (hone _ rfl)) ?_ ?_ fun h => absurd h (hone _ rfl)
    · intro hle
      have : drainsIn [(thread, Frame.finishing)] = 1 := rfl
      have := Bool.toNat_le q.isDraining
      show 0 + q.isDraining.toNat = drainsIn [(thread, Frame.finishing)] + 0
      omega
    · intro _ call hm _
      cases hm

end Moves

/-! ### The invariant -/

/-- What holds of a run and the state it reaches. -/
structure Tasks (tr : List QueueEvent) (s : QueueState) : Prop where
  submitted : tr.filterMap submitted? = List.range s.queue.nextTask
  conserved : ∀ task, s.queue.tasks.count task + (heldTasks s.frames).count task +
      (runningTasks s.frames).count task + (tr.filterMap ran?).count task +
      (tr.filterMap cancelled?).count task =
    (tr.filterMap submitted?).count task
  settled : ∀ task, (tr.filterMap promiseSet?).count task =
    (tr.filterMap ran?).count task + (tr.filterMap cancelled?).count task
  ordered : tr.filterMap enqueued? =
    tr.filterMap started? ++ s.queue.tasks ++ tr.flatMap dropped
  opened : s.queue.isShutdown = false → tr.flatMap dropped = []
  closed : s.queue.isShutdown = true → s.queue.tasks = []
  ran : tr.filterMap started? = tr.filterMap ran? ++ runningTasks s.frames
  drains : drainsIn s.frames = s.queue.isDraining.toNat
  owner : ∀ call ∈ s.frames, call.2.isDrain = true → s.queue.drainOwner = some call.1

section Invariant

variable {tr evs : List QueueEvent} {q q' : Queue}
  {before calls calls' after : List (ThreadId × Frame)}

/-- What is taken, pushed and dropped comes at the ends of the queue. -/
theorem Tasks.ordered_moves (h : Tasks tr ⟨q, before ++ calls ++ after⟩)
    (hm : Moves q calls evs q' calls') :
    (tr ++ evs).filterMap enqueued? =
      (tr ++ evs).filterMap started? ++ q'.tasks ++ (tr ++ evs).flatMap dropped := by
  have hold := h.ordered
  have hnew := hm.ordered
  rw [List.filterMap_append, List.filterMap_append, List.flatMap_append]
  cases hshut : q.isShutdown with
  | false =>
    rw [h.opened hshut, List.append_nil] at hold
    rw [hold, h.opened hshut, List.nil_append, List.append_assoc, hnew]
    simp only [List.append_assoc]
  | true =>
    have hempty := h.closed hshut
    dsimp only at hempty hold
    rw [hempty, (hm.closed hshut).2, List.append_nil] at hnew
    -- nothing was there to be taken or dropped
    obtain ⟨hleft, hdrop⟩ := List.append_eq_nil_iff.mp hnew.symm
    obtain ⟨hstart, htasks⟩ := List.append_eq_nil_iff.mp hleft
    rw [(hm.closed hshut).2, hstart, htasks, hdrop, hold, hempty]
    simp only [List.append_nil]

/-- The calls that a step does not touch do not drain if the touched one does. -/
theorem Tasks.context_quiet (h : Tasks tr ⟨q, before ++ calls ++ after⟩) (hd : drainsIn calls ≠ 0) :
    drainsIn before = 0 ∧ drainsIn after = 0 := by
  have hsum := h.drains
  have := Bool.toNat_le q.isDraining
  dsimp only at hsum
  rw [drainsIn_append, drainsIn_append] at hsum
  omega

theorem Tasks.ran_moves (h : Tasks tr ⟨q, before ++ calls ++ after⟩)
    (hm : Moves q calls evs q' calls') :
    (tr ++ evs).filterMap started? =
      (tr ++ evs).filterMap ran? ++ runningTasks (before ++ calls' ++ after) := by
  have hold := h.ran
  have hnew := hm.ran
  dsimp only at hold
  rw [runningTasks_append, runningTasks_append] at hold
  rw [List.filterMap_append, List.filterMap_append, runningTasks_append, runningTasks_append]
  by_cases hd : drainsIn calls = 0
  · obtain ⟨hstart, hran⟩ := hm.quiet hd
    rw [hstart, hran, List.append_nil, List.nil_append] at hnew
    rw [hstart, hran, ← hnew, List.append_nil, List.append_nil, hold]
  · obtain ⟨hbefore, hafter⟩ := h.context_quiet hd
    rw [runningTasks_eq_nil hbefore, runningTasks_eq_nil hafter, List.nil_append,
      List.append_nil] at hold ⊢
    rw [hold, List.append_assoc, hnew, List.append_assoc]

theorem Tasks.owner_moves (h : Tasks tr ⟨q, before ++ calls ++ after⟩)
    (hm : Moves q calls evs q' calls') :
    ∀ call ∈ before ++ calls' ++ after, call.2.isDrain = true → q'.drainOwner = some call.1 := by
  have hcalls : ∀ call ∈ calls, call.2.isDrain = true → q.drainOwner = some call.1 :=
    fun call hc => h.owner call (by simp [hc])
  -- a call of the context that drains keeps the flag and the owner as they are
  have hcontext : ∀ call, call ∈ before ∨ call ∈ after → call.2.isDrain = true →
      q'.drainOwner = some call.1 := by
    intro call hc hdrain
    have hmem : call ∈ before ++ calls ++ after := by
      rcases hc with hc | hc
      · simp [hc]
      · simp [hc]
    have hold : q.drainOwner = some call.1 := h.owner call hmem hdrain
    have hpos : 0 < drainsIn before + drainsIn after := by
      rcases hc with hc | hc
      · have : 0 < drainsIn before := List.countP_pos_iff.mpr ⟨call, hc, hdrain⟩
        omega
      · have : 0 < drainsIn after := List.countP_pos_iff.mpr ⟨call, hc, hdrain⟩
        omega
    have hd : drainsIn calls = 0 := by
      by_contra hd
      have := h.context_quiet hd
      omega
    have hdraining : q.isDraining = true := by
      have hsum := h.drains
      dsimp only at hsum
      rw [drainsIn_append, drainsIn_append] at hsum
      cases hq : q.isDraining with
      | true => rfl
      | false =>
        rw [hq, Bool.toNat_false] at hsum
        omega
    rw [hm.keeps hd hdraining, hold]
  intro call hc hdrain
  rw [List.mem_append, List.mem_append] at hc
  rcases hc with (hc | hc) | hc
  · exact hcontext call (.inl hc) hdrain
  · exact hm.owner hcalls call hc hdrain
  · exact hcontext call (.inr hc) hdrain

/-- **One step, with the other calls around it.** -/
theorem Tasks.moves (h : Tasks tr ⟨q, before ++ calls ++ after⟩) (hm : Moves q calls evs q' calls') :
    Tasks (tr ++ evs) ⟨q', before ++ calls' ++ after⟩ where
  submitted := by rw [List.filterMap_append, h.submitted, hm.submitted]
  conserved task := by
    have hold := h.conserved task
    have hnew := hm.conserved task
    dsimp only at hold ⊢
    simp only [heldTasks_append, runningTasks_append, List.filterMap_append, List.count_append]
      at hold ⊢
    omega
  settled task := by
    have hold := h.settled task
    have hnew := hm.settled task
    simp only [List.filterMap_append, List.count_append]
    omega
  ordered := h.ordered_moves hm
  opened hopen := by
    obtain ⟨hwas, hdrop⟩ := hm.stays hopen
    rw [List.flatMap_append, h.opened hwas, hdrop, List.append_nil]
  closed hshut := by
    cases hwas : q.isShutdown with
    | false => exact hm.closes hwas hshut
    | true =>
      have hnew := hm.ordered
      rw [show q.tasks = [] from h.closed hwas, (hm.closed hwas).2, List.append_nil] at hnew
      exact (List.append_eq_nil_iff.mp (List.append_eq_nil_iff.mp hnew.symm).1).2
  ran := h.ran_moves hm
  drains := by
    have hold := h.drains
    dsimp only at hold ⊢
    rw [drainsIn_append, drainsIn_append] at hold ⊢
    have := hm.drains (by omega)
    omega
  owner := h.owner_moves hm

end Invariant

theorem Tasks.step {tr evs : List QueueEvent} {s t : QueueState} (h : Tasks tr s)
    (hstep : QueueStep s evs t) : Tasks (tr ++ evs) t := by
  -- a new call touches none of those in progress
  have hnew : Tasks tr ⟨s.queue, [] ++ [] ++ s.frames⟩ := h
  cases hstep with
  | submit thread _ _ => exact hnew.moves (submit_moves s.queue thread)
  | execute thread _ _ =>
    have hm : Moves s.queue [] [] s.queue.execute [(thread, .executing)] :=
      moves_still s.queue false rfl rfl rfl
    exact hnew.moves hm
  | shutdown thread _ _ =>
    have hm : Moves s.queue [] [] s.queue [(thread, .shuttingDown)] :=
      moves_still s.queue s.queue.guard rfl rfl rfl
    exact hnew.moves hm
  | advance thread throws q q' frame next evs before after _ hadv =>
    rw [List.append_cons] at h
    exact h.moves (advance_moves hadv)

theorem tasks_of_trace {tr : List QueueEvent} {s : QueueState} (h : queueMachine.Trace tr s) :
    Tasks tr s := by
  refine Machine.Trace.invariant (M := queueMachine) (P := Tasks) ?_ ?_ h
  · rintro s rfl
    exact ⟨rfl, fun _ => rfl, fun _ => rfl, rfl, fun _ => rfl, fun _ => rfl, rfl, rfl, by simp⟩
  · intro tr evs s t _ hs hstep
    exact hs.step hstep

/-! ### Results -/

theorem advance_shutdownReturned {thread t : ThreadId} {throws : Bool} {q q' : Queue} {frame : Frame}
    {next : Option Frame} {evs : List QueueEvent}
    (h : advance thread throws q frame = some (q', next, evs)) (hm : .shutdownReturned t ∈ evs) :
    t = thread ∧ q.isIdleFor thread = true ∧ frame = .awaiting ∧ next = none := by
  cases frame with
  | awaiting =>
    simp only [advance] at h
    split at h
    · rename_i hidle
      cases h
      exact ⟨by simpa using hm, hidle, rfl, rfl⟩
    · cases h
  | rejecting task =>
    cases h
    simp [cancelTask] at hm
  | waking =>
    simp only [advance, Queue.wake] at h
    split at h
    · cases h
      simp at hm
    · split at h
      · cases h
        simp at hm
      · cases h
        simp at hm
  | triggering =>
    cases throws <;> (cases h; simp at hm)
  | shuttingDown =>
    simp only [advance, Queue.shutdown] at h
    split at h
    · cases h
      simp at hm
    · cases h
      simp at hm
  | cancelling queued =>
    cases queued with
    | nil =>
      cases h
      simp at hm
    | cons task queued =>
      cases h
      simp [cancelTask] at hm
  | executing =>
    simp only [advance, Queue.drain] at h
    split at h
    · cases h
      simp at hm
    · cases h
      simp at hm
  | draining =>
    simp only [advance, Queue.claim] at h
    split at h
    · cases h
      simp at hm
    · cases h
      simp at hm
  | running task =>
    cases h
    simp [endTask] at hm
  | finishing =>
    cases h
    simp at hm

theorem Tasks.shutdown_returns {tr evs : List QueueEvent} {s t : QueueState} {thread : ThreadId}
    (h : Tasks tr s) (hstep : QueueStep s evs t) (hm : .shutdownReturned thread ∈ evs)
    (houtside : ∀ call ∈ s.frames, call.1 = thread → call.2.isDrain = false) :
    runningTasks s.frames = [] ∧ runningTasks t.frames = [] := by
  cases hstep with
  | submit thread' _ _ =>
    unfold Queue.submit at hm
    dsimp only at hm
    split at hm
    · simp at hm
    · simp at hm
  | execute thread' _ _ => cases hm
  | shutdown thread' _ _ => cases hm
  | advance thread' throws q q' frame next evs before after _ hadv =>
    obtain ⟨rfl, hidle, rfl, rfl⟩ := advance_shutdownReturned hadv hm
    have hnone : drainsIn (before ++ (thread, .awaiting) :: after) = 0 := by
      rw [Queue.isIdleFor, Bool.or_eq_true, Bool.not_eq_true', beq_iff_eq] at hidle
      rcases hidle with hidle | howner
      · have := h.drains
        rw [show (QueueState.mk q _).queue.isDraining = false from hidle] at this
        exact this
      · -- the owner is this thread, and it has no drain
        refine List.countP_eq_zero.mpr fun call hc hdrain => ?_
        have hcall := h.owner call hc hdrain
        dsimp only at hcall
        rw [howner] at hcall
        have := houtside call hc (Option.some.inj hcall).symm
        rw [hdrain] at this
        cases this
    rw [List.append_cons, drainsIn_append, drainsIn_append] at hnone
    have hbefore : drainsIn before = 0 := by omega
    have hafter : drainsIn after = 0 := by omega
    refine ⟨?_, ?_⟩
    · rw [List.append_cons, runningTasks_append, runningTasks_append, runningTasks_eq_nil hbefore,
        runningTasks_eq_nil hafter]
      rfl
    · dsimp only
      rw [runningTasks_append, runningTasks_append, runningTasks_eq_nil hbefore,
        runningTasks_eq_nil hafter]
      rfl

theorem advance_shutdownSet {thread : ThreadId} {throws : Bool} {q q' : Queue} {frame : Frame}
    {next : Option Frame} {evs : List QueueEvent}
    (h : advance thread throws q frame = some (q', next, evs)) (hopen : q.isShutdown = false)
    (hshut : q'.isShutdown = true) : evs = [.shutdownSet q.tasks] := by
  have hsame : q' ≠ q := by
    rintro rfl
    rw [hopen] at hshut
    cases hshut
  cases frame with
  | shuttingDown =>
    simp only [advance, Queue.shutdown, hopen] at h
    cases h
    rfl
  | rejecting task =>
    cases h
    exact absurd rfl hsame
  | waking =>
    simp only [advance, Queue.wake, hopen] at h
    split at h
    · rename_i hno
      cases hno
    · split at h
      · cases h
        exact absurd rfl hsame
      · cases h
        exact absurd rfl hsame
  | triggering =>
    cases throws with
    | true =>
      cases h
      exact absurd rfl hsame
    | false =>
      cases h
      rw [show q.isShutdown = true from hshut] at hopen
      cases hopen
  | cancelling queued =>
    cases queued with
    | nil =>
      cases h
      exact absurd rfl hsame
    | cons task queued =>
      cases h
      exact absurd rfl hsame
  | awaiting =>
    simp only [advance] at h
    split at h
    · cases h
      exact absurd rfl hsame
    · cases h
  | executing =>
    simp only [advance, Queue.drain] at h
    split at h
    · cases h
      exact absurd rfl hsame
    · cases h
      rw [show q.isShutdown = true from hshut] at hopen
      cases hopen
  | draining =>
    simp only [advance, Queue.claim] at h
    split at h
    · cases h
      exact absurd rfl hsame
    · cases h
      rw [show q.isShutdown = true from hshut] at hopen
      cases hopen
  | running task =>
    cases h
    exact absurd rfl hsame
  | finishing =>
    cases h
    rw [show q.isShutdown = true from hshut] at hopen
    cases hopen

theorem QueueStep.shutdownSet {s t : QueueState} {evs : List QueueEvent} (hs : QueueStep s evs t)
    (hopen : s.queue.isShutdown = false) (hshut : t.queue.isShutdown = true) :
    evs = [.shutdownSet s.queue.tasks] := by
  cases hs with
  | submit thread _ _ =>
    unfold Queue.submit at hshut
    dsimp only at hshut
    rw [hopen] at hshut
    cases hshut
  | execute thread _ _ =>
    rw [show s.queue.isShutdown = true from hshut] at hopen
    cases hopen
  | shutdown thread _ _ =>
    rw [show s.queue.isShutdown = true from hshut] at hopen
    cases hopen
  | advance thread throws q q' frame next evs before after _ hadv =>
    exact advance_shutdownSet hadv hopen hshut

/-- A task that was moved out is not taken. -/
theorem Tasks.not_started {tr : List QueueEvent} {s : QueueState} (h : Tasks tr s)
    {queued : List TaskId} (hq : .shutdownSet queued ∈ tr) {task : TaskId} (htask : task ∈ queued) :
    .started task ∉ tr ∧ .ran task ∉ tr := by
  have hsubmitted : (tr.filterMap submitted?).Nodup := h.submitted ▸ List.nodup_range
  have henqueued := (enqueued_sublist_submitted tr).nodup hsubmitted
  have hdropped : task ∈ tr.flatMap dropped := List.mem_flatMap.mpr ⟨_, hq, htask⟩
  rw [h.ordered] at henqueued
  have hstarted : task ∉ tr.filterMap started? := fun hs =>
    (List.nodup_append.mp henqueued).2.2 task (List.mem_append_left _ hs) task hdropped rfl
  refine ⟨fun hs => hstarted (List.mem_filterMap.mpr ⟨_, hs, rfl⟩), fun hr => hstarted ?_⟩
  rw [h.ran]
  exact List.mem_append_left _ (List.mem_filterMap.mpr ⟨_, hr, rfl⟩)

/-- **The executor queue handles every task exactly once, in order, and none after a
shutdown.**  In every state of every interleaving: a submitted task is in one place,
queued, held for cancellation, running, run or cancelled; its promise was set as often
as it was run or cancelled; at most one task runs; the tasks that were taken to run are
the first of those that were pushed, in that order, and they ended in it; a task that
was queued when `shutdown` was set is never taken, before or after; and a `shutdown` that was called
outside the drain returns when no task runs. -/
theorem executor_queue_exactly_once {tr : List QueueEvent} {s : QueueState}
    (h : queueMachine.Trace tr s) :
    (∀ task, s.queue.tasks.count task + (heldTasks s.frames).count task +
        (runningTasks s.frames).count task + (tr.filterMap ran?).count task +
        (tr.filterMap cancelled?).count task =
      if task ∈ tr.filterMap submitted? then 1 else 0) ∧
    (∀ task, (tr.filterMap promiseSet?).count task =
      (tr.filterMap ran?).count task + (tr.filterMap cancelled?).count task) ∧
    (runningTasks s.frames).length ≤ 1 ∧
    (tr.filterMap enqueued?).Nodup ∧
    tr.filterMap started? <+: tr.filterMap enqueued? ∧
    tr.filterMap started? = tr.filterMap ran? ++ runningTasks s.frames ∧
    (∀ queued, .shutdownSet queued ∈ tr →
      ∀ task ∈ queued, .started task ∉ tr ∧ .ran task ∉ tr) ∧
    (∀ evs t more u, queueMachine.step s evs t → s.queue.isShutdown = false →
      t.queue.isShutdown = true → queueMachine.Runs t more u →
        ∀ task ∈ s.queue.tasks, .started task ∉ tr ++ evs ++ more ∧ .ran task ∉ tr ++ evs ++ more) ∧
    ∀ thread evs t, queueMachine.step s evs t → .shutdownReturned thread ∈ evs →
      (∀ call ∈ s.frames, call.1 = thread → call.2.isDrain = false) →
        runningTasks s.frames = [] ∧ runningTasks t.frames = [] := by
  have hbook := tasks_of_trace h
  have hsubmitted : (tr.filterMap submitted?).Nodup := hbook.submitted ▸ List.nodup_range
  have henqueued := (enqueued_sublist_submitted tr).nodup hsubmitted
  refine ⟨?_, hbook.settled, ?_, henqueued, ?_, hbook.ran, fun _ hq _ => hbook.not_started hq, ?_,
    ?_⟩
  · intro task
    rw [hbook.conserved task, hsubmitted.count]
  · have hle := length_runningTasks_le s.frames
    have := Bool.toNat_le s.queue.isDraining
    rw [hbook.drains] at hle
    omega
  · rw [hbook.ordered, List.append_assoc]
    exact List.prefix_append _ _
  · intro evs t more u hstep hopen hshut hmore task htask
    have hset : QueueEvent.shutdownSet s.queue.tasks ∈ tr ++ evs ++ more := by
      rw [QueueStep.shutdownSet hstep hopen hshut]
      simp
    exact (tasks_of_trace ((h.step hstep).runs hmore)).not_started hset htask
  · intro thread evs t hstep hm houtside
    exact hbook.shutdown_returns hstep hm houtside

/-- Threads 1 and 3 have submitted a task each, and thread 2 runs the first. -/
def firstRuns : QueueState :=
  ⟨⟨[1], false, true, some 2, true, false, 2⟩, [(2, .running 0), (3, .waking), (1, .waking)]⟩

/-- That task has called `shutdown`, which has moved the second out. -/
def firstShutsDown : QueueState :=
  ⟨⟨[], true, true, some 2, false, false, 2⟩,
    [(2, .cancelling [1]), (2, .running 0), (3, .waking), (1, .waking)]⟩

theorem trace_firstRuns : queueMachine.Trace [.enqueued 0, .enqueued 1, .started 0] firstRuns := by
  have hfirst : queueMachine.Trace [.enqueued 0]
      ⟨⟨[0], false, false, none, true, false, 1⟩, [(1, .waking)]⟩ :=
    .step (.start rfl) (QueueStep.submit 1 ⟨.initial, []⟩ (by simp [CanCall]))
  have hsubmit : queueMachine.Trace [.enqueued 0, .enqueued 1]
      ⟨⟨[0, 1], false, false, none, true, false, 2⟩, [(3, .waking), (1, .waking)]⟩ :=
    .step hfirst (.submit 3 _ (by simp [CanCall]))
  have hexecute : queueMachine.Trace [.enqueued 0, .enqueued 1]
      ⟨⟨[0, 1], false, false, none, true, false, 2⟩, [(2, .executing), (3, .waking), (1, .waking)]⟩ :=
    .step hsubmit (.execute 2 _ (by simp [CanCall]))
  have hdrain : queueMachine.Trace [.enqueued 0, .enqueued 1]
      ⟨⟨[0, 1], false, true, some 2, true, false, 2⟩, [(2, .draining), (3, .waking), (1, .waking)]⟩ :=
    .step hexecute (QueueStep.advance 2 false _ _ .executing (some .draining) [] []
      [(3, .waking), (1, .waking)] (by simp) rfl)
  exact .step hdrain (QueueStep.advance 2 false _ firstRuns.queue .draining (some (.running 0))
    [.started 0] [] [(3, .waking), (1, .waking)] (by simp) rfl)

/-- The second task is held, and it has not run and never will. -/
theorem executor_queue_exactly_once_shutdown :
    (heldTasks firstShutsDown.frames).count 1 = 1 ∧
      QueueEvent.started 1 ∉ [.enqueued 0, .enqueued 1, .started 0, .shutdownSet [1]] := by
  have hcall : queueMachine.Trace [.enqueued 0, .enqueued 1, .started 0]
      ⟨firstRuns.queue, (2, .shuttingDown) :: firstRuns.frames⟩ :=
    .step trace_firstRuns (.shutdown 2 _ (by simp [CanCall, firstRuns]))
  have htrace : queueMachine.Trace [.enqueued 0, .enqueued 1, .started 0, .shutdownSet [1]]
      firstShutsDown :=
    .step hcall (QueueStep.advance 2 false firstRuns.queue firstShutsDown.queue .shuttingDown
      (some (.cancelling [1])) [.shutdownSet [1]] [] firstRuns.frames (by simp) rfl)
  obtain ⟨hplace, _, _, _, _, _, hdropped, _⟩ := executor_queue_exactly_once htrace
  exact ⟨hplace 1, (hdropped [1] (by simp) 1 (by simp)).1⟩

end LivekitBridge
