import LivekitBridge.Executor.ExactlyOnce

/-!
# Wakeups

A queued task waits for someone who will look at the queue: the submitter, who has
yet to set the guard condition's flag; the flag itself; an `execute` that took the
flag down and has not asked whether a drain is active; or a drain that will come back
to the top of its loop (`WakeupKept`).

An `execute` that finds a drain active relies on that drain.  There is a window in
which it must not: the drain has found the queue empty for the last time and has not
taken `draining` down.  A task submitted in the window is woken for, the wake is taken
by an `execute` that returns at once, and the task stays.  `not_wakeupKept` is that run.
`wakeupKept_of_orderly` says that this is the only way: in the runs in which no `execute`
that gives way inside the window, while a task is queued, is the last one on its way to
the queue, every queued task is waited for, and every other such step loses a wakeup.
-/

namespace LivekitBridge

open Lib

/-- Somebody will look at the queue, if there is anything in it. -/
def WakeupKept (s : QueueState) : Prop :=
  s.queue.tasks ≠ [] →
    (∃ call ∈ s.frames, call.2 = .waking ∨ call.2 = .triggering) ∨
    s.queue.guard = true ∨
    (∃ call ∈ s.frames, call.2 = .executing) ∨
    ∃ call ∈ s.frames, call.2 = .draining ∨ ∃ task, call.2 = .running task

/-- The queue in the runs in which nobody asks for a shutdown. -/
def quietMachine : Machine QueueState QueueEvent where
  start := queueMachine.start
  step s evs t := queueMachine.step s evs t ∧ ∀ call ∈ t.frames, call.2 ≠ .shuttingDown

/-- The step from `s` to `t` is an `execute` that returns because a drain is active. -/
def GivesWay (s t : QueueState) : Prop :=
  ∃ thread before after, s.frames = before ++ (thread, .executing) :: after ∧
    (∀ call ∈ before, call.1 ≠ thread) ∧ s.queue.isDraining = true ∧ t = ⟨s.queue, before ++ after⟩

/-- The call will set the guard condition's flag, or takes it down and has yet to ask for
an active drain. -/
def Frame.OnItsWay (frame : Frame) : Prop :=
  frame = .waking ∨ frame = .triggering ∨ frame = .executing

/-- If the step is an `execute` that gives way to a drain past its last look at the queue
while a task is queued, then the flag is set again, or another call is on its way. -/
def AvoidsWindow (s t : QueueState) : Prop :=
  GivesWay s t → s.queue.tasks ≠ [] → (∃ call ∈ s.frames, call.2 = .finishing) →
    s.queue.guard = true ∨ ∃ call ∈ t.frames, call.2.OnItsWay

/-- The runs in which every step avoids the window. -/
def orderlyMachine : Machine QueueState QueueEvent where
  start := quietMachine.start
  step s evs t := quietMachine.step s evs t ∧ AvoidsWindow s t

/-! ### Who will look -/

/-- The call leads to another look at the queue. -/
def Frame.willLook : Frame → Bool
  | .waking => true
  | .triggering => true
  | .executing => true
  | .draining => true
  | .running _ => true
  | _ => false

theorem wakeupKept_iff (s : QueueState) :
    WakeupKept s ↔ (s.queue.tasks ≠ [] →
      s.queue.guard = true ∨ ∃ call ∈ s.frames, call.2.willLook = true) := by
  unfold WakeupKept
  refine imp_congr_right fun _ => ?_
  constructor
  · rintro (⟨call, hc, h | h⟩ | h | ⟨call, hc, h⟩ | ⟨call, hc, h | ⟨task, h⟩⟩)
    · exact .inr ⟨call, hc, by rw [h]; rfl⟩
    · exact .inr ⟨call, hc, by rw [h]; rfl⟩
    · exact .inl h
    · exact .inr ⟨call, hc, by rw [h]; rfl⟩
    · exact .inr ⟨call, hc, by rw [h]; rfl⟩
    · exact .inr ⟨call, hc, by rw [h]; rfl⟩
  · rintro (h | ⟨⟨thread, frame⟩, hc, h⟩)
    · exact .inr (.inl h)
    · cases frame with
      | waking => exact .inl ⟨_, hc, .inl rfl⟩
      | triggering => exact .inl ⟨_, hc, .inr rfl⟩
      | executing => exact .inr (.inr (.inl ⟨_, hc, rfl⟩))
      | draining => exact .inr (.inr (.inr ⟨_, hc, .inl rfl⟩))
      | running task => exact .inr (.inr (.inr ⟨_, hc, .inr ⟨task, rfl⟩⟩))
      | _ => cases h

/-- What holds in every state of an orderly run. -/
structure Awake (s : QueueState) : Prop where
  opened : s.queue.isShutdown = false
  waitable : s.queue.hasWaitable = true
  unasked : ∀ call ∈ s.frames, call.2 ≠ .shuttingDown
  kept : s.queue.tasks ≠ [] → s.queue.guard = true ∨ ∃ call ∈ s.frames, call.2.willLook = true

section Steps

variable {q q' : Queue} {thread : ThreadId} {frame : Frame} {next : Option Frame}
  {before after : List (ThreadId × Frame)} {evs : List QueueEvent} {throws : Bool}

/-- A call that was not going to look leaves the others that were. -/
theorem Awake.keeps_of_not_willLook (h : Awake ⟨q, before ++ (thread, frame) :: after⟩)
    (hframe : frame.willLook = false) {calls : List (ThreadId × Frame)} :
    q.tasks ≠ [] → q.guard = true ∨ ∃ call ∈ before ++ calls ++ after, call.2.willLook = true := by
  intro htasks
  refine (h.kept htasks).imp_right ?_
  rintro ⟨call, hc, hlook⟩
  refine ⟨call, ?_, hlook⟩
  rcases List.mem_append.mp hc with hc | hc
  · simp [hc]
  · rcases List.mem_cons.mp hc with rfl | hc
    · rw [hframe] at hlook
      cases hlook
    · simp [hc]

theorem Frame.OnItsWay.willLook (h : frame.OnItsWay) : frame.willLook = true := by
  rcases h with rfl | rfl | rfl <;> rfl

theorem willLook_of_givesWay {tr : List QueueEvent}
    (hbook : Tasks tr ⟨q, before ++ (thread, .executing) :: after⟩) (hdraining : q.isDraining = true)
    (hwindow : ¬ ∃ call ∈ before ++ (thread, Frame.executing) :: after, call.2 = .finishing) :
    ∃ call ∈ before ++ after, call.2.willLook = true := by
  have hcount := hbook.drains
  rw [show (QueueState.mk q _).queue.isDraining = true from hdraining] at hcount
  have hpos : 0 < (before ++ (thread, Frame.executing) :: after).countP fun call => call.2.isDrain := by
    rw [show List.countP _ _ = true.toNat from hcount]
    exact Nat.one_pos
  obtain ⟨⟨owner, f⟩, hc, hdrain⟩ := List.countP_pos_iff.mp hpos
  have hlook : f.willLook = true ∧ f ≠ .executing := by
    cases f with
    | draining => exact ⟨rfl, by simp⟩
    | running task => exact ⟨rfl, by simp⟩
    | finishing => exact absurd ⟨_, hc, rfl⟩ hwindow
    | _ => cases hdrain
  refine ⟨(owner, f), ?_, hlook.1⟩
  rcases List.mem_append.mp hc with hc | hc
  · exact List.mem_append_left _ hc
  · rcases List.mem_cons.mp hc with heq | hc
    · exact absurd (congrArg Prod.snd heq) hlook.2
    · exact List.mem_append_right _ hc

/-- A call goes on from where it is. -/
theorem Awake.advance {tr : List QueueEvent} (h : Awake ⟨q, before ++ (thread, frame) :: after⟩)
    (hbook : Tasks tr ⟨q, before ++ (thread, frame) :: after⟩)
    (hmine : ∀ call ∈ before, call.1 ≠ thread)
    (hadv : LivekitBridge.advance thread throws q frame = some (q', next, evs))
    (hunasked : ∀ call ∈ before ++ (next.toList.map fun frame => (thread, frame)) ++ after,
      call.2 ≠ .shuttingDown)
    (hwindow : AvoidsWindow ⟨q, before ++ (thread, frame) :: after⟩
      ⟨q', before ++ (next.toList.map fun frame => (thread, frame)) ++ after⟩) :
    Awake ⟨q', before ++ (next.toList.map fun frame => (thread, frame)) ++ after⟩ := by
  have hopen : q.isShutdown = false := h.opened
  have hwaitable : q.hasWaitable = true := h.waitable
  -- where the call stays and will look, there is nothing more to show
  have hstays : ∀ f : Frame, f.willLook = true →
      ∃ call ∈ before ++ [(thread, f)] ++ after, call.2.willLook = true :=
    fun f hf => ⟨(thread, f), by simp, hf⟩
  cases frame with
  | rejecting task =>
    cases hadv
    exact ⟨hopen, hwaitable, hunasked, h.keeps_of_not_willLook rfl⟩
  | waking =>
    simp only [LivekitBridge.advance, Queue.wake, hopen, hwaitable, if_true] at hadv
    cases hadv
    exact ⟨hopen, hwaitable, hunasked, fun _ => .inr (hstays .triggering rfl)⟩
  | triggering =>
    cases throws with
    | true =>
      cases hadv
      exact absurd rfl (hunasked (thread, .shuttingDown) (by simp))
    | false =>
      cases hadv
      exact ⟨hopen, hwaitable, hunasked, fun _ => .inl rfl⟩
  | shuttingDown => exact absurd rfl (h.unasked (thread, .shuttingDown) (by simp))
  | cancelling queued =>
    cases queued with
    | nil =>
      cases hadv
      exact ⟨hopen, hwaitable, hunasked, h.keeps_of_not_willLook rfl⟩
    | cons task queued =>
      cases hadv
      exact ⟨hopen, hwaitable, hunasked, h.keeps_of_not_willLook rfl⟩
  | awaiting =>
    simp only [LivekitBridge.advance] at hadv
    split at hadv
    · cases hadv
      exact ⟨hopen, hwaitable, hunasked, h.keeps_of_not_willLook rfl⟩
    · cases hadv
  | executing =>
    simp only [LivekitBridge.advance, Queue.drain, hopen, Bool.false_or] at hadv
    cases hdraining : q.isDraining with
    | true =>
      rw [hdraining, if_pos rfl] at hadv
      cases hadv
      refine ⟨hopen, hwaitable, hunasked, ?_⟩
      intro htasks
      have hgives : GivesWay ⟨q, before ++ (thread, .executing) :: after⟩ ⟨q, before ++ [] ++ after⟩ :=
        ⟨thread, before, after, rfl, hmine, hdraining, by rw [List.append_nil]⟩
      by_cases hfinishing : ∃ call ∈ before ++ (thread, Frame.executing) :: after, call.2 = .finishing
      · refine (hwindow hgives htasks hfinishing).imp_right ?_
        rintro ⟨call, hc, hway⟩
        exact ⟨call, hc, hway.willLook⟩
      · obtain ⟨call, hc, hlook⟩ := willLook_of_givesWay hbook hdraining hfinishing
        exact .inr ⟨call, by simpa using hc, hlook⟩
    | false =>
      rw [hdraining, if_neg Bool.false_ne_true] at hadv
      cases hadv
      exact ⟨rfl, hwaitable, hunasked, fun _ => .inr (hstays .draining rfl)⟩
  | draining =>
    simp only [LivekitBridge.advance, Queue.claim] at hadv
    split at hadv
    · rename_i htasks
      cases hadv
      exact ⟨hopen, hwaitable, hunasked, fun hne => absurd htasks hne⟩
    · rename_i task tasks _
      cases hadv
      exact ⟨hopen, hwaitable, hunasked, fun _ => .inr (hstays (.running task) rfl)⟩
  | running task =>
    cases hadv
    exact ⟨hopen, hwaitable, hunasked, fun _ => .inr (hstays .draining rfl)⟩
  | finishing =>
    cases hadv
    exact ⟨hopen, hwaitable, hunasked, h.keeps_of_not_willLook rfl⟩

end Steps

theorem Awake.step {tr evs : List QueueEvent} {s t : QueueState} (h : Awake s) (hbook : Tasks tr s)
    (hstep : orderlyMachine.step s evs t) : Awake t := by
  obtain ⟨⟨hstep, hunasked⟩, hwindow⟩ := hstep
  have hstep : QueueStep s evs t := hstep
  cases hstep with
  | submit thread _ _ =>
    have hopen := h.opened
    rw [Queue.submit] at hunasked ⊢
    simp only [hopen] at hunasked ⊢
    exact ⟨rfl, h.waitable, hunasked, fun _ => .inr ⟨(thread, .waking), by simp, rfl⟩⟩
  | execute thread _ _ =>
    exact ⟨h.opened, h.waitable, hunasked, fun _ => .inr ⟨(thread, .executing), by simp, rfl⟩⟩
  | shutdown thread _ _ => exact absurd rfl (hunasked (thread, .shuttingDown) (by simp))
  | advance thread throws q q' frame next evs before after hmine hadv =>
    exact h.advance hbook hmine hadv hunasked hwindow

theorem quiet_of_orderly {tr : List QueueEvent} {s : QueueState} (h : orderlyMachine.Trace tr s) :
    quietMachine.Trace tr s := by
  induction h with
  | start hs => exact .start hs
  | step _ hs ih => exact .step ih hs.1

theorem trace_of_quiet {tr : List QueueEvent} {s : QueueState} (h : quietMachine.Trace tr s) :
    queueMachine.Trace tr s := by
  induction h with
  | start hs => exact .start hs
  | step _ hs ih => exact .step ih hs.1

/-- The drain that is past its last look is the only one. -/
theorem eq_finishing {tr : List QueueEvent} {s : QueueState} (hbook : Tasks tr s)
    (hfinishing : ∃ call ∈ s.frames, call.2 = .finishing) :
    ∀ call ∈ s.frames, call.2.isDrain = true → call.2 = .finishing := by
  obtain ⟨⟨owner, frame⟩, hlast, hframe⟩ := hfinishing
  obtain rfl : frame = .finishing := hframe
  obtain ⟨before, after, hframes⟩ := List.append_of_mem hlast
  have hcount := hbook.drains
  have hle := s.queue.isDraining.toNat_le
  have hone : drainsIn ((owner, Frame.finishing) :: after) = 1 + drainsIn after := by
    rw [← List.singleton_append, drainsIn_append]
    rfl
  rw [hframes, drainsIn_append, hone] at hcount
  have hbefore : ∀ call ∈ before, call.2.isDrain = false := isDrain_eq_false (by omega)
  have hafter : ∀ call ∈ after, call.2.isDrain = false := isDrain_eq_false (by omega)
  intro call hc hdrain
  rw [hframes] at hc
  rcases List.mem_append.mp hc with hc | hc
  · rw [hbefore call hc] at hdrain
    cases hdrain
  · rcases List.mem_cons.mp hc with rfl | hc
    · rfl
    · rw [hafter call hc] at hdrain
      cases hdrain

/-- **A step into the window loses a wakeup.** -/
theorem not_wakeupKept_of_window {tr : List QueueEvent} {s t : QueueState} (hbook : Tasks tr s)
    (h : ¬ AvoidsWindow s t) : ¬ WakeupKept t := by
  simp only [AvoidsWindow, Classical.not_imp, not_or, not_exists, not_and] at h
  obtain ⟨⟨thread, before, after, hframes, _, _, rfl⟩, htasks, hfinishing, hguard, hway⟩ := h
  have hmem : ∀ call ∈ before ++ after, call ∈ s.frames := by
    intro call hc
    rw [hframes]
    rcases List.mem_append.mp hc with hc | hc
    · exact List.mem_append_left _ hc
    · exact List.mem_append_right _ (List.mem_cons_of_mem _ hc)
  have hdrain : ∀ call ∈ before ++ after, call.2.isDrain = true → call.2 = .finishing :=
    fun call hc => eq_finishing hbook hfinishing call (hmem call hc)
  intro hkept
  rcases hkept htasks with ⟨call, hc, hwake | htrigger⟩ | hset | ⟨call, hc, hexecute⟩ |
    ⟨call, hc, hdraining | ⟨task, hrunning⟩⟩
  · exact hway call hc (.inl hwake)
  · exact hway call hc (.inr (.inl htrigger))
  · exact hguard hset
  · exact hway call hc (.inr (.inr hexecute))
  · have hlast := hdrain call hc (by rw [hdraining]; rfl)
    rw [hdraining] at hlast
    cases hlast
  · have hlast := hdrain call hc (by rw [hrunning]; rfl)
    rw [hrunning] at hlast
    cases hlast

theorem avoidsWindow_of_not_executing {s t : QueueState}
    (h : ∀ call ∈ s.frames, call.2 ≠ .executing) : AvoidsWindow s t := by
  rintro ⟨thread, before, after, hframes, _⟩
  exact absurd rfl (h (thread, .executing) (by rw [hframes]; simp))

/-- **No wakeup is lost outside the window.**  In every state of every run without a
shutdown in which no `execute` that gives way to a drain past its last look, while a task
is queued, is the last one on its way to the queue: if a task is queued, then a submitter
has not woken the executor yet, or the wake is pending, or an `execute` has yet to ask for
an active drain, or an active drain will look at the queue again.  A step that such a run
leaves out loses the wakeup. -/
theorem wakeupKept_of_orderly (tr : List QueueEvent) (s : QueueState) :
    (orderlyMachine.Trace tr s → WakeupKept s) ∧
      (quietMachine.Trace tr s → ∀ evs t, quietMachine.step s evs t → ¬ AvoidsWindow s t →
        ¬ WakeupKept t) := by
  constructor
  · intro h
    have hawake : Awake s := by
      refine Machine.Trace.invariant (M := orderlyMachine) (P := fun _ s => Awake s) ?_ ?_ h
      · rintro s rfl
        exact ⟨rfl, rfl, by simp, fun hne => absurd rfl hne⟩
      · intro tr evs s t htr hs hstep
        exact hs.step (tasks_of_trace (trace_of_quiet (quiet_of_orderly htr))) hstep
    exact (wakeupKept_iff s).mpr hawake.kept
  · intro h evs t _ hwindow
    exact not_wakeupKept_of_window (tasks_of_trace (trace_of_quiet h)) hwindow

/-- Thread 1 drains and has found the queue empty. -/
def lastLook : QueueState := ⟨⟨[], false, true, some 1, true, false, 0⟩, [(1, .finishing)]⟩

/-- Thread 2 has submitted a task, and its wake is pending. -/
def wakePending : QueueState := ⟨⟨[0], false, true, some 1, true, true, 1⟩, [(1, .finishing)]⟩

theorem trace_wakePending : orderlyMachine.Trace [.enqueued 0] wakePending := by
  have hexecute : orderlyMachine.Trace [] ⟨.initial, [(1, .executing)]⟩ :=
    .step (.start rfl) ⟨⟨QueueStep.execute 1 ⟨.initial, []⟩ (by simp [CanCall]), by simp⟩,
      fun _ hne => absurd rfl hne⟩
  have hdrain : orderlyMachine.Trace []
      ⟨⟨[], false, true, some 1, true, false, 0⟩, [(1, .draining)]⟩ :=
    .step hexecute ⟨⟨QueueStep.advance 1 false _ _ .executing (some .draining) [] [] [] (by simp) rfl,
      by simp⟩, fun _ hne => absurd rfl hne⟩
  have hlook : orderlyMachine.Trace [] lastLook :=
    .step hdrain ⟨⟨QueueStep.advance 1 false _ _ .draining (some .finishing) [] [] [] (by simp) rfl,
      by simp [lastLook]⟩, fun _ hne => absurd rfl hne⟩
  have hsubmit : orderlyMachine.Trace [.enqueued 0]
      ⟨⟨[0], false, true, some 1, true, false, 1⟩, [(2, .waking), (1, .finishing)]⟩ :=
    .step hlook ⟨⟨QueueStep.submit 2 lastLook (by simp [CanCall, lastLook]), by simp⟩,
      fun _ hne => absurd rfl hne⟩
  have hwake : orderlyMachine.Trace [.enqueued 0]
      ⟨⟨[0], false, true, some 1, true, false, 1⟩, [(2, .triggering), (1, .finishing)]⟩ :=
    .step hsubmit ⟨⟨QueueStep.advance 2 false _ _ .waking (some .triggering) [] [] [(1, .finishing)]
      (by simp) rfl, by simp⟩, avoidsWindow_of_not_executing (by simp)⟩
  exact .step hwake ⟨⟨QueueStep.advance 2 false _ _ .triggering none [] [] [(1, .finishing)]
    (by simp) rfl, by simp [wakePending]⟩, avoidsWindow_of_not_executing (by simp)⟩

/-- A task that is submitted after the last look of a drain is waited for by its own
wake. -/
theorem wakeupKept_of_orderly_lastLook : wakePending.queue.tasks ≠ [] ∧ WakeupKept wakePending :=
  ⟨by simp [wakePending], (wakeupKept_of_orderly _ _).1 trace_wakePending⟩

/-- Thread 3 has taken that wake and given way to thread 1. -/
def wakeLost : QueueState := ⟨⟨[0], false, true, some 1, true, false, 1⟩, [(1, .finishing)]⟩

/-- **A wakeup can be lost**: an `execute` that gives way in the window takes the wake
of a task with it, and nobody will look at the queue. -/
theorem not_wakeupKept : ¬ ∀ tr s, quietMachine.Trace tr s → WakeupKept s := by
  intro h
  have hpending : quietMachine.Trace [.enqueued 0] wakePending := quiet_of_orderly trace_wakePending
  have hexecute : quietMachine.Trace [.enqueued 0]
      ⟨⟨[0], false, true, some 1, true, false, 1⟩, [(3, .executing), (1, .finishing)]⟩ :=
    .step hpending ⟨QueueStep.execute 3 wakePending (by simp [CanCall, wakePending]),
      by simp⟩
  have hlost : quietMachine.Trace [.enqueued 0] wakeLost :=
    .step hexecute ⟨QueueStep.advance 3 false _ _ .executing none [] [] [(1, .finishing)] (by simp) rfl,
      by simp [wakeLost]⟩
  have hkept := (wakeupKept_iff wakeLost).mp (h _ _ hlost) (by simp [wakeLost])
  rcases hkept with hguard | ⟨call, hc, hlook⟩
  · cases hguard
  · obtain rfl := List.mem_singleton.mp hc
    cases hlook

end LivekitBridge
