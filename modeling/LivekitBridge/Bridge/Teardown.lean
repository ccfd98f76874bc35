import LivekitBridge.Bridge.Runtime
import LivekitBridge.Executor.ExactlyOnce

/-!
# The order of the teardown

The results about `Bridge.Runtime`.  A run of the runtime is a run of its gate and a run of its
queue (`projects_gate`, `projects_queue`).  A thread is in the gate as often as its place says
(`RuntimePlace.depth`), so that none is inside a callback when the watchdog is stopped; and when the
queue's `shutdown` has returned to the destructor, nothing drains any more.
-/

namespace LivekitBridge

open Lib

variable {owner : ThreadId}

/-! ### The gate and the queue of a run -/

/-- What is seen of the gate. -/
def RuntimeEvent.gate? : RuntimeEvent → Option GateEvent
  | .gate e => some e
  | _ => none

/-- What is seen of the queue. -/
def RuntimeEvent.queue? : RuntimeEvent → Option QueueEvent
  | .queue e => some e
  | _ => none

def RuntimeEvent.submits? : RuntimeEvent → Option RosWork
  | .submits work => some work
  | _ => none

section Projections

variable (evs : List QueueEvent)

@[simp] theorem filterMap_gate_queue :
    (evs.map RuntimeEvent.queue).filterMap RuntimeEvent.gate? = [] := by
  simp [List.filterMap_map, Function.comp_def, RuntimeEvent.gate?]

@[simp] theorem filterMap_queue_queue :
    (evs.map RuntimeEvent.queue).filterMap RuntimeEvent.queue? = evs := by
  simp [List.filterMap_map, Function.comp_def, RuntimeEvent.queue?]

@[simp] theorem filterMap_submits_queue :
    (evs.map RuntimeEvent.queue).filterMap RuntimeEvent.submits? = [] := by
  simp [List.filterMap_map, Function.comp_def, RuntimeEvent.submits?]

end Projections

/-- **The gate of the runtime.** -/
theorem projects_gate :
    (runtimeMachine owner).Projects gateMachine RuntimeState.gate RuntimeEvent.gate? := by
  refine ⟨?_, ?_⟩
  · rintro s rfl
    exact ⟨.concurrent, rfl⟩
  · intro tr evs s t _ hs
    cases hs with
    | callBack thread callback gate _ hfree hgate => exact .single hgate
    | callBackRefused thread gate _ hfree hgate => exact .single hgate
    | onStateChanged thread state _ hplace => exact .refl
    | onUserPacketReceived thread packet _ hplace => exact .refl
    | onParticipantDisconnected thread identity _ hplace => exact .refl
    | pruneTimer thread _ hfree => exact .refl
    | passGate thread work nested gate _ hplace hgate => exact .single hgate
    | passRefused thread work nested gate _ hplace hgate => exact .single hgate
    | submitRosWork thread work nested _ hplace hcan =>
      exact .stutter (by simp [RuntimeEvent.gate?]) rfl
    | submitRpc thread _ hfree => exact .stutter (by simp [RuntimeEvent.gate?]) rfl
    | submitReturned thread nested gate _ hplace hcan hgate => exact .single hgate
    | callBackReturned thread gate _ hplace hgate => exact .single hgate
    | execute thread _ hfree => exact .refl
    | advance thread throws q q' frame next evs before after _ hqueue hinnermost hadvance =>
      exact .stutter (filterMap_gate_queue evs) rfl
    | closeGate call gate _ hteardown hgate => exact .single hgate
    | gateClosed call first gate _ hteardown hgate => exact .single hgate
    | stopWatchdog _ hteardown => exact .refl
    | shutdownQueue _ hteardown hcan => exact .refl
    | queueShutDown _ hteardown hreturned => exact .refl
    | shutdownLeases _ hteardown => exact .refl
    | unregisterRpcs _ hteardown => exact .refl
    | stopConnection _ hteardown => exact .refl

/-- **The queue of the runtime.** -/
theorem projects_queue :
    (runtimeMachine owner).Projects queueMachine RuntimeState.queue RuntimeEvent.queue? := by
  refine ⟨?_, ?_⟩
  · rintro s rfl
    rfl
  · intro tr evs s t _ hs
    cases hs with
    | callBack thread callback gate _ hfree hgate => exact .refl
    | callBackRefused thread gate _ hfree hgate => exact .refl
    | onStateChanged thread state _ hplace => exact .refl
    | onUserPacketReceived thread packet _ hplace => exact .refl
    | onParticipantDisconnected thread identity _ hplace => exact .refl
    | pruneTimer thread _ hfree => exact .refl
    | passGate thread work nested gate _ hplace hgate => exact .refl
    | passRefused thread work nested gate _ hplace hgate => exact .refl
    | submitRosWork thread work nested _ hplace hcan =>
      have hsubmit := QueueStep.submit thread s.queue hcan
      simp only [List.filterMap_cons, RuntimeEvent.queue?, filterMap_queue_queue]
      exact .single hsubmit
    | submitRpc thread _ hfree =>
      have hsubmit := QueueStep.submit thread s.queue hfree.2.2
      simp only [List.filterMap_cons, RuntimeEvent.queue?, filterMap_queue_queue]
      exact .single hsubmit
    | submitReturned thread nested gate _ hplace hcan hgate => exact .refl
    | callBackReturned thread gate _ hplace hgate => exact .refl
    | execute thread _ hfree => exact .single (.execute thread s.queue hfree.2.2)
    | advance thread throws q q' frame next evs before after _ hqueue hinnermost hadvance =>
      rw [filterMap_queue_queue, hqueue]
      exact .single (.advance thread throws q q' frame next evs before after hinnermost hadvance)
    | closeGate call gate _ hteardown hgate => exact .refl
    | gateClosed call first gate _ hteardown hgate => exact .refl
    | stopWatchdog _ hteardown => exact .refl
    | shutdownQueue _ hteardown hcan => exact .single (.shutdown owner s.queue hcan)
    | queueShutDown _ hteardown hreturned => exact .refl
    | shutdownLeases _ hteardown => exact .refl
    | unregisterRpcs _ hteardown => exact .refl
    | stopConnection _ hteardown => exact .refl

/-! ### Who is in the gate -/

/-- How often the thread is in the gate. -/
def RuntimePlace.depth : RuntimePlace → Nat
  | .idle => 0
  | .called _ => 1
  | .submitting _ nested => if nested then 1 else 0
  | .admitted _ nested => if nested then 2 else 1
  | .enqueuing nested => if nested then 2 else 1
  | .leaving => 1

/-- How far the destructor is. -/
def Teardown.rank : Teardown → Nat
  | .alive => 0
  | .closingGate => 1
  | .stoppingWatchdog => 2
  | .shuttingQueue => 3
  | .awaitingQueue => 4
  | .shuttingLeases => 5
  | .unregistering => 6
  | .stoppingConnection => 7
  | .finished => 8

/-- How far the destructor is when this has happened. -/
def RuntimeEvent.rank : RuntimeEvent → Nat
  | .gate (.closed _ _ _ _) => 2
  | .watchdogStopped => 3
  | .leasesShutDown => 6
  | .rpcsUnregistered => 7
  | .connectionStopped => 8
  | _ => 0

/-- The call is one of `shutdown`. -/
def Frame.isShutdown : Frame → Bool
  | .shuttingDown => true
  | .cancelling _ => true
  | .awaiting => true
  | _ => false

/-- The call is past the lock of `shutdown`. -/
def Frame.isPastShutdown : Frame → Bool
  | .cancelling _ => true
  | .awaiting => true
  | _ => false

/-- What a run of the runtime keeps. -/
structure RuntimeBooks (owner : ThreadId) (tr : List RuntimeEvent) (s : RuntimeState) : Prop where
  inside : ∀ thread, s.gate.running.count thread = (s.places thread).depth
  away : s.places owner = .idle
  gateClosed : 2 ≤ s.teardown.rank → s.gate.gate.isClosed = true ∧ s.gate.running = []
  shutting : ∀ call ∈ s.queue.frames, call.1 = owner → call.2.isShutdown = true
  shut : ∀ call ∈ s.queue.frames, call.2.isPastShutdown = true → s.queue.queue.isShutdown = true
  queueClosed : 4 ≤ s.teardown.rank → (∀ call ∈ s.queue.frames, call.1 ≠ owner) →
    s.queue.queue.isShutdown = true ∧ s.queue.queue.isDraining = false
  returned : 5 ≤ s.teardown.rank → ∀ call ∈ s.queue.frames, call.1 ≠ owner
  numbered : s.work.length = s.queue.queue.nextTask
  submitted : tr.filterMap RuntimeEvent.submits? = s.work
  ranked : ∀ e ∈ tr, e.rank ≤ s.teardown.rank

/-! ### What a step keeps -/

theorem advance_shutdown {thread : ThreadId} {throws : Bool} {q q' : Queue} {frame : Frame}
    {next : Option Frame} {evs : List QueueEvent}
    (h : advance thread throws q frame = some (q', next, evs)) :
    q'.nextTask = q.nextTask ∧ (q.isShutdown = true → q'.isShutdown = true) ∧
    (q.isShutdown = true → q.isDraining = false → q'.isDraining = false) ∧
    (∀ frame' ∈ next, (frame.isShutdown = true → frame'.isShutdown = true) ∧
      (frame'.isPastShutdown = true → frame.isPastShutdown = true ∨ q'.isShutdown = true)) ∧
    (frame.isShutdown = true → next = none → q' = q ∧ q.isIdleFor thread = true ∧
      frame.isPastShutdown = true) := by
  cases frame with
  | rejecting task =>
    cases h
    simp [Frame.isShutdown]
  | waking =>
    simp only [advance, Queue.wake] at h
    split at h
    · cases h
      simp [Frame.isShutdown]
    · split at h
      · cases h
        simp [Frame.isShutdown, Frame.isPastShutdown]
      · cases h
        simp [Frame.isShutdown]
  | triggering =>
    cases throws with
    | true =>
      cases h
      simp [Frame.isShutdown, Frame.isPastShutdown]
    | false =>
      cases h
      simp [Frame.isShutdown]
  | shuttingDown =>
    simp only [advance, Queue.shutdown] at h
    split at h
    · rename_i hshut
      cases h
      simp [Frame.isShutdown, hshut]
    · cases h
      simp [Frame.isShutdown]
  | cancelling queued =>
    cases queued with
    | nil =>
      cases h
      simp [Frame.isShutdown, Frame.isPastShutdown]
    | cons task queued =>
      cases h
      simp [Frame.isShutdown, Frame.isPastShutdown]
  | awaiting =>
    simp only [advance] at h
    split at h
    · rename_i hidle
      cases h
      simp [hidle, Frame.isPastShutdown]
    · cases h
  | executing =>
    simp only [advance, Queue.drain] at h
    split at h
    · cases h
      simp [Frame.isShutdown]
    · rename_i hopen
      cases h
      simp at hopen
      simp [Frame.isShutdown, Frame.isPastShutdown, hopen]
  | draining =>
    simp only [advance, Queue.claim] at h
    split at h
    · cases h
      simp [Frame.isShutdown, Frame.isPastShutdown]
    · cases h
      simp [Frame.isShutdown, Frame.isPastShutdown]
  | running task =>
    cases h
    simp [Frame.isShutdown, Frame.isPastShutdown]
  | finishing =>
    cases h
    simp [Frame.isShutdown]

section Preservation

variable {tr evs : List RuntimeEvent} {s t : RuntimeState}

/-- The places, after one thread has gone in, come out or stayed. -/
theorem RuntimeBooks.inside_setPlace (h : RuntimeBooks owner tr s) {gate : GateState}
    {thread : ThreadId} {place : RuntimePlace}
    (hother : ∀ other, other ≠ thread → gate.running.count other = s.gate.running.count other)
    (hown : gate.running.count thread = place.depth) :
    ∀ other, gate.running.count other = ((s.setPlace thread place).places other).depth := by
  intro other
  unfold RuntimeState.setPlace
  dsimp only
  by_cases heq : other = thread
  · rw [heq, Function.update_self]
    exact hown
  · rw [Function.update_of_ne heq, hother other heq]
    exact h.inside other

/-- Steps of the threads that do not concern the queue. -/
theorem RuntimeBooks.place (h : RuntimeBooks owner tr s) {gate : GateState} {thread : ThreadId}
    {place : RuntimePlace} (hthread : thread ≠ owner)
    (hevs : ∀ e ∈ evs, e.rank = 0 ∧ e.submits? = none)
    (hother : ∀ other, other ≠ thread → gate.running.count other = s.gate.running.count other)
    (hown : gate.running.count thread = place.depth)
    (hclosed : 2 ≤ s.teardown.rank → gate.gate.isClosed = true ∧ gate.running = []) :
    RuntimeBooks owner (tr ++ evs) { s.setPlace thread place with gate := gate } := by
  refine ⟨h.inside_setPlace hother hown, ?_, hclosed, h.shutting, h.shut, h.queueClosed, h.returned,
    h.numbered, ?_, ?_⟩
  · unfold RuntimeState.setPlace
    dsimp only
    rw [Function.update_of_ne hthread.symm]
    exact h.away
  · rw [List.filterMap_append, List.filterMap_eq_nil_iff.mpr fun e he => (hevs e he).2,
      List.append_nil]
    exact h.submitted
  · intro e he
    rcases List.mem_append.mp he with he | he
    · exact h.ranked e he
    · rw [(hevs e he).1]
      exact Nat.zero_le _

theorem RuntimeBooks.ne_owner (h : RuntimeBooks owner tr s) {thread : ThreadId}
    (hplace : s.places thread ≠ .idle) : thread ≠ owner := by
  rintro rfl
  exact hplace h.away

theorem RuntimeBooks.entered (h : RuntimeBooks owner tr s) {gate : GateState} {thread : ThreadId}
    {place : RuntimePlace} (hthread : thread ≠ owner)
    (hgate : GateStep s.gate [.entered thread] gate)
    (hdepth : place.depth = (s.places thread).depth + 1) :
    RuntimeBooks owner (tr ++ [.gate (.entered thread)])
      { s.setPlace thread place with gate := gate } := by
  obtain ⟨hrunning, hopen⟩ := running_of_entered hgate
  refine h.place hthread (by simp [RuntimeEvent.rank, RuntimeEvent.submits?]) ?_ ?_ ?_
  · intro other hne
    rw [hrunning, List.count_cons_of_ne hne.symm]
  · rw [hrunning, List.count_cons_self, h.inside thread, hdepth]
  · intro hrank
    rw [(h.gateClosed hrank).1] at hopen
    cases hopen

theorem RuntimeBooks.left (h : RuntimeBooks owner tr s) {gate : GateState} {thread : ThreadId}
    {place : RuntimePlace} (hthread : thread ≠ owner)
    (hgate : GateStep s.gate [.left thread false] gate)
    (hdepth : place.depth + 1 = (s.places thread).depth) :
    RuntimeBooks owner (tr ++ [.gate (.left thread false)])
      { s.setPlace thread place with gate := gate } := by
  obtain ⟨hrunning, hclosed⟩ := running_of_left hgate
  have hown := hrunning thread
  rw [if_pos rfl, h.inside thread] at hown
  refine h.place hthread (by simp [RuntimeEvent.rank, RuntimeEvent.submits?]) ?_ (by omega) ?_
  · intro other hne
    have hsame := hrunning other
    rwa [if_neg hne] at hsame
  · intro hrank
    -- nobody is in there any more
    have hnone := hrunning thread
    rw [(h.gateClosed hrank).2, List.count_nil, if_pos rfl] at hnone
    omega

theorem RuntimeBooks.stayed (h : RuntimeBooks owner tr s) {thread : ThreadId} {place : RuntimePlace}
    (hthread : thread ≠ owner) (hevs : ∀ e ∈ evs, e.rank = 0 ∧ e.submits? = none)
    (hdepth : place.depth = (s.places thread).depth) :
    RuntimeBooks owner (tr ++ evs) (s.setPlace thread place) := by
  refine h.place hthread hevs (fun _ _ => rfl) ?_ h.gateClosed
  rw [h.inside thread, hdepth]

theorem RuntimeBooks.refused (h : RuntimeBooks owner tr s) {gate : GateState} {thread : ThreadId}
    {place : RuntimePlace} (hthread : thread ≠ owner)
    (hgate : GateStep s.gate [.refused thread] gate)
    (hdepth : place.depth = (s.places thread).depth) :
    RuntimeBooks owner (tr ++ [.gate (.refused thread)])
      { s.setPlace thread place with gate := gate } := by
  obtain ⟨hrunning, hclosed⟩ := running_of_refused hgate
  refine h.place hthread (by simp [RuntimeEvent.rank, RuntimeEvent.submits?]) ?_ ?_ ?_
  · intro other _
    rw [hrunning]
  · rw [hrunning, h.inside thread, hdepth]
  · intro hrank
    rw [hclosed, hrunning]
    exact h.gateClosed hrank

theorem depth_afterSubmit (nested : Bool) :
    (RuntimeState.afterSubmit nested).depth + 1 = (RuntimePlace.enqueuing nested).depth := by
  cases nested <;> rfl

theorem submit_shutdown (q : Queue) :
    q.submit.1.isShutdown = q.isShutdown ∧ q.submit.1.isDraining = q.isDraining ∧
      q.submit.1.nextTask = q.nextTask + 1 ∧ q.submit.2.1.isShutdown = false ∧
        q.submit.2.1.isPastShutdown = false := by
  unfold Queue.submit
  dsimp only
  split
  · exact ⟨rfl, rfl, rfl, rfl, rfl⟩
  · exact ⟨rfl, rfl, rfl, rfl, rfl⟩

theorem RuntimeBooks.submit (h : RuntimeBooks owner tr s) {thread : ThreadId}
    (hthread : thread ≠ owner) (work : RosWork) :
    RuntimeBooks owner (tr ++ .submits work :: s.queue.queue.submit.2.2.map .queue)
      (s.submit thread work) := by
  obtain ⟨hshut, hdraining, hnext, hframe, hpast⟩ := submit_shutdown s.queue.queue
  refine ⟨h.inside, h.away, h.gateClosed, ?_, ?_, ?_, ?_, ?_, ?_, ?_⟩
  · intro call hcall howner
    rcases List.mem_cons.mp hcall with rfl | hcall
    · exact absurd howner hthread
    · exact h.shutting call hcall howner
  · intro call hcall hcallPast
    refine hshut.trans ?_
    rcases List.mem_cons.mp hcall with rfl | hcall
    · rw [hpast] at hcallPast
      cases hcallPast
    · exact h.shut call hcall hcallPast
  · intro hrank hnone
    obtain ⟨hclosed, hidle⟩ := h.queueClosed hrank fun call hcall =>
      hnone call (List.mem_cons_of_mem _ hcall)
    exact ⟨hshut.trans hclosed, hdraining.trans hidle⟩
  · intro hrank call hcall
    rcases List.mem_cons.mp hcall with rfl | hcall
    · exact hthread
    · exact h.returned hrank call hcall
  · unfold RuntimeState.submit
    dsimp only
    rw [List.length_append, h.numbered, hnext]
    rfl
  · rw [List.filterMap_append, h.submitted]
    simp only [List.filterMap_cons, RuntimeEvent.submits?, filterMap_submits_queue]
    rfl
  · intro e he
    rcases List.mem_append.mp he with he | he
    · exact h.ranked e he
    · rcases List.mem_cons.mp he with rfl | he
      · exact Nat.zero_le _
      · obtain ⟨e, -, rfl⟩ := List.mem_map.mp he
        exact Nat.zero_le _

/-- The destructor's `shutdown` returns when nothing drains. -/
theorem RuntimeBooks.isDraining_eq_false (h : RuntimeBooks owner tr s) {history : List QueueEvent}
    (htasks : Tasks history s.queue) (hidle : s.queue.queue.isIdleFor owner = true) :
    s.queue.queue.isDraining = false := by
  rw [Queue.isIdleFor, Bool.or_eq_true, Bool.not_eq_true', beq_iff_eq] at hidle
  rcases hidle with hidle | howner
  · exact hidle
  · -- the owner of a drain would be in it, and the destructor is in its `shutdown`
    have hnone : drainsIn s.queue.frames = 0 := by
      refine List.countP_eq_zero.mpr fun call hcall hdrain => ?_
      have hcallOwner := htasks.owner call hcall hdrain
      rw [howner] at hcallOwner
      have hshutdown := h.shutting call hcall (Option.some.inj hcallOwner).symm
      revert hdrain hshutdown
      cases call.2 <;> simp [Frame.isDrain, Frame.isShutdown]
    have hdrains := htasks.drains
    rw [hnone] at hdrains
    cases hdraining : s.queue.queue.isDraining with
    | false => rfl
    | true =>
      rw [hdraining] at hdrains
      cases hdrains

theorem RuntimeBooks.advance (h : RuntimeBooks owner tr s) {history : List QueueEvent}
    (htasks : Tasks history s.queue) {thread : ThreadId} {throws : Bool} {q q' : Queue}
    {frame : Frame} {next : Option Frame} {qevs : List QueueEvent}
    {before after : List (ThreadId × Frame)}
    (hqueue : s.queue = ⟨q, before ++ (thread, frame) :: after⟩)
    (hadvance : LivekitBridge.advance thread throws q frame = some (q', next, qevs)) :
    RuntimeBooks owner (tr ++ qevs.map .queue)
      { s with
        queue := ⟨q', before ++ (next.toList.map fun frame => (thread, frame)) ++ after⟩ } := by
  obtain ⟨hnext, hshut, hidle, hframes, hreturns⟩ := advance_shutdown hadvance
  have hshutting := h.shutting
  have hpast := h.shut
  have hclosed := h.queueClosed
  have hreturned := h.returned
  have hnumbered := h.numbered
  have hdone : q.isIdleFor owner = true → q.isDraining = false := by
    have hdone := h.isDraining_eq_false htasks
    rwa [hqueue] at hdone
  rw [hqueue] at hshutting hpast hclosed hreturned hnumbered
  dsimp only at hshutting hpast hclosed hreturned hnumbered
  -- a call that is there now was there before, or it is the one that went on
  have hcalls : ∀ call ∈ before ++ (next.toList.map fun frame => (thread, frame)) ++ after,
      call ∈ before ++ (thread, frame) :: after ∨ call.1 = thread ∧ call.2 ∈ next := by
    intro call hcall
    simp only [List.mem_append, List.mem_map, Option.mem_toList, List.mem_cons] at hcall ⊢
    rcases hcall with (hcall | ⟨frame', hframe', rfl⟩) | hcall
    · exact .inl (.inl hcall)
    · exact .inr ⟨rfl, hframe'⟩
    · exact .inl (.inr (.inr hcall))
  have hself : (thread, frame) ∈ before ++ (thread, frame) :: after := by simp
  refine ⟨h.inside, h.away, h.gateClosed, ?_, ?_, ?_, ?_, ?_, ?_, ?_⟩
  · intro call hcall howner
    rcases hcalls call hcall with hold | ⟨hthread, hmem⟩
    · exact hshutting call hold howner
    · exact (hframes call.2 hmem).1 (hshutting _ hself (hthread.symm.trans howner))
  · intro call hcall hcallPast
    rcases hcalls call hcall with hold | ⟨-, hmem⟩
    · exact hshut (hpast call hold hcallPast)
    · rcases (hframes call.2 hmem).2 hcallPast with hframe | hclosed'
      · exact hshut (hpast _ hself hframe)
      · exact hclosed'
  · intro hrank hnone
    dsimp only at hnone
    by_cases hthread : thread = owner
    · have hended : next = none := by
        cases next with
        | none => rfl
        | some frame' => exact absurd hthread (hnone (thread, frame') (by simp))
      obtain ⟨rfl, hidleFor, hframe⟩ := hreturns (hshutting _ hself hthread) hended
      exact ⟨hpast _ hself hframe, hdone (hthread ▸ hidleFor)⟩
    · obtain ⟨hq, hqidle⟩ := hclosed hrank fun call hcall => by
        rcases List.mem_append.mp hcall with hcall | hcall
        · exact hnone call (by simp [hcall])
        · rcases List.mem_cons.mp hcall with rfl | hcall
          · exact hthread
          · exact hnone call (by simp [hcall])
      exact ⟨hshut hq, hidle hq hqidle⟩
  · intro hrank call hcall
    rcases hcalls call hcall with hold | ⟨hthread, -⟩
    · exact hreturned hrank call hold
    · rw [hthread]
      exact hreturned hrank _ hself
  · exact hnumbered.trans hnext.symm
  · rw [List.filterMap_append, filterMap_submits_queue, List.append_nil]
    exact h.submitted
  · intro e he
    rcases List.mem_append.mp he with he | he
    · exact h.ranked e he
    · obtain ⟨e, -, rfl⟩ := List.mem_map.mp he
      exact Nat.zero_le _

/-- The destructor goes on. -/
theorem RuntimeBooks.teardown (h : RuntimeBooks owner tr s) {gate : GateState} {place : Teardown}
    (hsubmits : ∀ e ∈ evs, e.submits? = none) (hrank : s.teardown.rank ≤ place.rank)
    (hevents : ∀ e ∈ evs, e.rank ≤ place.rank) (hrunning : gate.running = s.gate.running)
    (hgate : 2 ≤ place.rank → gate.gate.isClosed = true ∧ gate.running = [])
    (hqueue : 4 ≤ place.rank → 4 ≤ s.teardown.rank)
    (hreturned : 5 ≤ place.rank → ∀ call ∈ s.queue.frames, call.1 ≠ owner) :
    RuntimeBooks owner (tr ++ evs) { s with gate := gate, teardown := place } := by
  refine ⟨?_, h.away, hgate, h.shutting, h.shut, fun hr => h.queueClosed (hqueue hr), hreturned,
    h.numbered, ?_, ?_⟩
  · intro thread
    dsimp only
    rw [hrunning]
    exact h.inside thread
  · rw [List.filterMap_append, List.filterMap_eq_nil_iff.mpr hsubmits, List.append_nil]
    exact h.submitted
  · intro e he
    rcases List.mem_append.mp he with he | he
    · exact Nat.le_trans (h.ranked e he) hrank
    · exact hevents e he

theorem RuntimeBooks.step (h : RuntimeBooks owner tr s) {calls : List GateEvent}
    {history : List QueueEvent} (hgates : GateBooks calls s.gate) (htasks : Tasks history s.queue)
    (hs : RuntimeStep owner s evs t) : RuntimeBooks owner (tr ++ evs) t := by
  cases hs with
  | callBack thread callback gate _ hfree hgate =>
    exact h.entered hfree.1 hgate (by rw [hfree.2.1]; rfl)
  | callBackRefused thread gate _ hfree hgate =>
    have hsame : s.setPlace thread .idle = s := by
      unfold RuntimeState.setPlace
      rw [← hfree.2.1, Function.update_eq_self]
    have hrefused := h.refused hfree.1 hgate (by rw [hfree.2.1])
    rwa [hsame] at hrefused
  | onStateChanged thread state _ hplace =>
    exact h.stayed (h.ne_owner (by simp [hplace])) (by simp [RuntimeEvent.rank, RuntimeEvent.submits?])
      (by rw [hplace]; rfl)
  | onUserPacketReceived thread packet _ hplace =>
    refine h.stayed (h.ne_owner (by simp [hplace])) (by simp) ?_
    rw [hplace]
    cases onUserPacketReceived packet with
    | none => rfl
    | some work => rfl
  | onParticipantDisconnected thread identity _ hplace =>
    exact h.stayed (h.ne_owner (by simp [hplace])) (by simp) (by rw [hplace]; rfl)
  | pruneTimer thread _ hfree => exact h.stayed hfree.1 (by simp) (by rw [hfree.2.1]; rfl)
  | passGate thread work nested gate _ hplace hgate =>
    refine h.entered (h.ne_owner (by simp [hplace])) hgate ?_
    rw [hplace]
    cases nested <;> rfl
  | passRefused thread work nested gate _ hplace hgate =>
    refine h.refused (h.ne_owner (by simp [hplace])) hgate ?_
    rw [hplace]
    cases nested <;> rfl
  | submitRosWork thread work nested _ hplace hcan =>
    have hthread : thread ≠ owner := h.ne_owner (by simp [hplace])
    have hsubmit := h.submit hthread work
    have hmoved : RuntimeBooks owner
        ((tr ++ .submits work :: s.queue.queue.submit.2.2.map .queue) ++ [])
        ((s.submit thread work).setPlace thread (.enqueuing nested)) := by
      refine hsubmit.stayed hthread (by simp) ?_
      rw [show (s.submit thread work).places thread = .admitted work nested from hplace]
      rfl
    rwa [List.append_nil] at hmoved
  | submitRpc thread _ hfree => exact h.submit hfree.1 .rpc
  | submitReturned thread nested gate _ hplace hcan hgate =>
    refine h.left (h.ne_owner (by simp [hplace])) hgate ?_
    rw [hplace]
    exact depth_afterSubmit nested
  | callBackReturned thread gate _ hplace hgate =>
    exact h.left (h.ne_owner (by simp [hplace])) hgate (by rw [hplace]; rfl)
  | execute thread _ hfree =>
    rw [List.append_nil]
    refine ⟨h.inside, h.away, h.gateClosed, ?_, ?_, ?_, ?_, h.numbered, h.submitted, h.ranked⟩
    · intro call hcall howner
      rcases List.mem_cons.mp hcall with rfl | hcall
      · exact absurd howner hfree.1
      · exact h.shutting call hcall howner
    · intro call hcall hcallPast
      rcases List.mem_cons.mp hcall with rfl | hcall
      · cases hcallPast
      · exact h.shut call hcall hcallPast
    · exact fun hrank hnone => h.queueClosed hrank fun call hcall =>
        hnone call (List.mem_cons_of_mem _ hcall)
    · intro hrank call hcall
      rcases List.mem_cons.mp hcall with rfl | hcall
      · exact hfree.1
      · exact h.returned hrank call hcall
  | advance thread throws q q' frame next evs before after _ hqueue hinnermost hadvance =>
    exact h.advance htasks hqueue hadvance
  | closeGate call gate _ hteardown hgate =>
    refine h.teardown (by simp [RuntimeEvent.submits?]) (by rw [hteardown]; decide)
      (by simp [RuntimeEvent.rank]) (running_of_closing hgate) ?_ ?_ ?_
    · intro hrank
      exact absurd hrank (by decide)
    · intro hrank
      exact absurd hrank (by decide)
    · intro hrank
      exact absurd hrank (by decide)
  | gateClosed call first gate _ hteardown hgate =>
    refine h.teardown (by simp [RuntimeEvent.submits?]) (by rw [hteardown]; decide)
      (by simp [RuntimeEvent.rank, Teardown.rank]) (running_of_closed hgate) ?_ ?_ ?_
    · intro _
      refine ⟨((hgates.step hgate).returned call owner .allCallbacks first (by simp)).1, ?_⟩
      rcases hgates.running_wake hgate with hnone | ⟨hmode, -⟩
      · exact hnone
      · cases hmode
    · intro hrank
      exact absurd hrank (by decide)
    · intro hrank
      exact absurd hrank (by decide)
  | stopWatchdog _ hteardown =>
    have hrank : s.teardown.rank = 2 := by rw [hteardown]; rfl
    refine h.teardown (by simp [RuntimeEvent.submits?])
      (by rw [hrank]; decide) (by simp [RuntimeEvent.rank, Teardown.rank]) rfl
      (fun _ => h.gateClosed (by omega)) ?_ ?_
    · intro hrank
      exact absurd hrank (by decide)
    · intro hrank
      exact absurd hrank (by decide)
  | shutdownQueue _ hteardown hcan =>
    have hrank : s.teardown.rank = 3 := by rw [hteardown]; rfl
    rw [List.append_nil]
    refine ⟨h.inside, h.away, fun _ => h.gateClosed (by omega), ?_, ?_, ?_, ?_, h.numbered,
      h.submitted, fun e he => Nat.le_trans (h.ranked e he) (by rw [hrank]; exact Nat.le_succ 3)⟩
    · intro call hcall howner
      rcases List.mem_cons.mp hcall with rfl | hcall
      · rfl
      · exact h.shutting call hcall howner
    · intro call hcall hcallPast
      rcases List.mem_cons.mp hcall with rfl | hcall
      · cases hcallPast
      · exact h.shut call hcall hcallPast
    · exact fun _ hnone => absurd rfl (hnone _ List.mem_cons_self)
    · intro hrank
      exact absurd hrank (by simp [Teardown.rank])
  | queueShutDown _ hteardown hreturned =>
    have hrank : s.teardown.rank = 4 := by rw [hteardown]; rfl
    exact h.teardown (by simp) (by rw [hrank]; decide) (by simp) rfl
      (fun _ => h.gateClosed (by omega)) (fun _ => by omega) fun _ => hreturned
  | shutdownLeases _ hteardown =>
    have hrank : s.teardown.rank = 5 := by rw [hteardown]; rfl
    exact h.teardown (by simp [RuntimeEvent.submits?]) (by rw [hrank]; decide)
      (by simp [RuntimeEvent.rank, Teardown.rank]) rfl (fun _ => h.gateClosed (by omega))
      (fun _ => by omega) fun _ => h.returned (by omega)
  | unregisterRpcs _ hteardown =>
    have hrank : s.teardown.rank = 6 := by rw [hteardown]; rfl
    exact h.teardown (by simp [RuntimeEvent.submits?]) (by rw [hrank]; decide)
      (by simp [RuntimeEvent.rank, Teardown.rank]) rfl (fun _ => h.gateClosed (by omega))
      (fun _ => by omega) fun _ => h.returned (by omega)
  | stopConnection _ hteardown =>
    have hrank : s.teardown.rank = 7 := by rw [hteardown]; rfl
    exact h.teardown (by simp [RuntimeEvent.submits?]) (by rw [hrank]; decide)
      (by simp [RuntimeEvent.rank, Teardown.rank]) rfl (fun _ => h.gateClosed (by omega))
      (fun _ => by omega) fun _ => h.returned (by omega)

end Preservation

/-! ### Results -/

section Results

variable {tr : List RuntimeEvent} {s : RuntimeState}

theorem runtimeBooks_of_trace (h : (runtimeMachine owner).Trace tr s) :
    RuntimeBooks owner tr s := by
  induction h with
  | start hs =>
    rw [hs]
    refine ⟨fun _ => rfl, rfl, ?_, by simp [RuntimeState.initial], by simp [RuntimeState.initial], ?_,
      by simp [RuntimeState.initial], rfl, rfl, by simp⟩
    · intro hrank
      exact absurd hrank (by decide)
    · intro hrank
      exact absurd hrank (by decide)
  | step prior hs ih =>
    exact ih.step (gateBooks_of_trace (projects_gate.trace prior))
      (tasks_of_trace (projects_queue.trace prior)) hs

/-- A task is taken and run in a drain. -/
theorem isDrain_of_started {thread : ThreadId} {throws : Bool} {q q' : Queue} {frame : Frame}
    {next : Option Frame} {evs : List QueueEvent} {task : TaskId}
    (h : advance thread throws q frame = some (q', next, evs))
    (hm : .started task ∈ evs ∨ .ran task ∈ evs) : frame.isDrain = true := by
  cases frame with
  | draining => rfl
  | running task => rfl
  | finishing => rfl
  | rejecting task =>
    cases h
    simp [cancelTask] at hm
  | waking =>
    simp only [advance, Queue.wake] at h
    split at h
    · cases h
      simp at hm
    · split at h
      · cases h
        simp at hm
      · cases h
        simp at hm
  | triggering =>
    cases throws <;> (cases h; simp at hm)
  | shuttingDown =>
    simp only [advance, Queue.shutdown] at h
    split at h
    · cases h
      simp at hm
    · cases h
      simp at hm
  | cancelling queued =>
    cases queued with
    | nil =>
      cases h
      simp at hm
    | cons task queued =>
      cases h
      simp [cancelTask] at hm
  | awaiting =>
    simp only [advance] at h
    split at h
    · cases h
      simp at hm
    · cases h
  | executing =>
    simp only [advance, Queue.drain] at h
    split at h
    · cases h
      simp at hm
    · cases h
      simp at hm

/-- Once `shutdown` has returned to the destructor, nothing drains. -/
theorem RuntimeBooks.drainsIn_eq_zero (h : RuntimeBooks owner tr s) {history : List QueueEvent}
    (htasks : Tasks history s.queue) (hrank : 5 ≤ s.teardown.rank) : drainsIn s.queue.frames = 0 := by
  have hidle := (h.queueClosed (by omega) (h.returned hrank)).2
  have hdrains := htasks.drains
  rwa [hidle] at hdrains

/-- What the destructor has done by then, for an event that a step emits. -/
theorem RuntimeStep.before {t : RuntimeState} {evs : List RuntimeEvent} {e : RuntimeEvent}
    (hs : RuntimeStep owner s evs t) (h : RuntimeBooks owner tr s) {history : List QueueEvent}
    (htasks : Tasks history s.queue) (he : e ∈ evs) :
    (∀ state, e = .told state → s.teardown.rank < 2) ∧
    (∀ work, e = .submits work → work ≠ .rpc → s.teardown.rank < 2) ∧
    (∀ task, e = .queue (.started task) ∨ e = .queue (.ran task) → s.teardown.rank < 5) := by
  -- a thread that is in the gate is there before it is closed
  have hinside : ∀ thread, 0 < (s.places thread).depth → s.teardown.rank < 2 := by
    intro thread hdepth
    by_contra hrank
    have hnone := (h.gateClosed (by omega)).2
    have hcount := h.inside thread
    rw [hnone, List.count_nil] at hcount
    omega
  cases hs with
  | onStateChanged thread state _ hplace =>
    obtain rfl := List.mem_singleton.mp he
    exact ⟨fun _ _ => hinside thread (by rw [hplace]; exact Nat.one_pos), by simp, by simp⟩
  | submitRosWork thread work nested _ hplace hcan =>
    have hbefore : s.teardown.rank < 2 := by
      refine hinside thread ?_
      rw [hplace]
      cases nested <;> simp [RuntimePlace.depth]
    exact ⟨fun _ _ => hbefore, fun _ _ _ => hbefore, fun _ _ => by omega⟩
  | submitRpc thread _ hfree =>
    rcases List.mem_cons.mp he with rfl | he
    · refine ⟨by simp, ?_, by simp⟩
      intro work hwork hne
      exact absurd (RuntimeEvent.submits.inj hwork).symm hne
    · obtain ⟨qe, hqe, rfl⟩ := List.mem_map.mp he
      refine ⟨by simp, by simp, ?_⟩
      intro task hstarted
      unfold Queue.submit at hqe
      dsimp only at hqe
      split at hqe
      · simp at hqe
        simp [hqe] at hstarted
      · simp at hqe
        simp [hqe] at hstarted
  | advance thread throws q q' frame next evs before after _ hqueue hinnermost hadvance =>
    obtain ⟨qe, hqe, rfl⟩ := List.mem_map.mp he
    refine ⟨by simp, by simp, ?_⟩
    intro task hstarted
    by_contra hrank
    have hnone := isDrain_eq_false (h.drainsIn_eq_zero htasks (by omega)) (thread, frame)
      (by rw [hqueue]; simp)
    have hevent : .started task ∈ evs ∨ .ran task ∈ evs := by
      rcases hstarted with hstarted | hran
      · exact .inl (RuntimeEvent.queue.inj hstarted ▸ hqe)
      · exact .inr (RuntimeEvent.queue.inj hran ▸ hqe)
    rw [isDrain_of_started hadvance hevent] at hnone
    cases hnone
  | callBack thread callback gate _ hfree hgate =>
    obtain rfl := List.mem_singleton.mp he
    simp
  | callBackRefused thread gate _ hfree hgate =>
    obtain rfl := List.mem_singleton.mp he
    simp
  | passGate thread work nested gate _ hplace hgate =>
    obtain rfl := List.mem_singleton.mp he
    simp
  | passRefused thread work nested gate _ hplace hgate =>
    obtain rfl := List.mem_singleton.mp he
    simp
  | submitReturned thread nested gate _ hplace hcan hgate =>
    obtain rfl := List.mem_singleton.mp he
    simp
  | callBackReturned thread gate _ hplace hgate =>
    obtain rfl := List.mem_singleton.mp he
    simp
  | closeGate call gate _ hteardown hgate =>
    obtain rfl := List.mem_singleton.mp he
    simp
  | gateClosed call first gate _ hteardown hgate =>
    obtain rfl := List.mem_singleton.mp he
    simp
  | stopWatchdog _ hteardown =>
    obtain rfl := List.mem_singleton.mp he
    simp
  | shutdownLeases _ hteardown =>
    obtain rfl := List.mem_singleton.mp he
    simp
  | unregisterRpcs _ hteardown =>
    obtain rfl := List.mem_singleton.mp he
    simp
  | stopConnection _ hteardown =>
    obtain rfl := List.mem_singleton.mp he
    simp
  | onUserPacketReceived thread packet _ hplace => cases he
  | onParticipantDisconnected thread identity _ hplace => cases he
  | pruneTimer thread _ hfree => cases he
  | execute thread _ hfree => cases he
  | shutdownQueue _ hteardown hcan => cases he
  | queueShutDown _ hteardown hreturned => cases he

theorem RuntimeStep.eq_singleton {t : RuntimeState} {evs : List RuntimeEvent} {e : RuntimeEvent}
    (hs : RuntimeStep owner s evs t) (he : e ∈ evs) (hrank : 0 < e.rank) : evs = [e] := by
  have hqueue : ∀ qevs : List QueueEvent, e ∉ qevs.map RuntimeEvent.queue := by
    intro qevs hm
    obtain ⟨qe, -, rfl⟩ := List.mem_map.mp hm
    cases hrank
  cases hs with
  | submitRosWork thread work nested _ hplace hcan =>
    rcases List.mem_cons.mp he with rfl | he
    · cases hrank
    · exact absurd he (hqueue _)
  | submitRpc thread _ hfree =>
    rcases List.mem_cons.mp he with rfl | he
    · cases hrank
    · exact absurd he (hqueue _)
  | advance thread throws q q' frame next evs before after _ hqueue' hinnermost hadvance =>
    exact absurd he (hqueue _)
  | onUserPacketReceived thread packet _ hplace => cases he
  | onParticipantDisconnected thread identity _ hplace => cases he
  | pruneTimer thread _ hfree => cases he
  | execute thread _ hfree => cases he
  | shutdownQueue _ hteardown hcan => cases he
  | queueShutDown _ hteardown hreturned => cases he
  | _ => rw [List.mem_singleton.mp he]

/-- **The teardown.**  In every interleaving of room callbacks, prune timer, RPC methods, executor
threads and the destructor: once `closeAndWait` has returned to the destructor no thread is inside
a callback or a `submitRosWork`, so that the watchdog is told of no state and nothing but an RPC
method submits after it was stopped; at any time one task runs at most; once the queue's `shutdown`
has returned no task runs, and none is taken or ends after the leases were shut down. -/
theorem runtime_teardown (h : (runtimeMachine owner).Trace tr s) :
    (2 ≤ s.teardown.rank → ∀ thread, (s.places thread).depth = 0) ∧
    (runningTasks s.queue.frames).length ≤ 1 ∧
    (5 ≤ s.teardown.rank → runningTasks s.queue.frames = []) ∧
    ∀ pre e post, tr = pre ++ e :: post →
      (∀ state, e = .told state → .watchdogStopped ∉ pre) ∧
      (∀ work, e = .submits work → work ≠ .rpc → .watchdogStopped ∉ pre) ∧
      (∀ task, e = .queue (.started task) ∨ e = .queue (.ran task) → .leasesShutDown ∉ pre) := by
  have hbooks := runtimeBooks_of_trace h
  have htasks := tasks_of_trace (projects_queue.trace h)
  refine ⟨?_, ?_, ?_, ?_⟩
  · intro hrank thread
    have hcount := hbooks.inside thread
    rw [(hbooks.gateClosed hrank).2, List.count_nil] at hcount
    exact hcount.symm
  · have hle := length_runningTasks_le s.queue.frames
    have hone := Bool.toNat_le s.queue.queue.isDraining
    rw [htasks.drains] at hle
    omega
  · exact fun hrank => runningTasks_eq_nil (hbooks.drainsIn_eq_zero htasks hrank)
  · refine Machine.Trace.at_event (M := runtimeMachine owner) ?_ h
    intro tr evs s t prior hs pre e post hevs
    have hprior := runtimeBooks_of_trace prior
    have he : e ∈ evs := hevs ▸ List.mem_append_right _ List.mem_cons_self
    obtain ⟨htold, hsubmits, hstarted⟩ :=
      hs.before hprior (tasks_of_trace (projects_queue.trace prior)) he
    -- what the destructor did was at an earlier step
    have hearlier : ∀ done : RuntimeEvent, 0 < done.rank → done ∈ tr ++ pre →
        done.rank ≤ s.teardown.rank := by
      intro done hrank hdone
      rcases List.mem_append.mp hdone with hdone | hdone
      · exact hprior.ranked done hdone
      · have hsingle := hs.eq_singleton (hevs ▸ List.mem_append_left _ hdone) hrank
        rw [hevs] at hsingle
        have hlength := congrArg List.length hsingle
        have hpos := List.length_pos_of_mem hdone
        simp at hlength
        omega
    refine ⟨?_, ?_, ?_⟩
    · intro state heq hdone
      have hlate : 3 ≤ s.teardown.rank := hearlier .watchdogStopped (by decide) hdone
      have := htold state heq
      omega
    · intro work heq hne hdone
      have hlate : 3 ≤ s.teardown.rank := hearlier .watchdogStopped (by decide) hdone
      have := hsubmits work heq hne
      omega
    · intro task heq hdone
      have hlate : 6 ≤ s.teardown.rank := hearlier .leasesShutDown (by decide) hdone
      have := hstarted task heq
      omega

/-- The watchdog is told of a state, and then the runtime is taken down as far as the leases. -/
theorem runtime_teardown_told :
    ∃ s, (runtimeMachine 0).Trace
        [.gate (.entered 1), .told .connected, .gate (.left 1 false),
          .gate (.closing 0 0 .allCallbacks), .gate (.closed 0 0 .allCallbacks true),
          .watchdogStopped, .queue (.shutdownSet []), .queue (.shutdownReturned 0),
          .leasesShutDown] s ∧
      (∀ thread, (s.places thread).depth = 0) ∧ runningTasks s.queue.frames = [] := by
  have h0 : (runtimeMachine 0).Trace [] .initial := .start rfl
  have h1 := h0.step (RuntimeStep.callBack 1 (.stateChanged .connected) _ _
    ⟨by decide, rfl, by intro c hc; cases hc⟩
    (GateStep.enter 1 ⟨.concurrent, false, 1, none⟩ _ (by intro c hc; cases hc) rfl))
  have h2 := h1.step (RuntimeStep.onStateChanged 1 .connected _ rfl)
  have h3 := h2.step (RuntimeStep.callBackReturned 1 _ _ rfl
    (GateStep.leave 1 false _ [] [] 0 (by simp)))
  have h4 := h3.step (RuntimeStep.closeGate 0 _ _ rfl
    (GateStep.closeAndWait 0 .allCallbacks _ (by intro c hc; cases hc)))
  have h5 := h4.step (RuntimeStep.gateClosed 0 true _ _ rfl
    (GateStep.wake 0 0 .allCallbacks true _ [] [] 1 (by simp) rfl))
  have h6 := h5.step (RuntimeStep.stopWatchdog _ rfl)
  have h7 := h6.step (RuntimeStep.shutdownQueue _ rfl (by intro c hc; cases hc))
  have h8 := h7.step (RuntimeStep.advance 0 false _ _ .shuttingDown _ _ [] [] _ rfl (by simp) rfl)
  have h9 := h8.step (RuntimeStep.advance 0 false _ _ (.cancelling []) _ _ [] [] _ rfl (by simp) rfl)
  have h10 := h9.step (RuntimeStep.advance 0 false _ _ .awaiting _ _ [] [] _ rfl (by simp) rfl)
  have h11 := h10.step (RuntimeStep.queueShutDown _ rfl (by intro call hcall; cases hcall))
  have h12 := h11.step (RuntimeStep.shutdownLeases _ rfl)
  obtain ⟨hcallbacks, -, htasks, -⟩ := runtime_teardown h12
  exact ⟨_, h12, hcallbacks (by decide), htasks (by decide)⟩

/-- **Work runs in the order in which it was submitted.**  Each task that is taken was submitted,
none is taken twice, and the work of the tasks that were taken is, in their order, among the work
that was submitted, in that order; what has run are the tasks that were taken but for the one that
runs. -/
theorem runtime_works_in_order (h : (runtimeMachine owner).Trace tr s) :
    ((tr.filterMap RuntimeEvent.queue?).filterMap QueueEvent.started?).Pairwise (· < ·) ∧
    (((tr.filterMap RuntimeEvent.queue?).filterMap QueueEvent.started?).map (s.work[·]?)).Sublist
      ((tr.filterMap RuntimeEvent.submits?).map some) ∧
    (tr.filterMap RuntimeEvent.queue?).filterMap QueueEvent.started? =
      (tr.filterMap RuntimeEvent.queue?).filterMap QueueEvent.ran? ++
        runningTasks s.queue.frames := by
  have hbooks := runtimeBooks_of_trace h
  have htasks := tasks_of_trace (projects_queue.trace h)
  have hsublist : ((tr.filterMap RuntimeEvent.queue?).filterMap QueueEvent.started?).Sublist
      (List.range s.work.length) := by
    have hprefix : (tr.filterMap RuntimeEvent.queue?).filterMap QueueEvent.started? <+:
        (tr.filterMap RuntimeEvent.queue?).filterMap QueueEvent.enqueued? := by
      rw [htasks.ordered, List.append_assoc]
      exact List.prefix_append _ _
    rw [hbooks.numbered, ← htasks.submitted]
    exact hprefix.sublist.trans (enqueued_sublist_submitted _)
  refine ⟨List.pairwise_lt_range.sublist hsublist, ?_, htasks.ran⟩
  have hwork : (List.range s.work.length).map (s.work[·]?) = s.work.map some := by
    apply List.ext_getElem
    · simp
    · intro i hi hi'
      simp at hi
      simp [hi]
  rw [hbooks.submitted, ← hwork]
  exact hsublist.map _

/-- A heartbeat without a body. -/
def emptyHeartbeat : UserPacket := ⟨kHeartbeatTopic, some (lit "r"), []⟩

/-- Its work is submitted from the callback, and taken on another thread. -/
theorem runtime_works_in_order_heartbeat :
    ∃ s, (runtimeMachine 0).Trace
        [.gate (.entered 1), .gate (.entered 1), .submits (.heartbeat (lit "r") []),
          .queue (.enqueued 0), .gate (.left 1 false), .gate (.left 1 false),
          .queue (.started 0)] s ∧
      ([0].map (s.work[·]?)).Sublist [some (.heartbeat (lit "r") [])] := by
  have h0 : (runtimeMachine 0).Trace [] .initial := .start rfl
  have h1 := h0.step (RuntimeStep.callBack 1 (.userPacketReceived emptyHeartbeat) _ _
    ⟨by decide, rfl, by intro c hc; cases hc⟩
    (GateStep.enter 1 ⟨.concurrent, false, 1, none⟩ _ (by intro c hc; cases hc) rfl))
  have h2 := h1.step (RuntimeStep.onUserPacketReceived 1 emptyHeartbeat _ rfl)
  have h3 := h2.step (RuntimeStep.passGate 1 (.heartbeat (lit "r") []) true _ _ rfl
    (GateStep.enter 1 ⟨.concurrent, false, 2, none⟩ _ (by intro c hc; cases hc; rfl) rfl))
  have h4 := h3.step (RuntimeStep.submitRosWork 1 (.heartbeat (lit "r") []) true _ rfl
    (by intro c hc; cases hc))
  have h5 := h4.step (RuntimeStep.advance 1 false _ _ .waking _ _ [] [] _ rfl (by simp) rfl)
  have h6 := h5.step (RuntimeStep.advance 1 false _ _ .triggering _ _ [] [] _ rfl (by simp) rfl)
  have h7 := h6.step (RuntimeStep.submitReturned 1 true _ _ rfl (by intro c hc; cases hc)
    (GateStep.leave 1 false ⟨.concurrent, false, 2, none⟩ [] [(1, .running)] 0 (by simp)))
  have h8 := h7.step (RuntimeStep.callBackReturned 1 _ _ rfl
    (GateStep.leave 1 false _ [] [] 0 (by simp)))
  have h9 := h8.step (RuntimeStep.execute 2 _ ⟨by decide, rfl, by intro c hc; cases hc⟩)
  have h10 := h9.step (RuntimeStep.advance 2 false _ _ .executing _ _ [] [] _ rfl (by simp) rfl)
  have h11 := h10.step (RuntimeStep.advance 2 false _ _ .draining _ _ [] [] _ rfl (by simp) rfl)
  exact ⟨_, h11, (runtime_works_in_order h11).2.1⟩

end Results

end LivekitBridge
