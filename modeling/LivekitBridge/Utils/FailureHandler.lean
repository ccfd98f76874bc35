import LivekitBridge.Lib.Machine

/-!
# The handler of pipeline failures

`pipeline_failure_handler.cpp`.  `schedule` sets `pending_` and starts the worker thread the first
time; the worker waits for `pending_`, waits again for the delay, and runs the callback without the
mutex.  Each section of the mutex is one step, so the worker is at one of its two waits or in the
callback (`Worker`).  Any number of threads call `schedule`, `cancelPending` and `close`.

`schedule` does nothing while the callback runs, and the worker clears `pending_` when it has run.
So a failure of the pipeline that the callback itself has started is not remembered, unless it is
cancelled or the handler is closed before the callback returns (`ReturnsSettled`).  And a `close`
that finds the handler closed returns, although another one may still wait for the callback; runs
without this are `tidyFailures`.

The audio stream schedules what the pipeline reports unless it is shut down, and its callback
restarts the pipeline; its runs are runs of the handler (`tidyFailures_of_audio`).
-/

namespace LivekitBridge

open Lib

/-- Where the worker thread is: in one of the two waits of `run`, in the callback, or out of
`run`. -/
inductive Worker
  | waiting
  | delaying
  | calling
  | returned
deriving DecidableEq, Repr

/-- `PipelineFailureHandler`, the threads that it has started, and the calls of `close` that wait
for one of them. -/
structure FailureHandler where
  delay : Nat
  closed : Bool
  pending : Bool
  callbackRunning : Bool
  joinable : Bool
  workers : List Worker
  joining : List Nat
deriving DecidableEq, Repr

/-- What is seen of a run; `scheduled` has what `schedule` returned. -/
inductive FailureEvent
  | scheduled (result : Bool)
  | cancelled
  | closed
  | closeReturned
  | started
  | finished
deriving DecidableEq, Repr

namespace FailureHandler

/-- The constructor. -/
def initial (delay : Nat) : FailureHandler := ⟨delay, false, false, false, false, [], []⟩

def schedule (s : FailureHandler) : FailureHandler × Bool :=
  if s.closed || s.pending || s.callbackRunning then (s, false)
  else
    ({ s with
        workers := if s.joinable then s.workers else s.workers ++ [.waiting]
        joinable := true
        pending := true }, true)

def cancelPending (s : FailureHandler) : FailureHandler := { s with pending := false }

/-- The section of `close`, and whether it returns without a thread to join. -/
def close (s : FailureHandler) : FailureHandler × Bool :=
  if s.closed then (s, true)
  else if s.joinable then
    ({ s with
        closed := true
        joinable := false
        joining := s.joining ++ [s.workers.length - 1] }, false)
  else ({ s with closed := true }, true)

/-- The worker goes on as `worker`. -/
def setWorker (s : FailureHandler) (i : Nat) (worker : Worker) : FailureHandler :=
  { s with workers := s.workers.set i worker }

/-- The worker comes to the callback. -/
def call (s : FailureHandler) (i : Nat) : FailureHandler × List FailureEvent :=
  ({ s.setWorker i .calling with callbackRunning := true }, [.started])

/-- The next section of `run`, unless the worker has to wait; `timedOut` is whether the delay is
over.  After either wait `pending_` is still set when the callback is called. -/
def run (s : FailureHandler) (i : Nat) (timedOut : Bool) :
    Option (FailureHandler × List FailureEvent) :=
  match s.workers[i]? with
  | none => none
  | some .waiting =>
    if s.closed then some (s.setWorker i .returned, [])
    else if s.pending then if 0 < s.delay then some (s.setWorker i .delaying, []) else some (s.call i)
    else none
  | some .delaying =>
    if s.closed then some (s.setWorker i .returned, [])
    else if s.pending then if timedOut then some (s.call i) else none
    else some (s.setWorker i .waiting, [])
  | some .calling =>
    some ({ s.setWorker i .waiting with callbackRunning := false, pending := false }, [.finished])
  | some .returned => none

end FailureHandler

/-- One section. -/
inductive FailureStep : FailureHandler → List FailureEvent → FailureHandler → Prop
  | schedule (s : FailureHandler) : FailureStep s [.scheduled s.schedule.2] s.schedule.1
  | cancelPending (s : FailureHandler) : FailureStep s [.cancelled] s.cancelPending
  | close (s : FailureHandler) :
      FailureStep s (.closed :: if s.close.2 then [.closeReturned] else []) s.close.1
  | join {s : FailureHandler} {i : Nat} : i ∈ s.joining → s.workers[i]? = some .returned →
      FailureStep s [.closeReturned] { s with joining := s.joining.erase i }
  | run {s t : FailureHandler} {evs : List FailureEvent} (i : Nat) (timedOut : Bool) :
      s.run i timedOut = some (t, evs) → FailureStep s evs t

/-- A handler from its construction on. -/
def failures (delay : Nat) : Machine FailureHandler FailureEvent where
  start s := s = .initial delay
  step := FailureStep

/-- `close` is not called while another one waits for the callback. -/
def Unhurried (s : FailureHandler) : FailureEvent → Prop
  | .closed => s.closed = true → .calling ∉ s.workers
  | _ => True

/-- The runs in which this is so. -/
def tidyFailures (delay : Nat) : Machine FailureHandler FailureEvent where
  start s := s = .initial delay
  step s evs t := FailureStep s evs t ∧ ∀ e ∈ evs, Unhurried s e

/-! ### What is owed -/

/-- The event is a call of `schedule`. -/
def FailureEvent.owes : FailureEvent → Option Unit
  | .scheduled _ => some ()
  | _ => none

/-- After the event nothing is owed for a failure before it. -/
def FailureEvent.Settles : FailureEvent → Prop
  | .started => True
  | .cancelled => True
  | .closed => True
  | _ => False

/-- `schedule` was called, and since then no callback has started and neither `cancelPending` nor
`close` was called. -/
def Owed (tr : List FailureEvent) : Prop :=
  Standing FailureEvent.owes (fun _ e => e.Settles) tr ()

/-- The callback does not return while the handler is open and a failure is owed: each call of
`schedule` during the callback is followed by a `cancelPending` or a `close` before it returns. -/
def ReturnsSettled (history : List FailureEvent) : FailureEvent → Prop
  | .finished => Owed history → .closed ∈ history
  | _ => True

/-! ### The shape of the handler -/

/-- There is one thread at most; it is joined by the one `close` that closes the handler. -/
inductive Shaped : FailureHandler → Prop
  | unstarted (delay : Nat) (closed : Bool) :
      Shaped ⟨delay, closed, false, false, false, [], []⟩
  | working (delay : Nat) (pending : Bool) (worker : Worker) : worker ≠ .returned →
      Shaped ⟨delay, false, pending, worker == .calling, true, [worker], []⟩
  | joining (delay : Nat) (pending : Bool) (worker : Worker) :
      Shaped ⟨delay, true, pending, worker == .calling, false, [worker], [0]⟩
  | joined (delay : Nat) (pending : Bool) :
      Shaped ⟨delay, true, pending, false, false, [.returned], []⟩

theorem shaped_schedule {s : FailureHandler} (h : Shaped s) : Shaped s.schedule.1 := by
  cases h with
  | unstarted delay closed =>
    cases closed with
    | true => exact .unstarted delay true
    | false => exact .working delay true .waiting (by decide)
  | working delay pending worker hworker =>
    rw [FailureHandler.schedule]
    split
    · exact .working delay pending worker hworker
    · rename_i hidle
      have hnot : (worker == .calling) = false := by
        cases hc : (worker == Worker.calling) with
        | false => rfl
        | true => simp [hc] at hidle
      have hshape := Shaped.working delay true worker hworker
      rw [hnot] at hshape ⊢
      exact hshape
  | joining delay pending worker => exact .joining delay pending worker
  | joined delay pending => exact .joined delay pending

theorem shaped_cancelPending {s : FailureHandler} (h : Shaped s) : Shaped s.cancelPending := by
  cases h with
  | unstarted delay closed => exact .unstarted delay closed
  | working delay pending worker hworker => exact .working delay false worker hworker
  | joining delay pending worker => exact .joining delay false worker
  | joined delay pending => exact .joined delay false

theorem shaped_close {s : FailureHandler} (h : Shaped s) : Shaped s.close.1 := by
  cases h with
  | unstarted delay closed =>
    cases closed with
    | true => exact .unstarted delay true
    | false => exact .unstarted delay true
  | working delay pending worker hworker => exact .joining delay pending worker
  | joining delay pending worker => exact .joining delay pending worker
  | joined delay pending => exact .joined delay pending

/-- What a section of `run` does. -/
inductive Ran (s : FailureHandler) (i : Nat) : FailureHandler → List FailureEvent → Prop
  | leaves {worker : Worker} : s.workers[i]? = some worker → worker ≠ .calling →
      s.closed = true → Ran s i (s.setWorker i .returned) []
  | delays : s.workers[i]? = some .waiting → s.closed = false → s.pending = true →
      Ran s i (s.setWorker i .delaying) []
  | cancels : s.workers[i]? = some .delaying → s.closed = false → s.pending = false →
      Ran s i (s.setWorker i .waiting) []
  | calls {worker : Worker} : s.workers[i]? = some worker → worker ≠ .calling →
      s.closed = false → s.pending = true →
      Ran s i { s.setWorker i .calling with callbackRunning := true } [.started]
  | finishes : s.workers[i]? = some .calling →
      Ran s i { s.setWorker i .waiting with callbackRunning := false, pending := false } [.finished]

theorem ran_of_run {s t : FailureHandler} {i : Nat} {timedOut : Bool} {evs : List FailureEvent}
    (h : s.run i timedOut = some (t, evs)) : Ran s i t evs := by
  rw [FailureHandler.run] at h
  split at h
  · cases h
  · rename_i hworker
    split at h
    · rename_i hclosed
      cases h
      exact .leaves hworker (by decide) hclosed
    · rename_i hopen
      rw [Bool.not_eq_true] at hopen
      split at h
      · rename_i hpending
        split at h
        · cases h
          exact .delays hworker hopen hpending
        · cases h
          exact .calls hworker (by decide) hopen hpending
      · cases h
  · rename_i hworker
    split at h
    · rename_i hclosed
      cases h
      exact .leaves hworker (by decide) hclosed
    · rename_i hopen
      rw [Bool.not_eq_true] at hopen
      split at h
      · rename_i hpending
        split at h
        · cases h
          exact .calls hworker (by decide) hopen hpending
        · cases h
      · rename_i hpending
        cases h
        exact .cancels hworker hopen (Bool.eq_false_iff.mpr hpending)
  · rename_i hworker
    cases h
    exact .finishes hworker
  · cases h

/-- The only worker is the first. -/
theorem eq_zero_of_getElem? {worker worker' : Worker} {i : Nat}
    (h : [worker][i]? = some worker') : i = 0 ∧ worker = worker' := by
  cases i with
  | zero => exact ⟨rfl, Option.some.inj h⟩
  | succ n => cases h

theorem shaped_run {s t : FailureHandler} {i : Nat} {evs : List FailureEvent} (h : Shaped s)
    (hran : Ran s i t evs) : Shaped t := by
  cases h with
  | unstarted delay closed =>
    cases hran with
    | leaves hworker _ _ => cases hworker
    | delays hworker _ _ => cases hworker
    | cancels hworker _ _ => cases hworker
    | calls hworker _ _ _ => cases hworker
    | finishes hworker => cases hworker
  | working delay pending worker hworking =>
    cases hran with
    | leaves _ _ hclosed => cases hclosed
    | delays hworker _ _ =>
      obtain ⟨rfl, rfl⟩ := eq_zero_of_getElem? hworker
      exact .working delay pending .delaying (by decide)
    | cancels hworker _ _ =>
      obtain ⟨rfl, rfl⟩ := eq_zero_of_getElem? hworker
      exact .working delay pending .waiting (by decide)
    | calls hworker _ _ _ =>
      obtain ⟨rfl, rfl⟩ := eq_zero_of_getElem? hworker
      exact .working delay pending .calling (by decide)
    | finishes hworker =>
      obtain ⟨rfl, rfl⟩ := eq_zero_of_getElem? hworker
      exact .working delay false .waiting (by decide)
  | joining delay pending worker =>
    cases hran with
    | @leaves worker' hworker hne _ =>
      obtain ⟨rfl, rfl⟩ := eq_zero_of_getElem? hworker
      have hnot : (worker == .calling) = false := beq_false_of_ne hne
      have hshape := Shaped.joining delay pending .returned
      rw [hnot]
      exact hshape
    | delays _ hopen _ => cases hopen
    | cancels _ hopen _ => cases hopen
    | calls _ _ hopen _ => cases hopen
    | finishes hworker =>
      obtain ⟨rfl, rfl⟩ := eq_zero_of_getElem? hworker
      exact .joining delay false .waiting
  | joined delay pending =>
    cases hran with
    | leaves hworker _ _ =>
      obtain ⟨rfl, rfl⟩ := eq_zero_of_getElem? hworker
      exact .joined delay pending
    | delays _ hopen _ => cases hopen
    | cancels _ hopen _ => cases hopen
    | calls _ _ hopen _ => cases hopen
    | finishes hworker =>
      obtain ⟨_, hworker⟩ := eq_zero_of_getElem? hworker
      cases hworker

theorem shaped_step {s t : FailureHandler} {evs : List FailureEvent} (h : Shaped s)
    (hstep : FailureStep s evs t) : Shaped t := by
  cases hstep with
  | schedule => exact shaped_schedule h
  | cancelPending => exact shaped_cancelPending h
  | close => exact shaped_close h
  | @join i hjoining hreturned =>
    cases h with
    | unstarted delay closed => cases hjoining
    | working delay pending worker _ => cases hjoining
    | joining delay pending worker =>
      obtain ⟨rfl, rfl⟩ := eq_zero_of_getElem? hreturned
      exact .joined delay pending
    | joined delay pending => cases hjoining
  | run i timedOut hrun => exact shaped_run h (ran_of_run hrun)

/-! ### Runs -/

section Shape

variable {s : FailureHandler}

theorem Shaped.length_workers (h : Shaped s) : s.workers.length ≤ 1 := by
  cases h with
  | unstarted delay closed => exact Nat.zero_le 1
  | working delay pending worker _ => exact Nat.le_refl 1
  | joining delay pending worker => exact Nat.le_refl 1
  | joined delay pending => exact Nat.le_refl 1

theorem Shaped.callbackRunning_iff (h : Shaped s) :
    s.callbackRunning = true ↔ .calling ∈ s.workers := by
  cases h with
  | unstarted delay closed => simp
  | working delay pending worker _ => rw [beq_iff_eq, List.mem_singleton, eq_comm]
  | joining delay pending worker => rw [beq_iff_eq, List.mem_singleton, eq_comm]
  | joined delay pending => simp

/-- While the worker is in one of its waits, no callback runs. -/
theorem Shaped.idle_of_waiting {i : Nat} {worker : Worker} (h : Shaped s)
    (hworker : s.workers[i]? = some worker) (hne : worker ≠ .calling) : .calling ∉ s.workers := by
  intro hmem
  have hlength := h.length_workers
  obtain ⟨j, hj⟩ := List.mem_iff_getElem?.mp hmem
  have hi := (List.getElem?_eq_some_iff.mp hworker).1
  have hj' := (List.getElem?_eq_some_iff.mp hj).1
  obtain rfl : i = j := by omega
  rw [hworker] at hj
  exact hne (Option.some.inj hj)

/-- When the handler has no thread to join, there is none. -/
theorem Shaped.idle_of_not_joinable (h : Shaped s) (hopen : ¬ s.closed = true)
    (hjoinable : ¬ s.joinable = true) : .calling ∉ s.workers := by
  cases h with
  | unstarted delay closed => simp
  | working delay pending worker _ => exact absurd rfl hjoinable
  | joining delay pending worker => exact absurd rfl hopen
  | joined delay pending => simp

theorem Shaped.closed_of_joining {i : Nat} (h : Shaped s) (hjoining : i ∈ s.joining) :
    s.closed = true := by
  cases h with
  | unstarted delay closed => cases hjoining
  | working delay pending worker _ => cases hjoining
  | joining delay pending worker => rfl
  | joined delay pending => cases hjoining

/-- When the handler is closed and no `close` waits, the worker has returned. -/
theorem Shaped.idle_of_joined (h : Shaped s) (hclosed : s.closed = true) (hjoining : s.joining = []) :
    .calling ∉ s.workers := by
  cases h with
  | unstarted delay closed => simp
  | working delay pending worker _ => cases hclosed
  | joining delay pending worker => cases hjoining
  | joined delay pending => simp

theorem Shaped.joining_of_open (h : Shaped s) (hopen : s.closed = false) : s.joining = [] := by
  cases h with
  | unstarted delay closed => rfl
  | working delay pending worker hworker => rfl
  | joining delay pending worker => cases hopen
  | joined delay pending => cases hopen

/-- While the handler is open, there is a worker for what is pending. -/
theorem Shaped.owes (h : Shaped s) (hopen : s.closed = false) (hpending : s.pending = true) :
    ∃ worker ∈ s.workers, worker ≠ .returned := by
  cases h with
  | unstarted delay closed => cases hpending
  | working delay pending worker hworker => exact ⟨worker, List.mem_singleton_self _, hworker⟩
  | joining delay pending worker => cases hopen
  | joined delay pending => cases hopen

end Shape

theorem not_owed_of_settles {tr evs : List FailureEvent} (hevs : ∀ e ∈ evs, e.owes = none)
    (h : ∃ e ∈ evs, e.Settles) : ¬ Owed (tr ++ evs) :=
  not_standing_append_of_clears hevs h

theorem owed_schedule (tr : List FailureEvent) (result : Bool) : Owed (tr ++ [.scheduled result]) := by
  rw [Owed, standing_concat]
  exact .inl rfl

theorem owed_of_quiet {tr evs : List FailureEvent}
    (hevs : ∀ e ∈ evs, e.owes = none ∧ ¬ e.Settles) (h : Owed (tr ++ evs)) : Owed tr :=
  (standing_append_of_quiet hevs).mp h

theorem FailureHandler.schedule_closed (s : FailureHandler) : s.schedule.1.closed = s.closed := by
  rw [schedule]
  split <;> rfl

theorem FailureHandler.close_closed (s : FailureHandler) : s.close.1.closed = true := by
  rw [close]
  split
  · assumption
  · split <;> rfl

theorem Ran.closed_eq {s t : FailureHandler} {i : Nat} {evs : List FailureEvent}
    (h : Ran s i t evs) : t.closed = s.closed := by
  cases h <;> rfl

/-- **What holds of a run whose callbacks return settled**: what is owed is pending, or the callback
runs. -/
structure Remembers (tr : List FailureEvent) (s : FailureHandler) : Prop where
  shaped : Shaped s
  closed : .closed ∈ tr → s.closed = true
  owed : Owed tr → s.closed = true ∨ s.pending = true ∨ .calling ∈ s.workers

section Preservation

variable {tr : List FailureEvent} {s : FailureHandler}

/-- Only `close` closes the handler. -/
theorem Remembers.closed_append {evs : List FailureEvent} {t : FailureHandler} (h : Remembers tr s)
    (hevs : .closed ∉ evs) (hclosed : t.closed = s.closed) : .closed ∈ tr ++ evs → t.closed = true := by
  intro hmem
  rw [hclosed]
  exact h.closed ((List.mem_append.mp hmem).resolve_right hevs)

theorem remembers_schedule (h : Remembers tr s) :
    Remembers (tr ++ [.scheduled s.schedule.2]) s.schedule.1 := by
  refine ⟨shaped_schedule h.shaped, h.closed_append (by simp) s.schedule_closed, ?_⟩
  intro _
  rw [FailureHandler.schedule]
  split
  · rename_i hbusy
    rw [Bool.or_eq_true, Bool.or_eq_true, h.shaped.callbackRunning_iff, or_assoc] at hbusy
    exact hbusy
  · exact .inr (.inl rfl)

theorem remembers_close (h : Remembers tr s) :
    Remembers (tr ++ .closed :: if s.close.2 then [.closeReturned] else []) s.close.1 :=
  ⟨shaped_close h.shaped, fun _ => s.close_closed, fun _ => .inl s.close_closed⟩

theorem remembers_run {i : Nat} {t : FailureHandler} {evs : List FailureEvent}
    (h : Remembers tr s) (hran : Ran s i t evs) (hsettled : AtEach ReturnsSettled (tr ++ evs)) :
    Remembers (tr ++ evs) t := by
  have hshaped := shaped_run h.shaped hran
  have hclosed := hran.closed_eq
  cases hran with
  | leaves hworker _ hleft => exact ⟨hshaped, h.closed_append (by simp) hclosed, fun _ => .inl hleft⟩
  | delays hworker _ hpending =>
    exact ⟨hshaped, h.closed_append (by simp) hclosed, fun _ => .inr (.inl hpending)⟩
  | cancels hworker hopen hpending =>
    refine ⟨hshaped, h.closed_append (by simp) hclosed, ?_⟩
    intro howed
    rw [List.append_nil] at howed
    -- the only worker waits, so what is owed would be pending
    have hidle := h.shaped.idle_of_waiting hworker (by decide)
    rcases h.owed howed with hshut | hset | hcalling
    · exact .inl hshut
    · rw [hpending] at hset
      cases hset
    · exact absurd hcalling hidle
  | calls hworker _ _ hpending =>
    exact ⟨hshaped, h.closed_append (by simp) hclosed, fun _ => .inr (.inl hpending)⟩
  | finishes hworker =>
    refine ⟨hshaped, h.closed_append (by simp) hclosed, ?_⟩
    intro howed
    have hbefore : Owed tr := by
      apply owed_of_quiet _ howed
      exact List.forall_mem_singleton.mpr ⟨rfl, id⟩
    exact .inl (h.closed (hsettled.last hbefore))

theorem remembers_step {t : FailureHandler} {evs : List FailureEvent} (h : Remembers tr s)
    (hstep : FailureStep s evs t) (hsettled : AtEach ReturnsSettled (tr ++ evs)) :
    Remembers (tr ++ evs) t := by
  cases hstep with
  | schedule => exact remembers_schedule h
  | cancelPending =>
    refine ⟨shaped_cancelPending h.shaped, h.closed_append (by simp) rfl, ?_⟩
    intro howed
    refine absurd howed (not_owed_of_settles ?_ ⟨.cancelled, List.mem_singleton_self _, trivial⟩)
    exact List.forall_mem_singleton.mpr rfl
  | close => exact remembers_close h
  | join hjoining hreturned =>
    refine ⟨shaped_step h.shaped (.join hjoining hreturned), h.closed_append (by simp) rfl, ?_⟩
    intro howed
    apply h.owed
    apply owed_of_quiet _ howed
    exact List.forall_mem_singleton.mpr ⟨rfl, id⟩
  | run i timedOut hrun => exact remembers_run h (ran_of_run hrun) hsettled

end Preservation

theorem remembers {delay : Nat} {tr : List FailureEvent} {s : FailureHandler}
    (h : (failures delay).Trace tr s) (hsettled : AtEach ReturnsSettled tr) : Remembers tr s := by
  refine Machine.Trace.invariant_atEach (M := failures delay) (P := Remembers) ?_ ?_ h hsettled
  · intro s hstart
    have heq : s = .initial delay := hstart
    rw [heq]
    refine ⟨.unstarted delay false, ?_, ?_⟩
    · intro hmem
      cases hmem
    · intro howed
      exact absurd howed (not_standing_nil ())
  · intro tr evs s t _ ih hstep hC
    exact remembers_step ih hstep hC

/-! ### After `close` -/

/-- A `close` that has returned has left no callback behind. -/
structure LeavesIdle (tr : List FailureEvent) (s : FailureHandler) : Prop where
  shaped : Shaped s
  returned : .closeReturned ∈ tr → s.closed = true ∧ .calling ∉ s.workers

theorem leavesIdle_step {tr evs : List FailureEvent} {s t : FailureHandler} (h : LeavesIdle tr s)
    (hstep : FailureStep s evs t) (htidy : ∀ e ∈ evs, Unhurried s e) : LeavesIdle (tr ++ evs) t := by
  refine ⟨shaped_step h.shaped hstep, ?_⟩
  intro hmem
  cases hstep with
  | schedule =>
    obtain ⟨hclosed, hidle⟩ := h.returned (by simpa using hmem)
    rw [FailureHandler.schedule, hclosed, Bool.true_or, Bool.true_or, if_pos rfl]
    exact ⟨hclosed, hidle⟩
  | cancelPending => exact h.returned (by simpa using hmem)
  | close =>
    refine ⟨s.close_closed, ?_⟩
    rw [FailureHandler.close] at hmem ⊢
    by_cases hclosed : s.closed = true
    · rw [if_pos hclosed]
      exact htidy .closed List.mem_cons_self hclosed
    · rw [if_neg hclosed] at hmem ⊢
      by_cases hjoinable : s.joinable = true
      · rw [if_pos hjoinable] at hmem
        have hold : FailureEvent.closeReturned ∈ tr := by simpa using hmem
        exact absurd (h.returned hold).1 hclosed
      · rw [if_neg hjoinable]
        exact h.shaped.idle_of_not_joinable hclosed hjoinable
  | @join i hjoining hreturned =>
    exact ⟨h.shaped.closed_of_joining hjoining, h.shaped.idle_of_waiting hreturned (by decide)⟩
  | run i timedOut hrun =>
    have hran := ran_of_run hrun
    cases hran with
    | leaves hworker hne hleft =>
      have hold := h.returned (by simpa using hmem)
      refine ⟨hleft, ?_⟩
      intro hcalling
      rcases List.mem_or_eq_of_mem_set hcalling with hbefore | heq
      · exact hold.2 hbefore
      · cases heq
    | delays _ hopen _ =>
      have hold := h.returned (by simpa using hmem)
      rw [hopen] at hold
      cases hold.1
    | cancels _ hopen _ =>
      have hold := h.returned (by simpa using hmem)
      rw [hopen] at hold
      cases hold.1
    | calls _ _ hopen _ =>
      have hold := h.returned (by simpa using hmem)
      rw [hopen] at hold
      cases hold.1
    | finishes hworker =>
      have hold := h.returned (by simpa using hmem)
      exact absurd (List.mem_of_getElem? hworker) hold.2

theorem leavesIdle {delay : Nat} {tr : List FailureEvent} {s : FailureHandler}
    (h : (tidyFailures delay).Trace tr s) : LeavesIdle tr s := by
  apply h.invariant
  · intro s hstart
    have heq : s = .initial delay := hstart
    rw [heq]
    refine ⟨.unstarted delay false, ?_⟩
    intro hmem
    cases hmem
  · intro tr evs s t _ ih hstep
    exact leavesIdle_step ih hstep.1 hstep.2

/-! ### The audio stream -/

/-- `audio::GStreamerStream`, as far as failures go: its handler, `is_shutdown_`, and how many calls
of `onPipelineFailure` come to `schedule` and of `close` to the handler's. -/
structure AudioRecovery where
  handler : FailureHandler
  isShutdown : Bool
  raising : Nat
  closing : Nat
deriving DecidableEq, Repr

/-- One section of the stream or of its handler.  The callback is `restartPipelineAfterFailure`; the
pipeline reports failures at any time, also from inside it. -/
inductive AudioStep : AudioRecovery → List FailureEvent → AudioRecovery → Prop
  | onPipelineFailure {a : AudioRecovery} : a.isShutdown = false →
      AudioStep a [] { a with raising := a.raising + 1 }
  | schedule {a : AudioRecovery} {n : Nat} : a.raising = n + 1 →
      AudioStep a [.scheduled a.handler.schedule.2]
        { a with handler := a.handler.schedule.1, raising := n }
  | shutdown {a : AudioRecovery} : a.isShutdown = false →
      AudioStep a [] { a with isShutdown := true, closing := a.closing + 1 }
  | close {a : AudioRecovery} {n : Nat} : a.closing = n + 1 →
      AudioStep a (.closed :: if a.handler.close.2 then [.closeReturned] else [])
        { a with handler := a.handler.close.1, closing := n }
  | join {a : AudioRecovery} {i : Nat} : i ∈ a.handler.joining →
      a.handler.workers[i]? = some .returned →
      AudioStep a [.closeReturned]
        { a with handler := { a.handler with joining := a.handler.joining.erase i } }
  | run {a : AudioRecovery} {t : FailureHandler} {evs : List FailureEvent} (i : Nat)
      (timedOut : Bool) : a.handler.run i timedOut = some (t, evs) →
      AudioStep a evs { a with handler := t }

/-- A stream from its construction on. -/
def audioFailures (delay : Nat) : Machine AudioRecovery FailureEvent where
  start a := a = ⟨.initial delay, false, 0, 0⟩
  step := AudioStep

/-- The stream closes its handler once, and not before it is shut down. -/
structure ClosesOnce (a : AudioRecovery) : Prop where
  isOpen : a.isShutdown = false → a.closing = 0 ∧ a.handler.closed = false
  once : a.closing = 0 ∨ (a.closing = 1 ∧ a.handler.closed = false)

theorem Ran.unhurried {s t : FailureHandler} {i : Nat} {evs : List FailureEvent}
    (h : Ran s i t evs) : ∀ e ∈ evs, Unhurried s e := by
  cases h <;> simp [Unhurried]

/-- **A run of the stream is a run of its handler** in which no `close` is called while another one
waits. -/
theorem tidyFailures_of_audio {delay : Nat} {tr : List FailureEvent} {a : AudioRecovery}
    (h : (audioFailures delay).Trace tr a) :
    (tidyFailures delay).Trace tr a.handler ∧ ClosesOnce a := by
  apply h.invariant (P := fun tr a => (tidyFailures delay).Trace tr a.handler ∧ ClosesOnce a)
  · intro a hstart
    have heq : a = ⟨.initial delay, false, 0, 0⟩ := hstart
    rw [heq]
    exact ⟨.start rfl, fun _ => ⟨rfl, rfl⟩, .inl rfl⟩
  · intro tr evs a b _ ih hstep
    obtain ⟨htrace, hcloses⟩ := ih
    have hstep : AudioStep a evs b := hstep
    have hstays : (tidyFailures delay).Trace (tr ++ []) a.handler := by
      rw [List.append_nil]
      exact htrace
    cases hstep with
    | onPipelineFailure hopen => exact ⟨hstays, hcloses.isOpen, hcloses.once⟩
    | schedule hraising =>
      have hclosed := a.handler.schedule_closed
      refine ⟨htrace.step ⟨.schedule a.handler, ?_⟩, ?_, ?_⟩
      · exact List.forall_mem_singleton.mpr trivial
      · intro hopen
        exact ⟨(hcloses.isOpen hopen).1, hclosed.trans (hcloses.isOpen hopen).2⟩
      · exact hcloses.once.imp_right fun hone => ⟨hone.1, hclosed.trans hone.2⟩
    | shutdown hopen =>
      obtain ⟨hzero, hhandler⟩ := hcloses.isOpen hopen
      refine ⟨hstays, ?_, ?_⟩
      · intro hclosed
        cases hclosed
      · exact .inr ⟨congrArg (· + 1) hzero, hhandler⟩
    | @close n hclosing =>
      rcases hcloses.once with hzero | ⟨hone, hhandler⟩
      · rw [hzero] at hclosing
        cases hclosing
      have hlast : n = 0 := by omega
      have hshut : a.isShutdown = true := by
        by_contra hopen
        rw [Bool.not_eq_true] at hopen
        have hzero := (hcloses.isOpen hopen).1
        omega
      refine ⟨htrace.step ⟨.close a.handler, ?_⟩, ?_, .inl hlast⟩
      · intro e he
        rcases List.mem_cons.mp he with rfl | he
        · intro hclosed
          rw [hhandler] at hclosed
          cases hclosed
        · split at he
          · rw [List.mem_singleton.mp he]
            exact trivial
          · cases he
      · intro hopen
        have hopen' : a.isShutdown = false := hopen
        rw [hshut] at hopen'
        cases hopen'
    | join hjoining hreturned =>
      refine ⟨htrace.step ⟨.join hjoining hreturned, by simp [Unhurried]⟩, hcloses.isOpen,
        hcloses.once⟩
    | run i timedOut hrun =>
      have hran := ran_of_run hrun
      have hclosed := hran.closed_eq
      refine ⟨htrace.step ⟨.run i timedOut hrun, hran.unhurried⟩, ?_, ?_⟩
      · intro hopen
        exact ⟨(hcloses.isOpen hopen).1, hclosed.trans (hcloses.isOpen hopen).2⟩
      · exact hcloses.once.imp_right fun hone => ⟨hone.1, hclosed.trans hone.2⟩

/-! ### Results -/

theorem failures_of_tidy {delay : Nat} {tr : List FailureEvent} {s : FailureHandler}
    (h : (tidyFailures delay).Trace tr s) : (failures delay).Trace tr s := by
  induction h with
  | start hs => exact .start hs
  | step _ hs ih => exact .step ih hs.1

theorem shaped {delay : Nat} {tr : List FailureEvent} {s : FailureHandler}
    (h : (failures delay).Trace tr s) : Shaped s := by
  apply h.invariant (P := fun _ s => Shaped s)
  · intro s hstart
    have heq : s = .initial delay := hstart
    rw [heq]
    exact .unstarted delay false
  · intro tr evs s t _ ih hstep
    exact shaped_step ih hstep

theorem pending_of_owed {tr : List FailureEvent} {s : FailureHandler} (h : Remembers tr s)
    (hopen : s.closed = false) (hidle : .calling ∉ s.workers) (howed : Owed tr) :
    s.pending = true := by
  rcases h.owed howed with hclosed | hpending | hcalling
  · rw [hopen] at hclosed
    cases hclosed
  · exact hpending
  · exact absurd hcalling hidle

/-- A callback that does not return settled leaves a failure behind. -/
theorem not_pending_of_finished {tr : List FailureEvent} {s t : FailureHandler} (hshaped : Shaped s)
    (hclosed : s.closed = true → .closed ∈ tr) (hstep : FailureStep s [.finished] t)
    (h : ¬ ReturnsSettled tr .finished) :
    t.closed = false ∧ .calling ∉ t.workers ∧ Owed (tr ++ [.finished]) ∧ t.pending = false := by
  obtain ⟨howed, hopen⟩ := Classical.not_imp.mp h
  have hran : ∃ i, Ran s i t [.finished] := by
    generalize hevs : [FailureEvent.finished] = evs at hstep
    cases hstep with
    | run i timedOut hrun => exact ⟨i, ran_of_run hrun⟩
    | _ => simp at hevs
  obtain ⟨i, hran⟩ := hran
  have hafter := shaped_run hshaped hran
  have hsame := hran.closed_eq
  cases hran with
  | finishes hworker =>
    refine ⟨?_, ?_, ?_, rfl⟩
    · rw [hsame, ← Bool.not_eq_true]
      exact fun hshut => hopen (hclosed hshut)
    · rw [← hafter.callbackRunning_iff]
      exact Bool.false_ne_true
    · exact (standing_concat_of_not_set rfl).mpr ⟨howed, id⟩

theorem closed_mem {delay : Nat} {tr : List FailureEvent} {s : FailureHandler}
    (h : (failures delay).Trace tr s) : s.closed = true → .closed ∈ tr := by
  apply h.invariant (P := fun tr s => s.closed = true → .closed ∈ tr)
  · intro s hstart hclosed
    have heq : s = .initial delay := hstart
    rw [heq] at hclosed
    cases hclosed
  · intro tr evs s t _ ih hstep hclosed
    have hstep : FailureStep s evs t := hstep
    cases hstep with
    | schedule => exact List.mem_append_left _ (ih (s.schedule_closed.symm.trans hclosed))
    | cancelPending => exact List.mem_append_left _ (ih hclosed)
    | close => exact List.mem_append_right _ List.mem_cons_self
    | join _ _ => exact List.mem_append_left _ (ih hclosed)
    | run i timedOut hrun =>
      exact List.mem_append_left _ (ih ((ran_of_run hrun).closed_eq.symm.trans hclosed))

/-- **No failure is forgotten, if none is owed when a callback returns.**  In every run there is one
callback at most.  If no `close` is called while another one waits for the callback, none runs
after a `close` has returned.  And if each callback returns settled, then a failure that was
scheduled and has neither been handled nor cancelled is pending, with a worker that will see it;
every callback that does not return settled leaves such a failure behind.  For the audio stream the
first condition is met by itself. -/
theorem failures_kept (delay : Nat) :
    (∀ tr s, (failures delay).Trace tr s → s.workers.countP (· == .calling) ≤ 1) ∧
      (∀ tr s, (tidyFailures delay).Trace tr s → .closeReturned ∈ tr → .calling ∉ s.workers) ∧
      (∀ tr s, (failures delay).Trace tr s → AtEach ReturnsSettled tr →
        s.closed = false → .calling ∉ s.workers → Owed tr →
          s.pending = true ∧ ∃ worker ∈ s.workers, worker ≠ .returned) ∧
      (∀ tr s t, (failures delay).Trace tr s → FailureStep s [.finished] t →
        ¬ ReturnsSettled tr .finished →
          t.closed = false ∧ .calling ∉ t.workers ∧ Owed (tr ++ [.finished]) ∧ t.pending = false) ∧
      ∀ tr a, (audioFailures delay).Trace tr a →
        (.closeReturned ∈ tr → .calling ∉ a.handler.workers) ∧
        (AtEach ReturnsSettled tr → a.isShutdown = false → .calling ∉ a.handler.workers →
          Owed tr → a.handler.pending = true) := by
  refine ⟨?_, ?_, ?_, ?_, ?_⟩
  · intro tr s h
    exact Nat.le_trans List.countP_le_length (shaped h).length_workers
  · intro tr s h hreturned
    exact ((leavesIdle h).returned hreturned).2
  · intro tr s h hsettled hopen hidle howed
    have hremembers := remembers h hsettled
    have hpending := pending_of_owed hremembers hopen hidle howed
    exact ⟨hpending, hremembers.shaped.owes hopen hpending⟩
  · intro tr s t h hstep hnot
    exact not_pending_of_finished (shaped h) (closed_mem h) hstep hnot
  · intro tr a h
    obtain ⟨htrace, hcloses⟩ := tidyFailures_of_audio h
    refine ⟨fun hreturned => ((leavesIdle htrace).returned hreturned).2, ?_⟩
    intro hsettled hopen hidle howed
    exact pending_of_owed (remembers (failures_of_tidy htrace) hsettled) (hcloses.isOpen hopen).2
      hidle howed

/-- A failure is scheduled while the callback runs and cancelled before it returns, and another one
is scheduled afterwards. -/
theorem failures_kept_scheduled :
    ∃ tr s, (failures 0).Trace tr s ∧ .finished ∈ tr ∧ Owed tr ∧ s.pending = true := by
  have hstart : (failures 0).Trace [] (.initial 0) := .start rfl
  have hscheduled := hstart.step (.schedule _)
  have hstarted := hscheduled.step (.run 0 false rfl)
  have hfailed := hstarted.step (.schedule _)
  have hcancelled := hfailed.step (.cancelPending _)
  have hfinished := hcancelled.step (.run 0 false rfl)
  have hagain := hfinished.step (.schedule _)
  have howed := owed_schedule [.scheduled true, .started, .scheduled false, .cancelled, .finished]
    true
  have hsettled : AtEach ReturnsSettled [.scheduled true, .started, .scheduled false, .cancelled,
      .finished, .scheduled true] := by
    have hcancels : ¬ Owed [.scheduled true, .started, .scheduled false, .cancelled] :=
      @not_owed_of_settles [.scheduled true, .started, .scheduled false] [.cancelled]
        (List.forall_mem_singleton.mpr rfl) ⟨.cancelled, List.mem_singleton_self _, trivial⟩
    refine (((((atEach_nil.concat ?_).concat ?_).concat ?_).concat ?_).concat ?_).concat ?_
    · exact trivial
    · exact trivial
    · exact trivial
    · exact trivial
    · exact fun howed => absurd howed hcancels
    · exact trivial
  exact ⟨_, _, hagain, by decide, howed,
    ((failures_kept 0).2.2.1 _ _ hagain hsettled rfl (by decide) howed).1⟩

/-- The pipeline fails again while it is restarted: the restart ends, and nothing is pending. -/
theorem not_failures_kept :
    ∃ tr s, (failures 1000).Trace tr s ∧ s.closed = false ∧ .calling ∉ s.workers ∧ Owed tr ∧
      s.pending = false := by
  have hstart : (failures 1000).Trace [] (.initial 1000) := .start rfl
  have hscheduled := hstart.step (.schedule _)
  have hdelayed := hscheduled.step (.run 0 false rfl)
  have hstarted := hdelayed.step (.run 0 true rfl)
  have hfailed := hstarted.step (.schedule _)
  have hfinished := hfailed.step (.run 0 false rfl)
  refine ⟨_, _, hfinished, rfl, by decide, ?_, rfl⟩
  apply (standing_concat_of_not_set rfl).mpr
  exact ⟨owed_schedule _ _, id⟩

/-- A second `close` returns while the first one waits for the callback. -/
theorem not_idle_of_closeReturned :
    ∃ tr s, (failures 0).Trace tr s ∧ .closeReturned ∈ tr ∧ .calling ∈ s.workers := by
  have hstart : (failures 0).Trace [] (.initial 0) := .start rfl
  have hscheduled := hstart.step (.schedule _)
  have hstarted := hscheduled.step (.run 0 false rfl)
  have hfirst := hstarted.step (.close _)
  have hsecond := hfirst.step (.close _)
  exact ⟨_, _, hsecond, by decide, by decide⟩

end LivekitBridge
