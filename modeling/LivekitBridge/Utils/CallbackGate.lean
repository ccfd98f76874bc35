import LivekitBridge.Lib.Machine
import LivekitBridge.Lib.Threads

/-!
# The callback gate

`callback_gate.hpp`.  A publisher or a caller runs its callbacks through the gate, and
its teardown closes the gate and waits for those inside.

Each section of `mutex_` is one step: `tryEnter`, `leave`, the closing of the gate at the
top of `closeAndWait`, and the last test of its wait.  In the source the first test of the
wait stands in the same section as the closing; here it may come later, which only adds
runs.  The body of a callback may call into the gate again, so a thread can be in several
calls; a callback that waits in a `closeAndWait` of its own stays inside `run`.

What ties the gate's fields to the calls is `GateBooks`: `active_` counts the calls inside
`run`, an exclusive gate has at most one of them and knows its thread, and the call that
will return `true` is the one whose `closing` is the first of the history.
-/

namespace LivekitBridge

open Lib

inductive Concurrency
  | concurrent
  | exclusive
deriving DecidableEq, Repr

inductive WaitMode
  | allCallbacks
  | excludingCurrentThread
deriving DecidableEq, Repr

/-- `CallbackGate`; a default `std::thread::id` is none. -/
structure CallbackGate where
  concurrency : Concurrency
  isClosed : Bool
  active : Nat
  exclusiveOwner : Option ThreadId
deriving DecidableEq, Repr

namespace CallbackGate

/-- A gate that was just constructed. -/
def initial (concurrency : Concurrency) : CallbackGate := ⟨concurrency, false, 0, none⟩

/-- `tryEnter`; none, if it returns false. -/
def tryEnter (g : CallbackGate) (thread : ThreadId) : Option CallbackGate :=
  if g.isClosed then none
  else if g.concurrency = .exclusive ∧ g.active ≠ 0 then none
  else some { g with
    active := g.active + 1
    exclusiveOwner := if g.concurrency = .exclusive then some thread else g.exclusiveOwner }

theorem tryEnter_eq_some {g g' : CallbackGate} {thread : ThreadId}
    (h : g.tryEnter thread = some g') :
    g.isClosed = false ∧ g'.isClosed = false ∧ g'.active = g.active + 1 ∧
      g'.concurrency = g.concurrency ∧
      (g.concurrency = .exclusive → g.active = 0 ∧ g'.exclusiveOwner = some thread) := by
  simp only [tryEnter] at h
  split at h
  · cases h
  · rename_i hopen
    split at h
    · cases h
    · rename_i hfree
      obtain rfl := Option.some.inj h
      have hopen : g.isClosed = false := by simpa using hopen
      refine ⟨hopen, hopen, rfl, rfl, fun hexclusive => ⟨?_, if_pos hexclusive⟩⟩
      by_contra hne
      exact hfree ⟨hexclusive, hne⟩

/-- `--active_`, on a `std::size_t`. -/
def decrement (active : Nat) : Nat := if active = 0 then 0xFFFFFFFFFFFFFFFF else active - 1

def leave (g : CallbackGate) (thread : ThreadId) : CallbackGate :=
  { g with
    active := decrement g.active
    exclusiveOwner :=
      if g.concurrency = .exclusive ∧ g.exclusiveOwner = some thread then none
      else g.exclusiveOwner }

/-- `caller` in `closeAndWait`. -/
def callerOf (mode : WaitMode) (thread : ThreadId) : Option ThreadId :=
  match mode with
  | .excludingCurrentThread => some thread
  | .allCallbacks => none

def activeCallbacksToWaitFor (g : CallbackGate) (caller : Option ThreadId) (mode : WaitMode) : Nat :=
  if mode = .allCallbacks then g.active
  else if g.concurrency = .exclusive ∧ g.active ≠ 0 ∧ g.exclusiveOwner = caller then 0
  else g.active

/-- The start of `closeAndWait`, with `first_close`. -/
def close (g : CallbackGate) : CallbackGate × Bool := ({ g with isClosed := true }, !g.isClosed)

end CallbackGate

/-- A call in progress. -/
inductive GateCall
  /-- `run`, inside `fn` -/
  | running
  /-- `closeAndWait`, in its wait, with its local `first_close` -/
  | waiting (call : Nat) (mode : WaitMode) (firstClose : Bool)
deriving DecidableEq, Repr

/-- What a step did; the calls of `closeAndWait` are numbered. -/
inductive GateEvent
  /-- `run` starts its callback. -/
  | entered (thread : ThreadId)
  /-- `run` returns false. -/
  | refused (thread : ThreadId)
  /-- The callback is over, by a return or by an exception. -/
  | left (thread : ThreadId) (throws : Bool)
  /-- `closeAndWait` set `closed_`. -/
  | closing (call : Nat) (thread : ThreadId) (mode : WaitMode)
  /-- `closeAndWait` returned. -/
  | closed (call : Nat) (thread : ThreadId) (mode : WaitMode) (result : Bool)
deriving DecidableEq, Repr

/-- A gate and the calls in progress. -/
structure GateState where
  gate : CallbackGate
  calls : Calls GateCall
  nextCall : Nat
deriving DecidableEq, Repr

def GateCall.isRunning : GateCall → Bool
  | .running => true
  | .waiting .. => false

/-- The threads inside `run`, one for each callback. -/
def GateState.running (s : GateState) : List ThreadId := s.calls.threadsIn GateCall.isRunning

/-- The thread is outside the gate, or in the body of a callback. -/
def GateState.CanCall (s : GateState) (thread : ThreadId) : Prop :=
  ∀ call ∈ s.calls.innermost thread, call = .running

/-- One section of `mutex_`. -/
inductive GateStep : GateState → List GateEvent → GateState → Prop
  | enter (thread : ThreadId) (gate : CallbackGate) (s : GateState) : s.CanCall thread →
      s.gate.tryEnter thread = some gate →
      GateStep s [.entered thread] ⟨gate, (thread, .running) :: s.calls, s.nextCall⟩
  | refuse (thread : ThreadId) (s : GateState) : s.CanCall thread →
      s.gate.tryEnter thread = none → GateStep s [.refused thread] s
  | leave (thread : ThreadId) (throws : Bool) (gate : CallbackGate)
      (before after : Calls GateCall) (nextCall : Nat) : (∀ call ∈ before, call.1 ≠ thread) →
      GateStep ⟨gate, before ++ (thread, .running) :: after, nextCall⟩ [.left thread throws]
        ⟨gate.leave thread, before ++ after, nextCall⟩
  | closeAndWait (thread : ThreadId) (mode : WaitMode) (s : GateState) : s.CanCall thread →
      GateStep s [.closing s.nextCall thread mode]
        ⟨s.gate.close.1, (thread, .waiting s.nextCall mode s.gate.close.2) :: s.calls,
          s.nextCall + 1⟩
  | wake (thread : ThreadId) (call : Nat) (mode : WaitMode) (firstClose : Bool)
      (gate : CallbackGate) (before after : Calls GateCall) (nextCall : Nat) :
      (∀ call ∈ before, call.1 ≠ thread) →
      gate.activeCallbacksToWaitFor (CallbackGate.callerOf mode thread) mode = 0 →
      GateStep ⟨gate, before ++ (thread, .waiting call mode firstClose) :: after, nextCall⟩
        [.closed call thread mode firstClose] ⟨gate, before ++ after, nextCall⟩

def gateMachine : Machine GateState GateEvent where
  start s := ∃ concurrency, s = ⟨.initial concurrency, [], 0⟩
  step := GateStep

/-! ### The history of a gate -/

namespace GateEvent

/-- The event sets `closed_`. -/
def isClosing : GateEvent → Bool
  | .closing .. => true
  | _ => false

/-- A callback starts. -/
def isEntry : GateEvent → Bool
  | .entered _ => true
  | _ => false

/-- A `closeAndWait` returns true. -/
def returnsTrue : GateEvent → Bool
  | .closed _ _ _ result => result
  | _ => false

/-- A `closeAndWait` starts or returns. -/
def shuts : GateEvent → Bool
  | .closing .. => true
  | .closed .. => true
  | _ => false

end GateEvent

/-- The call will return true. -/
def GateCall.isFirst : GateCall → Bool
  | .waiting _ _ firstClose => firstClose
  | .running => false

/-- The call of `closeAndWait` that set `closed_` first. -/
def FirstClosing (tr : List GateEvent) (call : Nat) (thread : ThreadId) (mode : WaitMode) : Prop :=
  tr.find? GateEvent.isClosing = some (.closing call thread mode)

/-- What the gate's fields say about the calls in progress and about the history. -/
structure GateBooks (tr : List GateEvent) (s : GateState) : Prop where
  counted : s.gate.active = s.running.length
  owner : s.gate.concurrency = .exclusive →
    s.running.length ≤ 1 ∧ ∀ thread ∈ s.running, s.gate.exclusiveOwner = some thread
  closes : s.gate.isClosed = (tr.find? GateEvent.isClosing).isSome
  noEntry : tr.Pairwise fun e e' => e.shuts = true → e'.isEntry = false
  numbered : ∀ call thread mode, GateEvent.closing call thread mode ∈ tr → call < s.nextCall
  waiting : ∀ thread call mode firstClose, (thread, GateCall.waiting call mode firstClose) ∈ s.calls →
    s.gate.isClosed = true ∧ (firstClose = true ↔ FirstClosing tr call thread mode)
  returned : ∀ call thread mode result, GateEvent.closed call thread mode result ∈ tr →
    s.gate.isClosed = true ∧ (result = true ↔ FirstClosing tr call thread mode)
  firsts : tr.countP GateEvent.returnsTrue + (s.calls.threadsIn GateCall.isFirst).length =
    s.gate.isClosed.toNat

namespace GateBooks

variable {tr : List GateEvent} {s : GateState}

theorem initial (concurrency : Concurrency) : GateBooks [] ⟨.initial concurrency, [], 0⟩ where
  counted := rfl
  owner := fun _ => ⟨Nat.zero_le 1, by simp [GateState.running]⟩
  closes := rfl
  noEntry := List.Pairwise.nil
  numbered := by simp
  waiting := by simp
  returned := by simp
  firsts := rfl

theorem firstClosing_append (h : GateBooks tr s) (hclosed : s.gate.isClosed = true)
    (evs : List GateEvent) (call : Nat) (thread : ThreadId) (mode : WaitMode) :
    FirstClosing (tr ++ evs) call thread mode ↔ FirstClosing tr call thread mode := by
  have hsome : (tr.find? GateEvent.isClosing).isSome = true := by rw [← h.closes, hclosed]
  obtain ⟨e, he⟩ := Option.isSome_iff_exists.mp hsome
  unfold FirstClosing
  rw [List.find?_append, he, Option.some_or]

theorem isClosed_of_shuts (h : GateBooks tr s) {e : GateEvent} (he : e ∈ tr)
    (hshuts : e.shuts = true) : s.gate.isClosed = true := by
  cases e with
  | closing call thread mode =>
    rw [h.closes, List.find?_isSome]
    exact ⟨_, he, rfl⟩
  | closed call thread mode result => exact (h.returned call thread mode result he).1
  | _ => cases hshuts

/-- No callback starts in a gate that is closed, so a new event keeps the order. -/
theorem noEntry_concat (h : GateBooks tr s) {e : GateEvent}
    (he : s.gate.isClosed = true → e.isEntry = false) :
    (tr ++ [e]).Pairwise fun e e' => e.shuts = true → e'.isEntry = false := by
  rw [List.pairwise_append]
  refine ⟨h.noEntry, List.pairwise_singleton _ _, ?_⟩
  intro earlier hearlier last hlast hshuts
  obtain rfl : last = e := by simpa using hlast
  exact he (h.isClosed_of_shuts hearlier hshuts)

/-- A section of `run` neither starts nor ends a `closeAndWait`; what is left to show is
about the callbacks. -/
theorem of_run (h : GateBooks tr s) {e : GateEvent} {t : GateState} (hshuts : e.shuts = false)
    (hentry : s.gate.isClosed = true → e.isEntry = false)
    (hclosed : t.gate.isClosed = s.gate.isClosed) (hnext : t.nextCall = s.nextCall)
    (hwaiting : ∀ thread call mode firstClose,
      (thread, GateCall.waiting call mode firstClose) ∈ t.calls →
        (thread, GateCall.waiting call mode firstClose) ∈ s.calls)
    (hfirsts : (t.calls.threadsIn GateCall.isFirst).length =
      (s.calls.threadsIn GateCall.isFirst).length)
    (hcounted : t.gate.active = t.running.length)
    (howner : t.gate.concurrency = .exclusive →
      t.running.length ≤ 1 ∧ ∀ thread ∈ t.running, t.gate.exclusiveOwner = some thread) :
    GateBooks (tr ++ [e]) t := by
  have hquiet : e.isClosing = false ∧ e.returnsTrue = false := by
    cases e with
    | closing => cases hshuts
    | closed => cases hshuts
    | _ => exact ⟨rfl, rfl⟩
  refine ⟨hcounted, howner, ?_, h.noEntry_concat hentry, ?_, ?_, ?_, ?_⟩
  · rw [hclosed, h.closes, List.find?_append]
    simp [hquiet.1]
  · intro call thread mode hc
    rcases List.mem_append.mp hc with hc | hc
    · exact hnext ▸ h.numbered call thread mode hc
    · rw [← List.mem_singleton.mp hc] at hshuts
      cases hshuts
  · intro thread call mode firstClose hc
    obtain ⟨hc1, hc2⟩ := h.waiting thread call mode firstClose (hwaiting _ _ _ _ hc)
    exact ⟨hclosed.trans hc1, by rw [h.firstClosing_append hc1, hc2]⟩
  · intro call thread mode result hc
    rcases List.mem_append.mp hc with hc | hc
    · obtain ⟨hc1, hc2⟩ := h.returned call thread mode result hc
      exact ⟨hclosed.trans hc1, by rw [h.firstClosing_append hc1, hc2]⟩
    · rw [← List.mem_singleton.mp hc] at hshuts
      cases hshuts
  · rw [List.countP_append, hfirsts, hclosed]
    simpa [hquiet.2] using h.firsts

theorem enter (h : GateBooks tr s) {thread : ThreadId} {gate : CallbackGate}
    (hgate : s.gate.tryEnter thread = some gate) :
    GateBooks (tr ++ [.entered thread]) ⟨gate, (thread, .running) :: s.calls, s.nextCall⟩ := by
  obtain ⟨hopen, hopen', hactive, hconcurrency, hexclusive⟩ := CallbackGate.tryEnter_eq_some hgate
  have hrunning : GateState.running ⟨gate, (thread, .running) :: s.calls, s.nextCall⟩ =
      thread :: s.running := Calls.threadsIn_cons thread _ s.calls
  refine h.of_run rfl (fun hclosed => ?_) (hopen'.trans hopen.symm) rfl ?_ rfl ?_ ?_
  · rw [hopen] at hclosed
    cases hclosed
  · intro other call mode firstClose hc
    simpa using hc
  · rw [hrunning, List.length_cons, ← h.counted]
    exact hactive
  · intro hgate
    obtain ⟨hfree, howner⟩ := hexclusive (hconcurrency.symm.trans hgate)
    have hnone : s.running = [] := by rw [← List.length_eq_zero_iff, ← h.counted, hfree]
    rw [hrunning, hnone]
    refine ⟨Nat.le_refl 1, fun other hother => ?_⟩
    obtain rfl : other = thread := by simpa using hother
    exact howner

theorem leave {gate : CallbackGate} {before after : Calls GateCall} {nextCall : Nat}
    {thread : ThreadId} (h : GateBooks tr ⟨gate, before ++ (thread, .running) :: after, nextCall⟩)
    (throws : Bool) :
    GateBooks (tr ++ [.left thread throws]) ⟨gate.leave thread, before ++ after, nextCall⟩ := by
  have hlength := Calls.length_threadsIn_append_cons (p := GateCall.isRunning) before after
    thread .running
  have hcounted : gate.active = (Calls.threadsIn GateCall.isRunning (before ++ after)).length + 1 :=
    h.counted.trans hlength
  refine h.of_run rfl (fun _ => rfl) rfl rfl ?_ ?_ ?_ ?_
  · intro other call mode firstClose hc
    rcases List.mem_append.mp hc with hc | hc
    · exact List.mem_append_left _ hc
    · exact List.mem_append_right _ (List.mem_cons_of_mem _ hc)
  · exact (Calls.length_threadsIn_append_cons (p := GateCall.isFirst) before after
      thread .running).symm
  · show CallbackGate.decrement gate.active = _
    rw [CallbackGate.decrement, if_neg (by omega), hcounted]
    rfl
  · intro hexclusive
    -- an exclusive gate had this callback only
    have hone := (h.owner hexclusive).1
    rw [GateState.running, hlength] at hone
    have hnone : GateState.running ⟨gate.leave thread, before ++ after, nextCall⟩ = [] := by
      rw [← List.length_eq_zero_iff]
      exact Nat.le_zero.mp (Nat.le_of_succ_le_succ hone)
    rw [hnone]
    exact ⟨Nat.zero_le 1, by simp⟩

/-- The call that closes an open gate is the first, and every later one finds it closed. -/
theorem closeAndWait (h : GateBooks tr s) (thread : ThreadId) (mode : WaitMode) :
    GateBooks (tr ++ [.closing s.nextCall thread mode])
      ⟨s.gate.close.1, (thread, .waiting s.nextCall mode s.gate.close.2) :: s.calls,
        s.nextCall + 1⟩ := by
  have hnew : GateEvent.closing s.nextCall thread mode ∉ tr := fun hc =>
    Nat.lt_irrefl _ (h.numbered _ _ _ hc)
  have hfirst : s.gate.close.2 = true ↔
      FirstClosing (tr ++ [.closing s.nextCall thread mode]) s.nextCall thread mode := by
    unfold FirstClosing
    rw [List.find?_append, CallbackGate.close, h.closes]
    cases hfind : tr.find? GateEvent.isClosing with
    | none => simp [GateEvent.isClosing]
    | some e =>
      have hmem := List.mem_of_find?_eq_some hfind
      simp only [Option.isSome_some, Bool.not_true, Bool.false_eq_true, Option.some_or,
        Option.some.injEq, false_iff]
      rintro rfl
      exact hnew hmem
  refine ⟨h.counted, h.owner, ?_, h.noEntry_concat fun _ => rfl, ?_, ?_, ?_, ?_⟩
  · rw [List.find?_append]
    simp [CallbackGate.close, GateEvent.isClosing]
  · intro call other mode' hc
    rcases List.mem_append.mp hc with hc | hc
    · exact Nat.lt_succ_of_lt (h.numbered _ _ _ hc)
    · obtain ⟨rfl, _⟩ : call = s.nextCall ∧ other = thread ∧ mode' = mode := by simpa using hc
      exact Nat.lt_succ_self _
  · intro other call mode' firstClose hc
    refine ⟨rfl, ?_⟩
    rcases List.mem_cons.mp hc with hc | hc
    · obtain ⟨rfl, rfl, rfl, rfl⟩ : other = thread ∧ call = s.nextCall ∧ mode' = mode ∧
          firstClose = s.gate.close.2 := by simpa using hc
      exact hfirst
    · obtain ⟨hc1, hc2⟩ := h.waiting other call mode' firstClose hc
      rw [h.firstClosing_append hc1, hc2]
  · intro call other mode' result hc
    refine ⟨rfl, ?_⟩
    have hc : GateEvent.closed call other mode' result ∈ tr := by simpa using hc
    obtain ⟨hc1, hc2⟩ := h.returned call other mode' result hc
    rw [h.firstClosing_append hc1, hc2]
  · have hfirsts := h.firsts
    rw [List.countP_append, Calls.threadsIn_cons]
    cases hclosed : s.gate.isClosed with
    | false =>
      rw [hclosed] at hfirsts
      simp only [CallbackGate.close, hclosed, GateCall.isFirst, Bool.not_false, if_true,
        List.length_cons, Bool.toNat_true]
      simp only [Bool.toNat_false] at hfirsts
      simp only [List.countP_singleton, GateEvent.returnsTrue, Bool.false_eq_true, if_false]
      omega
    | true =>
      rw [hclosed] at hfirsts
      simpa [CallbackGate.close, hclosed, GateCall.isFirst, GateEvent.returnsTrue] using hfirsts

theorem wake {gate : CallbackGate} {before after : Calls GateCall} {nextCall call : Nat}
    {thread : ThreadId} {mode : WaitMode} {firstClose : Bool}
    (h : GateBooks tr ⟨gate, before ++ (thread, .waiting call mode firstClose) :: after, nextCall⟩) :
    GateBooks (tr ++ [.closed call thread mode firstClose]) ⟨gate, before ++ after, nextCall⟩ := by
  have hcall := h.waiting thread call mode firstClose (by simp)
  have hrunning : GateState.running ⟨gate, before ++ after, nextCall⟩ =
      GateState.running ⟨gate, before ++ (thread, .waiting call mode firstClose) :: after, nextCall⟩ := by
    simp [GateState.running, Calls.threadsIn_append, Calls.threadsIn_cons, GateCall.isRunning]
  refine ⟨hrunning ▸ h.counted, hrunning ▸ h.owner, ?_, h.noEntry_concat fun _ => rfl, ?_, ?_, ?_, ?_⟩
  · rw [h.closes, List.find?_append]
    simp [GateEvent.isClosing]
  · intro call' other mode' hc
    exact h.numbered call' other mode' (by simpa using hc)
  · intro other call' mode' firstClose' hc
    have hc : (other, GateCall.waiting call' mode' firstClose') ∈
        before ++ (thread, .waiting call mode firstClose) :: after := by
      rcases List.mem_append.mp hc with hc | hc
      · exact List.mem_append_left _ hc
      · exact List.mem_append_right _ (List.mem_cons_of_mem _ hc)
    obtain ⟨hc1, hc2⟩ := h.waiting other call' mode' firstClose' hc
    exact ⟨hc1, by rw [h.firstClosing_append hc1, hc2]⟩
  · intro call' other mode' result hc
    refine ⟨hcall.1, ?_⟩
    rw [h.firstClosing_append hcall.1]
    rcases List.mem_append.mp hc with hc | hc
    · exact (h.returned call' other mode' result hc).2
    · obtain ⟨rfl, rfl, rfl, rfl⟩ : call' = call ∧ other = thread ∧ mode' = mode ∧
          result = firstClose := by simpa using hc
      exact hcall.2
  · have hfirsts := h.firsts
    rw [Calls.length_threadsIn_append_cons] at hfirsts
    rw [List.countP_append, List.countP_singleton, ← hfirsts]
    simp only [GateEvent.returnsTrue, GateCall.isFirst]
    cases firstClose with
    | false => simp
    | true => simp only [if_true, Bool.toNat_true]; omega

theorem step {evs : List GateEvent} {t : GateState} (h : GateBooks tr s) (hs : GateStep s evs t) :
    GateBooks (tr ++ evs) t := by
  cases hs with
  | enter thread gate _ hcan hgate => exact h.enter hgate
  | refuse thread _ hcan hgate =>
    exact h.of_run rfl (fun _ => rfl) rfl rfl (fun _ _ _ _ hc => hc) rfl h.counted h.owner
  | leave thread throws gate before after nextCall hinnermost => exact h.leave throws
  | closeAndWait thread mode _ hcan => exact h.closeAndWait thread mode
  | wake thread call mode firstClose gate before after nextCall hinnermost hidle => exact h.wake

end GateBooks

theorem gateBooks_of_trace {tr : List GateEvent} {s : GateState} (h : gateMachine.Trace tr s) :
    GateBooks tr s := by
  refine Machine.Trace.invariant ?_ ?_ h
  · rintro _ ⟨concurrency, rfl⟩
    exact GateBooks.initial concurrency
  · intro tr evs s t _ hbooks hs
    exact hbooks.step hs

/-! ### What the gate promises -/

/-- What the gate promises, of a run and of the steps that may follow it. -/
structure GateSafe (tr : List GateEvent) (s : GateState) : Prop where
  /-- `active_` is the number of callbacks inside `run`. -/
  active_eq : s.gate.active = s.running.length
  /-- The decrement of `leave` is one of a positive number. -/
  no_underflow : ∀ thread throws t, GateStep s [.left thread throws] t →
    t.gate.active + 1 = s.gate.active
  /-- An exclusive gate has one callback at most, and knows its thread. -/
  exclusive : s.gate.concurrency = .exclusive →
    s.running.length ≤ 1 ∧ ∀ thread ∈ s.running, s.gate.exclusiveOwner = some thread
  /-- `closeAndWait(AllCallbacks)` returns when no callback is running. -/
  all_over : ∀ call thread result t,
    GateStep s [.closed call thread .allCallbacks result] t → t.running = []
  /-- `closeAndWait(ExcludingCurrentThread)` returns when no other thread's callback is. -/
  others_over : ∀ call thread result t,
    GateStep s [.closed call thread .excludingCurrentThread result] t →
      ∀ other ∈ t.running, other = thread
  /-- After a `closeAndWait` returned no callback starts. -/
  no_entry : ∀ pre post call thread mode result,
    tr = pre ++ .closed call thread mode result :: post → ∀ other, GateEvent.entered other ∉ post
  /-- The call that returns true is the first that set `closed_`. -/
  first : ∀ call thread mode result, GateEvent.closed call thread mode result ∈ tr →
    (result = true ↔ FirstClosing tr call thread mode)
  /-- At most one call returns true. -/
  once : tr.countP GateEvent.returnsTrue ≤ 1

namespace GateBooks

variable {tr : List GateEvent} {s t : GateState}

theorem active_leave (h : GateBooks tr s) {thread : ThreadId} {throws : Bool}
    (hs : GateStep s [.left thread throws] t) : t.gate.active + 1 = s.gate.active := by
  cases hs with
  | leave _ _ gate before after nextCall hinnermost =>
    have hcounted := h.counted
    rw [GateState.running, Calls.length_threadsIn_append_cons] at hcounted
    have hpos : gate.active = _ + 1 := hcounted
    show CallbackGate.decrement gate.active + 1 = gate.active
    rw [CallbackGate.decrement, if_neg (by omega)]
    omega

theorem running_wake (h : GateBooks tr s) {call : Nat} {thread : ThreadId} {mode : WaitMode}
    {result : Bool} (hs : GateStep s [.closed call thread mode result] t) :
    t.running = [] ∨ mode = .excludingCurrentThread ∧ ∀ other ∈ t.running, other = thread := by
  have hbooks : GateBooks (tr ++ [.closed call thread mode result]) t := h.step hs
  cases hs with
  | wake _ _ _ _ gate before after nextCall hinnermost hidle =>
    have hcounted : gate.active = _ := hbooks.counted
    simp only [CallbackGate.activeCallbacksToWaitFor] at hidle
    split at hidle
    · exact .inl (List.length_eq_zero_iff.mp (hcounted.symm.trans hidle))
    · rename_i hmode
      split at hidle
      · rename_i howned
        obtain ⟨hexclusive, -, howner⟩ := howned
        have hmode : mode = .excludingCurrentThread := by
          cases mode with
          | allCallbacks => exact absurd rfl hmode
          | excludingCurrentThread => rfl
        refine .inr ⟨hmode, fun other hother => ?_⟩
        have hother : gate.exclusiveOwner = some other := (hbooks.owner hexclusive).2 other hother
        rw [howner, hmode] at hother
        exact (Option.some.inj hother).symm
      · exact .inl (List.length_eq_zero_iff.mp (hcounted.symm.trans hidle))

theorem not_entered_after (h : GateBooks tr s) {pre post : List GateEvent} {e : GateEvent}
    (htr : tr = pre ++ e :: post) (hshuts : e.shuts = true) (other : ThreadId) :
    GateEvent.entered other ∉ post := by
  intro hentered
  have horder := h.noEntry
  rw [htr, List.pairwise_append] at horder
  have hafter := (List.pairwise_cons.mp horder.2.1).1 _ hentered hshuts
  cases hafter

end GateBooks

/-- **The gate keeps its promise.**  Over every interleaving of `run` and `closeAndWait`,
from any threads and from inside callbacks. -/
theorem callbackGate_safe {tr : List GateEvent} {s : GateState} (h : gateMachine.Trace tr s) :
    GateSafe tr s := by
  have hbooks := gateBooks_of_trace h
  constructor
  · exact hbooks.counted
  · intro thread throws t hs
    exact hbooks.active_leave hs
  · exact hbooks.owner
  · intro call thread result t hs
    rcases hbooks.running_wake hs with hnone | ⟨hmode, _⟩
    · exact hnone
    · cases hmode
  · intro call thread result t hs other hother
    rcases hbooks.running_wake hs with hnone | ⟨_, hown⟩
    · rw [hnone] at hother
      cases hother
    · exact hown other hother
  · intro pre post call thread mode result htr other
    exact hbooks.not_entered_after htr rfl other
  · intro call thread mode result hc
    exact (hbooks.returned call thread mode result hc).2
  · have hfirsts := hbooks.firsts
    have hle : s.gate.isClosed.toNat ≤ 1 := Bool.toNat_le _
    omega

/-- An exclusive gate, closed by thread 7 from inside its own callback. -/
def selfClosed : GateState := ⟨⟨.exclusive, true, 1, some 7⟩, [(7, .running)], 1⟩

/-- Thread 7 enters, closes the gate from inside its callback and is told that it was
the first, and thread 8 is refused. -/
theorem callbackGate_safe_selfClosed :
    GateSafe [.entered 7, .closing 0 7 .excludingCurrentThread,
      .closed 0 7 .excludingCurrentThread true, .refused 8] selfClosed := by
  have h0 : gateMachine.Trace [] ⟨.initial .exclusive, [], 0⟩ := .start ⟨_, rfl⟩
  have h1 := h0.step (GateStep.enter 7 ⟨.exclusive, false, 1, some 7⟩ _ (by intro c hc; cases hc) rfl)
  have h2 := h1.step (GateStep.closeAndWait 7 .excludingCurrentThread _ (by
    intro c hc
    obtain rfl : GateCall.running = c := by simpa [Calls.innermost] using hc
    rfl))
  have h3 := h2.step (GateStep.wake 7 0 .excludingCurrentThread true _ [] [(7, .running)] 1
    (by simp) rfl)
  exact callbackGate_safe (h3.step (GateStep.refuse 8 _ (by intro c hc; cases hc) rfl))

/-! ### Who is inside -/

section Gate

variable {s t : GateState} {thread : ThreadId}

theorem running_of_entered (h : GateStep s [.entered thread] t) :
    t.running = thread :: s.running ∧ s.gate.isClosed = false := by
  cases h with
  | enter _ gate _ hcan henter =>
    exact ⟨Calls.threadsIn_cons .., (CallbackGate.tryEnter_eq_some henter).1⟩

theorem running_of_refused (h : GateStep s [.refused thread] t) :
    t.running = s.running ∧ t.gate.isClosed = s.gate.isClosed := by
  cases h with
  | refuse => exact ⟨rfl, rfl⟩

theorem running_of_left {throws : Bool} (h : GateStep s [.left thread throws] t) :
    (∀ other, t.running.count other + (if other = thread then 1 else 0) = s.running.count other) ∧
      t.gate.isClosed = s.gate.isClosed := by
  cases h with
  | leave _ _ gate before after nextCall hinnermost =>
    refine ⟨fun other => ?_, rfl⟩
    unfold GateState.running
    dsimp only
    rw [Calls.threadsIn_append, Calls.threadsIn_append, Calls.threadsIn_cons,
      if_pos (show GateCall.running.isRunning = true from rfl), List.count_append, List.count_append,
      List.count_cons]
    by_cases heq : other = thread
    · simp [heq]
      omega
    · simp [heq, Ne.symm heq]

theorem running_of_closing {call : Nat} {mode : WaitMode}
    (h : GateStep s [.closing call thread mode] t) : t.running = s.running := by
  cases h with
  | closeAndWait => exact Calls.threadsIn_cons ..

theorem running_of_closed {call : Nat} {mode : WaitMode} {first : Bool}
    (h : GateStep s [.closed call thread mode first] t) : t.running = s.running := by
  cases h with
  | wake _ _ _ _ gate before after nextCall hinnermost hidle =>
    unfold GateState.running
    dsimp only
    rw [Calls.threadsIn_append, Calls.threadsIn_append, Calls.threadsIn_cons]
    rfl

end Gate

end LivekitBridge
