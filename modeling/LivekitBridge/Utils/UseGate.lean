import LivekitBridge.Lib.Machine
import LivekitBridge.Lib.Assoc
import LivekitBridge.Lib.PackedCount

/-!
# The atomic gates

`ServiceWaitable::use_state_` of `ros_service_caller.cpp` and `callback_state_` of
`video/gstreamer_pipeline.cpp` and `audio/gstreamer_pipeline.cpp`.  A gate is one word: the top bit
says that it is stopped, and the bits below count the calls inside.  The three have the same
functions under two sets of names, `beginUse`, `endUse` and `stopAndWait`, or `beginCallback`,
`endCallback` and `stopCallbacksAndWait`; the pipelines also have `resumeCallbacks`.

Each atomic operation is one step, and a compare-exchange may fail for no reason.  The waitable is
entered and stopped by any threads at any time.  A pipeline has an owner, who calls `start` and
`stop` one after the other (`pipeline_` is not atomic), and GStreamer enters its callbacks from
their registration in `start` to the return of `stop`.  Video and audio differ in what makes
`start` throw before the registration.

`start` opens the gate before it can throw, and `stop` does nothing when there is no pipeline.  So
a callback that was entered before the last `stop` returned can go in after a failed `start`, and
the next `start` overwrites its count (`not_gateKept_overwritten`).  Runs without this are
`calmPipeline`.
-/

namespace LivekitBridge

open Lib

/-- `kUseStopped`, `kCallbacksStopped` -/
def kUseStopped : BitVec 64 := ~~~(~~~0#64 >>> 1)

/-- `kUseCountMask`, `kCallbackCountMask` -/
def kUseCountMask : BitVec 64 := ~~~kUseStopped

/-- Where a call is: before the load of `beginUse`, in its loop with the state that it has read, or
before `endUse`. -/
inductive UsePhase
  | entered
  | trying (state : BitVec 64)
  | inside
deriving DecidableEq, Repr

/-- The word, and the calls that have not returned. -/
structure UseGate where
  state : BitVec 64
  uses : AList fun _ : Nat => UsePhase

/-- What is seen of a run.  `stopReturned` has the number of calls inside, and `resumed` the word
that is overwritten. -/
inductive UseEvent
  | entered
  | left
  | stopped
  | stopReturned (inside : Nat)
  | resumed (state : BitVec 64)
  | threw
deriving DecidableEq, Repr

namespace UseGate

/-- The gate after its construction. -/
def initial : UseGate := ⟨0, ∅⟩

/-- How many calls are inside. -/
def inside (g : UseGate) : Nat := g.uses.countVal (· == .inside)

/-- How many calls there are. -/
def calls (g : UseGate) : Nat := g.uses.countVal fun _ => true

/-- The call is where `phase` says. -/
def setPhase (g : UseGate) (use : Nat) (phase : UsePhase) : UseGate :=
  { g with uses := g.uses.insert use phase }

/-- The call returns. -/
def leave (g : UseGate) (use : Nat) : UseGate := { g with uses := g.uses.erase use }

end UseGate

/-- One atomic operation of `beginUse` or `endUse`. -/
inductive UseStep : UseGate → List UseEvent → UseGate → Prop
  | load {g : UseGate} {use : Nat} : g.uses.lookup use = some .entered →
      UseStep g [] (g.setPhase use (.trying g.state))
  | refuse {g : UseGate} {use : Nat} {state : BitVec 64} :
      g.uses.lookup use = some (.trying state) → state &&& kUseStopped ≠ 0 →
      UseStep g [] (g.leave use)
  | exchange {g : UseGate} {use : Nat} {state : BitVec 64} :
      g.uses.lookup use = some (.trying state) → state &&& kUseStopped = 0 → g.state = state →
      UseStep g [.entered] { g.setPhase use .inside with state := state + 1 }
  | retry {g : UseGate} {use : Nat} {state : BitVec 64} :
      g.uses.lookup use = some (.trying state) → state &&& kUseStopped = 0 →
      UseStep g [] (g.setPhase use (.trying g.state))
  | endUse {g : UseGate} {use : Nat} : g.uses.lookup use = some .inside →
      UseStep g [.left] { g.leave use with state := g.state - 1 }

/-- Where a call of `stopAndWait` is: before its `fetch_or`, or in its loop. -/
inductive StopPhase
  | stopping
  | waiting (state : BitVec 64)
deriving DecidableEq, Repr

/-- A gate, and the calls of `stopAndWait`. -/
structure WaitableGate where
  gate : UseGate
  stops : AList fun _ : Nat => StopPhase

/-- One operation on the gate of a `ServiceWaitable`; there are at most `threads` calls. -/
inductive WaitableStep (threads : Nat) : WaitableGate → List UseEvent → WaitableGate → Prop
  | enter {s : WaitableGate} {use : Nat} : use ∉ s.gate.uses → s.gate.calls < threads →
      WaitableStep threads s [] { s with gate := s.gate.setPhase use .entered }
  | use {s : WaitableGate} {evs : List UseEvent} {g : UseGate} : UseStep s.gate evs g →
      WaitableStep threads s evs { s with gate := g }
  | stopAndWait {s : WaitableGate} {stop : Nat} : stop ∉ s.stops →
      WaitableStep threads s [] { s with stops := s.stops.insert stop .stopping }
  | fetchOr {s : WaitableGate} {stop : Nat} : s.stops.lookup stop = some .stopping →
      WaitableStep threads s [.stopped]
        { gate := { s.gate with state := s.gate.state ||| kUseStopped }
          stops := s.stops.insert stop (.waiting (s.gate.state ||| kUseStopped)) }
  | reload {s : WaitableGate} {stop : Nat} {state : BitVec 64} :
      s.stops.lookup stop = some (.waiting state) → state &&& kUseCountMask ≠ 0 →
      WaitableStep threads s [] { s with stops := s.stops.insert stop (.waiting s.gate.state) }
  | stopReturn {s : WaitableGate} {stop : Nat} {state : BitVec 64} :
      s.stops.lookup stop = some (.waiting state) → state &&& kUseCountMask = 0 →
      WaitableStep threads s [.stopReturned s.gate.inside]
        { s with stops := s.stops.erase stop }

/-- The gate of a `ServiceWaitable`. -/
def waitableGate (threads : Nat) : Machine WaitableGate UseEvent where
  start s := s = ⟨.initial, ∅⟩
  step := WaitableStep threads

/-- Where the owner of a pipeline is: in `stop` (that of `start` when it `restarts`), before its
`fetch_or` or in its loop; in `start` before `resumeCallbacks`, or before the registration. -/
inductive OwnerPhase
  | idle
  | stopping (restarts : Bool)
  | waiting (restarts : Bool) (state : BitVec 64)
  | resuming
  | building
deriving DecidableEq, Repr

/-- A gate, whether `pipeline_` is set, and the owner. -/
structure PipelineGate where
  gate : UseGate
  pipeline : Bool
  owner : OwnerPhase

/-- After a `stop` the owner is done, or goes on with `start`. -/
def afterStop (restarts : Bool) : OwnerPhase := if restarts then .resuming else .idle

/-- One operation on the gate of a `GStreamerPipeline`. -/
inductive PipelineStep (threads : Nat) : PipelineGate → List UseEvent → PipelineGate → Prop
  | enter {s : PipelineGate} {use : Nat} : s.pipeline = true → use ∉ s.gate.uses →
      s.gate.calls < threads →
      PipelineStep threads s [] { s with gate := s.gate.setPhase use .entered }
  | use {s : PipelineGate} {evs : List UseEvent} {g : UseGate} : UseStep s.gate evs g →
      PipelineStep threads s evs { s with gate := g }
  | stop {s : PipelineGate} (restarts : Bool) : s.owner = .idle → s.pipeline = true →
      PipelineStep threads s [] { s with owner := .stopping restarts }
  | skipStop {s : PipelineGate} (restarts : Bool) : s.owner = .idle → s.pipeline = false →
      PipelineStep threads s [] { s with owner := afterStop restarts }
  | fetchOr {s : PipelineGate} {restarts : Bool} : s.owner = .stopping restarts →
      PipelineStep threads s [.stopped]
        { s with
          gate := { s.gate with state := s.gate.state ||| kUseStopped }
          owner := .waiting restarts (s.gate.state ||| kUseStopped) }
  | reload {s : PipelineGate} {restarts : Bool} {state : BitVec 64} :
      s.owner = .waiting restarts state → state &&& kUseCountMask ≠ 0 →
      PipelineStep threads s [] { s with owner := .waiting restarts s.gate.state }
  | stopReturn {s : PipelineGate} {restarts : Bool} {state : BitVec 64} :
      s.owner = .waiting restarts state → state &&& kUseCountMask = 0 →
      PipelineStep threads s [.stopReturned s.gate.inside]
        { s with pipeline := false, owner := afterStop restarts }
  | resumeCallbacks {s : PipelineGate} : s.owner = .resuming →
      PipelineStep threads s [.resumed s.gate.state]
        { s with gate := { s.gate with state := 0 }, owner := .building }
  | throw {s : PipelineGate} : s.owner = .building →
      PipelineStep threads s [.threw] { s with owner := .idle }
  | register {s : PipelineGate} (plays : Bool) : s.owner = .building →
      PipelineStep threads s []
        { s with pipeline := true, owner := if plays then .idle else .stopping false }

/-- The gate of a `GStreamerPipeline`. -/
def pipelineGate (threads : Nat) : Machine PipelineGate UseEvent where
  start s := s = ⟨.initial, false, .idle⟩
  step := PipelineStep threads

/-- `start` throws before the registration only when no callback is left. -/
def Calm (s : PipelineGate) : UseEvent → Prop
  | .threw => s.gate.uses = ∅
  | _ => True

/-- The runs in which this is so. -/
def calmPipeline (threads : Nat) : Machine PipelineGate UseEvent where
  start s := s = ⟨.initial, false, .idle⟩
  step s evs t := PipelineStep threads s evs t ∧ ∀ e ∈ evs, Calm s e

/-! ### What is to hold -/

/-- The event sets the stop bit. -/
def UseEvent.stops : UseEvent → Option Unit
  | .stopped => some ()
  | _ => none

/-- The event overwrites the word. -/
def UseEvent.Resumes : UseEvent → Prop
  | .resumed _ => True
  | _ => False

/-- The gate was stopped, and not resumed since. -/
def Stopped (tr : List UseEvent) : Prop :=
  Standing UseEvent.stops (fun _ => UseEvent.Resumes) tr ()

/-- No call goes in while the gate is stopped, none is inside when `stopAndWait` returns, and
`resumeCallbacks` overwrites no count. -/
def Orderly (tr : List UseEvent) : UseEvent → Prop
  | .entered => ¬ Stopped tr
  | .stopReturned inside => inside = 0
  | .resumed state => state &&& kUseCountMask = 0
  | _ => True

/-- The count is that of the calls inside, and the stop bit is what stops and resumes have made of
it. -/
structure GateKept (tr : List UseEvent) (g : UseGate) : Prop where
  counts : (g.state &&& kUseCountMask).toNat = g.inside
  stopBit : g.state &&& kUseStopped ≠ 0 ↔ Stopped tr
  orderly : ∀ pre e post, tr = pre ++ e :: post → Orderly pre e

/-! ### The word and the calls -/

theorem kUseStopped_eq : kUseStopped = BitVec.intMin 64 := by decide

theorem kUseCountMask_eq : kUseCountMask = ~~~BitVec.intMin 64 := by decide

/-- The word holds whether the gate is stopped, and the number of calls inside. -/
def Tallied (tr : List UseEvent) (g : UseGate) : Prop :=
  ∃ flag, Packed g.state flag g.inside ∧ (flag = true ↔ Stopped tr)

theorem not_stopped_nil : ¬ Stopped [] := not_standing_nil ()

theorem stopped_concat (tr : List UseEvent) : Stopped (tr ++ [.stopped]) := by
  rw [Stopped, standing_concat]
  exact .inl rfl

theorem not_stopped_concat_resumed (tr : List UseEvent) (state : BitVec 64) :
    ¬ Stopped (tr ++ [.resumed state]) := by
  rw [Stopped, standing_concat]
  intro h
  rcases h with hset | ⟨_, _, hkept⟩
  · cases hset
  · exact hkept trivial

/-- The event neither stops nor resumes. -/
def UseEvent.Quiet (e : UseEvent) : Prop := e.stops = none ∧ ¬ e.Resumes

theorem quiet_single {e : UseEvent} (h : e.Quiet) : ∀ e' ∈ [e], e'.Quiet := by
  intro e' he'
  rw [List.mem_singleton.mp he']
  exact h

theorem stopped_of_quiet {tr evs : List UseEvent} (h : ∀ e ∈ evs, e.Quiet) :
    Stopped (tr ++ evs) ↔ Stopped tr :=
  standing_append_of_quiet h

section Gate

variable {tr evs : List UseEvent} {g g' : UseGate}

theorem tallied_initial : Tallied [] .initial :=
  ⟨false, packed_zero, by simp [not_stopped_nil]⟩

theorem Tallied.count_eq (h : Tallied tr g) : (g.state &&& kUseCountMask).toNat = g.inside := by
  obtain ⟨flag, hpacked, _⟩ := h
  rw [kUseCountMask_eq]
  exact hpacked.and_below

theorem Tallied.count_eq_zero (h : Tallied tr g) : g.state &&& kUseCountMask = 0 ↔ g.inside = 0 := by
  rw [← h.count_eq, ← BitVec.toNat_inj]
  rfl

theorem Tallied.stopped_iff (h : Tallied tr g) : g.state &&& kUseStopped ≠ 0 ↔ Stopped tr := by
  obtain ⟨flag, hpacked, hflag⟩ := h
  rw [kUseStopped_eq, ne_eq, hpacked.and_top, Bool.not_eq_false, hflag]

/-- Setting the stop bit. -/
theorem Tallied.stop (h : Tallied tr g) :
    Tallied (tr ++ [.stopped]) { g with state := g.state ||| kUseStopped } := by
  obtain ⟨flag, hpacked, _⟩ := h
  refine ⟨true, ?_, by simp [stopped_concat]⟩
  rw [kUseStopped_eq]
  exact hpacked.or_top

/-- Overwriting the word when nobody is inside. -/
theorem tallied_resume (hinside : g.inside = 0) :
    Tallied (tr ++ [.resumed g.state]) { g with state := 0 } := by
  refine ⟨false, ?_, by simp [not_stopped_concat_resumed]⟩
  show Packed 0 false g.inside
  rw [hinside]
  exact packed_zero

theorem Tallied.append_of_quiet (h : Tallied tr g) (hquiet : ∀ e ∈ evs, e.Quiet) :
    Tallied (tr ++ evs) g := by
  obtain ⟨flag, hpacked, hflag⟩ := h
  exact ⟨flag, hpacked, hflag.trans (stopped_of_quiet hquiet).symm⟩

theorem inside_le_calls (g : UseGate) : g.inside ≤ g.calls :=
  AList.countVal_mono g.uses fun _ _ => rfl

theorem inside_try {use : Nat} {state : BitVec 64} {before : UsePhase}
    (h : g.uses.lookup use = some before) (hbefore : before ≠ .inside) :
    (g.setPhase use (.trying state)).inside = g.inside := by
  apply AList.countVal_insert_of_lookup h
  rw [beq_eq_false_iff_ne.mpr hbefore]
  rfl

theorem inside_exchange {use : Nat} {state : BitVec 64}
    (h : g.uses.lookup use = some (.trying state)) :
    (g.setPhase use .inside).inside = g.inside + 1 := by
  show (g.uses.insert use .inside).countVal (· == .inside) = g.uses.countVal (· == .inside) + 1
  simpa using AList.countVal_replace (p := (· == .inside)) (x := .inside) h

theorem inside_refuse {use : Nat} {state : BitVec 64}
    (h : g.uses.lookup use = some (.trying state)) : (g.leave use).inside = g.inside := by
  rw [UseGate.inside, UseGate.inside, AList.countVal_erase h]
  rfl

theorem inside_endUse {use : Nat} (h : g.uses.lookup use = some .inside) :
    g.inside = (g.leave use).inside + 1 :=
  AList.countVal_erase h

theorem calls_setPhase {use : Nat} {phase before : UsePhase}
    (h : g.uses.lookup use = some before) : (g.setPhase use phase).calls = g.calls :=
  AList.countVal_insert_of_lookup h rfl

theorem calls_leave {use : Nat} {phase : UsePhase} (h : g.uses.lookup use = some phase) :
    g.calls = (g.leave use).calls + 1 :=
  AList.countVal_erase h

/-- A call begins. -/
theorem inside_enter {use : Nat} (h : use ∉ g.uses) : (g.setPhase use .entered).inside = g.inside :=
  AList.countVal_insert_of_notMem h

theorem calls_enter {use : Nat} (h : use ∉ g.uses) :
    (g.setPhase use .entered).calls = g.calls + 1 :=
  AList.countVal_insert_of_notMem h

theorem Tallied.congr (h : Tallied tr g) (hstate : g'.state = g.state)
    (hinside : g'.inside = g.inside) : Tallied tr g' := by
  rw [Tallied, hstate, hinside]
  exact h

theorem useStep_quiet (hstep : UseStep g evs g') : evs.length ≤ 1 ∧ ∀ e ∈ evs, e.Quiet := by
  cases hstep with
  | exchange _ _ _ => exact ⟨Nat.le_refl 1, quiet_single ⟨rfl, id⟩⟩
  | endUse _ => exact ⟨Nat.le_refl 1, quiet_single ⟨rfl, id⟩⟩
  | _ => exact ⟨Nat.zero_le 1, fun e he => nomatch he⟩

theorem useStep_calls (hstep : UseStep g evs g') : g'.calls ≤ g.calls := by
  cases hstep with
  | load huse => exact Nat.le_of_eq (calls_setPhase huse)
  | refuse huse _ => exact Nat.le_of_lt (Nat.lt_of_lt_of_eq (Nat.lt_succ_self _) (calls_leave huse).symm)
  | exchange huse _ _ => exact Nat.le_of_eq (calls_setPhase huse)
  | retry huse _ => exact Nat.le_of_eq (calls_setPhase huse)
  | endUse huse => exact Nat.le_of_lt (Nat.lt_of_lt_of_eq (Nat.lt_succ_self _) (calls_leave huse).symm)

theorem useStep_of_call (hstep : UseStep g evs g') : g.uses ≠ ∅ := by
  intro hempty
  cases hstep with
  | _ huse =>
    rw [hempty, AList.lookup_empty] at huse
    cases huse

/-- A call goes in while the stop bit is not set. -/
theorem not_stopped_of_entered (h : Tallied tr g) (hstep : UseStep g evs g') :
    ∀ e ∈ evs, Orderly tr e := by
  cases hstep with
  | exchange _ hopen hread =>
    intro e he
    rw [List.mem_singleton.mp he]
    intro hstopped
    exact h.stopped_iff.mpr hstopped (hread ▸ hopen)
  | endUse _ =>
    exact List.forall_mem_singleton.mpr trivial
  | _ => exact fun e he => nomatch he

/-- **The count follows the calls**: one atomic operation of `beginUse` or `endUse` changes both. -/
theorem tallied_use (h : Tallied tr g) (hcalls : g.calls < kUseStopped.toNat)
    (hstep : UseStep g evs g') : Tallied (tr ++ evs) g' := by
  obtain ⟨flag, hpacked, hflag⟩ := h.append_of_quiet (useStep_quiet hstep).2
  rw [kUseStopped_eq] at hcalls
  refine ⟨flag, ?_, hflag⟩
  cases hstep with
  | load huse => exact (inside_try huse (by simp)) ▸ hpacked
  | refuse huse _ => exact (inside_refuse huse) ▸ hpacked
  | @exchange use state huse _ hread =>
    -- the caller was one of the calls, so the count stays below the stop bit
    have hbound := inside_le_calls (g.setPhase use .inside)
    rw [calls_setPhase huse, inside_exchange huse] at hbound
    show Packed (state + 1) flag (g.setPhase use .inside).inside
    rw [inside_exchange huse, ← hread]
    exact hpacked.succ (Nat.lt_of_le_of_lt hbound hcalls)
  | retry huse _ => exact (inside_try huse (by simp)) ▸ hpacked
  | @endUse use huse =>
    show Packed (g.state - 1) flag (g.leave use).inside
    rw [inside_endUse huse] at hpacked
    exact hpacked.pred

/-- While the gate is stopped nobody goes in. -/
theorem inside_use (h : Tallied tr g) (hstopped : Stopped tr) (hstep : UseStep g evs g') :
    g'.inside ≤ g.inside := by
  have horderly := not_stopped_of_entered h hstep
  cases hstep with
  | load huse => exact Nat.le_of_eq (inside_try huse (by simp))
  | refuse huse _ => exact Nat.le_of_eq (inside_refuse huse)
  | exchange _ _ _ => exact absurd hstopped (horderly _ List.mem_cons_self)
  | retry huse _ => exact Nat.le_of_eq (inside_try huse (by simp))
  | @endUse use huse =>
    show (g.leave use).inside ≤ g.inside
    rw [inside_endUse huse]
    exact Nat.le_succ _

theorem Tallied.enter (h : Tallied tr g) {use : Nat} (huse : use ∉ g.uses) :
    Tallied tr (g.setPhase use .entered) :=
  h.congr rfl (inside_enter huse)

/-- What a waiting `stopAndWait` has read: when it was a count of zero, nobody is inside. -/
def Drained (tr : List UseEvent) (g : UseGate) (state : BitVec 64) : Prop :=
  Stopped tr ∧ (state &&& kUseCountMask = 0 → g.inside = 0)

theorem Tallied.drained (h : Tallied tr g) (hstopped : Stopped tr) : Drained tr g g.state :=
  ⟨hstopped, h.count_eq_zero.mp⟩

theorem Drained.use {state : BitVec 64} (h : Drained tr g state) (htallied : Tallied tr g)
    (hstep : UseStep g evs g') : Drained (tr ++ evs) g' state := by
  refine ⟨(stopped_of_quiet (useStep_quiet hstep).2).mpr h.1, ?_⟩
  intro hstate
  have hle := inside_use htallied h.1 hstep
  rw [h.2 hstate] at hle
  exact Nat.le_zero.mp hle

theorem Drained.enter {state : BitVec 64} (h : Drained tr g state) {use : Nat}
    (huse : use ∉ g.uses) : Drained tr (g.setPhase use .entered) state := by
  refine ⟨h.1, ?_⟩
  intro hstate
  rw [inside_enter huse]
  exact h.2 hstate

theorem orderly_single {e : UseEvent} (h : Orderly tr e) :
    [e].length ≤ 1 ∧ ∀ e' ∈ [e], Orderly tr e' := by
  refine ⟨Nat.le_refl 1, ?_⟩
  intro e' he'
  rw [List.mem_singleton.mp he']
  exact h

theorem orderly_silent : ([] : List UseEvent).length ≤ 1 ∧ ∀ e ∈ [], Orderly tr e :=
  ⟨Nat.zero_le 1, fun _ he => nomatch he⟩

end Gate

/-! ### The waitable -/

section Waitable

variable {threads : Nat} {tr evs : List UseEvent} {s t : WaitableGate}

/-- The word is right, and whoever waits has stopped the gate. -/
structure WaitableTallied (threads : Nat) (tr : List UseEvent) (s : WaitableGate) : Prop where
  tallied : Tallied tr s.gate
  calls : s.gate.calls ≤ threads
  waiting : ∀ stop state, s.stops.lookup stop = some (.waiting state) → Drained tr s.gate state

/-- After a `fetch_or`, or a load, the waiting calls have what they had or what was read. -/
theorem drained_insert {g : UseGate} {stops : AList fun _ : Nat => StopPhase} {stop : Nat}
    {read : BitVec 64} (hread : Drained tr g read)
    (h : ∀ other state, stops.lookup other = some (.waiting state) → Drained tr g state) :
    ∀ other state, (stops.insert stop (.waiting read)).lookup other = some (.waiting state) →
      Drained tr g state := by
  intro other state hother
  rw [AList.lookup_insert_eq_if] at hother
  split at hother
  · obtain rfl := StopPhase.waiting.inj (Option.some.inj hother)
    exact hread
  · exact h other state hother

theorem waitableTallied_step (hthreads : threads < kUseStopped.toNat)
    (h : WaitableTallied threads tr s) (hstep : WaitableStep threads s evs t) :
    WaitableTallied threads (tr ++ evs) t := by
  cases hstep with
  | @enter use huse hfew =>
    rw [List.append_nil]
    refine ⟨h.tallied.enter huse, ?_, fun stop state hstop => (h.waiting stop state hstop).enter huse⟩
    rw [calls_enter huse]
    exact hfew
  | use huse =>
    exact ⟨tallied_use h.tallied (Nat.lt_of_le_of_lt h.calls hthreads) huse,
      Nat.le_trans (useStep_calls huse) h.calls,
      fun stop state hstop => (h.waiting stop state hstop).use h.tallied huse⟩
  | stopAndWait _ =>
    rw [List.append_nil]
    refine ⟨h.tallied, h.calls, ?_⟩
    intro stop state hstop
    rw [AList.lookup_insert_eq_if] at hstop
    split at hstop
    · cases hstop
    · exact h.waiting stop state hstop
  | fetchOr _ =>
    have htallied := h.tallied.stop
    have hstopped := stopped_concat tr
    refine ⟨htallied, h.calls, drained_insert (htallied.drained hstopped) ?_⟩
    exact fun stop state hstop => ⟨hstopped, (h.waiting stop state hstop).2⟩
  | reload hwaiting _ =>
    rw [List.append_nil]
    have hstopped := (h.waiting _ _ hwaiting).1
    exact ⟨h.tallied, h.calls, drained_insert (h.tallied.drained hstopped) h.waiting⟩
  | stopReturn _ _ =>
    have hquiet : ∀ e ∈ [UseEvent.stopReturned s.gate.inside], e.Quiet :=
      quiet_single ⟨rfl, id⟩
    refine ⟨h.tallied.append_of_quiet hquiet, h.calls, ?_⟩
    intro stop state hstop
    rw [AList.lookup_erase_eq_if] at hstop
    split at hstop
    · cases hstop
    · have hdrained := h.waiting stop state hstop
      exact ⟨(stopped_of_quiet hquiet).mpr hdrained.1, hdrained.2⟩

theorem waitableTallied (hthreads : threads < kUseStopped.toNat)
    (h : (waitableGate threads).Trace tr s) : WaitableTallied threads tr s := by
  apply h.invariant (P := WaitableTallied threads)
  · intro s hstart
    have heq : s = ⟨.initial, ∅⟩ := hstart
    rw [heq]
    refine ⟨tallied_initial, Nat.zero_le threads, ?_⟩
    intro stop state hstop
    rw [AList.lookup_empty] at hstop
    cases hstop
  · intro tr evs s t _ ih hstep
    exact waitableTallied_step hthreads ih hstep

theorem orderly_waitable (h : WaitableTallied threads tr s) (hstep : WaitableStep threads s evs t) :
    evs.length ≤ 1 ∧ ∀ e ∈ evs, Orderly tr e := by
  cases hstep with
  | use huse => exact ⟨(useStep_quiet huse).1, not_stopped_of_entered h.tallied huse⟩
  | fetchOr _ => exact orderly_single trivial
  | stopReturn hwaiting hzero => exact orderly_single ((h.waiting _ _ hwaiting).2 hzero)
  | _ => exact orderly_silent

theorem gateKept_waitable (hthreads : threads < kUseStopped.toNat)
    (h : (waitableGate threads).Trace tr s) : GateKept tr s.gate := by
  have htallied := (waitableTallied hthreads h).tallied
  refine ⟨htallied.count_eq, htallied.stopped_iff, ?_⟩
  apply h.at_single_event (P := Orderly)
  intro tr evs s t prior hstep
  exact orderly_waitable (waitableTallied hthreads prior) hstep

end Waitable

/-! ### The pipelines -/

section Pipeline

variable {threads : Nat} {tr evs : List UseEvent} {s t : PipelineGate}

/-- The gate is stopped and empty, or there are no calls at all. -/
def Still (tr : List UseEvent) (g : UseGate) : Prop :=
  (Stopped tr ∧ g.inside = 0) ∨ g.uses = ∅

theorem Still.inside_eq_zero {g : UseGate} (h : Still tr g) : g.inside = 0 := by
  rcases h with ⟨_, hinside⟩ | hempty
  · exact hinside
  · rw [UseGate.inside, hempty]
    rfl

theorem Still.use {g g' : UseGate} (h : Still tr g) (htallied : Tallied tr g)
    (hstep : UseStep g evs g') : Still (tr ++ evs) g' := by
  rcases h with ⟨hstopped, hinside⟩ | hempty
  · left
    refine ⟨(stopped_of_quiet (useStep_quiet hstep).2).mpr hstopped, ?_⟩
    have hle := inside_use htallied hstopped hstep
    rw [hinside] at hle
    exact Nat.le_zero.mp hle
  · exact absurd hempty (useStep_of_call hstep)

/-- The word is right; without a pipeline the owner finds the gate still. -/
structure PipelineTallied (threads : Nat) (tr : List UseEvent) (s : PipelineGate) : Prop where
  tallied : Tallied tr s.gate
  calls : s.gate.calls ≤ threads
  waiting : ∀ restarts state, s.owner = .waiting restarts state → Drained tr s.gate state
  resuming : s.owner = .resuming → s.pipeline = false
  still : s.pipeline = false → s.owner = .idle ∨ s.owner = .resuming → Still tr s.gate

theorem afterStop_ne_waiting (restarts restarts' : Bool) (state : BitVec 64) :
    afterStop restarts ≠ .waiting restarts' state := by
  cases restarts <;> exact nofun

theorem pipelineTallied_step (hthreads : threads < kUseStopped.toNat)
    (h : PipelineTallied threads tr s) (hstep : PipelineStep threads s evs t)
    (hcalm : ∀ e ∈ evs, Calm s e) : PipelineTallied threads (tr ++ evs) t := by
  cases hstep with
  | @enter use hpipeline huse hfew =>
    rw [List.append_nil]
    refine ⟨h.tallied.enter huse, ?_,
      fun restarts state howner => (h.waiting restarts state howner).enter huse, h.resuming, ?_⟩
    · rw [calls_enter huse]
      exact hfew
    · intro hnone
      exact absurd hpipeline (by simp [show s.pipeline = false from hnone])
  | use huse =>
    exact ⟨tallied_use h.tallied (Nat.lt_of_le_of_lt h.calls hthreads) huse,
      Nat.le_trans (useStep_calls huse) h.calls,
      fun restarts state howner => (h.waiting restarts state howner).use h.tallied huse,
      h.resuming, fun hnone howner => (h.still hnone howner).use h.tallied huse⟩
  | stop restarts howner hpipeline =>
    rw [List.append_nil]
    exact ⟨h.tallied, h.calls, nofun, nofun, fun _ hphase => nomatch hphase⟩
  | skipStop restarts howner hnone =>
    rw [List.append_nil]
    refine ⟨h.tallied, h.calls, ?_, fun _ => hnone, fun _ _ => h.still hnone (.inl howner)⟩
    exact fun _ _ hwaiting => absurd hwaiting (afterStop_ne_waiting _ _ _)
  | @fetchOr restarts howner =>
    have htallied := h.tallied.stop
    refine ⟨htallied, h.calls, ?_, nofun, fun _ hphase => nomatch hphase⟩
    intro _ _ hwaiting
    cases hwaiting
    exact htallied.drained (stopped_concat tr)
  | @reload restarts state howner _ =>
    rw [List.append_nil]
    refine ⟨h.tallied, h.calls, ?_, nofun, fun _ hphase => nomatch hphase⟩
    intro _ _ hwaiting
    cases hwaiting
    exact h.tallied.drained (h.waiting _ _ howner).1
  | @stopReturn restarts state howner hzero =>
    obtain ⟨hstopped, hinside⟩ := h.waiting _ _ howner
    have hquiet : ∀ e ∈ [UseEvent.stopReturned s.gate.inside], e.Quiet :=
      quiet_single ⟨rfl, id⟩
    refine ⟨h.tallied.append_of_quiet hquiet, h.calls, ?_, fun _ => rfl, fun _ _ => .inl ?_⟩
    · exact fun _ _ hwaiting => absurd hwaiting (afterStop_ne_waiting _ _ _)
    · exact ⟨(stopped_of_quiet hquiet).mpr hstopped, hinside hzero⟩
  | resumeCallbacks howner =>
    have hstill := h.still (h.resuming howner) (.inr howner)
    exact ⟨tallied_resume hstill.inside_eq_zero, h.calls, nofun, nofun,
      fun _ hphase => nomatch hphase⟩
  | throw howner =>
    have hempty : s.gate.uses = ∅ := hcalm _ List.mem_cons_self
    have hquiet : ∀ e ∈ [UseEvent.threw], e.Quiet := quiet_single ⟨rfl, id⟩
    exact ⟨h.tallied.append_of_quiet hquiet, h.calls, nofun, nofun, fun _ _ => .inr hempty⟩
  | register plays howner =>
    rw [List.append_nil]
    refine ⟨h.tallied, h.calls, ?_, ?_, nofun⟩
    · intro _ _ hwaiting
      cases plays <;> cases hwaiting
    · intro hresuming
      cases plays <;> cases hresuming

theorem pipelineTallied (hthreads : threads < kUseStopped.toNat)
    (h : (calmPipeline threads).Trace tr s) : PipelineTallied threads tr s := by
  apply h.invariant (P := PipelineTallied threads)
  · intro s hstart
    have heq : s = ⟨.initial, false, .idle⟩ := hstart
    rw [heq]
    exact ⟨tallied_initial, Nat.zero_le threads, nofun, fun _ => rfl, fun _ _ => .inr rfl⟩
  · intro tr evs s t _ ih hstep
    exact pipelineTallied_step hthreads ih hstep.1 hstep.2

theorem orderly_pipeline (h : PipelineTallied threads tr s)
    (hstep : PipelineStep threads s evs t) : evs.length ≤ 1 ∧ ∀ e ∈ evs, Orderly tr e := by
  cases hstep with
  | use huse => exact ⟨(useStep_quiet huse).1, not_stopped_of_entered h.tallied huse⟩
  | fetchOr _ => exact orderly_single trivial
  | stopReturn howner hzero => exact orderly_single ((h.waiting _ _ howner).2 hzero)
  | resumeCallbacks howner =>
    have hstill := h.still (h.resuming howner) (.inr howner)
    exact orderly_single (h.tallied.count_eq_zero.mpr hstill.inside_eq_zero)
  | throw _ => exact orderly_single trivial
  | _ => exact orderly_silent

theorem gateKept_pipeline (hthreads : threads < kUseStopped.toNat)
    (h : (calmPipeline threads).Trace tr s) : GateKept tr s.gate := by
  have htallied := (pipelineTallied hthreads h).tallied
  refine ⟨htallied.count_eq, htallied.stopped_iff, ?_⟩
  apply h.at_single_event (P := Orderly)
  intro tr evs s t prior hstep
  exact orderly_pipeline (pipelineTallied hthreads prior) hstep.1

end Pipeline

/-- **The gates work**: the waitable's in every run, and a pipeline's in every run in which `start`
throws before the registration only when no callback is left. -/
theorem gates_kept {threads : Nat} (hthreads : threads < kUseStopped.toNat) :
    (∀ tr s, (waitableGate threads).Trace tr s → GateKept tr s.gate) ∧
      ∀ tr s, (calmPipeline threads).Trace tr s → GateKept tr s.gate :=
  ⟨fun _ _ => gateKept_waitable hthreads, fun _ _ => gateKept_pipeline hthreads⟩

/-- A pipeline is started, and a callback goes in. -/
theorem gates_kept_started :
    ∃ tr s, (calmPipeline 2).Trace tr s ∧ tr = [.resumed 0, .entered] ∧ s.gate.inside = 1 ∧
      GateKept tr s.gate := by
  have hstart : (calmPipeline 2).Trace [] ⟨.initial, false, .idle⟩ := .start rfl
  have hstarts := hstart.step ⟨.skipStop true rfl rfl, fun e he => nomatch he⟩
  have hresumed := hstarts.step ⟨.resumeCallbacks rfl, by simp [Calm]⟩
  have hplays := hresumed.step ⟨.register true rfl, fun e he => nomatch he⟩
  have hcalled := hplays.step
    ⟨@PipelineStep.enter _ _ 0 rfl (by decide) (by decide), fun e he => nomatch he⟩
  have hloaded := hcalled.step ⟨.use (@UseStep.load _ 0 rfl), fun e he => nomatch he⟩
  have hentered := hloaded.step ⟨.use (@UseStep.exchange _ 0 _ rfl rfl rfl), by simp [Calm]⟩
  exact ⟨_, _, hentered, rfl, rfl, (gates_kept (by decide)).2 _ _ hentered⟩

/-- A callback was entered before the last `stop` returned.  `start` opens the gate and throws, the
callback goes in, and the next `start` overwrites the count; when the callback returns, the
decrement borrows from the stop bit. -/
theorem not_gateKept_overwritten :
    ∃ tr s, (pipelineGate 1).Trace tr s ∧ .resumed 1 ∈ tr ∧ s.gate.inside = 0 ∧
      s.gate.state &&& kUseStopped ≠ 0 ∧ ¬ GateKept tr s.gate := by
  have hstart : (pipelineGate 1).Trace [] ⟨.initial, false, .idle⟩ := .start rfl
  have hstarts := hstart.step (.skipStop true rfl rfl)
  have hresumed := hstarts.step (.resumeCallbacks rfl)
  have hplays := hresumed.step (.register true rfl)
  have hcalled := hplays.step (@PipelineStep.enter _ _ 0 rfl (by decide) (by decide))
  have hrestarts := hcalled.step (.stop true rfl rfl)
  have hstopped := hrestarts.step (.fetchOr rfl)
  have hreturned := hstopped.step (.stopReturn rfl (by decide))
  have hopened := hreturned.step (.resumeCallbacks rfl)
  have hthrew := hopened.step (.throw rfl)
  have hloaded := hthrew.step (.use (@UseStep.load _ 0 rfl))
  have hentered := hloaded.step (.use (@UseStep.exchange _ 0 _ rfl rfl rfl))
  have hagain := hentered.step (.skipStop true rfl rfl)
  have hoverwritten := hagain.step (.resumeCallbacks rfl)
  have hleft := hoverwritten.step (.use (@UseStep.endUse _ 0 rfl))
  refine ⟨_, _, hleft, by decide, rfl, by decide, ?_⟩
  intro hkept
  have hcount := hkept.counts
  revert hcount
  decide

end LivekitBridge
