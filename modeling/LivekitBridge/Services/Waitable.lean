import LivekitBridge.Services.Sections

/-!
# What the executor sees of service calls

The executor knows the calls in flight only by what was published to `ServiceWaitable`: a list of
clients, which takes effect when an execution applies it, one timer, and wakes.  Here the caller
and the executor are put together.  The executor waits, is woken, and goes through `executeReady`:
it applies the pending clients, consumes the timer if it is ready, and runs `executeWaitable`;
calls and cancellations come at any time.  A section reads the clock for itself and again in
`setDeadline`.  Operations on the timer and the guard condition succeed, taking responses does, and
the caller is not shut down.

`Observable` is the invariant.  Every section that changes what is in flight publishes it again
(`observable_of_sync`), and only `call` brings in new clients, which it does with a wake.  After an
execution the pending clients stand without a wake, and then those that were applied suffice.
-/

namespace LivekitBridge

open Lib

/-! ### The timer -/

/-- `deadline_timer_` while it is not cancelled: its period, and when it is due. -/
structure DeadlineTimer where
  period : Int
  nextCall : Int
deriving DecidableEq, Repr

/-- `setDeadline` on the timer: at least one nanosecond ahead, or cancelled. -/
def armTimer (now : Time) : Option Int → Option DeadlineTimer
  | none => none
  | some deadline =>
    let duration := max (wrap64 (deadline - now)) 1
    some ⟨duration, wrap64 (now + duration)⟩

/-- `rcl_timer_call`: one period further, and as many as it takes to pass `now`. -/
def DeadlineTimer.call (now : Time) (timer : DeadlineTimer) : DeadlineTimer :=
  let next := wrap64 (timer.nextCall + timer.period)
  if next < now then
    ⟨timer.period, wrap64 (next + (1 + (now - next - 1) / timer.period) * timer.period)⟩
  else ⟨timer.period, next⟩

/-! ### The machine -/

/-- Where the executor is. -/
inductive ExecutorStage
  | waiting
  /-- the wait has returned, and `executeReady` has not begun -/
  | woken
  /-- after `applyPendingClients` -/
  | applied
  /-- after `callReadyDeadlineTimer`, which has consumed the timer or not -/
  | timed (consumed : Bool)
deriving DecidableEq, Repr

/-- The caller, and the executor's side of `ServiceWaitable`. -/
structure ServiceState where
  caller : CallerState
  /-- `clients_` -/
  clients : List ClientId
  timer : Option DeadlineTimer
  /-- how many wakes the executor has seen -/
  delivered : Nat
  stage : ExecutorStage
  clock : Time

/-- A caller that was just constructed, and an executor that waits. -/
def ServiceState.initial : ServiceState := ⟨.initial, [], none, 0, .waiting, 0⟩

/-- What a section of `call` finds outside. -/
structure CallInput where
  clientCreate : Except Str Unit
  deserialize : Except Str Unit
  sendRequest : Except Str Int
  now : Time

/-- With operations on the waitable that succeed. -/
def CallInput.effects (input : CallInput) : CallEffects :=
  ⟨input.clientCreate, input.deserialize, input.sendRequest, input.now, .none⟩

/-- What one thread does next. -/
inductive ServiceAct
  /-- `call`, up to `state_mutex` -/
  | call (graph : AList fun _ : Str => List Str) (requester : Str) (request : ServiceCallRequest)
      (op : Nat)
  /-- `call`, under `state_mutex`; `armed` is the time that `setDeadline` reads -/
  | locked (input : CallInput) (armed : Time) (op : Nat)
  | cancel (requester : Str) (armed : Time)
  /-- The wait returns, and has seen the guard condition or not. -/
  | wakeUp (seen : Bool)
  /-- `applyPendingClients` -/
  | applyClients
  /-- `callReadyDeadlineTimer` -/
  | callTimer (now : Time)
  /-- The section of `executeWaitable`. -/
  | execute (responses : List TakenResponse) (now armed : Time)

namespace ServiceState

variable (s : ServiceState)

/-- The clients that are pending, else those that were applied. -/
def clientSet : List ClientId := s.caller.waitable.pendingClients.getD s.clients

/-- The state after a section; a section that wakes has set the deadline. -/
def afterSection (armed : Time) (caller : CallerState) : ServiceState :=
  { s with
    caller := caller
    timer :=
      if caller.waitable.wakes = s.caller.waitable.wakes then s.timer
      else armTimer armed caller.waitable.deadline
    clock := armed }

/-- One step, if it can be taken. -/
def perform : ServiceAct → Option ServiceState
  | .call graph requester request op =>
    match callPrologue s.caller graph requester request with
    | .error _ => some { s with caller.nextPromise := s.caller.nextPromise + 1 }
    | .ok interfaceType =>
      if op ∈ s.caller.ops then none
      else
        some
          { s with
            caller.nextPromise := s.caller.nextPromise + 1
            caller.ops :=
              s.caller.ops.insert op (.call s.caller.nextPromise requester request interfaceType) }
  | .locked input armed op =>
    match (s.caller.ops.lookup op : Option CallerOp) with
    | some (.call promise requester request interfaceType) =>
      if input.now < s.clock ∨ armed < input.now then none
      else
        some (s.afterSection armed
          { (callLocked input.effects s.caller promise requester request interfaceType).1 with
            ops := s.caller.ops.erase op })
    | _ => none
  | .cancel requester armed =>
    if armed < s.clock then none
    else some (s.afterSection armed (cancelForRequester .none s.caller requester).1)
  | .wakeUp seen =>
    if s.stage = .waiting then
      some
        { s with
          delivered := if seen then s.caller.waitable.wakes else s.delivered
          stage := .woken }
    else none
  | .applyClients =>
    if s.stage = .woken then
      some
        { s with
          clients := s.clientSet
          caller.waitable.pendingClients := none
          stage := .applied }
    else none
  | .callTimer now =>
    if s.stage = .applied ∧ s.clock ≤ now then
      match s.timer with
      | none => some { s with stage := .timed false, clock := now }
      | some timer =>
        if timer.nextCall ≤ now then
          some { s with timer := some (timer.call now), stage := .timed true, clock := now }
        else some { s with stage := .timed false, clock := now }
    else none
  | .execute responses now armed =>
    match s.stage with
    | .timed _ =>
      if now < s.clock ∨ armed < now then none
      else
        let caller := (executeSection ⟨responses, none, now, .none⟩ s.caller).1
        some
          { s with
            caller := caller
            timer := armTimer armed caller.waitable.deadline
            stage := .waiting
            clock := armed }
    | _ => none

end ServiceState

/-- The clients in `cached_clients`. -/
def cachedIds (s : CallerState) : List ClientId := s.cachedClients.entries.map (·.2)

/-- The waitable is there and the gate is open. -/
structure Live (s : CallerState) : Prop where
  gate : s.gate.isClosed = false
  attached : s.waitable.isAttached = true
  running : s.waitable.isStopped = false

theorem Live.congr {s t : CallerState} (h : Live s) (hgate : t.gate = s.gate)
    (hattached : t.waitable.isAttached = s.waitable.isAttached)
    (hrunning : t.waitable.isStopped = s.waitable.isStopped) : Live t where
  gate := by rw [hgate, h.gate]
  attached := hattached.trans h.attached
  running := hrunning.trans h.running

/-- The cache has the client of every call in flight, and has its bound. -/
structure ClientsHeld (s : CallerState) : Prop where
  live : Live s
  held : ∀ key call, s.inflightCalls.lookup key = some call → call.client ∈ cachedIds s
  bounded : s.cachedClients.entries.length ≤ kMaxCachedServiceClients

/-- What settling calls leaves alone, and that it brings no call in. -/
structure Shrinks (s t : CallerState) : Prop where
  calls : ∀ key call, t.inflightCalls.lookup key = some call → s.inflightCalls.lookup key = some call
  waitable : t.waitable = s.waitable
  cached : t.cachedClients = s.cachedClients
  gate : t.gate = s.gate

theorem Shrinks.trans {s t u : CallerState} (h : Shrinks s t) (h' : Shrinks t u) : Shrinks s u where
  calls key call hl := h.calls key call (h'.calls key call hl)
  waitable := h'.waitable.trans h.waitable
  cached := h'.cached.trans h.cached
  gate := h'.gate.trans h.gate

theorem Settles.shrinks {s t : CallerState} {evs : List CallerEvent} (h : Settles s evs t) :
    Shrinks s t := by
  induction h with
  | refl s => exact ⟨fun _ _ hl => hl, rfl, rfl, rfl⟩
  | @settle s t evs key call outcome _ _ _ ih =>
    have hfirst : Shrinks s (LivekitBridge.settle s key call outcome).1 := by
      refine ⟨?_, rfl, rfl, rfl⟩
      intro k c hl
      have hl' : (s.inflightCalls.erase key).lookup k = some c := hl
      rw [AList.lookup_erase_eq_if] at hl'
      split at hl'
      · cases hl'
      · exact hl'
    exact hfirst.trans ih

theorem Shrinks.keeps {s t : CallerState} (h : Shrinks s t) (hs : ClientsHeld s) : ClientsHeld t where
  live := hs.live.congr h.gate (by rw [h.waitable]) (by rw [h.waitable])
  held := by
    intro key call hl
    rw [cachedIds, h.cached]
    exact hs.held key call (h.calls key call hl)
  bounded := by
    rw [h.cached]
    exact hs.bounded

/-- **What `syncWaitableLocked` publishes** when its operations succeed. -/
theorem syncWaitableLocked_live {s : CallerState} (h : Live s) (wakes : Bool) :
    syncWaitableLocked .none wakes s =
      ({ s with
          waitable :=
            { s.waitable with
              pendingClients := some (cachedIds s)
              deadline := earliestDeadline s.inflightCalls
              wakes := if wakes then s.waitable.wakes + 1 else s.waitable.wakes } }, none) := by
  have hattached := h.attached
  have hrunning := h.running
  rw [syncWaitableLocked, if_neg (by simp [hattached, hrunning])]
  cases hd : earliestDeadline s.inflightCalls with
  | none =>
    cases wakes with
    | true => rfl
    | false => rfl
  | some d =>
    cases wakes with
    | true => rfl
    | false => rfl

theorem getClient_cached (fx : CallEffects) {s : CallerState} (h : ClientsHeld s)
    (service interfaceType : Str) :
    ClientsHeld (getClient fx s service interfaceType).2 ∧
      ∀ client, (getClient fx s service interfaceType).1 = .ok client →
        client ∈ cachedIds (getClient fx s service interfaceType).2 := by
  rw [getClient]
  cases hl : (s.cachedClients.lookup (service ++ lit ":" ++ interfaceType) : Option ClientId) with
  | some client =>
    refine ⟨h, ?_⟩
    intro client' hc
    obtain rfl := Except.ok.inj hc
    exact List.mem_map.mpr ⟨_, AList.mem_lookup_iff.mp hl, rfl⟩
  | none =>
    dsimp only
    by_cases hfull : kMaxCachedServiceClients ≤ s.cachedClients.entries.length
    · rw [if_pos hfull]
      exact ⟨h, fun client hc => by cases hc⟩
    · rw [if_neg hfull]
      cases fx.clientCreate with
      | error what => exact ⟨h, fun client hc => by cases hc⟩
      | ok _ =>
        -- the new client is the first entry
        have hentries := AList.entries_insert_of_notMem (b := s.nextClient)
          (AList.lookup_eq_none.mp hl)
        refine ⟨⟨h.live.congr rfl rfl rfl, ?_, ?_⟩, ?_⟩
        · intro key call hcall
          rw [cachedIds, hentries, List.map_cons]
          exact List.mem_cons_of_mem _ (h.held key call hcall)
        · rw [hentries, List.length_cons]
          exact Nat.lt_of_not_le hfull
        · intro client hc
          obtain rfl := Except.ok.inj hc
          rw [cachedIds, hentries, List.map_cons]
          exact List.mem_cons_self

theorem startRequest_cached (fx : CallEffects) {s : CallerState} (h : ClientsHeld s)
    (request : ServiceCallRequest) (interfaceType : Str) :
    ClientsHeld (startRequest fx s request interfaceType).2 ∧
      ∀ key, (startRequest fx s request interfaceType).1 = .ok key →
        key.client ∈ cachedIds (startRequest fx s request interfaceType).2 := by
  obtain ⟨hcached, hclient⟩ := getClient_cached fx h request.name interfaceType
  rw [startRequest]
  rcases hget : getClient fx s request.name interfaceType with ⟨res, s'⟩
  rw [hget] at hcached hclient
  cases res with
  | error what => exact ⟨hcached, fun key hk => by cases hk⟩
  | ok client =>
    dsimp only
    cases fx.deserialize with
    | error what => exact ⟨hcached, fun key hk => by cases hk⟩
    | ok _ =>
      dsimp only
      cases fx.sendRequest with
      | error what => exact ⟨hcached, fun key hk => by cases hk⟩
      | ok sequenceNumber =>
        refine ⟨hcached, ?_⟩
        intro key hk
        obtain rfl := Except.ok.inj hk
        exact hclient client rfl

/-- **What `call` does under the lock**, as the executor will see it: nothing, or the call comes in
with its client in the cache and everything is published with a wake. -/
theorem callLocked_cached (input : CallInput) {s : CallerState} (h : ClientsHeld s) (promise : Nat)
    (requester : Str) (request : ServiceCallRequest) (interfaceType : Str) :
    (ClientsHeld (callLocked input.effects s promise requester request interfaceType).1 ∧
      (callLocked input.effects s promise requester request interfaceType).1.waitable = s.waitable ∧
      (callLocked input.effects s promise requester request interfaceType).1.inflightCalls =
        s.inflightCalls) ∨
    ∃ t, (callLocked input.effects s promise requester request interfaceType).1 =
        (syncWaitableLocked .none true t).1 ∧ ClientsHeld t ∧ t.waitable = s.waitable := by
  rw [callLocked, if_neg (by simp [h.live.gate])]
  cases reserveInflightSlot s.inflightCounts requester with
  | error what => exact .inl ⟨h, rfl, rfl⟩
  | ok counts =>
    dsimp only
    have hcounts : ClientsHeld { s with inflightCounts := counts } :=
      ⟨h.live.congr rfl rfl rfl, h.held, h.bounded⟩
    obtain ⟨clients, next, hkeep⟩ :=
      startRequest_keeps input.effects { s with inflightCounts := counts } request interfaceType
    obtain ⟨hcached, hclient⟩ := startRequest_cached input.effects hcounts request interfaceType
    rcases hstart : startRequest input.effects { s with inflightCounts := counts } request
      interfaceType with ⟨res, s₁⟩
    rw [hstart] at hkeep hcached hclient
    dsimp only at hkeep hcached hclient
    subst hkeep
    -- the counts that the reservation leaves are not looked at
    have hreleased : ∀ counts', ClientsHeld
        { s with cachedClients := clients, inflightCounts := counts', nextClient := next } :=
      fun _ => ⟨h.live.congr rfl rfl rfl, hcached.held, hcached.bounded⟩
    cases res with
    | error what => exact .inl ⟨hreleased _, rfl, rfl⟩
    | ok key =>
      dsimp only
      by_cases hdup : (s.inflightCalls.lookup key).isSome = true
      · rw [if_pos hdup]
        exact .inl ⟨hreleased _, rfl, rfl⟩
      · rw [if_neg hdup]
        refine .inr ⟨{ s with
          cachedClients := clients
          inflightCalls := s.inflightCalls.insert key
            ⟨key.client, request.name, interfaceType, requester, promise,
              callDeadline64 input.effects.now request.timeout⟩
          inflightCounts := counts
          nextClient := next }, ?_, ?_, rfl⟩
        · split
          · rename_i hsync
            exact (congrArg Prod.fst hsync).symm
          · rename_i hsync
            exact (congrArg Prod.fst hsync).symm
        · refine ⟨h.live.congr rfl rfl rfl, ?_, hcached.bounded⟩
          intro k call hl
          dsimp only at hl
          rw [AList.lookup_insert_eq_if] at hl
          split at hl
          · obtain rfl := Option.some.inj hl
            exact hclient key rfl
          · exact hcached.held k call hl

/-! ### The invariant -/

/-- What the executor can see is enough. -/
structure Observable (s : ServiceState) : Prop where
  cached : ClientsHeld s.caller
  published : ∀ key call, s.caller.inflightCalls.lookup key = some call → call.client ∈ s.clientSet
  seen : s.delivered ≤ s.caller.waitable.wakes
  /-- With no wake on its way, the clients that were applied suffice. -/
  applied : s.delivered = s.caller.waitable.wakes → s.stage ≠ .woken →
    ∀ key call, s.caller.inflightCalls.lookup key = some call → call.client ∈ s.clients
  armed : s.timer = none ↔ s.caller.inflightCalls = ∅
  earliest : s.stage ≠ .timed true → ∀ d, earliestDeadline s.caller.inflightCalls = some d →
    ∃ t ≤ s.clock, s.timer = armTimer t (some d)

theorem armTimer_eq_none {now : Time} {deadline : Option Int} :
    armTimer now deadline = none ↔ deadline = none := by
  cases deadline with
  | none => exact ⟨fun _ => rfl, fun _ => rfl⟩
  | some d => exact ⟨fun h => (by cases h), fun h => (by cases h)⟩

/-- **A section that publishes** makes everything in flight observable: with a wake, or else with
the clients that were applied. -/
theorem observable_of_sync {c : CallerState} (hc : ClientsHeld c) (wakes : Bool)
    {clients : List ClientId} {delivered : Nat} {stage : ExecutorStage} {armed : Time}
    (hseen : delivered ≤ c.waitable.wakes)
    (happlied : wakes = false → delivered = c.waitable.wakes →
      ∀ key call, c.inflightCalls.lookup key = some call → call.client ∈ clients) :
    Observable ⟨(syncWaitableLocked .none wakes c).1, clients,
      armTimer armed (earliestDeadline c.inflightCalls), delivered, stage, armed⟩ := by
  rw [syncWaitableLocked_live hc.live]
  refine ⟨⟨hc.live.congr rfl rfl rfl, hc.held, hc.bounded⟩, hc.held, ?_, ?_,
    armTimer_eq_none.trans earliestDeadline_eq_none_iff, ?_⟩
  · dsimp only
    split
    · exact Nat.le_succ_of_le hseen
    · exact hseen
  · intro hdelivered _
    dsimp only at hdelivered
    cases wakes with
    | true =>
      rw [if_pos rfl] at hdelivered
      omega
    | false => exact happlied rfl hdelivered
  · intro _ d hd
    exact ⟨armed, Nat.le_refl armed, congrArg (armTimer armed) hd⟩

/-- The operations that are in progress are not looked at. -/
theorem Observable.books {s : ServiceState} (h : Observable s) (ops : AList fun _ : Nat => CallerOp)
    (nextPromise : Nat) :
    Observable { s with caller := { s.caller with ops := ops, nextPromise := nextPromise } } :=
  ⟨⟨h.cached.live.congr rfl rfl rfl, h.cached.held, h.cached.bounded⟩, h.published, h.seen,
    h.applied, h.armed, h.earliest⟩

/-- A section that changes neither what is in flight nor the waitable keeps the invariant. -/
theorem Observable.quiet {s : ServiceState} (h : Observable s) {c : CallerState} (hc : ClientsHeld c)
    (hwaitable : c.waitable = s.caller.waitable)
    (hcalls : c.inflightCalls = s.caller.inflightCalls) {armed : Time} (hclock : s.clock ≤ armed) :
    Observable (s.afterSection armed c) := by
  have htimer : (s.afterSection armed c).timer = s.timer := if_pos (by rw [hwaitable])
  have hset : (s.afterSection armed c).clientSet = s.clientSet := by
    show c.waitable.pendingClients.getD s.clients = _
    rw [hwaitable]
    rfl
  refine ⟨hc, ?_, ?_, ?_, ?_, ?_⟩
  · intro key call hl
    rw [hset]
    exact h.published key call (hcalls ▸ hl)
  · show s.delivered ≤ c.waitable.wakes
    rw [hwaitable]
    exact h.seen
  · intro hdelivered hstage key call hl
    refine h.applied ?_ hstage key call (hcalls ▸ hl)
    rw [← hwaitable]
    exact hdelivered
  · rw [htimer]
    show s.timer = none ↔ c.inflightCalls = ∅
    rw [hcalls]
    exact h.armed
  · intro hstage d hd
    obtain ⟨t, ht, heq⟩ := h.earliest hstage d (hcalls ▸ hd)
    exact ⟨t, Nat.le_trans ht hclock, htimer.trans heq⟩

/-- A section that publishes with a wake keeps the invariant. -/
theorem Observable.woken {s : ServiceState} (h : Observable s) {c : CallerState} (hc : ClientsHeld c)
    (hwaitable : c.waitable = s.caller.waitable) (armed : Time) :
    Observable (s.afterSection armed (syncWaitableLocked .none true c).1) := by
  have hobs : Observable ⟨(syncWaitableLocked .none true c).1, s.clients,
      armTimer armed (earliestDeadline c.inflightCalls), s.delivered, s.stage, armed⟩ := by
    refine observable_of_sync hc true ?_ fun hf => by cases hf
    rw [hwaitable]
    exact h.seen
  have htimer : (s.afterSection armed (syncWaitableLocked .none true c).1).timer =
      armTimer armed (earliestDeadline c.inflightCalls) := by
    rw [syncWaitableLocked_live hc.live]
    refine if_neg ?_
    dsimp only
    rw [if_pos rfl, hwaitable]
    omega
  have heq : s.afterSection armed (syncWaitableLocked .none true c).1 =
      ⟨(syncWaitableLocked .none true c).1, s.clients,
        armTimer armed (earliestDeadline c.inflightCalls), s.delivered, s.stage, armed⟩ := by
    rw [← htimer]
    rfl
  rw [heq]
  exact hobs

/-! ### Every run -/

namespace Observable

variable {s t : ServiceState}

theorem call (h : Observable s) {graph : AList fun _ : Str => List Str} {requester : Str}
    {request : ServiceCallRequest} {op : Nat}
    (hs : s.perform (.call graph requester request op) = some t) : Observable t := by
  rw [ServiceState.perform] at hs
  cases hpro : callPrologue s.caller graph requester request with
  | error what =>
    rw [hpro] at hs
    obtain rfl := Option.some.inj hs
    exact h.books s.caller.ops _
  | ok interfaceType =>
    rw [hpro] at hs
    dsimp only at hs
    split at hs
    · cases hs
    · obtain rfl := Option.some.inj hs
      exact h.books _ _

theorem locked (h : Observable s) {input : CallInput} {armed : Time} {op : Nat}
    (hs : s.perform (.locked input armed op) = some t) : Observable t := by
  rw [ServiceState.perform] at hs
  split at hs
  · rename_i promise requester request interfaceType _
    split at hs
    · cases hs
    · rename_i hclock
      obtain rfl := Option.some.inj hs
      have hobs : Observable (s.afterSection armed
          (callLocked input.effects s.caller promise requester request interfaceType).1) := by
        rcases callLocked_cached input h.cached promise requester request interfaceType with
          ⟨hcached, hwaitable, hcalls⟩ | ⟨c, heq, hcached, hwaitable⟩
        · obtain ⟨hnow, harmed⟩ := not_or.mp hclock
          exact h.quiet hcached hwaitable hcalls (Nat.le_trans (Nat.not_lt.mp hnow)
            (Nat.not_lt.mp harmed))
        · rw [heq]
          exact h.woken hcached hwaitable armed
      exact hobs.books _ _
  · cases hs

theorem cancel (h : Observable s) {requester : Str} {armed : Time}
    (hs : s.perform (.cancel requester armed) = some t) : Observable t := by
  rw [ServiceState.perform] at hs
  split at hs
  · cases hs
  · rename_i hclock
    obtain rfl := Option.some.inj hs
    rw [cancelForRequester]
    split
    · exact h.quiet h.cached rfl rfl (Nat.not_lt.mp hclock)
    · have hshrinks := (failMatchingCalls_spec (fun call => call.requester == requester)
        (lit "Requester identity disconnected.") s.caller).1.shrinks
      exact h.woken (hshrinks.keeps h.cached) hshrinks.waitable armed

theorem wakeUp (h : Observable s) {seen : Bool} (hs : s.perform (.wakeUp seen) = some t) :
    Observable t := by
  rw [ServiceState.perform] at hs
  split at hs
  · rename_i hstage
    obtain rfl := Option.some.inj hs
    refine ⟨h.cached, h.published, ?_, fun _ hw => absurd rfl hw, h.armed, ?_⟩
    · dsimp only
      split
      · exact Nat.le_refl _
      · exact h.seen
    · intro _
      exact h.earliest (by rw [hstage]; decide)
  · cases hs

theorem applyClients (h : Observable s) (hs : s.perform .applyClients = some t) : Observable t := by
  rw [ServiceState.perform] at hs
  split at hs
  · rename_i hstage
    obtain rfl := Option.some.inj hs
    refine ⟨⟨h.cached.live.congr rfl rfl rfl, h.cached.held, h.cached.bounded⟩, h.published,
      h.seen, fun _ _ => h.published, h.armed, ?_⟩
    intro _
    exact h.earliest (by rw [hstage]; decide)
  · cases hs

theorem callTimer (h : Observable s) {now : Time} (hs : s.perform (.callTimer now) = some t) :
    Observable t := by
  rw [ServiceState.perform] at hs
  split at hs
  · rename_i hcond
    obtain ⟨hstage, hclock⟩ := hcond
    have happlied : s.delivered = s.caller.waitable.wakes → ∀ key call,
        s.caller.inflightCalls.lookup key = some call → call.client ∈ s.clients :=
      fun hd => h.applied hd (by rw [hstage]; decide)
    -- a timer that is not consumed stays as it was
    have hearliest : ∀ d, earliestDeadline s.caller.inflightCalls = some d →
        ∃ t ≤ now, s.timer = armTimer t (some d) := by
      intro d hd
      obtain ⟨t, ht, heq⟩ := h.earliest (by rw [hstage]; decide) d hd
      exact ⟨t, Nat.le_trans ht hclock, heq⟩
    split at hs
    · obtain rfl := Option.some.inj hs
      exact ⟨h.cached, h.published, h.seen, fun hd _ => happlied hd, h.armed, fun _ => hearliest⟩
    · rename_i timer htimer
      split at hs
      · obtain rfl := Option.some.inj hs
        refine ⟨h.cached, h.published, h.seen, fun hd _ => happlied hd, ?_, fun hc => absurd rfl hc⟩
        constructor
        · intro hn
          cases hn
        · intro hn
          rw [h.armed.mpr hn] at htimer
          cases htimer
      · obtain rfl := Option.some.inj hs
        exact ⟨h.cached, h.published, h.seen, fun hd _ => happlied hd, h.armed, fun _ => hearliest⟩
  · cases hs

theorem execute (h : Observable s) {responses : List TakenResponse} {now armed : Time}
    (hs : s.perform (.execute responses now armed) = some t) : Observable t := by
  rw [ServiceState.perform] at hs
  split at hs
  · rename_i consumed hstage
    split at hs
    · cases hs
    · obtain rfl := Option.some.inj hs
      -- the responses, then the timeouts, settle calls
      have hdrain := (drainResponses_settles responses s.caller).shrinks
      have hfail := (failMatchingCalls_spec (fun call => decide (call.deadline ≤ now))
        (lit "Service call timed out.") (drainResponses s.caller responses).1).1.shrinks
      have hshrinks := hdrain.trans hfail
      have hcached := hshrinks.keeps h.cached
      rw [executeSection, if_neg (by simp [h.cached.live.gate])]
      have hdeadline := congrArg (fun out => out.1.waitable.deadline)
        (syncWaitableLocked_live hcached.live false)
      dsimp only at hdeadline ⊢
      rw [hdeadline]
      refine observable_of_sync hcached false ?_ ?_
      · rw [hshrinks.waitable]
        exact h.seen
      · intro _ hdelivered key call hl
        rw [hshrinks.waitable] at hdelivered
        exact h.applied hdelivered (by rw [hstage]; simp) key call (hshrinks.calls key call hl)
  · cases hs

theorem perform (h : Observable s) {act : ServiceAct} (hs : s.perform act = some t) :
    Observable t := by
  cases act with
  | call => exact h.call hs
  | locked => exact h.locked hs
  | cancel => exact h.cancel hs
  | wakeUp => exact h.wakeUp hs
  | applyClients => exact h.applyClients hs
  | callTimer => exact h.callTimer hs
  | execute => exact h.execute hs

end Observable

end LivekitBridge
