import LivekitBridge.Services.Accounting

/-!
# Failures inside `call`

Which operation of `call` may fail without a trace?  Up to the point where the
promise moves into `inflight_calls`, every one: the reservation is given back, the
promise is set, the future is returned.  After it there is `syncWaitableLocked`,
still inside the same `try` block.  When it throws, the handler sets the promise it
no longer has, `std::future_error` leaves `call`, and the future is lost while the
call stays in flight.

`callIsAtomic_iff` is the exact condition: a call that gets as far as
`inflight_calls` must find the waitable detached or stopped, or else all of
`rcl_timer_exchange_period`, `rcl_timer_reset`, the guard condition and the on-ready
callback must succeed.  `rcl_timer_cancel` is not reached from `call`: there is a
deadline to set.
-/

namespace LivekitBridge

open Lib

/-- `call`, whole: `before` is the state at its first look at the gate, `s` the state
when it holds `state_mutex`. -/
def serviceCall (graph : AList fun _ : Str => List Str) (fx : CallEffects)
    (before s : CallerState) (promise : Nat) (requester : Str) (request : ServiceCallRequest) :
    CallerState × List CallerEvent :=
  match callPrologue before graph requester request with
  | .error what => rejectCall s promise what
  | .ok interfaceType => callLocked fx s promise requester request interfaceType

/-- The promise is one that a call has to itself: not yet made, or made by a call that
has not reached `state_mutex`. -/
def OwnPromise (s : CallerState) (promise : Nat) : Prop :=
  s.nextPromise ≤ promise ∨
    ∃ op requester request interfaceType,
      s.ops.lookup op = some (.call promise requester request interfaceType)

/-- The promise is owned by `inflight_calls`. -/
def InFlight (s : CallerState) (promise : Nat) : Prop :=
  ∃ key call, s.inflightCalls.lookup key = some call ∧ call.promise = promise

/-- A call on `s` with outcome `out` is atomic: if it is not left in flight the books
are as before and its promise is set to the failure, if it is then nothing else has set
its promise, and it returns the one future and throws nothing. -/
structure CallIsAtomic (s : CallerState) (promise : Nat) (out : CallerState × List CallerEvent) :
    Prop where
  restored : ¬ InFlight out.1 promise →
    (∀ key, out.1.inflightCalls.lookup key = s.inflightCalls.lookup key) ∧
      ∀ r, out.1.inflightCounts.lookup r = s.inflightCounts.lookup r
  delivers : ¬ InFlight out.1 promise → ∃ what, .settled promise (.failed what) ∈ out.2 ∧
    ∀ outcome, .settled promise outcome ∈ out.2 → outcome = .failed what
  owned : InFlight out.1 promise → ∀ outcome, .settled promise outcome ∉ out.2
  returns : .returned promise ∈ out.2 ∧ (∀ other, .returned other ∈ out.2 → other = promise) ∧
    ∀ what, .threw what ∉ out.2

/-- The type under which the service is called: the one that is asked for, or else the
only one in the graph. -/
def ResolvesTo (graph : AList fun _ : Str => List Str) (request : ServiceCallRequest)
    (interfaceType : Str) : Prop :=
  (request.interfaceType ≠ [] ∧ interfaceType = request.interfaceType) ∨
    (request.interfaceType = [] ∧
      requireSingleType graph request.name (lit "service") = .ok interfaceType)

/-- Everything that `call` does before it registers succeeds. -/
def ReachesRegistration (graph : AList fun _ : Str => List Str) (fx : CallEffects)
    (before s : CallerState) (requester : Str) (request : ServiceCallRequest) : Prop :=
  before.gate.isClosed = false ∧ requester ≠ [] ∧ s.gate.isClosed = false ∧
  (s.inflightCounts.lookup requester : Option Nat).getD 0 < kMaxInflightPerRequester ∧
  ∃ interfaceType client sequenceNumber, ResolvesTo graph request interfaceType ∧
    (s.cachedClients.lookup (request.name ++ lit ":" ++ interfaceType) = some client ∨
      (s.cachedClients.lookup (request.name ++ lit ":" ++ interfaceType) = none ∧
        s.cachedClients.entries.length < kMaxCachedServiceClients ∧ fx.clientCreate = .ok () ∧
        client = s.nextClient)) ∧
    fx.deserialize = .ok () ∧ fx.sendRequest = .ok sequenceNumber ∧
    s.inflightCalls.lookup ⟨client, sequenceNumber⟩ = none

/-! ### The steps of `call` -/

/-- When `call` gets to its lock. -/
theorem callPrologue_ok_iff (before : CallerState) (graph : AList fun _ : Str => List Str)
    (requester : Str) (request : ServiceCallRequest) (interfaceType : Str) :
    callPrologue before graph requester request = .ok interfaceType ↔
      before.gate.isClosed = false ∧ requester ≠ [] ∧ ResolvesTo graph request interfaceType := by
  unfold callPrologue ResolvesTo
  by_cases hclosed : before.gate.isClosed = true
  · simp [hclosed]
  · by_cases hreq : requester = []
    · simp [hclosed, hreq]
    · by_cases hty : request.interfaceType = []
      · simp [hclosed, hreq, hty]
      · simp [hclosed, hreq, hty, eq_comm]

/-- Where a client comes from: the cache, or a new one. -/
theorem getClient_ok_iff (fx : CallEffects) (s : CallerState) (service interfaceType : Str)
    (client : ClientId) :
    (getClient fx s service interfaceType).1 = .ok client ↔
      (s.cachedClients.lookup (service ++ lit ":" ++ interfaceType) = some client ∨
        (s.cachedClients.lookup (service ++ lit ":" ++ interfaceType) = none ∧
          s.cachedClients.entries.length < kMaxCachedServiceClients ∧ fx.clientCreate = .ok () ∧
          client = s.nextClient)) := by
  unfold getClient
  dsimp only
  cases hl : (s.cachedClients.lookup (service ++ lit ":" ++ interfaceType) : Option ClientId) with
  | some c => simp
  | none =>
    dsimp only
    by_cases hfull : kMaxCachedServiceClients ≤ s.cachedClients.entries.length
    · rw [if_pos hfull]
      simp [Nat.not_lt.mpr hfull]
    · rw [if_neg hfull]
      cases hc : fx.clientCreate with
      | error what => simp
      | ok u => simp [Nat.not_le.mp hfull, eq_comm]

theorem startRequest_ok_iff (fx : CallEffects) (s : CallerState) (request : ServiceCallRequest)
    (interfaceType : Str) (key : InflightKey) :
    (startRequest fx s request interfaceType).1 = .ok key ↔
      (getClient fx s request.name interfaceType).1 = .ok key.client ∧
      fx.deserialize = .ok () ∧ fx.sendRequest = .ok key.sequenceNumber := by
  unfold startRequest
  rcases getClient fx s request.name interfaceType with ⟨res, s'⟩
  cases res with
  | error what => simp
  | ok client =>
    dsimp only
    cases fx.deserialize with
    | error what => simp
    | ok u =>
      cases fx.sendRequest with
      | error what => simp
      | ok seq =>
        obtain ⟨c, n⟩ := key
        simp

theorem reachesRegistration_iff (graph : AList fun _ : Str => List Str) (fx : CallEffects)
    (before s : CallerState) (requester : Str) (request : ServiceCallRequest) :
    ReachesRegistration graph fx before s requester request ↔
      ∃ interfaceType key, callPrologue before graph requester request = .ok interfaceType ∧
        Starts fx s requester request interfaceType key := by
  constructor
  · rintro ⟨hbefore, hreq, hopen, hslot, ty, client, seq, hty, hclient, hbody, hsend, hfresh⟩
    refine ⟨ty, ⟨client, seq⟩, ?_, hopen, s.inflightCounts.insert requester
      ((s.inflightCounts.lookup requester : Option Nat).getD 0 + 1), ?_, ?_, hfresh⟩
    · exact (callPrologue_ok_iff before graph requester request ty).mpr ⟨hbefore, hreq, hty⟩
    · rw [reserveInflightSlot, if_neg (Nat.not_le.mpr hslot)]
    · rw [startRequest_ok_iff, getClient_ok_iff]
      exact ⟨hclient, hbody, hsend⟩
  · rintro ⟨ty, ⟨client, seq⟩, hpro, hopen, counts, hres, hstart, hfresh⟩
    rw [startRequest_ok_iff, getClient_ok_iff] at hstart
    obtain ⟨hclient, hbody, hsend⟩ := hstart
    obtain ⟨hbefore, hreq, hty⟩ := (callPrologue_ok_iff before graph requester request ty).mp hpro
    exact ⟨hbefore, hreq, hopen, (reserve_ok hres).1, ty, client, seq, hty, hclient, hbody, hsend,
      hfresh⟩

/-! ### Atomicity -/

theorem OwnPromise.not_inFlight {s : CallerState} {promise : Nat} (h : callerMachine.Reachable s)
    (hp : OwnPromise s promise) : ¬ InFlight s promise := by
  obtain ⟨tr, h⟩ := h
  have hbook := accounted_of_trace h
  refine (inflightOf_eq_zero_iff s.inflightCalls promise).mp ?_
  rcases hp with hnew | ⟨op, requester, request, ty, hop⟩
  · have hsum := hbook.conserved promise
    rw [if_neg (Nat.not_lt.mpr hnew)] at hsum
    omega
  · exact (hbook.pending hop).2.2.1

theorem Rejected.callIsAtomic {s : CallerState} {promise : Nat}
    {out : CallerState × List CallerEvent} (h : Rejected s promise out)
    (hfresh : ¬ InFlight s promise) : CallIsAtomic s promise out := by
  obtain ⟨what, hev⟩ := h.events
  refine ⟨fun _ => ⟨fun key => by rw [h.calls], h.counts⟩, fun _ => ⟨what, ?_⟩, ?_, ?_⟩
  · rw [hev]
    exact ⟨by simp, fun outcome hm => by simpa using hm⟩
  · rintro ⟨key, call, hl, hp⟩
    rw [h.calls] at hl
    exact absurd ⟨key, call, hl, hp⟩ hfresh
  · rw [hev]
    exact ⟨by simp, fun other hm => by simpa using hm, fun what hm => by simp at hm⟩

theorem Registers.callIsAtomic_iff_sync {fx : SyncEffects} {s : CallerState} {promise : Nat}
    {requester : Str} {key : InflightKey} {out : CallerState × List CallerEvent}
    (h : Registers fx s promise requester key out) :
    CallIsAtomic s promise out ↔ SyncSucceeds fx s := by
  constructor
  · intro hatomic
    by_contra hsync
    refine hatomic.returns.2.2 kNoAssociatedState ?_
    rw [h.throws hsync]
    simp
  · intro hsync
    obtain ⟨call, _, hp, hcalls⟩ := h.calls
    have hin : InFlight out.1 promise := ⟨key, call, by rw [hcalls, AList.lookup_insert], hp⟩
    refine ⟨fun hn => absurd hin hn, fun hn => absurd hin hn, fun _ outcome hm => ?_, ?_⟩
    · rw [h.returns hsync] at hm
      simp at hm
    · rw [h.returns hsync]
      exact ⟨by simp, fun other hm => by simpa using hm, fun what hm => by simp at hm⟩

/-- **When `call` is atomic.**  On every reachable state and for every choice of the
operations that fail: exactly when it fails before it registers the call, or the
waitable lets itself be synchronised. -/
theorem callIsAtomic_iff {s : CallerState} (h : callerMachine.Reachable s)
    (graph : AList fun _ : Str => List Str) (fx : CallEffects) (before : CallerState)
    {promise : Nat} (hp : OwnPromise s promise) (requester : Str) (request : ServiceCallRequest) :
    CallIsAtomic s promise (serviceCall graph fx before s promise requester request) ↔
      (ReachesRegistration graph fx before s requester request → SyncSucceeds fx.sync s) := by
  have hfresh := hp.not_inFlight h
  rw [reachesRegistration_iff]
  unfold serviceCall
  cases hpro : callPrologue before graph requester request with
  | error what =>
    refine ⟨fun _ => ?_, fun _ => (rejected_rejectCall s promise what).callIsAtomic hfresh⟩
    rintro ⟨ty, key, hty, _⟩
    cases hty
  | ok ty =>
    obtain ⟨tr, htrace⟩ := h
    dsimp only
    rcases callLocked_cases fx (accounted_of_trace htrace).counted promise requester request ty with
      ⟨hrej, hno⟩ | ⟨key, hstarts, hreg⟩
    · refine ⟨fun _ => ?_, fun _ => hrej.callIsAtomic hfresh⟩
      rintro ⟨ty', key, hty, hstarts⟩
      obtain rfl := Except.ok.inj hty
      exact absurd hstarts (hno key)
    · rw [hreg.callIsAtomic_iff_sync]
      exact ⟨fun hsync _ => hsync, fun hsync => hsync ⟨ty, key, rfl, hstarts⟩⟩

/-- With no failure at all `call` is atomic, whatever was in flight before. -/
theorem callIsAtomic_iff_ping :
    CallIsAtomic pingInFlight.1 1
      (serviceCall ∅ { smoothCall with sendRequest := .ok 8 } pingInFlight.1 pingInFlight.1 1
        (lit "alice") pingRequest) :=
  (callIsAtomic_iff ⟨_, trace_pingInFlight⟩ ∅ { smoothCall with sendRequest := .ok 8 }
    pingInFlight.1 (.inl (by decide)) (lit "alice") pingRequest).mpr
    fun _ => .inr (.inr ⟨rfl, rfl, rfl, rfl⟩)

/-- The guard condition of the waitable cannot be triggered. -/
def guardFails : CallEffects :=
  { smoothCall with sync := { SyncEffects.none with guardTrigger := some (lit "context is invalid") } }

/-- The first call of all throws, and is left in flight with no one to read it. -/
theorem not_callIsAtomic_guardFails :
    callerMachine.Reachable .initial ∧ OwnPromise .initial 0 ∧
      ¬ CallIsAtomic .initial 0
        (serviceCall ∅ guardFails .initial .initial 0 (lit "alice") pingRequest) := by
  refine ⟨⟨[], .start rfl⟩, .inl le_rfl, fun h => ?_⟩
  refine h.returns.2.2 kNoAssociatedState ?_
  show _ ∈ [CallerEvent.registered ⟨0, 7⟩ 0 (lit "alice"), .threw kNoAssociatedState]
  simp

end LivekitBridge
