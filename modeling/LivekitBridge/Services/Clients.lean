import LivekitBridge.Services.Accounting
import LivekitBridge.Services.Waitable
import LivekitBridge.Lib.Simulation
import Mathlib.Logic.Function.Basic

/-!
# Which client a call goes over

`getClient` keeps the rcl clients in a map, under the text that joins the name of the service and
its type.  What the state of the caller does not say is for which service and type a client was
created; `recordedMachine` is the caller with a record of that, and every run of the caller is one
of it (`exists_recorded`).

Names of services have no colon, since `services::parse` expands them; then a call in flight goes
over the client that was created for its own service and type (`clientKey_inj`), and so does the
response that settles it.
-/

namespace LivekitBridge

open Lib

/-- The key of `cached_clients`. -/
def clientKey (service interfaceType : Str) : Str := service ++ lit ":" ++ interfaceType

/-- Up to the first colon. -/
theorem takeWhile_clientKey {service : Str} (h : colon ∉ service) (interfaceType : Str) :
    (clientKey service interfaceType).takeWhile (· ≠ colon) = service := by
  induction service with
  | nil => rfl
  | cons c service ih =>
    have hne : c ≠ colon := fun heq => h (heq ▸ List.mem_cons_self)
    have hrest := ih fun hmem => h (List.mem_cons_of_mem _ hmem)
    have hcons : clientKey (c :: service) interfaceType = c :: clientKey service interfaceType := rfl
    rw [hcons, List.takeWhile_cons_of_pos (by simpa using hne), hrest]

/-- Names without a colon are kept apart. -/
theorem clientKey_inj {service service' interfaceType interfaceType' : Str} (h : colon ∉ service)
    (h' : colon ∉ service')
    (heq : clientKey service interfaceType = clientKey service' interfaceType') :
    service = service' ∧ interfaceType = interfaceType' := by
  have hservice : service = service' := by
    have hprefix := congrArg (List.takeWhile (· ≠ colon)) heq
    rwa [takeWhile_clientKey h, takeWhile_clientKey h'] at hprefix
  subst hservice
  exact ⟨rfl, List.append_cancel_left heq⟩

/-- The caller, and for which service and type each client was created. -/
structure Recorded where
  caller : CallerState
  made : ClientId → Option (Str × Str)

/-- What is recorded when a call for the service has left the caller as `t`. -/
def Recorded.after (s : Recorded) (t : CallerState) (service interfaceType : Str) :
    ClientId → Option (Str × Str) :=
  if t.nextClient = s.caller.nextClient then s.made
  else Function.update s.made s.caller.nextClient (some (service, interfaceType))

/-- A step of the caller; only a call under the lock makes a client. -/
inductive RecordedStep : Recorded → List CallerEvent → Recorded → Prop
  | call (fx : CallEffects) (op promise : Nat) (requester : Str) (request : ServiceCallRequest)
      (interfaceType : Str) (s : Recorded) :
      s.caller.ops.lookup op = some (.call promise requester request interfaceType) →
      RecordedStep s (callLocked fx s.caller promise requester request interfaceType).2
        ⟨{ (callLocked fx s.caller promise requester request interfaceType).1 with
            ops := s.caller.ops.erase op },
          s.after (callLocked fx s.caller promise requester request interfaceType).1 request.name
            interfaceType⟩
  /-- The calls that have begun have not got the lock. -/
  | other (evs : List CallerEvent) (t : CallerState) (s : Recorded) : CallerStep s.caller evs t →
      (∀ op promise requester request interfaceType,
        s.caller.ops.lookup op = some (.call promise requester request interfaceType) →
          op ∈ t.ops) →
      RecordedStep s evs ⟨t, s.made⟩

def recordedMachine : Machine Recorded CallerEvent where
  start s := s = ⟨.initial, fun _ => none⟩
  step := RecordedStep

/-! ### The clients of a section -/

section Sections

variable {s t : CallerState} {evs : List CallerEvent}

theorem Settles.nextClient (h : Settles s evs t) : t.nextClient = s.nextClient := by
  induction h with
  | refl => rfl
  | settle _ _ _ ih => exact ih

theorem drainResponses_value {responses : List TakenResponse} {p : Nat} {key : InflightKey}
    {service interfaceType payload : Str}
    (h : .settled p (.value key service interfaceType payload) ∈ (drainResponses s responses).2) :
    ∃ call, s.inflightCalls.lookup key = some call ∧ call.promise = p ∧ call.service = service ∧
      call.interfaceType = interfaceType := by
  obtain ⟨response, -, call, hcall, hpromise, houtcome⟩ := drainResponses_settled h
  split at houtcome
  · obtain ⟨rfl, rfl, rfl, -⟩ := Settlement.value.inj houtcome
    exact ⟨call, hcall, hpromise, rfl, rfl⟩
  · cases houtcome

theorem syncWaitableLocked_clients (fx : SyncEffects) (wakes : Bool) (s : CallerState) :
    (syncWaitableLocked fx wakes s).1.cachedClients = s.cachedClients ∧
      (syncWaitableLocked fx wakes s).1.nextClient = s.nextClient ∧
        (syncWaitableLocked fx wakes s).1.inflightCalls = s.inflightCalls := by
  obtain ⟨w, hw⟩ := syncWaitableLocked_keeps fx wakes s
  rw [hw]
  exact ⟨rfl, rfl, rfl⟩

/-- No client was made. -/
def KeepsClients (s t : CallerState) : Prop :=
  t.cachedClients = s.cachedClients ∧ t.nextClient = s.nextClient

/-- One client was made, for the service and type, and put in the cache. -/
def AddsClient (s : CallerState) (service interfaceType : Str) (t : CallerState) : Prop :=
  s.cachedClients.lookup (clientKey service interfaceType) = none ∧
    s.cachedClients.entries.length < kMaxCachedServiceClients ∧
    t.cachedClients = s.cachedClients.insert (clientKey service interfaceType) s.nextClient ∧
    t.nextClient = s.nextClient + 1

def TouchesClients (s : CallerState) (service interfaceType : Str) (t : CallerState) : Prop :=
  KeepsClients s t ∨ AddsClient s service interfaceType t

theorem getClient_clients (fx : CallEffects) (s : CallerState) (service interfaceType : Str) :
    TouchesClients s service interfaceType (getClient fx s service interfaceType).2 ∧
      ∀ client, (getClient fx s service interfaceType).1 = .ok client →
        (getClient fx s service interfaceType).2.cachedClients.lookup
          (clientKey service interfaceType) = some client := by
  have hkey : service ++ lit ":" ++ interfaceType = clientKey service interfaceType := rfl
  unfold getClient
  rw [hkey]
  dsimp only
  split
  · rename_i client hclient
    refine ⟨.inl ⟨rfl, rfl⟩, fun other hother => ?_⟩
    rw [← Except.ok.inj hother]
    exact hclient
  · rename_i hnone
    split
    · exact ⟨.inl ⟨rfl, rfl⟩, fun other hother => by cases hother⟩
    · rename_i hroom
      split
      · exact ⟨.inl ⟨rfl, rfl⟩, fun other hother => by cases hother⟩
      · refine ⟨.inr ⟨hnone, Nat.not_le.mp hroom, rfl, rfl⟩, fun other hother => ?_⟩
        rw [← Except.ok.inj hother]
        exact AList.lookup_insert _

theorem startRequest_clients (fx : CallEffects) (s : CallerState) (request : ServiceCallRequest)
    (interfaceType : Str) :
    TouchesClients s request.name interfaceType (startRequest fx s request interfaceType).2 ∧
      ∀ key, (startRequest fx s request interfaceType).1 = .ok key →
        (startRequest fx s request interfaceType).2.cachedClients.lookup
          (clientKey request.name interfaceType) = some key.client := by
  obtain ⟨htouches, hlookup⟩ := getClient_clients fx s request.name interfaceType
  unfold startRequest
  rcases hget : getClient fx s request.name interfaceType with ⟨result, s'⟩
  rw [hget] at htouches hlookup
  cases result with
  | error what => exact ⟨htouches, fun key hkey => by cases hkey⟩
  | ok client =>
    dsimp only
    split
    · exact ⟨htouches, fun key hkey => by cases hkey⟩
    · split
      · exact ⟨htouches, fun key hkey => by cases hkey⟩
      · refine ⟨htouches, fun key hkey => ?_⟩
        rw [← Except.ok.inj hkey]
        exact hlookup client rfl

/-- A call is registered with its own service and type, over the client that the cache has under
their key. -/
structure RegistersWith (s : CallerState) (promise : Nat) (requester : Str)
    (request : ServiceCallRequest) (interfaceType : Str) (out : CallerState × List CallerEvent)
    (key : InflightKey) (call : InflightCall) : Prop where
  calls : out.1.inflightCalls = s.inflightCalls.insert key call
  event : .registered key promise requester ∈ out.2
  client_eq : key.client = call.client
  service_eq : call.service = request.name
  type_eq : call.interfaceType = interfaceType
  promise_eq : call.promise = promise
  requester_eq : call.requester = requester
  cached : out.1.cachedClients.lookup (clientKey request.name interfaceType) = some call.client

theorem callLocked_clients (fx : CallEffects) (s : CallerState) (promise : Nat) (requester : Str)
    (request : ServiceCallRequest) (interfaceType : Str) :
    TouchesClients s request.name interfaceType
        (callLocked fx s promise requester request interfaceType).1 ∧
      ((callLocked fx s promise requester request interfaceType).1.inflightCalls = s.inflightCalls ∨
        ∃ key call, RegistersWith s promise requester request interfaceType
          (callLocked fx s promise requester request interfaceType) key call) ∧
      ∀ q outcome, .settled q outcome ∈
          (callLocked fx s promise requester request interfaceType).2 →
        ∃ what, outcome = .failed what := by
  have hfails : ∀ (t : CallerState) (what : Str) q outcome,
      .settled q outcome ∈ (rejectCall t promise what).2 → ∃ what, outcome = .failed what := by
    intro t what q outcome hmem
    unfold rejectCall at hmem
    simp at hmem
    exact ⟨what, hmem.2⟩
  unfold callLocked
  split
  · exact ⟨.inl ⟨rfl, rfl⟩, .inl rfl, hfails _ _⟩
  · split
    · exact ⟨.inl ⟨rfl, rfl⟩, .inl rfl, hfails _ _⟩
    · rename_i counts hcounts
      obtain ⟨htouches, hlookup⟩ :=
        startRequest_clients fx { s with inflightCounts := counts } request interfaceType
      obtain ⟨clients, next, hkeep⟩ :=
        startRequest_keeps fx { s with inflightCounts := counts } request interfaceType
      rcases hstart : startRequest fx { s with inflightCounts := counts } request interfaceType with
        ⟨result, s'⟩
      rw [hstart] at htouches hlookup hkeep
      dsimp only at htouches hlookup hkeep
      subst hkeep
      cases result with
      | error what => exact ⟨htouches, .inl rfl, hfails _ _⟩
      | ok key =>
        dsimp only
        split
        · exact ⟨htouches, .inl rfl, hfails _ _⟩
        · have hcached := hlookup key rfl
          -- what follows touches the waitable only
          have hsync := syncWaitableLocked_clients fx.sync true
            { s with
              inflightCounts := counts
              cachedClients := clients
              nextClient := next
              inflightCalls := s.inflightCalls.insert key
                ⟨key.client, request.name, interfaceType, requester, promise,
                  callDeadline64 fx.now request.timeout⟩ }
          obtain ⟨hclients, hnext, hcalls⟩ := hsync
          split
          all_goals
            rename_i s₃ _ heq
            rw [heq] at hclients hnext hcalls
            dsimp only at hclients hnext hcalls ⊢
            refine ⟨?_, .inr ⟨key, _, hcalls, List.mem_cons_self, rfl, rfl, rfl, rfl, rfl, ?_⟩, ?_⟩
            · unfold TouchesClients KeepsClients AddsClient at htouches ⊢
              rw [hclients, hnext]
              exact htouches
            · rw [hclients]
              exact hcached
            · intro q outcome hmem
              simp at hmem

/-- What every section but that of `call` does to clients and calls. -/
structure SettlesOnly (s : CallerState) (evs : List CallerEvent) (t : CallerState) : Prop where
  next : t.nextClient = s.nextClient
  clients : t.cachedClients = s.cachedClients ∨ t.cachedClients = ∅
  calls : ∀ key call, t.inflightCalls.lookup key = some call →
    s.inflightCalls.lookup key = some call
  values : ∀ p key service interfaceType payload,
    .settled p (.value key service interfaceType payload) ∈ evs →
      ∃ call, s.inflightCalls.lookup key = some call ∧ call.promise = p ∧ call.service = service ∧
        call.interfaceType = interfaceType

theorem settlesOnly_failMatchingCalls (shouldFail : InflightCall → Bool) (message : Str)
    (s : CallerState) :
    SettlesOnly s (failMatchingCalls shouldFail message s).2
      (failMatchingCalls shouldFail message s).1 := by
  obtain ⟨hsettles, -, hevs⟩ := failMatchingCalls_spec shouldFail message s
  refine ⟨hsettles.nextClient, .inl hsettles.shrinks.cached, hsettles.shrinks.calls, ?_⟩
  intro p key service interfaceType payload hmem
  obtain ⟨heq, -⟩ := (hevs _ _).mp hmem
  cases heq

theorem SettlesOnly.sync (h : SettlesOnly s evs t) (fx : SyncEffects) (wakes : Bool) :
    SettlesOnly s (evs ++ thrown (syncWaitableLocked fx wakes t).2)
      (syncWaitableLocked fx wakes t).1 := by
  obtain ⟨hclients, hnext, hcalls⟩ := syncWaitableLocked_clients fx wakes t
  refine ⟨hnext.trans h.next, ?_, ?_, ?_⟩
  · rw [hclients]
    exact h.clients
  · rw [hcalls]
    exact h.calls
  · intro p key service interfaceType payload hmem
    rcases List.mem_append.mp hmem with hmem | hmem
    · exact h.values p key service interfaceType payload hmem
    · unfold thrown at hmem
      split at hmem
      · cases hmem
      · simp at hmem

theorem SettlesOnly.trans {u : CallerState} {evs' : List CallerEvent} (h : SettlesOnly s evs t)
    (h' : SettlesOnly t evs' u) : SettlesOnly s (evs ++ evs') u := by
  refine ⟨h'.next.trans h.next, ?_, fun key call hcall => h.calls key call (h'.calls key call hcall), ?_⟩
  · rcases h'.clients with hsame | hempty
    · rw [hsame]
      exact h.clients
    · exact .inr hempty
  · intro p key service interfaceType payload hmem
    rcases List.mem_append.mp hmem with hmem | hmem
    · exact h.values p key service interfaceType payload hmem
    · obtain ⟨call, hcall, hrest⟩ := h'.values p key service interfaceType payload hmem
      exact ⟨call, h.calls key call hcall, hrest⟩

theorem settlesOnly_drainResponses (responses : List TakenResponse) (s : CallerState) :
    SettlesOnly s (drainResponses s responses).2 (drainResponses s responses).1 := by
  have hsettles := drainResponses_settles responses s
  exact ⟨hsettles.nextClient, .inl hsettles.shrinks.cached, hsettles.shrinks.calls,
    fun _ _ _ _ _ => drainResponses_value⟩

theorem settlesOnly_executeSection (fx : ExecuteEffects) (s : CallerState) :
    SettlesOnly s (executeSection fx s).2 (executeSection fx s).1 := by
  have hrefl : SettlesOnly s [] s :=
    ⟨rfl, .inl rfl, fun _ _ hcall => hcall, fun _ _ _ _ _ hmem => by cases hmem⟩
  unfold executeSection
  split
  · exact hrefl
  · have hdrain := settlesOnly_drainResponses fx.responses s
    dsimp only
    split
    · rename_i what hthrows
      refine ⟨hdrain.next, hdrain.clients, hdrain.calls, ?_⟩
      intro p key service interfaceType payload hmem
      rcases List.mem_append.mp hmem with hmem | hmem
      · exact hdrain.values p key service interfaceType payload hmem
      · simp at hmem
    · have hfail := hdrain.trans (settlesOnly_failMatchingCalls
        (fun call => decide (call.deadline ≤ fx.now)) (lit "Service call timed out.")
        (drainResponses s fx.responses).1)
      exact hfail.sync fx.sync false

theorem CallerStep.settlesOnly (h : CallerStep s evs t)
    (hbegun : ∀ op promise requester request interfaceType,
      s.ops.lookup op = some (.call promise requester request interfaceType) → op ∈ t.ops) :
    SettlesOnly s evs t := by
  have hrefl : ∀ evs : List CallerEvent, (∀ p outcome, .settled p outcome ∈ evs →
      ∃ what, outcome = .failed what) → SettlesOnly s evs s := by
    intro evs hevs
    refine ⟨rfl, .inl rfl, fun _ _ hcall => hcall, fun p key service interfaceType payload hmem => ?_⟩
    obtain ⟨what, heq⟩ := hevs _ _ hmem
    cases heq
  cases h with
  | callRejected graph requester request what _ hprologue =>
    have hsame := hrefl [.settled s.nextPromise (.failed what), .returned s.nextPromise]
      (by rintro p outcome hmem; simp at hmem; exact ⟨what, hmem.2⟩)
    exact ⟨rfl, .inl rfl, hsame.calls, hsame.values⟩
  | callStarted graph requester request interfaceType op _ hop hprologue =>
    have hsame := hrefl [] (by simp)
    exact ⟨rfl, .inl rfl, hsame.calls, hsame.values⟩
  | callLocked fx op promise requester request interfaceType _ hop =>
    have hgone := hbegun op promise requester request interfaceType hop
    simp at hgone
  | cancel fx requester _ =>
    unfold cancelForRequester
    split
    · exact hrefl [] (by simp)
    · exact (settlesOnly_failMatchingCalls _ _ s).sync fx true
  | executeEnter op thread _ hop hgate =>
    have hsame := hrefl [] (by simp)
    exact ⟨rfl, .inl rfl, hsame.calls, hsame.values⟩
  | executeSection fx op thread _ hop =>
    have hsection := settlesOnly_executeSection fx s
    exact ⟨hsection.next, hsection.clients, hsection.calls, hsection.values⟩
  | executeLeave op thread _ hop =>
    have hsame := hrefl [] (by simp)
    exact ⟨rfl, .inl rfl, hsame.calls, hsame.values⟩
  | shutdownClose op thread _ hop =>
    have hsame := hrefl [] (by simp)
    exact ⟨rfl, .inl rfl, hsame.calls, hsame.values⟩
  | shutdownWaited op thread _ hop hidle =>
    have hsame := hrefl [] (by simp)
    exact ⟨rfl, .inl rfl, hsame.calls, hsame.values⟩
  | shutdownDetach op thread _ hop =>
    have hsame := hrefl [] (by simp)
    exact ⟨rfl, .inl rfl, hsame.calls, hsame.values⟩
  | shutdownFail op thread _ hop =>
    have hfail := settlesOnly_failMatchingCalls (fun _ => true) (lit "Service caller shut down.") s
    refine ⟨hfail.next, .inr rfl, hfail.calls, ?_⟩
    intro p key service interfaceType payload hmem
    rcases List.mem_append.mp hmem with hmem | hmem
    · exact hfail.values p key service interfaceType payload hmem
    · simp at hmem

end Sections

/-! ### Runs -/

/-- The client was created for a service and type with the key of these. -/
def MadeFor (made : ClientId → Option (Str × Str)) (client : ClientId) (service interfaceType : Str) :
    Prop :=
  ∃ service' interfaceType', made client = some (service', interfaceType') ∧
    clientKey service' interfaceType' = clientKey service interfaceType

/-- And for these themselves, if names of services have no colon. -/
def GoesOver (made : ClientId → Option (Str × Str)) (client : ClientId)
    (service interfaceType : Str) : Prop :=
  ∃ service' interfaceType', made client = some (service', interfaceType') ∧
    clientKey service' interfaceType' = clientKey service interfaceType ∧
    (colon ∉ service → colon ∉ service' → service' = service ∧ interfaceType' = interfaceType)

theorem MadeFor.goesOver {made : ClientId → Option (Str × Str)} {client : ClientId}
    {service interfaceType : Str} (h : MadeFor made client service interfaceType) :
    GoesOver made client service interfaceType := by
  obtain ⟨service', interfaceType', hmade, hkey⟩ := h
  exact ⟨service', interfaceType', hmade, hkey,
    fun hservice hservice' => clientKey_inj hservice' hservice hkey⟩

/-- What holds of the clients of a run. -/
structure ClientBooks (tr : List CallerEvent) (s : Recorded) : Prop where
  room : s.caller.cachedClients.entries.length ≤ kMaxCachedServiceClients
  cached : ∀ key client, s.caller.cachedClients.lookup key = some client →
    client < s.caller.nextClient ∧ ∃ service interfaceType,
      s.made client = some (service, interfaceType) ∧ key = clientKey service interfaceType
  inflight : ∀ key call, s.caller.inflightCalls.lookup key = some call →
    key.client = call.client ∧ call.client < s.caller.nextClient ∧
      .registered key call.promise call.requester ∈ tr ∧
        MadeFor s.made call.client call.service call.interfaceType
  values : ∀ p key service interfaceType payload,
    .settled p (.value key service interfaceType payload) ∈ tr →
      key.client < s.caller.nextClient ∧ MadeFor s.made key.client service interfaceType

section Books

variable {tr evs : List CallerEvent} {s s' : Recorded}

/-- What was recorded stays, when a call makes a client or none. -/
theorem after_of_lt {t : CallerState} {client : ClientId} (hlt : client < s.caller.nextClient)
    (service interfaceType : Str) : s.after t service interfaceType client = s.made client := by
  unfold Recorded.after
  split
  · rfl
  · exact Function.update_of_ne (Nat.ne_of_lt hlt) ..

theorem ClientBooks.call (h : ClientBooks tr s) (fx : CallEffects) {op promise : Nat}
    {requester : Str} {request : ServiceCallRequest} {interfaceType : Str} {t : CallerState}
    (ht : t = { (callLocked fx s.caller promise requester request interfaceType).1 with
      ops := s.caller.ops.erase op }) :
    ClientBooks (tr ++ (callLocked fx s.caller promise requester request interfaceType).2)
      ⟨t, s.after t request.name interfaceType⟩ := by
  obtain ⟨htouches, hcalls, hfailed⟩ :=
    callLocked_clients fx s.caller promise requester request interfaceType
  have hnext : t.nextClient =
      (callLocked fx s.caller promise requester request interfaceType).1.nextClient := by rw [ht]
  have hclients : t.cachedClients =
      (callLocked fx s.caller promise requester request interfaceType).1.cachedClients := by rw [ht]
  have hinflight : t.inflightCalls =
      (callLocked fx s.caller promise requester request interfaceType).1.inflightCalls := by rw [ht]
  rw [TouchesClients, KeepsClients, AddsClient, ← hnext, ← hclients] at htouches
  have hle : s.caller.nextClient ≤ t.nextClient := by
    rcases htouches with ⟨-, hsame⟩ | ⟨-, -, -, hmore⟩
    · exact Nat.le_of_eq hsame.symm
    · exact Nat.le_of_lt (hmore ▸ Nat.lt_succ_self _)
  -- a client of the cache was made for its key
  have hcached : ∀ key client, t.cachedClients.lookup key = some client →
      client < t.nextClient ∧ ∃ service type,
        s.after t request.name interfaceType client = some (service, type) ∧
          key = clientKey service type := by
    intro key client hclient
    have hold : s.caller.cachedClients.lookup key = some client → client < t.nextClient ∧
        ∃ service type, s.after t request.name interfaceType client = some (service, type) ∧
          key = clientKey service type := by
      intro hclient
      obtain ⟨hlt, service, type, hmade, hkey⟩ := h.cached key client hclient
      exact ⟨Nat.lt_of_lt_of_le hlt hle, service, type, (after_of_lt hlt _ _).trans hmade, hkey⟩
    rcases htouches with ⟨hsame, -⟩ | ⟨-, -, hadds, hmore⟩
    · exact hold (hsame ▸ hclient)
    · rw [hadds, AList.lookup_insert_eq_if] at hclient
      split at hclient
      · rename_i heq
        obtain rfl := Option.some.inj hclient
        have hlt : s.caller.nextClient < t.nextClient := hmore ▸ Nat.lt_succ_self _
        refine ⟨hlt, request.name, interfaceType, ?_, heq⟩
        unfold Recorded.after
        rw [if_neg (Nat.ne_of_gt hlt), Function.update_self]
      · exact hold hclient
  refine ⟨?_, hcached, ?_, ?_⟩
  · have hroom := h.room
    dsimp only
    rcases htouches with ⟨hsame, -⟩ | ⟨hnone, hlt, hadds, -⟩
    · rwa [hsame]
    · rw [hadds, AList.entries_insert_of_notMem (AList.lookup_eq_none.mp hnone), List.length_cons]
      omega
  · intro key call hcall
    have hold : s.caller.inflightCalls.lookup key = some call →
        key.client = call.client ∧ call.client < t.nextClient ∧
          .registered key call.promise call.requester ∈
            tr ++ (callLocked fx s.caller promise requester request interfaceType).2 ∧
          MadeFor (s.after t request.name interfaceType) call.client call.service
            call.interfaceType := by
      intro hcall
      obtain ⟨hclient, hlt, hregistered, service, type, hmade, hkey⟩ := h.inflight key call hcall
      exact ⟨hclient, Nat.lt_of_lt_of_le hlt hle, List.mem_append_left _ hregistered, service, type,
        (after_of_lt hlt _ _).trans hmade, hkey⟩
    dsimp only at hcall ⊢
    rw [hinflight] at hcall
    rcases hcalls with hsame | ⟨key', call', hregisters⟩
    · exact hold (hsame ▸ hcall)
    · rw [hregisters.calls, AList.lookup_insert_eq_if] at hcall
      split at hcall
      · rename_i heq
        obtain rfl := Option.some.inj hcall
        obtain ⟨hlt, service, type, hmade, hkey⟩ :=
          hcached _ _ (hclients ▸ hregisters.cached)
        refine ⟨heq ▸ hregisters.client_eq, hlt, ?_, service, type, hmade, ?_⟩
        · rw [heq, hregisters.promise_eq, hregisters.requester_eq]
          exact List.mem_append_right _ hregisters.event
        · rw [hregisters.service_eq, hregisters.type_eq]
          exact hkey.symm
      · exact hold hcall
  · intro p key service type payload hmem
    rcases List.mem_append.mp hmem with hmem | hmem
    · obtain ⟨hlt, service', type', hmade, hkey⟩ := h.values p key service type payload hmem
      exact ⟨Nat.lt_of_lt_of_le hlt hle, service', type', (after_of_lt hlt _ _).trans hmade, hkey⟩
    · obtain ⟨what, heq⟩ := hfailed _ _ hmem
      cases heq

theorem ClientBooks.step (h : ClientBooks tr s) (hs : RecordedStep s evs s') :
    ClientBooks (tr ++ evs) s' := by
  cases hs with
  | call fx op promise requester request interfaceType _ hop => exact h.call fx rfl
  | other _ t _ hstep hbegun =>
    have hsettles := hstep.settlesOnly hbegun
    refine ⟨?_, ?_, ?_, ?_⟩
    · dsimp only
      rcases hsettles.clients with hsame | hempty
      · rw [hsame]
        exact h.room
      · rw [hempty]
        exact Nat.zero_le _
    · intro key client hclient
      dsimp only at hclient ⊢
      rcases hsettles.clients with hsame | hempty
      · rw [hsettles.next]
        exact h.cached key client (hsame ▸ hclient)
      · rw [hempty, AList.lookup_empty] at hclient
        cases hclient
    · intro key call hcall
      obtain ⟨hclient, hlt, hregistered, hmade⟩ := h.inflight key call (hsettles.calls key call hcall)
      exact ⟨hclient, hsettles.next.symm ▸ hlt, List.mem_append_left _ hregistered, hmade⟩
    · intro p key service interfaceType payload hmem
      dsimp only
      rw [hsettles.next]
      rcases List.mem_append.mp hmem with hmem | hmem
      · exact h.values p key service interfaceType payload hmem
      · obtain ⟨call, hcall, -, rfl, rfl⟩ :=
          hsettles.values p key service interfaceType payload hmem
        obtain ⟨hclient, hlt, -, hmade⟩ := h.inflight key call hcall
        rw [hclient]
        exact ⟨hlt, hmade⟩

theorem clientBooks_of_trace (h : recordedMachine.Trace tr s) : ClientBooks tr s := by
  induction h with
  | start hs =>
    rw [hs]
    refine ⟨Nat.zero_le _, ?_, ?_, ?_⟩
    · intro key client hclient
      cases hclient
    · intro key call hcall
      cases hcall
    · intro p key service interfaceType payload hmem
      cases hmem
  | step _ hs ih => exact ih.step hs

theorem cancelForRequester_ops (fx : SyncEffects) (s : CallerState) (requester : Str) :
    (cancelForRequester fx s requester).1.ops = s.ops := by
  unfold cancelForRequester
  split
  · rfl
  · obtain ⟨hsettles, -⟩ := failMatchingCalls_spec (fun call => call.requester == requester)
      (lit "Requester identity disconnected.") s
    obtain ⟨w, hw⟩ := syncWaitableLocked_keeps fx true
      (failMatchingCalls (fun call => call.requester == requester)
        (lit "Requester identity disconnected.") s).1
    dsimp only
    rw [hw]
    exact hsettles.keeps.2.1

theorem CallerStep.begun {s t : CallerState} (h : CallerStep s evs t) :
    (∃ fx op promise requester request interfaceType,
      s.ops.lookup op = some (.call promise requester request interfaceType) ∧
        evs = (LivekitBridge.callLocked fx s promise requester request interfaceType).2 ∧
        t = { (LivekitBridge.callLocked fx s promise requester request interfaceType).1 with
          ops := s.ops.erase op }) ∨
    ∀ op promise requester request interfaceType,
      s.ops.lookup op = some (.call promise requester request interfaceType) → op ∈ t.ops := by
  have hsame : ∀ op promise requester request interfaceType,
      s.ops.lookup op = some (.call promise requester request interfaceType) → op ∈ s.ops := by
    intro op promise requester request interfaceType hlookup
    exact AList.lookup_isSome.mp (by rw [hlookup]; rfl)
  have hinsert : ∀ op' (o : CallerOp) op promise requester request interfaceType,
      s.ops.lookup op = some (.call promise requester request interfaceType) →
        op ∈ s.ops.insert op' o := by
    intro op' o op promise requester request interfaceType hlookup
    rw [AList.mem_insert]
    exact .inr (hsame op promise requester request interfaceType hlookup)
  cases h with
  | callLocked fx op promise requester request interfaceType _ hop =>
    exact .inl ⟨fx, op, promise, requester, request, interfaceType, hop, rfl, rfl⟩
  | callRejected graph requester request what _ hprologue => exact .inr hsame
  | callStarted graph requester request interfaceType op _ hop hprologue => exact .inr (hinsert _ _)
  | cancel fx requester _ =>
    right
    rw [cancelForRequester_ops]
    exact hsame
  | executeEnter op thread _ hop hgate => exact .inr (hinsert _ _)
  | executeSection fx op thread _ hop => exact .inr (hinsert _ _)
  | executeLeave op thread _ hop =>
    right
    intro op' promise requester request interfaceType hlookup
    have hne : op' ≠ op := by
      rintro rfl
      rw [hop] at hlookup
      cases hlookup
    dsimp only
    rw [AList.mem_erase]
    exact ⟨hne, hsame op' promise requester request interfaceType hlookup⟩
  | shutdownClose op thread _ hop => exact .inr (hinsert _ _)
  | shutdownWaited op thread _ hop hidle => exact .inr (hinsert _ _)
  | shutdownDetach op thread _ hop => exact .inr (hinsert _ _)
  | shutdownFail op thread _ hop =>
    right
    intro op' promise requester request interfaceType hlookup
    have hne : op' ≠ op := by
      rintro rfl
      rw [hop] at hlookup
      cases hlookup
    dsimp only
    rw [AList.mem_erase]
    exact ⟨hne, hsame op' promise requester request interfaceType hlookup⟩

theorem exists_recorded {s : CallerState} (h : callerMachine.Trace tr s) :
    ∃ made, recordedMachine.Trace tr ⟨s, made⟩ := by
  induction h with
  | start hs => exact ⟨fun _ => none, .start (by rw [hs]; rfl)⟩
  | @step tr evs s t _ hs ih =>
    obtain ⟨made, htrace⟩ := ih
    rcases hs.begun with ⟨fx, op, promise, requester, request, interfaceType, hop, rfl, rfl⟩ | hbegun
    · exact ⟨_, htrace.step (.call fx op promise requester request interfaceType _ hop)⟩
    · exact ⟨made, htrace.step (.other _ _ _ hs hbegun)⟩

theorem projects_recorded : recordedMachine.Projects callerMachine Recorded.caller some := by
  refine ⟨?_, ?_⟩
  · rintro s rfl
    rfl
  · intro tr evs s t _ hs
    rw [List.filterMap_some]
    cases hs with
    | call fx op promise requester request interfaceType _ hop =>
      exact .single (.callLocked fx op promise requester request interfaceType s.caller hop)
    | other _ t _ hstep hbegun => exact .single hstep

/-- **A call goes over a client of its own service and type, and so does its response.**  In every
run of the caller: a call in flight has been registered under its key, and its client was created
for a service and type with the same key in the cache, so for its own if names of services have no
colon; a response that settles a promise came over such a client for the service and type of the
call, and its key was registered with this promise before; a response that is taken next settles
the call under its key, over such a client; and no more than `kMaxCachedServiceClients` clients are
kept. -/
theorem service_clients (h : recordedMachine.Trace tr s) :
    (∀ key call, s.caller.inflightCalls.lookup key = some call →
      key.client = call.client ∧ .registered key call.promise call.requester ∈ tr ∧
        GoesOver s.made call.client call.service call.interfaceType) ∧
    (∀ pre p key service interfaceType payload post,
      tr = pre ++ .settled p (.value key service interfaceType payload) :: post →
        (∃ requester, .registered key p requester ∈ pre) ∧
          GoesOver s.made key.client service interfaceType) ∧
    (∀ responses p outcome, .settled p outcome ∈ (drainResponses s.caller responses).2 →
      ∃ response ∈ responses, ∃ call,
        s.caller.inflightCalls.lookup response.key = some call ∧ call.promise = p ∧
          GoesOver s.made response.key.client call.service call.interfaceType) ∧
    s.caller.cachedClients.entries.length ≤ kMaxCachedServiceClients ∧
    callerMachine.Trace tr s.caller := by
  have hbooks := clientBooks_of_trace h
  refine ⟨?_, ?_, ?_, hbooks.room, projects_recorded.trace_same h⟩
  · intro key call hcall
    obtain ⟨hclient, -, hregistered, hmade⟩ := hbooks.inflight key call hcall
    exact ⟨hclient, hregistered, hmade.goesOver⟩
  · intro pre p key service interfaceType payload post heq
    refine ⟨?_, ?_⟩
    · -- the call was in flight before the step
      have hevent : ∀ pre e post, tr = pre ++ e :: post →
          ∀ p key service interfaceType payload,
            e = .settled p (.value key service interfaceType payload) →
              ∃ requester, .registered key p requester ∈ pre := by
        refine Machine.Trace.at_event (M := recordedMachine) ?_ h
        intro tr evs s t prior hs pre e post hevs p key service interfaceType payload he
        have hmem : .settled p (.value key service interfaceType payload) ∈ evs := by
          rw [hevs, ← he]
          exact List.mem_append_right _ List.mem_cons_self
        cases hs with
        | call fx op promise requester request interfaceType' _ hop =>
          obtain ⟨-, -, hfailed⟩ :=
            callLocked_clients fx s.caller promise requester request interfaceType'
          obtain ⟨what, heq⟩ := hfailed _ _ hmem
          cases heq
        | other _ t _ hstep hbegun =>
          obtain ⟨call, hcall, rfl, -⟩ :=
            (hstep.settlesOnly hbegun).values p key service interfaceType payload hmem
          obtain ⟨-, -, hregistered, -⟩ := (clientBooks_of_trace prior).inflight key call hcall
          exact ⟨call.requester, List.mem_append_left _ hregistered⟩
      exact hevent pre _ post heq p key service interfaceType payload rfl
    · have hmem : .settled p (.value key service interfaceType payload) ∈ tr := by
        rw [heq]
        exact List.mem_append_right _ List.mem_cons_self
      exact (hbooks.values p key service interfaceType payload hmem).2.goesOver
  · intro responses p outcome hm
    obtain ⟨response, hresponse, call, hcall, hpromise, -⟩ := drainResponses_settled hm
    obtain ⟨hclient, -, -, hmade⟩ := hbooks.inflight response.key call hcall
    exact ⟨response, hresponse, call, hcall, hpromise, hclient ▸ hmade.goesOver⟩

end Books

def triggerRequest : ServiceCallRequest := ⟨lit "/ping", lit "std_srvs/srv/Trigger", [1], none⟩

/-- Its response comes over the client that was created for it. -/
theorem service_clients_ping :
    ∃ s, recordedMachine.Trace
        [.registered ⟨0, 7⟩ 0 (lit "alice"), .returned 0,
          .settled 0 (.value ⟨0, 7⟩ (lit "/ping") (lit "std_srvs/srv/Trigger") [2])] s ∧
      GoesOver s.made 0 (lit "/ping") (lit "std_srvs/srv/Trigger") := by
  have h0 : callerMachine.Trace [] CallerState.initial := .start rfl
  have h1 := h0.step (CallerStep.callStarted ∅ (lit "alice") triggerRequest
    (lit "std_srvs/srv/Trigger") 0 _ (by decide) rfl)
  have h2 := h1.step (CallerStep.callLocked ⟨.ok (), .ok (), .ok 7, 100, .none⟩ 0 0 (lit "alice")
    triggerRequest (lit "std_srvs/srv/Trigger") _ rfl)
  have h3 := h2.step (CallerStep.executeEnter 0 1 _ (by decide) rfl)
  have h4 := h3.step (CallerStep.executeSection ⟨[⟨⟨0, 7⟩, .ok [2]⟩], none, 200, .none⟩ 0 1 _ rfl)
  obtain ⟨made, h⟩ := exists_recorded h4
  have hvalues := (service_clients h).2.1
  exact ⟨_, h, (hvalues [.registered ⟨0, 7⟩ 0 (lit "alice"), .returned 0] 0 ⟨0, 7⟩ (lit "/ping")
    (lit "std_srvs/srv/Trigger") [2] [] rfl).2⟩

end LivekitBridge
