import LivekitBridge.Leases.DataTrack
import LivekitBridge.Lib.Machine
import LivekitBridge.Utils.Chrono

/-!
# The service caller

`ros_service_caller.cpp`.  A client's service call becomes a request on an rcl
client and an entry of `inflight_calls`, which then owns the promise behind the
future that `call` returned.  The entry goes when a response arrives, when its
deadline passes, when its requester disconnects, or at shutdown; a requester may
have four calls in flight, counted in `inflight_counts`.

What happens under `state_mutex` is one step.  `call` has a part before it (the
first look at the gate, the type of the service), so that a shutdown can come
between the two; `executeWaitable` and `shutdown` are split at the points where
the callback gate and the waitable are touched.  Which rcl operation fails is
handed to each step.

A promise is a number, and so is the address of an rcl client; both are new for
each object.
-/

namespace LivekitBridge

open Lib

/-! ### Data -/

/-- `ServiceCallRequest`; the timeout is in milliseconds. -/
structure ServiceCallRequest where
  name : Str
  interfaceType : Str
  payload : Str
  timeout : Option Int
deriving DecidableEq, Repr

/-- The address of a `ServiceClient`. -/
abbrev ClientId := Nat

structure InflightKey where
  client : ClientId
  sequenceNumber : Int
deriving DecidableEq, Repr

structure InflightCall where
  client : ClientId
  service : Str
  interfaceType : Str
  requester : Str
  promise : Nat
  deadline : Int
deriving DecidableEq, Repr

/-- What a promise is set to. -/
inductive Settlement
  /-- `set_value`, from the response with this key -/
  | value (key : InflightKey) (service interfaceType payload : Str)
  /-- `set_exception`, from a response with this key that could not be serialised -/
  | conversionFailed (key : InflightKey) (what : Str)
  /-- `set_exception` -/
  | failed (what : Str)
deriving DecidableEq, Repr

/-- What a step did. -/
inductive CallerEvent
  /-- `inflight_calls` took the promise over. -/
  | registered (key : InflightKey) (promise : Nat) (requester : Str)
  | settled (promise : Nat) (outcome : Settlement)
  /-- `call` returned the future of this promise. -/
  | returned (promise : Nat)
  /-- An exception left a public call. -/
  | threw (what : Str)
  /-- A call of `shutdown` returned. -/
  | shutDown
deriving DecidableEq, Repr

/-- `ServiceWaitable`, as far as the caller sets it: the pointer, the stop bit of
`use_state_`, the clients to wait on, the armed deadline timer, the wakes. -/
structure Waitable where
  isAttached : Bool
  isStopped : Bool
  pendingClients : Option (List ClientId)
  deadline : Option Int
  wakes : Nat
deriving DecidableEq, Repr

/-- `CallbackGate`, exclusive: whether it is closed, and the thread inside. -/
structure Gate where
  isClosed : Bool
  active : Option Nat
deriving DecidableEq, Repr

/-- How far a `shutdown` is. -/
inductive ShutdownStage
  /-- in `closeAndWait`, the gate closed -/
  | waiting
  /-- before `detachWaitable` -/
  | detaching
  /-- before the last section -/
  | failing
deriving DecidableEq, Repr

/-- A public call that has begun and has not returned. -/
inductive CallerOp
  /-- `call`, before it takes `state_mutex` -/
  | call (promise : Nat) (requester : Str) (request : ServiceCallRequest) (interfaceType : Str)
  /-- `executeWaitable`, inside the gate; `isDone` after its section -/
  | execute (thread : Nat) (isDone : Bool)
  | shutdown (thread : Nat) (stage : ShutdownStage)
deriving DecidableEq, Repr

/-- The promise that a call in progress owns. -/
def CallerOp.promise? : CallerOp → Option Nat
  | .call promise _ _ _ => some promise
  | .execute _ _ => none
  | .shutdown _ _ => none

abbrev InflightCalls := AList fun _ : InflightKey => InflightCall

abbrev InflightCounts := AList fun _ : Str => Nat

structure CallerState where
  gate : Gate
  waitable : Waitable
  cachedClients : AList fun _ : Str => ClientId
  inflightCalls : InflightCalls
  inflightCounts : InflightCounts
  ops : AList fun _ : Nat => CallerOp
  nextClient : ClientId
  nextPromise : Nat

/-- The state of a caller that was just constructed. -/
def CallerState.initial : CallerState where
  gate := ⟨false, none⟩
  waitable := ⟨true, false, none, none, 0⟩
  cachedClients := ∅
  inflightCalls := ∅
  inflightCounts := ∅
  ops := ∅
  nextClient := 0
  nextPromise := 0

/-- `kDefaultTimeout`, in milliseconds -/
def kDefaultTimeout : Int := 2000

def kMaxInflightPerRequester : Nat := 4

def kMaxCachedServiceClients : Nat := 256

def kInflightLimitReachedError : Str := lit "Requester identity service call limit reached."

/-! ### Slots -/

def reserveInflightSlot (counts : InflightCounts) (requester : Str) : Except Str InflightCounts :=
  let current := (counts.lookup requester : Option Nat).getD 0
  if kMaxInflightPerRequester ≤ current then .error kInflightLimitReachedError
  else .ok (counts.insert requester (current + 1))

def releaseInflightSlot (counts : InflightCounts) (requester : Str) : InflightCounts :=
  match (counts.lookup requester : Option Nat) with
  | none => counts
  | some count => if count ≤ 1 then counts.erase requester else counts.insert requester (count - 1)

/-! ### Settling -/

/-- `settle`: set the promise, release the slot, erase the entry. -/
def settle (s : CallerState) (key : InflightKey) (call : InflightCall) (outcome : Settlement) :
    CallerState × List CallerEvent :=
  ({ s with
      inflightCalls := s.inflightCalls.erase key
      inflightCounts := releaseInflightSlot s.inflightCounts call.requester },
    [.settled call.promise outcome])

/-- The loop of `failMatchingCalls` over entries of `inflight_calls`. -/
def failCalls (shouldFail : InflightCall → Bool) (message : Str) :
    CallerState → List (Sigma fun _ : InflightKey => InflightCall) → CallerState × List CallerEvent
  | s, [] => (s, [])
  | s, ⟨key, call⟩ :: entries =>
    if shouldFail call then
      let (s₁, evs₁) := settle s key call (.failed message)
      let (s₂, evs₂) := failCalls shouldFail message s₁ entries
      (s₂, evs₁ ++ evs₂)
    else failCalls shouldFail message s entries

def failMatchingCalls (shouldFail : InflightCall → Bool) (message : Str) (s : CallerState) :
    CallerState × List CallerEvent :=
  failCalls shouldFail message s s.inflightCalls.entries

/-- One response that `take_type_erased_response` returned, with what its
serialisation gives. -/
structure TakenResponse where
  key : InflightKey
  payload : Except Str Str

/-- `drainResponses`: the responses of all cached clients, in the order they are
taken.  A response whose key is not in flight is dropped. -/
def drainResponses : CallerState → List TakenResponse → CallerState × List CallerEvent
  | s, [] => (s, [])
  | s, response :: responses =>
    match (s.inflightCalls.lookup response.key : Option InflightCall) with
    | none => drainResponses s responses
    | some call =>
      let outcome :=
        match response.payload with
        | .ok payload => Settlement.value response.key call.service call.interfaceType payload
        | .error what =>
          .conversionFailed response.key (lit "Failed to convert service response: " ++ what)
      let (s₁, evs₁) := settle s response.key call outcome
      let (s₂, evs₂) := drainResponses s₁ responses
      (s₂, evs₁ ++ evs₂)

/-! ### The waitable -/

/-- Which operation of `syncWaitableLocked` throws, and what. -/
structure SyncEffects where
  timerCancel : Option Str
  timerExchangePeriod : Option Str
  timerReset : Option Str
  guardTrigger : Option Str
  /-- the executor's on-ready callback, if one is set -/
  onReady : Option Str

/-- No operation throws. -/
def SyncEffects.none : SyncEffects := ⟨.none, .none, .none, .none, .none⟩

def earliestDeadline (calls : InflightCalls) : Option Int :=
  calls.entries.foldl (fun earliest e =>
    match earliest with
    | none => some e.2.deadline
    | some d => if e.2.deadline < d then some e.2.deadline else some d) none

def setDeadline (fx : SyncEffects) (w : Waitable) (deadline : Option Int) : Waitable × Option Str :=
  match deadline with
  | none =>
    match fx.timerCancel with
    | some what => (w, some (lit "Failed to cancel service deadline timer: " ++ what))
    | none => ({ w with deadline := none }, none)
  | some d =>
    match fx.timerExchangePeriod with
    | some what => (w, some (lit "Failed to update service deadline timer period: " ++ what))
    | none =>
      match fx.timerReset with
      | some what => (w, some (lit "Failed to reset service deadline timer: " ++ what))
      | none => ({ w with deadline := some d }, none)

def wake (fx : SyncEffects) (w : Waitable) : Waitable × Option Str :=
  match fx.guardTrigger with
  | some what => (w, some what)
  | none => ({ w with wakes := w.wakes + 1 }, fx.onReady)

/-- `syncWaitableLocked`; the second component is what it throws.  On a stopped
waitable every `beginUse` fails and nothing is done. -/
def syncWaitableLocked (fx : SyncEffects) (wakes : Bool) (s : CallerState) :
    CallerState × Option Str :=
  if s.waitable.isAttached = false ∨ s.waitable.isStopped = true then (s, none)
  else
    let w := { s.waitable with pendingClients := some (s.cachedClients.entries.map (·.2)) }
    match setDeadline fx w (earliestDeadline s.inflightCalls) with
    | (w, some what) => ({ s with waitable := w }, some what)
    | (w, none) =>
      if wakes then ({ s with waitable := (wake fx w).1 }, (wake fx w).2)
      else ({ s with waitable := w }, none)

/-! ### `call` -/

/-- What happens outside while `call` is under `state_mutex`. -/
structure CallEffects where
  /-- the type support and the rcl client of a service that is not cached -/
  clientCreate : Except Str Unit
  deserialize : Except Str Unit
  /-- `rcl_send_request`: the sequence number -/
  sendRequest : Except Str Int
  now : Time
  sync : SyncEffects

/-- `call` before it takes `state_mutex`: the interface type, or what the promise is
set to. -/
def callPrologue (s : CallerState) (graph : AList fun _ : Str => List Str) (requester : Str)
    (request : ServiceCallRequest) : Except Str Str :=
  if s.gate.isClosed then .error (lit "Service caller is shut down.")
  else if requester = [] then .error (lit "requester_identity is required")
  else if request.interfaceType = [] then requireSingleType graph request.name (lit "service")
  else .ok request.interfaceType

def getClient (fx : CallEffects) (s : CallerState) (service interfaceType : Str) :
    Except Str ClientId × CallerState :=
  let key := service ++ lit ":" ++ interfaceType
  match (s.cachedClients.lookup key : Option ClientId) with
  | some client => (.ok client, s)
  | none =>
    if kMaxCachedServiceClients ≤ s.cachedClients.entries.length then
      (.error (lit "Service client cache limit reached."), s)
    else
      match fx.clientCreate with
      | .error what => (.error what, s)
      | .ok _ =>
        (.ok s.nextClient,
          { s with
            cachedClients := s.cachedClients.insert key s.nextClient
            nextClient := s.nextClient + 1 })

/-- The part of `call` that starts the request: client, body, `rcl_send_request`. -/
def startRequest (fx : CallEffects) (s : CallerState) (request : ServiceCallRequest)
    (interfaceType : Str) : Except Str InflightKey × CallerState :=
  match getClient fx s request.name interfaceType with
  | (.error what, s') => (.error (lit "Failed creating service client: " ++ what), s')
  | (.ok client, s') =>
    match fx.deserialize with
    | .error what => (.error (lit "Failed to build service request: " ++ what), s')
    | .ok _ =>
      match fx.sendRequest with
      | .error what => (.error (lit "failed to send request: " ++ what), s')
      | .ok sequenceNumber => (.ok ⟨client, sequenceNumber⟩, s')

/-- The timeout that `RosServiceCaller::call` uses, in milliseconds. -/
def effectiveTimeout (timeout : Option Int) : Int :=
  match timeout with
  | some ms => if 0 < ms then ms else kDefaultTimeout
  | none => kDefaultTimeout

/-- `steady_clock::now() + timeout` -/
def callDeadline64 (now : Int) (timeout : Option Int) : Int :=
  wrap64 (now + toNanoseconds (effectiveTimeout timeout))

/-- The handler of `call` for an exception that is thrown while `call` still owns the
promise. -/
def rejectCall (s : CallerState) (promise : Nat) (what : Str) : CallerState × List CallerEvent :=
  (s, [.settled promise (.failed what), .returned promise])

/-- `std::future_error`, which `set_exception` throws on a promise that was moved
from. -/
def kNoAssociatedState : Str := lit "std::future_error: No associated state"

/-- `call` from the moment it holds `state_mutex`. -/
def callLocked (fx : CallEffects) (s : CallerState) (promise : Nat) (requester : Str)
    (request : ServiceCallRequest) (interfaceType : Str) : CallerState × List CallerEvent :=
  if s.gate.isClosed then rejectCall s promise (lit "Service caller is shut down.")
  else
    match reserveInflightSlot s.inflightCounts requester with
    | .error what => rejectCall s promise what
    | .ok counts =>
      match startRequest fx { s with inflightCounts := counts } request interfaceType with
      | (.error what, s₁) =>
        -- the reservation goes out of scope
        rejectCall { s₁ with inflightCounts := releaseInflightSlot s₁.inflightCounts requester }
          promise what
      | (.ok key, s₁) =>
        if (s₁.inflightCalls.lookup key).isSome then
          rejectCall { s₁ with inflightCounts := releaseInflightSlot s₁.inflightCounts requester }
            promise (lit "Duplicate pending service call key.")
        else
          let call : InflightCall :=
            ⟨key.client, request.name, interfaceType, requester, promise,
              callDeadline64 fx.now request.timeout⟩
          let s₂ := { s₁ with inflightCalls := s₁.inflightCalls.insert key call }
          match syncWaitableLocked fx.sync true s₂ with
          | (s₃, none) => (s₃, [.registered key promise requester, .returned promise])
          | (s₃, some _) =>
            -- the promise has been moved into `inflight_calls`: the handler's
            -- `set_exception` throws in turn
            (s₃, [.registered key promise requester, .threw kNoAssociatedState])

/-! ### The other sections -/

/-- The events of a section whose last act is a `syncWaitableLocked`. -/
def thrown : Option Str → List CallerEvent
  | none => []
  | some what => [.threw what]

def cancelForRequester (fx : SyncEffects) (s : CallerState) (requester : Str) :
    CallerState × List CallerEvent :=
  if requester = [] then (s, [])
  else
    let (s₁, evs) := failMatchingCalls (fun call => call.requester == requester)
      (lit "Requester identity disconnected.") s
    let (s₂, exc) := syncWaitableLocked fx true s₁
    (s₂, evs ++ thrown exc)

/-- What happens outside while `executeWaitable` holds `state_mutex`: the responses
that are taken, what a failing take throws, the time of the timeouts. -/
structure ExecuteEffects where
  responses : List TakenResponse
  takeThrows : Option Str
  now : Time
  sync : SyncEffects

/-- The section of `executeWaitable`. -/
def executeSection (fx : ExecuteEffects) (s : CallerState) : CallerState × List CallerEvent :=
  if s.gate.isClosed then (s, [])
  else
    let (s₁, evs₁) := drainResponses s fx.responses
    match fx.takeThrows with
    | some what => (s₁, evs₁ ++ [.threw what])
    | none =>
      let (s₂, evs₂) := failMatchingCalls (fun call => decide (call.deadline ≤ fx.now))
        (lit "Service call timed out.") s₁
      let (s₃, exc) := syncWaitableLocked fx.sync false s₂
      (s₃, evs₁ ++ evs₂ ++ thrown exc)

/-- The last section of `shutdown`. -/
def failAllCalls (s : CallerState) : CallerState × List CallerEvent :=
  let (s₁, evs) := failMatchingCalls (fun _ => true) (lit "Service caller shut down.") s
  ({ s₁ with cachedClients := ∅ }, evs)

/-! ### Runs of the caller -/

/-- One step of one thread. -/
inductive CallerStep : CallerState → List CallerEvent → CallerState → Prop
  | callRejected (graph : AList fun _ : Str => List Str) (requester : Str)
      (request : ServiceCallRequest) (what : Str) (s : CallerState) :
      callPrologue s graph requester request = .error what →
      CallerStep s [.settled s.nextPromise (.failed what), .returned s.nextPromise]
        { s with nextPromise := s.nextPromise + 1 }
  | callStarted (graph : AList fun _ : Str => List Str) (requester : Str)
      (request : ServiceCallRequest) (interfaceType : Str) (op : Nat) (s : CallerState) :
      op ∉ s.ops → callPrologue s graph requester request = .ok interfaceType →
      CallerStep s []
        { s with
          nextPromise := s.nextPromise + 1
          ops := s.ops.insert op (.call s.nextPromise requester request interfaceType) }
  | callLocked (fx : CallEffects) (op promise : Nat) (requester : Str)
      (request : ServiceCallRequest) (interfaceType : Str) (s : CallerState) :
      s.ops.lookup op = some (.call promise requester request interfaceType) →
      CallerStep s (callLocked fx s promise requester request interfaceType).2
        { (callLocked fx s promise requester request interfaceType).1 with ops := s.ops.erase op }
  | cancel (fx : SyncEffects) (requester : Str) (s : CallerState) :
      CallerStep s (cancelForRequester fx s requester).2 (cancelForRequester fx s requester).1
  | executeEnter (op thread : Nat) (s : CallerState) :
      op ∉ s.ops → s.gate = ⟨false, none⟩ →
      CallerStep s []
        { s with gate := ⟨false, some thread⟩, ops := s.ops.insert op (.execute thread false) }
  | executeSection (fx : ExecuteEffects) (op thread : Nat) (s : CallerState) :
      s.ops.lookup op = some (.execute thread false) →
      CallerStep s (executeSection fx s).2
        { (executeSection fx s).1 with ops := s.ops.insert op (.execute thread true) }
  | executeLeave (op thread : Nat) (s : CallerState) :
      s.ops.lookup op = some (.execute thread true) →
      CallerStep s [] { s with gate := { s.gate with active := none }, ops := s.ops.erase op }
  | shutdownClose (op thread : Nat) (s : CallerState) :
      op ∉ s.ops →
      CallerStep s []
        { s with
          gate := { s.gate with isClosed := true }
          ops := s.ops.insert op (.shutdown thread .waiting) }
  | shutdownWaited (op thread : Nat) (s : CallerState) :
      s.ops.lookup op = some (.shutdown thread .waiting) →
      (s.gate.active = none ∨ s.gate.active = some thread) →
      CallerStep s [] { s with ops := s.ops.insert op (.shutdown thread .detaching) }
  | shutdownDetach (op thread : Nat) (s : CallerState) :
      s.ops.lookup op = some (.shutdown thread .detaching) →
      CallerStep s []
        { s with
          waitable := { s.waitable with isAttached := false, isStopped := true }
          ops := s.ops.insert op (.shutdown thread .failing) }
  | shutdownFail (op thread : Nat) (s : CallerState) :
      s.ops.lookup op = some (.shutdown thread .failing) →
      CallerStep s ((failAllCalls s).2 ++ [.shutDown])
        { (failAllCalls s).1 with ops := s.ops.erase op }

def callerMachine : Machine CallerState CallerEvent where
  start s := s = .initial
  step := CallerStep

end LivekitBridge
