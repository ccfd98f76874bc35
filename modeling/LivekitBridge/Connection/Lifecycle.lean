import LivekitBridge.Connection.MediaTracks
import LivekitBridge.Connection.State
import LivekitBridge.Lib.Simulation
import LivekitBridge.Text

/-!
# The life of the room connection

`room_connection.cpp`: `start` and `stop`, the connection task between them, the delegate's
handlers, and the RPC methods that are registered with the room's participant.
`Connection.State` and `Connection.MediaTracks` follow single members of the class through one
connection; here it is started and stopped any number of times.

`start` and `stop` come from one thread, as they do from the runtime: two calls of `stop` at once
would join one thread twice.  RPC methods are registered and unregistered by any thread at any time,
and the SDK calls the delegate of a room from when it is set until it is cleared; a handler that
the SDK has called may come to its section much later.

A room is numbered when the task creates it.  The SDK keeps the handlers that are registered with a
room's participant (`RpcRegistry`), and may refuse a call (`RpcAnswers`); a participant that is gone
does not come back, and goes between sections only.
-/

namespace LivekitBridge

open Lib

/-- `registerRpcMethod` and `unregisterRpcMethod` of the SDK, when they return: a method is answered
by the handler that was registered for it last. -/
class RpcRegistry (H : Type) where
  registerRpcMethod : (AList fun _ : Str => H) → Str → H → AList fun _ : Str => H
  unregisterRpcMethod : (AList fun _ : Str => H) → Str → AList fun _ : Str => H
  lookup_register : ∀ methods method handler other,
    (registerRpcMethod methods method handler).lookup other =
      if other = method then some handler else methods.lookup other
  lookup_unregister : ∀ methods method other,
    (unregisterRpcMethod methods method).lookup other =
      if other = method then none else methods.lookup other

/-- A `livekit::Room` and its participant, with the RPC methods registered there. -/
structure SdkRoom (H : Type) where
  delegate : Bool
  participant : Bool
  methods : AList fun _ : Str => H

/-- Whether `unregisterRpcMethod` and `registerRpcMethod` return. -/
structure RpcAnswers where
  unregisters : Bool
  registers : Bool

/-- Where the connection task is. -/
inductive TaskPlace
  /-- before `livekit::initialize()` -/
  | initializing
  /-- before the section of `run` -/
  | initialized
  /-- in `connectRoom`, with the delegate set -/
  | connecting (room : Nat)
  /-- before the section that reads `stop_requested_` -/
  | checking (room : Nat)
  /-- before `activateRoom` -/
  | activating (room : Nat)
  /-- before the section of `detachRoom` -/
  | detaching
  /-- in `detachRoom`, with the room taken out -/
  | releasing (room : Option Nat)
  /-- before the section of `transitionState(Connected)` -/
  | transitioning
  /-- before the callback of `transitionState` -/
  | reporting
  /-- `run` returned. -/
  | finished
deriving DecidableEq, Repr

/-- Where `stop` is. -/
inductive StopPlace
  /-- before `connect_task_.join()` returns -/
  | joining
  /-- before the section of `detachRoom` -/
  | detaching
  /-- in `detachRoom`, with the room taken out -/
  | releasing (room : Option Nat)
  /-- before the section that clears the callbacks -/
  | clearing
  /-- before `livekit::shutdown()` -/
  | shuttingDown
deriving DecidableEq, Repr

/-- What the SDK calls the delegate with, as far as there is a callback for it. -/
inductive RoomEvent
  | state (event : SdkEvent)
  | userPacket
  /-- The participant has an identity; without one the handler does nothing. -/
  | participantDisconnected
deriving DecidableEq, Repr

/-- Where a handler of the delegate is. -/
inductive HandlerPlace
  | idle
  /-- before its section -/
  | handling (event : RoomEvent)
  /-- before the callback that it copied -/
  | calling (event : RoomEvent)
deriving DecidableEq, Repr

/-- `SdkRoomConnection`, the calls it is in, and the SDK behind it. -/
structure RoomLife (H : Type) where
  /-- `connect_task_`, if it is joinable. -/
  task : Option TaskPlace
  stopping : Option StopPlace
  stopRequested : Bool
  sdkInitialized : Bool
  state : ConnectionState
  room : Option Nat
  roomGeneration : Nat
  /-- `callbacks_` are those of a `start`. -/
  callbacks : Bool
  rpcHandlers : AList fun _ : Str => H
  handlers : ThreadId → HandlerPlace
  rooms : Nat → SdkRoom H
  created : Nat
  /-- The SDK was initialized and not shut down. -/
  sdkUp : Bool

/-- What is seen of a run; `answered` has what a call to the SDK about a method came to. -/
inductive LifeEvent
  | initialized
  | shutdown
  | activated (room roomGeneration : Nat)
  | answered (method : Str) (accepted : Bool)
  | detached
  | calledBack (event : RoomEvent)
deriving DecidableEq, Repr

variable {H : Type} [RpcRegistry H]

namespace SdkRoom

/-- The two calls of `registerRpcLocked`. -/
def register (room : SdkRoom H) (method : Str) (handler : H) (answers : RpcAnswers) : SdkRoom H :=
  let methods :=
    if answers.unregisters then RpcRegistry.unregisterRpcMethod room.methods method
    else room.methods
  { room with
    methods :=
      if answers.registers then RpcRegistry.registerRpcMethod methods method handler else methods }

/-- The call of `unregisterRpc`. -/
def unregister (room : SdkRoom H) (method : Str) (accepts : Bool) : SdkRoom H :=
  if accepts then { room with methods := RpcRegistry.unregisterRpcMethod room.methods method }
  else room

end SdkRoom

namespace RoomLife

variable (c : RoomLife H)

/-- A connection that was never started. -/
def initial : RoomLife H :=
  ⟨none, none, false, false, .disconnected, none, 0, false, ∅, fun _ => .idle,
    fun _ => ⟨false, false, ∅⟩, 0, false⟩

def setRoom (number : Nat) (room : SdkRoom H) : RoomLife H :=
  { c with rooms := Function.update c.rooms number room }

def setHandler (thread : ThreadId) (place : HandlerPlace) : RoomLife H :=
  { c with handlers := Function.update c.handlers thread place }

/-- `lockedLocalParticipant(room_)`: the room, if it has a participant. -/
def participantRoom : Option Nat := c.room.filter fun room => (c.rooms room).participant

def start : RoomLife H :=
  if c.task.isSome then c
  else
    { c with
      callbacks := true
      stopRequested := false
      state := .disconnected
      task := some .initializing }

/-- The section of `run`, and the beginning of `connectRoom`. -/
def runSection : RoomLife H :=
  if c.stopRequested then { c with sdkInitialized := true, task := some .finished }
  else
    { c.setRoom c.created ⟨true, false, ∅⟩ with
      sdkInitialized := true
      created := c.created + 1
      task := some (.connecting c.created) }

/-- The end of `connectRoom`: a room that is connected and has a participant, or none. -/
def connectRoom (room : Nat) (connects : Bool) : RoomLife H :=
  if connects then
    { c.setRoom room { c.rooms room with participant := true } with task := some (.checking room) }
  else
    { c.setRoom room { c.rooms room with delegate := false } with task := some .finished }

/-- The section that reads `stop_requested_`. -/
def checkStop (room : Nat) : RoomLife H :=
  if c.stopRequested then
    { c.setRoom room { c.rooms room with delegate := false } with task := some .finished }
  else { c with task := some (.activating room) }

/-- `registerRpcLocked`, with its result. -/
def registerRpcLocked (method : Str) (answers : RpcAnswers) : RoomLife H × List LifeEvent × Bool :=
  match c.participantRoom, (c.rpcHandlers.lookup method : Option H) with
  | some room, some handler =>
    (c.setRoom room ((c.rooms room).register method handler answers),
      [.answered method answers.registers], answers.registers)
  | _, _ => (c, [], true)

/-- The loop of `activateRoom`. -/
def registerAll (answers : Str → RpcAnswers) : List Str → RoomLife H → RoomLife H × List LifeEvent × Bool
  | [], c => (c, [], true)
  | method :: methods, c =>
    let (c, evs, registered) := c.registerRpcLocked method (answers method)
    let (c, evs', allRegistered) := registerAll answers methods c
    (c, evs ++ evs', registered && allRegistered)

/-- `activateRoom`, and where the task goes on. -/
def activateRoom (room : Nat) (answers : Str → RpcAnswers) : RoomLife H × List LifeEvent :=
  let active := { c with roomGeneration := c.roomGeneration + 1, room := some room }
  let (c, evs, registered) := registerAll answers c.rpcHandlers.keys active
  ({ c with task := some (if registered then .transitioning else .detaching) },
    .activated room active.roomGeneration :: evs)

/-- The section of `detachRoom`. -/
def detachRoom : RoomLife H :=
  { c with
    room := none
    roomGeneration := if c.room.isSome then c.roomGeneration + 1 else c.roomGeneration
    state := .disconnected }

/-- The end of `detachRoom`. -/
def releaseRoom : Option Nat → RoomLife H
  | none => c
  | some room => c.setRoom room { c.rooms room with delegate := false }

/-- The section of `stop` that clears the callbacks. -/
def clear : RoomLife H :=
  { c with
    callbacks := false
    state := .disconnected
    sdkInitialized := false
    stopping := if c.sdkInitialized then some .shuttingDown else none }

def registerRpc (method : Str) (handler : H) (answers : RpcAnswers) :
    RoomLife H × List LifeEvent × Bool :=
  { c with rpcHandlers := c.rpcHandlers.insert method handler }.registerRpcLocked method answers

def unregisterRpc (method : Str) (accepts : Bool) : RoomLife H × List LifeEvent × Bool :=
  let c := { c with rpcHandlers := c.rpcHandlers.erase method }
  match c.participantRoom with
  | none => (c, [], true)
  | some room =>
    (c.setRoom room ((c.rooms room).unregister method accepts), [.answered method accepts], accepts)

/-- The section of a handler, and where it goes on. -/
def handle (event : RoomEvent) : RoomLife H × HandlerPlace :=
  let next := if c.callbacks then .calling event else .idle
  match event with
  | .state sdk => if c.state = sdk.state then (c, .idle) else ({ c with state := sdk.state }, next)
  | .userPacket => if c.state = .disconnected then (c, .idle) else (c, next)
  | .participantDisconnected => if c.state ≠ .connected then (c, .idle) else (c, next)

end RoomLife

/-- One section, or one call of the SDK. -/
inductive LifeStep : RoomLife H → List LifeEvent → RoomLife H → Prop
  | start (c : RoomLife H) : c.stopping = none → LifeStep c [] c.start
  | initializeSdk (succeeds : Bool) (c : RoomLife H) : c.task = some .initializing →
      LifeStep c (if succeeds then [.initialized] else [])
        { c with
          sdkUp := c.sdkUp || succeeds
          task := some (if succeeds then .initialized else .finished) }
  | runSection (c : RoomLife H) : c.task = some .initialized → LifeStep c [] c.runSection
  | connectRoom (room : Nat) (connects : Bool) (c : RoomLife H) :
      c.task = some (.connecting room) → LifeStep c [] (c.connectRoom room connects)
  | checkStop (room : Nat) (c : RoomLife H) : c.task = some (.checking room) →
      LifeStep c [] (c.checkStop room)
  | activateRoom (room : Nat) (answers : Str → RpcAnswers) (c : RoomLife H) :
      c.task = some (.activating room) →
      LifeStep c (c.activateRoom room answers).2 (c.activateRoom room answers).1
  | detachRoom (c : RoomLife H) : c.task = some .detaching →
      LifeStep c [.detached] { c.detachRoom with task := some (.releasing c.room) }
  | releaseRoom (room : Option Nat) (c : RoomLife H) : c.task = some (.releasing room) →
      LifeStep c [] { c.releaseRoom room with task := some .finished }
  | transitionState (c : RoomLife H) : c.task = some .transitioning →
      LifeStep c []
        { c with
          state := .connected
          task := some (if c.state ≠ .connected && c.callbacks then .reporting else .finished) }
  | report (c : RoomLife H) : c.task = some .reporting →
      LifeStep c [.calledBack (.state .reconnected)] { c with task := some .finished }
  | requestStop (c : RoomLife H) : c.stopping = none → c.task.isSome = true →
      LifeStep c [] { c with stopRequested := true, stopping := some .joining }
  | join (c : RoomLife H) : c.stopping = some .joining → c.task = some .finished →
      LifeStep c [] { c with task := none, stopping := some .detaching }
  | stopDetach (c : RoomLife H) : c.stopping = some .detaching →
      LifeStep c [.detached] { c.detachRoom with stopping := some (.releasing c.room) }
  | stopRelease (room : Option Nat) (c : RoomLife H) : c.stopping = some (.releasing room) →
      LifeStep c [] { c.releaseRoom room with stopping := some .clearing }
  | clear (c : RoomLife H) : c.stopping = some .clearing → LifeStep c [] c.clear
  | shutdown (c : RoomLife H) : c.stopping = some .shuttingDown →
      LifeStep c [.shutdown] { c with sdkUp := false, stopping := none }
  | registerRpc (method : Str) (handler : H) (answers : RpcAnswers) (c : RoomLife H) :
      LifeStep c (c.registerRpc method handler answers).2.1 (c.registerRpc method handler answers).1
  | unregisterRpc (method : Str) (accepts : Bool) (c : RoomLife H) :
      LifeStep c (c.unregisterRpc method accepts).2.1 (c.unregisterRpc method accepts).1
  | loseParticipant (room : Nat) (c : RoomLife H) :
      LifeStep c [] (c.setRoom room { c.rooms room with participant := false })
  | deliver (thread : ThreadId) (room : Nat) (event : RoomEvent) (c : RoomLife H) :
      c.handlers thread = .idle → (c.rooms room).delegate = true →
      LifeStep c [] (c.setHandler thread (.handling event))
  | handle (thread : ThreadId) (event : RoomEvent) (c : RoomLife H) :
      c.handlers thread = .handling event →
      LifeStep c [] ((c.handle event).1.setHandler thread (c.handle event).2)
  | callBack (thread : ThreadId) (event : RoomEvent) (c : RoomLife H) :
      c.handlers thread = .calling event →
      LifeStep c [.calledBack event] (c.setHandler thread .idle)

/-- The connection as a machine. -/
def lifeMachine (H : Type) [RpcRegistry H] : Machine (RoomLife H) LifeEvent where
  start c := c = .initial
  step := LifeStep

/-! ### The order of things -/

/-- The task may have a room attached. -/
def TaskPlace.mayAttach : TaskPlace → Bool
  | .detaching => true
  | .transitioning => true
  | .reporting => true
  | .finished => true
  | _ => false

/-- The task is past the section of `run`. -/
def TaskPlace.isPastRun : TaskPlace → Bool
  | .initializing => false
  | .initialized => false
  | _ => true

/-- `stop` is past the join, and has not cleared. -/
def StopPlace.isTakingDown : StopPlace → Bool
  | .detaching => true
  | .releasing _ => true
  | .clearing => true
  | _ => false

def TaskPlace.ownRoom : TaskPlace → Option Nat
  | .connecting room => some room
  | .checking room => some room
  | .activating room => some room
  | _ => none

/-- The room that the task is letting go. -/
def TaskPlace.released : TaskPlace → Option Nat
  | .releasing room => room
  | _ => none

/-- The room that `stop` is letting go. -/
def StopPlace.released : StopPlace → Option Nat
  | .releasing room => room
  | _ => none

/-- Where the task and `stop` are, and what there is by then. -/
structure Ordered (c : RoomLife H) : Prop where
  joining : c.stopping = some .joining → c.task.isSome = true
  joined : c.stopping ≠ none → c.stopping ≠ some .joining → c.task = none
  attached : c.room.isSome = true →
    (∃ place, c.task = some place ∧ place.mayAttach = true) ∨
      c.task = none ∧ c.stopping = some .detaching
  up : c.sdkUp = true ↔
    c.sdkInitialized = true ∨ c.task = some .initialized ∨ c.stopping = some .shuttingDown
  initialized : c.sdkInitialized = true →
    (∃ place, c.task = some place ∧ place.isPastRun = true) ∨
      c.task = none ∧ ∃ place, c.stopping = some place ∧ place.isTakingDown = true
  callbacks : c.callbacks = true →
    c.task.isSome = true ∨ ∃ place, c.stopping = some place ∧ place.isTakingDown = true

/-- The delegate is set on the room that is attached, the one that the task has to itself, and the
one that is let go. -/
def Delegated (c : RoomLife H) : Prop :=
  ∀ room, (c.rooms room).delegate = true →
    c.room = some room ∨ c.task.bind TaskPlace.ownRoom = some room ∨
      c.task.bind TaskPlace.released = some room ∨ c.stopping.bind StopPlace.released = some room

omit [RpcRegistry H] in
theorem Ordered.initial : Ordered (RoomLife.initial (H := H)) := by
  constructor <;> simp [RoomLife.initial]

omit [RpcRegistry H] in
/-- What is read off the members that the task and `stop` use alone. -/
theorem Ordered.same {c c' : RoomLife H} (h : Ordered c) (htask : c'.task = c.task)
    (hstopping : c'.stopping = c.stopping) (hroom : c'.room = c.room)
    (hsdk : c'.sdkUp = c.sdkUp ∧ c'.sdkInitialized = c.sdkInitialized)
    (hcallbacks : c'.callbacks = c.callbacks) : Ordered c' := by
  refine ⟨?_, ?_, ?_, ?_, ?_, ?_⟩
  · rw [htask, hstopping]
    exact h.joining
  · rw [htask, hstopping]
    exact h.joined
  · rw [htask, hstopping, hroom]
    exact h.attached
  · rw [htask, hstopping, hsdk.1, hsdk.2]
    exact h.up
  · rw [htask, hstopping, hsdk.2]
    exact h.initialized
  · rw [htask, hstopping, hcallbacks]
    exact h.callbacks

/-- The members that registering a method leaves alone, and the delegates. -/
structure SameCourse (c c' : RoomLife H) : Prop where
  task : c'.task = c.task
  stopping : c'.stopping = c.stopping
  room : c'.room = c.room
  roomGeneration : c'.roomGeneration = c.roomGeneration
  sdk : c'.sdkUp = c.sdkUp ∧ c'.sdkInitialized = c.sdkInitialized
  callbacks : c'.callbacks = c.callbacks
  rooms : ∀ room, (c'.rooms room).delegate = (c.rooms room).delegate ∧
    (c'.rooms room).participant = (c.rooms room).participant
  rpcHandlers : c'.rpcHandlers = c.rpcHandlers

omit [RpcRegistry H] in
theorem SameCourse.refl (c : RoomLife H) : SameCourse c c :=
  ⟨rfl, rfl, rfl, rfl, ⟨rfl, rfl⟩, rfl, fun _ => ⟨rfl, rfl⟩, rfl⟩

omit [RpcRegistry H] in
theorem SameCourse.trans {c c' c'' : RoomLife H} (h : SameCourse c c') (h' : SameCourse c' c'') :
    SameCourse c c'' where
  task := h'.task.trans h.task
  stopping := h'.stopping.trans h.stopping
  room := h'.room.trans h.room
  roomGeneration := h'.roomGeneration.trans h.roomGeneration
  sdk := ⟨h'.sdk.1.trans h.sdk.1, h'.sdk.2.trans h.sdk.2⟩
  callbacks := h'.callbacks.trans h.callbacks
  rooms := fun room =>
    ⟨(h'.rooms room).1.trans (h.rooms room).1, (h'.rooms room).2.trans (h.rooms room).2⟩
  rpcHandlers := h'.rpcHandlers.trans h.rpcHandlers

omit [RpcRegistry H] in
theorem sameCourse_setRoom (c : RoomLife H) (number : Nat) {sdk : SdkRoom H}
    (hdelegate : sdk.delegate = (c.rooms number).delegate)
    (hparticipant : sdk.participant = (c.rooms number).participant) :
    SameCourse c (c.setRoom number sdk) := by
  refine ⟨rfl, rfl, rfl, rfl, ⟨rfl, rfl⟩, rfl, ?_, rfl⟩
  intro room
  unfold RoomLife.setRoom
  dsimp only
  by_cases heq : room = number
  · rw [heq, Function.update_self]
    exact ⟨hdelegate, hparticipant⟩
  · rw [Function.update_of_ne heq]
    exact ⟨rfl, rfl⟩

theorem sameCourse_registerRpcLocked (c : RoomLife H) (method : Str) (answers : RpcAnswers) :
    SameCourse c (c.registerRpcLocked method answers).1 := by
  unfold RoomLife.registerRpcLocked
  split
  · exact sameCourse_setRoom c _ rfl rfl
  · exact .refl c

theorem sameCourse_registerAll (answers : Str → RpcAnswers) (methods : List Str) (c : RoomLife H) :
    SameCourse c (RoomLife.registerAll answers methods c).1 := by
  induction methods generalizing c with
  | nil => exact .refl c
  | cons method methods ih => exact (sameCourse_registerRpcLocked c method _).trans (ih _)

theorem sameCourse_unregisterRpc (c : RoomLife H) (method : Str) (accepts : Bool) :
    SameCourse { c with rpcHandlers := c.rpcHandlers.erase method }
      (c.unregisterRpc method accepts).1 := by
  unfold RoomLife.unregisterRpc
  dsimp only
  split
  · exact .refl _
  · refine sameCourse_setRoom _ _ ?_ ?_
    · unfold SdkRoom.unregister
      split <;> rfl
    · unfold SdkRoom.unregister
      split <;> rfl

omit [RpcRegistry H] in
/-- A handler may change the state, and nothing else. -/
theorem handle_eq (c : RoomLife H) (event : RoomEvent) :
    ∃ state, (c.handle event).1 = { c with state := state } := by
  unfold RoomLife.handle
  cases event with
  | state sdk =>
    dsimp only
    split
    · exact ⟨c.state, rfl⟩
    · exact ⟨sdk.state, rfl⟩
  | userPacket =>
    dsimp only
    split
    · exact ⟨c.state, rfl⟩
    · exact ⟨c.state, rfl⟩
  | participantDisconnected =>
    dsimp only
    split
    · exact ⟨c.state, rfl⟩
    · exact ⟨c.state, rfl⟩

omit [RpcRegistry H] in
theorem Ordered.not_takingDown {c : RoomLife H} (h : Ordered c) (htask : c.task.isSome = true)
    {place : StopPlace} (hplace : c.stopping = some place) : place = .joining := by
  by_contra hne
  have hnone := h.joined (by rw [hplace]; simp) (by rw [hplace]; simpa using hne)
  rw [hnone] at htask
  cases htask

omit [RpcRegistry H] in
theorem Ordered.advance {c c' : RoomLife H} (h : Ordered c) {place place' : TaskPlace}
    (htask : c.task = some place) (hpast : place.isPastRun = true)
    (htask' : c'.task = some place') (hpast' : place'.isPastRun = true)
    (hstopping : c'.stopping = c.stopping)
    (hroom : c'.room.isSome = true → place'.mayAttach = true)
    (hsdk : c'.sdkUp = c.sdkUp ∧ c'.sdkInitialized = c.sdkInitialized) : Ordered c' := by
  have hsome : c.task.isSome = true := by simp [htask]
  have hdown : c.stopping ≠ some .shuttingDown := by
    intro hstop
    cases h.not_takingDown hsome hstop
  have hnot : ∀ {p : TaskPlace}, p.isPastRun = true → some p ≠ some .initialized := by
    rintro p hp ⟨⟩
    cases hp
  refine ⟨?_, ?_, ?_, ?_, ?_, ?_⟩
  · intro _
    rw [htask']
    rfl
  · intro hstop hne
    rw [hstopping] at hstop hne
    have hnone := h.joined hstop hne
    rw [htask] at hnone
    cases hnone
  · exact fun hattached => .inl ⟨place', htask', hroom hattached⟩
  · have hup := h.up
    rw [htask] at hup
    rw [hsdk.1, hsdk.2, hstopping, htask', hup]
    simp [hnot hpast, hnot hpast', hdown]
  · exact fun _ => .inl ⟨place', htask', hpast'⟩
  · intro _
    left
    rw [htask']
    rfl

omit [RpcRegistry H] in
theorem Ordered.room_isSome {c : RoomLife H} (h : Ordered c) {place : TaskPlace}
    (htask : c.task = some place) (hroom : c.room.isSome = true) : place.mayAttach = true := by
  rcases h.attached hroom with ⟨other, hother, hmay⟩ | ⟨hnone, -⟩
  · rw [htask] at hother
    cases hother
    exact hmay
  · rw [htask] at hnone
    cases hnone

omit [RpcRegistry H] in
/-- `stop` goes on, before the section that clears. -/
theorem Ordered.takeDown {c c' : RoomLife H} (h : Ordered c) {place place' : StopPlace}
    (hstop : c.stopping = some place) (hdown : place.isTakingDown = true)
    (hstop' : c'.stopping = some place') (hdown' : place'.isTakingDown = true)
    (htask : c'.task = c.task) (hroom : c'.room.isSome = true → place' = .detaching)
    (hsdk : c'.sdkUp = c.sdkUp ∧ c'.sdkInitialized = c.sdkInitialized) : Ordered c' := by
  have hnot : ∀ {p : StopPlace}, p.isTakingDown = true →
      some p ≠ some .joining ∧ some p ≠ some .shuttingDown := by
    intro p hp
    cases p <;> simp_all [StopPlace.isTakingDown]
  have hnone : c.task = none := by
    refine h.joined (by simp [hstop]) ?_
    rw [hstop]
    exact (hnot hdown).1
  refine ⟨?_, ?_, ?_, ?_, ?_, ?_⟩
  · intro hjoining
    rw [hstop'] at hjoining
    exact absurd hjoining (hnot hdown').1
  · exact fun _ _ => htask.trans hnone
  · exact fun hattached => .inr ⟨htask.trans hnone, hstop'.trans (by rw [hroom hattached])⟩
  · have hup := h.up
    rw [hstop] at hup
    rw [hsdk.1, hsdk.2, htask, hstop', hup]
    simp only [(hnot hdown).2, (hnot hdown').2]
  · exact fun _ => .inr ⟨htask.trans hnone, place', hstop', hdown'⟩
  · exact fun _ => .inr ⟨place', hstop', hdown'⟩

omit [RpcRegistry H] in
theorem releaseRoom_eq (c : RoomLife H) (room : Option Nat) :
    ∃ rooms, c.releaseRoom room = { c with rooms := rooms } := by
  cases room with
  | none => exact ⟨c.rooms, rfl⟩
  | some room => exact ⟨_, rfl⟩

theorem Ordered.step {c c' : RoomLife H} {evs : List LifeEvent} (h : Ordered c)
    (hs : LifeStep c evs c') : Ordered c' := by
  have hordered := h
  obtain ⟨hjoining, hjoined, hattached, hup, hinit, hcallbacks⟩ := h
  cases hs with
  | start _ hstop =>
    unfold RoomLife.start
    split
    · exact hordered.same rfl rfl rfl ⟨rfl, rfl⟩ rfl
    · constructor <;> simp_all
  | initializeSdk succeeds _ htask =>
    constructor <;> simp_all [TaskPlace.mayAttach, TaskPlace.isPastRun, or_comm]
  | runSection _ htask =>
    unfold RoomLife.runSection RoomLife.setRoom
    split
    · constructor <;> simp_all [TaskPlace.mayAttach, TaskPlace.isPastRun]
    · constructor <;> simp_all [TaskPlace.mayAttach, TaskPlace.isPastRun]
  | connectRoom room connects _ htask =>
    have hnot : c.room.isSome = true → False := by
      intro hroom
      cases hordered.room_isSome htask hroom
    unfold RoomLife.connectRoom
    split
    · exact hordered.advance htask rfl rfl rfl rfl (fun hroom => (hnot hroom).elim) ⟨rfl, rfl⟩
    · exact hordered.advance htask rfl rfl rfl rfl (fun hroom => (hnot hroom).elim) ⟨rfl, rfl⟩
  | checkStop room _ htask =>
    have hnot : c.room.isSome = true → False := by
      intro hroom
      cases hordered.room_isSome htask hroom
    unfold RoomLife.checkStop
    split
    · exact hordered.advance htask rfl rfl rfl rfl (fun hroom => (hnot hroom).elim) ⟨rfl, rfl⟩
    · exact hordered.advance htask rfl rfl rfl rfl (fun hroom => (hnot hroom).elim) ⟨rfl, rfl⟩
  | activateRoom room answers _ htask =>
    have hcourse := sameCourse_registerAll answers c.rpcHandlers.keys
      { c with roomGeneration := c.roomGeneration + 1, room := some room }
    unfold RoomLife.activateRoom
    dsimp only
    generalize RoomLife.registerAll answers c.rpcHandlers.keys
      { c with roomGeneration := c.roomGeneration + 1, room := some room } = result at hcourse ⊢
    refine hordered.advance htask rfl rfl ?_ hcourse.stopping (fun _ => ?_) hcourse.sdk
    · split <;> rfl
    · split <;> rfl
  | detachRoom _ htask =>
    refine hordered.advance htask rfl rfl rfl rfl (fun hroom => ?_) ⟨rfl, rfl⟩
    cases hroom
  | releaseRoom room _ htask =>
    obtain ⟨rooms, hrelease⟩ := releaseRoom_eq c room
    rw [hrelease]
    exact hordered.advance htask rfl rfl rfl rfl (fun _ => rfl) ⟨rfl, rfl⟩
  | transitionState _ htask =>
    refine hordered.advance htask rfl rfl ?_ rfl (fun _ => ?_) ⟨rfl, rfl⟩
    · split <;> rfl
    · split <;> rfl
  | report _ htask => exact hordered.advance htask rfl rfl rfl rfl (fun _ => rfl) ⟨rfl, rfl⟩
  | requestStop _ hstop htask =>
    constructor <;> simp_all
  | join _ hstop htask =>
    constructor <;> simp_all [StopPlace.isTakingDown]
  | stopDetach _ hstop =>
    refine hordered.takeDown hstop rfl rfl rfl rfl (fun hroom => ?_) ⟨rfl, rfl⟩
    cases hroom
  | stopRelease room _ hstop =>
    obtain ⟨rooms, hrelease⟩ := releaseRoom_eq c room
    rw [hrelease]
    refine hordered.takeDown hstop rfl rfl rfl rfl (fun hroom => ?_) ⟨rfl, rfl⟩
    rcases hattached hroom with ⟨place, hplace, -⟩ | ⟨-, hdetaching⟩
    · rw [hjoined (by simp [hstop]) (by simp [hstop])] at hplace
      cases hplace
    · rw [hstop] at hdetaching
      cases hdetaching
  | clear _ hstop =>
    unfold RoomLife.clear
    constructor <;> simp_all
  | shutdown _ hstop =>
    constructor <;> simp_all [StopPlace.isTakingDown]
  | registerRpc method handler answers =>
    have hcourse := sameCourse_registerRpcLocked
      { c with rpcHandlers := c.rpcHandlers.insert method handler } method answers
    exact hordered.same hcourse.task hcourse.stopping hcourse.room hcourse.sdk hcourse.callbacks
  | unregisterRpc method accepts =>
    have hcourse := sameCourse_unregisterRpc c method accepts
    exact hordered.same hcourse.task hcourse.stopping hcourse.room hcourse.sdk hcourse.callbacks
  | loseParticipant room => exact hordered.same rfl rfl rfl ⟨rfl, rfl⟩ rfl
  | deliver thread room event _ hidle hdelegate => exact hordered.same rfl rfl rfl ⟨rfl, rfl⟩ rfl
  | handle thread event _ hhandling =>
    obtain ⟨state, heq⟩ := handle_eq c event
    rw [heq]
    exact hordered.same rfl rfl rfl ⟨rfl, rfl⟩ rfl
  | callBack thread event _ hcalling => exact hordered.same rfl rfl rfl ⟨rfl, rfl⟩ rfl

end LivekitBridge
