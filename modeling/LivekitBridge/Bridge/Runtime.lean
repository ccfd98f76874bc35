import LivekitBridge.Connection.Watchdog
import LivekitBridge.Executor.Queue
import LivekitBridge.Utils.CallbackGate
import LivekitBridge.Lib.Simulation
import LivekitBridge.Text
import Mathlib.Logic.Function.Basic

/-!
# The runtime

`runtime.cpp`: the callbacks of the room connection, what they submit to the executor queue, and the
destructor, which takes the components down one after the other.

The gate and the queue are those of `Utils.CallbackGate` and `Executor.Queue`, with all their steps,
and a run of the runtime is a run of each (`Bridge.Teardown`).  What is added is where a thread is
between them (`RuntimePlace`): it enters the gate for a callback, and again in `submitRosWork`, and
submits in there.  The prune timer calls `submitRosWork` from outside of a callback, and the RPC
methods submit without the gate.

The destructor has a thread of its own, `owner`, which does nothing else: it is not called from
inside a task, nor from a callback.
-/

namespace LivekitBridge

open Lib

def kPublishRequestTopic : Str := lit "ros2.topic.pub"

def kHeartbeatTopic : Str := lit "lkros.heartbeat"

/-- What is submitted to run on the executor. -/
inductive RosWork
  /-- `ros_topic_publisher_.handlePayload` -/
  | publish (requester : Str) (payload : List UInt8)
  /-- `subscription_lease_manager_.handleHeartbeatPayload` -/
  | heartbeat (requester : Str) (payload : List UInt8)
  /-- `ros_service_caller_.cancelForRequester` -/
  | cancel (identity : Str)
  /-- `pruneExpiredLeases` -/
  | prune
  /-- What an RPC method submits. -/
  | rpc
deriving DecidableEq, Repr

/-- `livekit::UserDataPacketEvent`; there may be no participant. -/
structure UserPacket where
  topic : Str
  participant : Option Str
  data : List UInt8
deriving DecidableEq, Repr

/-- A call of one of the `RoomEventCallbacks`. -/
inductive RoomCallback
  | stateChanged (state : ConnectionState)
  | userPacketReceived (packet : UserPacket)
  | participantDisconnected (identity : Str)
deriving DecidableEq, Repr

/-- `onUserPacketReceived`: what it submits, if it does not drop the packet. -/
def onUserPacketReceived (packet : UserPacket) : Option RosWork :=
  let requester := packet.participant.getD []
  if packet.topic = kPublishRequestTopic then some (.publish requester packet.data)
  else if packet.topic = kHeartbeatTopic then some (.heartbeat requester packet.data)
  else none

/-- Where a thread is; `nested` is whether `submitRosWork` was called from a callback. -/
inductive RuntimePlace
  | idle
  /-- in the gate, before what the callback does -/
  | called (callback : RoomCallback)
  /-- before the gate of `submitRosWork` -/
  | submitting (work : RosWork) (nested : Bool)
  /-- in that gate, before `ros_executor_queue_.submit` -/
  | admitted (work : RosWork) (nested : Bool)
  /-- in `submit` -/
  | enqueuing (nested : Bool)
  /-- before the end of the callback -/
  | leaving
deriving DecidableEq, Repr

/-- Where the destructor is. -/
inductive Teardown
  /-- not called -/
  | alive
  /-- in `callback_gate_.closeAndWait()` -/
  | closingGate
  | stoppingWatchdog
  /-- before `ros_executor_queue_.shutdown()` -/
  | shuttingQueue
  /-- in it -/
  | awaitingQueue
  | shuttingLeases
  | unregistering
  | stoppingConnection
  | finished
deriving DecidableEq, Repr

/-- The runtime and its threads; `work` has what each task does, by its number. -/
structure RuntimeState where
  gate : GateState
  queue : QueueState
  work : List RosWork
  places : ThreadId → RuntimePlace
  teardown : Teardown

/-- What a step did. -/
inductive RuntimeEvent
  | gate (e : GateEvent)
  | queue (e : QueueEvent)
  /-- The next task that is submitted does this work. -/
  | submits (work : RosWork)
  /-- `watchdog_.onStateChanged` -/
  | told (state : ConnectionState)
  | watchdogStopped
  | leasesShutDown
  | rpcsUnregistered
  | connectionStopped
deriving DecidableEq, Repr

namespace RuntimeState

/-- A runtime that was just constructed. -/
def initial : RuntimeState :=
  ⟨⟨.initial .concurrent, [], 0⟩, ⟨.initial, []⟩, [], fun _ => .idle, .alive⟩

variable (s : RuntimeState)

def setPlace (thread : ThreadId) (place : RuntimePlace) : RuntimeState :=
  { s with places := Function.update s.places thread place }

/-- The thread can start something: it is at nothing else, and not inside the queue but for the
body of a task. -/
def IsFree (owner thread : ThreadId) : Prop :=
  thread ≠ owner ∧ s.places thread = .idle ∧ CanCall s.queue.frames thread

/-- `ros_executor_queue_.submit`, to the end of its lock. -/
def submit (thread : ThreadId) (work : RosWork) : RuntimeState :=
  { s with
    queue := ⟨s.queue.queue.submit.1, (thread, s.queue.queue.submit.2.1) :: s.queue.frames⟩
    work := s.work ++ [work] }

/-- Where a thread goes on after `submitRosWork`. -/
def afterSubmit (nested : Bool) : RuntimePlace := if nested then .leaving else .idle

end RuntimeState

inductive RuntimeStep (owner : ThreadId) : RuntimeState → List RuntimeEvent → RuntimeState → Prop
  | callBack (thread : ThreadId) (callback : RoomCallback) (gate : GateState) (s : RuntimeState) :
      s.IsFree owner thread → GateStep s.gate [.entered thread] gate →
      RuntimeStep owner s [.gate (.entered thread)]
        { s.setPlace thread (.called callback) with gate := gate }
  | callBackRefused (thread : ThreadId) (gate : GateState) (s : RuntimeState) :
      s.IsFree owner thread → GateStep s.gate [.refused thread] gate →
      RuntimeStep owner s [.gate (.refused thread)] { s with gate := gate }
  | onStateChanged (thread : ThreadId) (state : ConnectionState) (s : RuntimeState) :
      s.places thread = .called (.stateChanged state) →
      RuntimeStep owner s [.told state] (s.setPlace thread .leaving)
  | onUserPacketReceived (thread : ThreadId) (packet : UserPacket) (s : RuntimeState) :
      s.places thread = .called (.userPacketReceived packet) →
      RuntimeStep owner s []
        (s.setPlace thread (match LivekitBridge.onUserPacketReceived packet with
          | some work => .submitting work true
          | none => .leaving))
  | onParticipantDisconnected (thread : ThreadId) (identity : Str) (s : RuntimeState) :
      s.places thread = .called (.participantDisconnected identity) →
      RuntimeStep owner s [] (s.setPlace thread (.submitting (.cancel identity) true))
  | pruneTimer (thread : ThreadId) (s : RuntimeState) : s.IsFree owner thread →
      RuntimeStep owner s [] (s.setPlace thread (.submitting .prune false))
  | passGate (thread : ThreadId) (work : RosWork) (nested : Bool) (gate : GateState)
      (s : RuntimeState) : s.places thread = .submitting work nested →
      GateStep s.gate [.entered thread] gate →
      RuntimeStep owner s [.gate (.entered thread)]
        { s.setPlace thread (.admitted work nested) with gate := gate }
  | passRefused (thread : ThreadId) (work : RosWork) (nested : Bool) (gate : GateState)
      (s : RuntimeState) : s.places thread = .submitting work nested →
      GateStep s.gate [.refused thread] gate →
      RuntimeStep owner s [.gate (.refused thread)]
        { s.setPlace thread (RuntimeState.afterSubmit nested) with gate := gate }
  | submitRosWork (thread : ThreadId) (work : RosWork) (nested : Bool) (s : RuntimeState) :
      s.places thread = .admitted work nested → CanCall s.queue.frames thread →
      RuntimeStep owner s (.submits work :: s.queue.queue.submit.2.2.map .queue)
        ((s.submit thread work).setPlace thread (.enqueuing nested))
  | submitRpc (thread : ThreadId) (s : RuntimeState) : s.IsFree owner thread →
      RuntimeStep owner s (.submits .rpc :: s.queue.queue.submit.2.2.map .queue)
        (s.submit thread .rpc)
  | submitReturned (thread : ThreadId) (nested : Bool) (gate : GateState) (s : RuntimeState) :
      s.places thread = .enqueuing nested → CanCall s.queue.frames thread →
      GateStep s.gate [.left thread false] gate →
      RuntimeStep owner s [.gate (.left thread false)]
        { s.setPlace thread (RuntimeState.afterSubmit nested) with gate := gate }
  | callBackReturned (thread : ThreadId) (gate : GateState) (s : RuntimeState) :
      s.places thread = .leaving → GateStep s.gate [.left thread false] gate →
      RuntimeStep owner s [.gate (.left thread false)]
        { s.setPlace thread .idle with gate := gate }
  | execute (thread : ThreadId) (s : RuntimeState) : s.IsFree owner thread →
      RuntimeStep owner s []
        { s with queue := ⟨s.queue.queue.execute, (thread, .executing) :: s.queue.frames⟩ }
  | advance (thread : ThreadId) (throws : Bool) (q q' : Queue) (frame : Frame)
      (next : Option Frame) (evs : List QueueEvent) (before after : List (ThreadId × Frame))
      (s : RuntimeState) : s.queue = ⟨q, before ++ (thread, frame) :: after⟩ →
      (∀ call ∈ before, call.1 ≠ thread) →
      LivekitBridge.advance thread throws q frame = some (q', next, evs) →
      RuntimeStep owner s (evs.map .queue)
        { s with
          queue := ⟨q', before ++ (next.toList.map fun frame => (thread, frame)) ++ after⟩ }
  | closeGate (call : Nat) (gate : GateState) (s : RuntimeState) : s.teardown = .alive →
      GateStep s.gate [.closing call owner .allCallbacks] gate →
      RuntimeStep owner s [.gate (.closing call owner .allCallbacks)]
        { s with gate := gate, teardown := .closingGate }
  | gateClosed (call : Nat) (first : Bool) (gate : GateState) (s : RuntimeState) :
      s.teardown = .closingGate → GateStep s.gate [.closed call owner .allCallbacks first] gate →
      RuntimeStep owner s [.gate (.closed call owner .allCallbacks first)]
        { s with gate := gate, teardown := .stoppingWatchdog }
  | stopWatchdog (s : RuntimeState) : s.teardown = .stoppingWatchdog →
      RuntimeStep owner s [.watchdogStopped] { s with teardown := .shuttingQueue }
  | shutdownQueue (s : RuntimeState) : s.teardown = .shuttingQueue →
      CanCall s.queue.frames owner →
      RuntimeStep owner s []
        { s with
          queue := ⟨s.queue.queue, (owner, .shuttingDown) :: s.queue.frames⟩
          teardown := .awaitingQueue }
  | queueShutDown (s : RuntimeState) : s.teardown = .awaitingQueue →
      (∀ call ∈ s.queue.frames, call.1 ≠ owner) →
      RuntimeStep owner s [] { s with teardown := .shuttingLeases }
  | shutdownLeases (s : RuntimeState) : s.teardown = .shuttingLeases →
      RuntimeStep owner s [.leasesShutDown] { s with teardown := .unregistering }
  | unregisterRpcs (s : RuntimeState) : s.teardown = .unregistering →
      RuntimeStep owner s [.rpcsUnregistered] { s with teardown := .stoppingConnection }
  | stopConnection (s : RuntimeState) : s.teardown = .stoppingConnection →
      RuntimeStep owner s [.connectionStopped] { s with teardown := .finished }

def runtimeMachine (owner : ThreadId) : Machine RuntimeState RuntimeEvent where
  start s := s = .initial
  step := RuntimeStep owner

end LivekitBridge
