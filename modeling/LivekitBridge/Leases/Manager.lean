import LivekitBridge.AccessPolicy
import LivekitBridge.Leases.DataTrack
import LivekitBridge.Lib.Machine

/-!
# The subscription lease manager

`subscription_lease_manager.cpp`.  A heartbeat names the targets a client wants;
each target has one subscription, shared by the clients that lease it, and a
sweep drops the leases that have expired.  A second map binds client sessions to
identities, so that a heartbeat without an identity can be attributed.

The manager runs on one executor, so each public call is one step on
`LeaseState`.  What is not decided by the bridge (the ROS graph, whether a track
or a pipeline comes up) is handed to each step as `DemandEffects`.  A step also
returns what it did as `LeaseEvent`s: the results that speak about the past are
statements about these, and about the calls themselves, which are recorded by
whoever makes them.
-/

namespace LivekitBridge

/-! ### Requests and reports -/

/-- `SubscriptionTargetKind` -/
inductive TargetKind
  | topic
  | otherVideo
  | otherAudio
deriving DecidableEq, Repr

/-- `SubscriptionDemand` -/
structure Demand where
  kind : TargetKind
  name : Str
  preferredIntervalMs : Option Int
deriving DecidableEq, Repr

structure UnsupportedSubscription where
  kind : Str
  name : Option Str
deriving DecidableEq, Repr

/-- `SubscriptionHeartbeat` -/
structure Heartbeat where
  sessionId : Option Str
  demands : List Demand
  unsupported : List UnsupportedSubscription
deriving DecidableEq, Repr

/-- `SubscriptionDeliveryKind` -/
inductive DeliveryKind
  | data
  | video
  | audio
deriving DecidableEq, Repr

structure SubscriptionStatus where
  kind : TargetKind
  name : Str
  interfaceType : Str
  qos : Option SubscriptionQos
  intervalMs : Int
  delivery : DeliveryKind
  trackName : Str
deriving DecidableEq, Repr

/-- `SubscriptionErrorReason` -/
inductive ErrorReason
  | forbidden
  | notFound
  | unsupportedKind
deriving DecidableEq, Repr

/-- `SubscriptionErrorStatus` -/
structure ErrorStatus where
  kind : TargetKind
  name : Str
  rawKind : Str
  rawName : Option Str
  reason : ErrorReason
  message : Str
deriving DecidableEq, Repr

/-- `SubscriptionStatusEntry` -/
inductive StatusEntry
  | active (status : SubscriptionStatus)
  | error (status : ErrorStatus)
deriving DecidableEq, Repr

/-- `SubscriptionStatusReport` -/
structure StatusReport where
  statuses : List StatusEntry
  sessionId : Option Str
  leaseExpiry : Time
deriving DecidableEq, Repr

/-! ### State -/

structure Lease where
  preferredIntervalMs : Int
  expiry : Time
deriving DecidableEq, Repr

/-- The leases of one subscription, by requester. -/
abbrev Leases := AList fun _ : Str => Lease

structure SessionLease where
  requesterIdentity : Str
  expiry : Time
deriving DecidableEq, Repr

/-- `Runtime`: what delivers a subscription.  A video runtime that ingests a ROS
topic carries the topic it is subscribed to. -/
inductive Runtime
  | data (publisher : DataTrackPublisher)
  | video (spec : Video.StreamSpec) (subscribedTopic : Option Str)
  | audio (spec : Audio.StreamSpec)
deriving DecidableEq, Repr

structure Subscription where
  kind : TargetKind
  name : Str
  interfaceType : Str
  leases : Leases
  runtime : Runtime

structure ResolvedDemand where
  kind : TargetKind
  name : Str
  key : Str
  interfaceType : Str
  preferredIntervalMs : Int
  videoSpec : Option Video.StreamSpec
  audioSpec : Option Audio.StreamSpec

/-- What the manager changes: `is_shutdown_`, `session_leases_`,
`subscriptions_`. -/
structure LeaseState where
  isShutdown : Bool
  sessionLeases : AList fun _ : Str => SessionLease
  subscriptions : AList fun _ : Str => Subscription

/-- The state of a manager that was just constructed. -/
def LeaseState.initial : LeaseState := ⟨false, ∅, ∅⟩

/-- What the manager is constructed with and never changes. -/
structure LeaseManager where
  node : Node
  accessPolicy : AccessPolicy
  videoStreamConfig? : Option Video.StreamConfig
  audioStreamConfig? : Option Audio.StreamConfig
  heartbeatLeaseDuration : Nat

/-- What happens outside the bridge while one demand is served: the graph that
`get_topic_names_and_types` returns, whether the audio or video runtime comes up
(with what it throws if not), and how a publication fares. -/
structure DemandEffects where
  graph : AList fun _ : Str => List Str
  runtime : Except Str Unit
  publication : PublicationEffects

/-- What a step did. -/
inductive LeaseEvent
  /-- `resolveIdentity` answered a heartbeat. -/
  | heartbeat (now : Time) (identity : Str) (sessionId : Option Str) (requester : Option Str)
  /-- `minimumIntervalMs` was evaluated. -/
  | minimum (leases : Leases)
  /-- `ensure` returned a status. -/
  | ensured (key requester : Str) (lease : Lease)
  /-- A report was handed to `publishData`. -/
  | statusSent (destination : Str) (report : StatusReport)
  /-- An exception left the call. -/
  | threw (what : Str)
  /-- `pruneExpiredLeases` was called; the caller records this and the next. -/
  | pruned (now : Time)
  | shutDown
  /-- The cached message of a ROS topic, subscribed to as `topic`, was handed to
  `sendByteStream` under `name`. -/
  | echoed (topic name cdr destination : Str)

/-! ### Keys and names -/

def targetKindKeyPrefix : TargetKind → Str
  | .topic => lit "topic"
  | .otherVideo => lit "other_video"
  | .otherAudio => lit "other_audio"

def makeKey (kind : TargetKind) (name : Str) : Str :=
  targetKindKeyPrefix kind ++ [colon] ++ name

def resolveName (node : Node) (kind : TargetKind) (name : Str) : Except Str Str :=
  match kind with
  | .topic => node.resolveTopicName (trim name)
  | .otherVideo => .ok (trim name)
  | .otherAudio => .ok (trim name)

/-! ### Sessions -/

def resolveIdentity (s : LeaseState) (requesterIdentity : Str) (sessionId : Option Str) :
    Option Str :=
  if requesterIdentity = [] then
    match sessionId.bind fun id => (s.sessionLeases.lookup id : Option SessionLease) with
    | none => none
    | some lease => some lease.requesterIdentity
  else
    match sessionId with
    | none => some requesterIdentity
    | some id =>
      match (s.sessionLeases.lookup id : Option SessionLease) with
      | none => some requesterIdentity
      | some lease =>
        if lease.requesterIdentity ≠ requesterIdentity then none else some requesterIdentity

def renewSessionLease (s : LeaseState) (requesterIdentity : Str) (sessionId : Option Str)
    (expiry : Time) : Except Str LeaseState :=
  match sessionId with
  | none => .ok s
  | some id =>
    -- `try_emplace` keeps an entry that is already there
    let found := ((s.sessionLeases.lookup id : Option SessionLease)).getD ⟨requesterIdentity, expiry⟩
    if found.requesterIdentity ≠ requesterIdentity then
      .error (lit "session lease invariant violated: session_id must resolve to one requester")
    else
      .ok { s with sessionLeases := s.sessionLeases.insert id { found with expiry := expiry } }

def pruneSessionLeases (now : Time) (s : LeaseState) : LeaseState :=
  { s with
    sessionLeases := s.sessionLeases.filterMapVal fun lease =>
      if now < lease.expiry then some lease else none }

/-! ### Leases of a subscription -/

/-- `minimumIntervalMs`.  The source dereferences `leases.begin()`: on an empty
map that is undefined, here 0. -/
def minimumIntervalMs (leases : Leases) : Int :=
  match leases.entries with
  | [] => 0
  | e :: _ => leases.entries.foldl (fun ms e => min ms e.2.preferredIntervalMs) e.2.preferredIntervalMs

def status (sub : Subscription) : SubscriptionStatus :=
  match sub.runtime with
  | .data publisher =>
    { kind := sub.kind
      name := sub.name
      interfaceType := sub.interfaceType
      qos := if publisher.isPublished then some publisher.qos else none
      intervalMs := publisher.intervalMs
      delivery := .data
      trackName := if publisher.isPublished then publisher.trackName else [] }
  | .video spec _ =>
    { kind := sub.kind
      name := sub.name
      interfaceType := sub.interfaceType
      qos := none
      intervalMs := 0
      delivery := .video
      trackName := spec.trackName }
  | .audio spec =>
    { kind := sub.kind
      name := sub.name
      interfaceType := sub.interfaceType
      qos := none
      intervalMs := 0
      delivery := .audio
      trackName := spec.trackName }

/-- `renew`, on the subscription it was found under. -/
def renew (node : Node) (fx : DemandEffects) (sub : Subscription) (requester : Str)
    (lease : Lease) : Subscription × List LeaseEvent :=
  let leases := sub.leases.insert requester lease
  match sub.runtime with
  | .data publisher =>
    let wasPublished := publisher.isPublished
    let publisher := publisher.setIntervalMs (minimumIntervalMs leases)
    let publisher := if wasPublished then publisher else publisher.publish node fx.publication
    ({ sub with leases := leases, runtime := .data publisher }, [.minimum leases])
  | .video _ _ => ({ sub with leases := leases }, [])
  | .audio _ => ({ sub with leases := leases }, [])

/-- One subscription in the sweep of `pruneLeases`. -/
def pruneSubscription (now : Time) (sub : Subscription) : Option Subscription × List LeaseEvent :=
  let removedAny := sub.leases.entries.any fun e => !decide (now < e.2.expiry)
  let leases := sub.leases.filterMapVal fun lease => if now < lease.expiry then some lease else none
  if !removedAny then (some sub, [])
  else if leases.entries ≠ [] then
    match sub.runtime with
    | .data publisher =>
      (some
        { sub with
          leases := leases
          runtime := .data (publisher.setIntervalMs (minimumIntervalMs leases)) },
        [.minimum leases])
    | .video _ _ => (some { sub with leases := leases }, [])
    | .audio _ => (some { sub with leases := leases }, [])
  else (none, [])

def pruneLeases (now : Time) (s : LeaseState) : LeaseState × List LeaseEvent :=
  ({ s with subscriptions := s.subscriptions.filterMapVal fun sub => (pruneSubscription now sub).1 },
    s.subscriptions.entries.flatMap fun e => (pruneSubscription now e.2).2)

namespace LeaseManager

variable (m : LeaseManager)

def videoStreamConfig : Video.StreamConfig := m.videoStreamConfig?.getD Video.makeDefaultConfig

def audioStreamConfig : Audio.StreamConfig := m.audioStreamConfig?.getD Audio.makeDefaultConfig

/-! ### Serving a demand -/

def resolveVideoSpec (kind : TargetKind) (name interfaceType : Str) : Except Str Video.StreamSpec :=
  match kind with
  | .topic => Video.resolveRosTopicSpec m.node.expand m.videoStreamConfig name interfaceType
  | .otherVideo => Video.resolveOtherSourceSpec m.videoStreamConfig name
  | .otherAudio => .error (lit "other audio is not a video stream request")

def resolveAudioSpec (kind : TargetKind) (name : Str) : Except Str Audio.StreamSpec :=
  match kind with
  | .otherAudio => Audio.resolveOtherSourceSpec m.audioStreamConfig name
  | .topic => .error (lit "only other audio requests resolve to audio streams")
  | .otherVideo => .error (lit "only other audio requests resolve to audio streams")

def resolveDemand (demand : Demand) : Except Str ResolvedDemand :=
  match resolveName m.node demand.kind demand.name with
  | .error what => .error what
  | .ok name =>
    .ok
      { kind := demand.kind
        name := name
        key := makeKey demand.kind name
        interfaceType := []
        preferredIntervalMs := max (demand.preferredIntervalMs.getD 0) 0
        videoSpec := none
        audioSpec := none }

/-- The part of `resolveDemandDelivery` after the interface type is known. -/
def resolveDemandSpec (d : ResolvedDemand) : Except Str ResolvedDemand :=
  if d.kind = .otherAudio then
    match m.resolveAudioSpec d.kind d.name with
    | .error what => .error what
    | .ok spec => .ok { d with audioSpec := some spec }
  else
    match m.resolveVideoSpec d.kind d.name d.interfaceType with
    | .error what => .error what
    | .ok spec => .ok { d with videoSpec := some spec }

/-- `resolveDemandDelivery`: a ROS topic that is no image is data. -/
def resolveDemandDelivery (fx : DemandEffects) (d : ResolvedDemand) : Except Str ResolvedDemand :=
  if d.kind = .topic then
    match requireSingleType fx.graph d.name (lit "topic") with
    | .error what => .error what
    | .ok interfaceType =>
      let d := { d with interfaceType := interfaceType }
      if Video.classifyRosIngestMode interfaceType = none then .ok d else m.resolveDemandSpec d
  else m.resolveDemandSpec d

/-- `video::TrackPublisher::create`: a stream on a ROS topic subscribes to it. -/
def createVideo (fx : DemandEffects) (spec : Video.StreamSpec) : Except Str Runtime :=
  match fx.runtime with
  | .error what => .error what
  | .ok _ =>
    match spec.input with
    | .other _ => .ok (.video spec none)
    | .ros input =>
      match m.node.resolveTopicName input.topic with
      | .error what => .error what
      | .ok topic => .ok (.video spec (some topic))

/-- The lambda of `create` that builds the runtime. -/
def createRuntime (fx : DemandEffects) (d : ResolvedDemand) (leases : Leases) :
    Except Str Runtime × List LeaseEvent :=
  match d.audioSpec with
  | some spec =>
    match fx.runtime with
    | .error what => (.error what, [])
    | .ok _ => (.ok (.audio spec), [])
  | none =>
    match d.videoSpec with
    | some spec => (m.createVideo fx spec, [])
    | none =>
      let publisher := DataTrackPublisher.new d.name d.interfaceType
      let publisher := publisher.setIntervalMs (minimumIntervalMs leases)
      (.ok (.data (publisher.publish m.node fx.publication)), [.minimum leases])

def create (fx : DemandEffects) (s : LeaseState) (d : ResolvedDemand) (requester : Str)
    (lease : Lease) : Except Str SubscriptionStatus × LeaseState × List LeaseEvent :=
  let leases : Leases := (∅ : Leases).insert requester lease
  match m.createRuntime fx d leases with
  | (.error what, evs) => (.error what, s, evs)
  | (.ok runtime, evs) =>
    let sub : Subscription := ⟨d.kind, d.name, d.interfaceType, leases, runtime⟩
    match s.subscriptions.lookup d.key with
    | some old => (.ok (status old), s, evs)
    | none => (.ok (status sub), { s with subscriptions := s.subscriptions.insert d.key sub }, evs)

def ensure (fx : DemandEffects) (s : LeaseState) (requester : Str) (d : ResolvedDemand)
    (expiry : Time) : Except Str SubscriptionStatus × LeaseState × List LeaseEvent :=
  if s.isShutdown then (.error (lit "Subscription registry is shut down."), s, [])
  else
    let lease : Lease := ⟨d.preferredIntervalMs, expiry⟩
    match s.subscriptions.lookup d.key with
    | some sub =>
      let (renewed, evs) := renew m.node fx sub requester lease
      (.ok (status renewed), { s with subscriptions := s.subscriptions.insert d.key renewed }, evs)
    | none =>
      match m.resolveDemandDelivery fx d with
      | .error what => (.error what, s, [])
      | .ok created => m.create fx s created requester lease

/-- The error entry that `appendDemandStatus` writes for a recognised kind. -/
def demandError (demand : Demand) (reason : ErrorReason) (message : Str) : StatusEntry :=
  .error ⟨demand.kind, demand.name, [], none, reason, message⟩

/-- `appendDemandStatus`: the entry it appends, the state and the events. -/
def appendDemandStatus (fx : DemandEffects) (s : LeaseState) (requester : Str) (demand : Demand)
    (expiry : Time) : StatusEntry × LeaseState × List LeaseEvent :=
  if demand.kind = .topic ∧ m.accessPolicy.allows m.node.expand .subscribe demand.name = false then
    (demandError demand .forbidden (lit "ROS topic '" ++ demand.name ++ lit "' not permitted."), s, [])
  else if s.isShutdown then
    (demandError demand .notFound (lit "Subscription registry is shut down."), s, [])
  else
    match m.resolveDemand demand with
    | .error what => (demandError demand .notFound what, s, [])
    | .ok resolved =>
      match m.ensure fx s requester resolved expiry with
      | (.error what, s', evs) => (demandError demand .notFound what, s', evs)
      | (.ok st, s', evs) =>
        (.active st, s',
          evs ++ [.ensured resolved.key requester ⟨resolved.preferredIntervalMs, expiry⟩])

def appendUnsupportedStatus (unsupported : UnsupportedSubscription) : StatusEntry :=
  .error
    { kind := .topic
      name := []
      rawKind := unsupported.kind
      rawName := unsupported.name
      reason := .unsupportedKind
      message := lit "This bridge does not support subscription kind '" ++ unsupported.kind ++
        lit "'." }

/-- The loop of `createStatusReport` over the demands.  `fx i` is what happens
around the `i`-th of them. -/
def appendDemandStatuses (requester : Str) (expiry : Time) :
    (Nat → DemandEffects) → LeaseState → List Demand → List StatusEntry × LeaseState × List LeaseEvent
  | _, s, [] => ([], s, [])
  | fx, s, demand :: demands =>
    let (entry, s₁, evs₁) := m.appendDemandStatus (fx 0) s requester demand expiry
    let (entries, s₂, evs₂) := appendDemandStatuses requester expiry (fun i => fx (i + 1)) s₁ demands
    (entry :: entries, s₂, evs₁ ++ evs₂)

def createStatusReport (fx : Nat → DemandEffects) (s : LeaseState) (heartbeat : Heartbeat)
    (requester : Str) (expiry : Time) : StatusReport × LeaseState × List LeaseEvent :=
  let (entries, s', evs) := m.appendDemandStatuses requester expiry fx s heartbeat.demands
  (⟨entries ++ heartbeat.unsupported.map appendUnsupportedStatus, heartbeat.sessionId, expiry⟩,
    s', evs)

/-- `publishStatusReport`: an empty report is not sent. -/
def publishStatusReport (requester : Str) (report : StatusReport) : List LeaseEvent :=
  if report.statuses = [] then [] else [.statusSent requester report]

/-! ### The public calls -/

def handleHeartbeat (fx : Nat → DemandEffects) (now : Time) (identity : Str)
    (heartbeat : Heartbeat) (s : LeaseState) : LeaseState × List LeaseEvent :=
  match resolveIdentity s identity heartbeat.sessionId with
  | none => (s, [.heartbeat now identity heartbeat.sessionId none])
  | some requester =>
    let accepted := LeaseEvent.heartbeat now identity heartbeat.sessionId (some requester)
    let expiry := now + m.heartbeatLeaseDuration
    match renewSessionLease s requester heartbeat.sessionId expiry with
    | .error what => (s, [accepted, .threw what])
    | .ok s₁ =>
      let (report, s₂, evs) := m.createStatusReport fx s₁ heartbeat requester expiry
      (s₂, accepted :: evs ++ publishStatusReport requester report)

def pruneExpiredLeases (now : Time) (s : LeaseState) : LeaseState × List LeaseEvent :=
  if s.isShutdown then (s, []) else pruneLeases now (pruneSessionLeases now s)

def shutdown (s : LeaseState) : LeaseState := if s.isShutdown then s else ⟨true, ∅, ∅⟩

inductive EchoOnceResult
  | sent
  | none
deriving DecidableEq, Repr

/-- `dispatchEchoOnce`; `sends` is whether `sendByteStream` returns. -/
def dispatchEchoOnce (sends : Bool) (s : LeaseState) (kind : TargetKind) (name requester : Str) :
    Except Str EchoOnceResult × List LeaseEvent :=
  match resolveName m.node kind name with
  | .error what => (.error what, [])
  | .ok resolved =>
    match (s.subscriptions.lookup (makeKey kind resolved) : Option Subscription) with
    | none => (.ok .none, [])
    | some sub =>
      match sub.runtime with
      | .video _ _ => (.ok .none, [])
      | .audio _ => (.ok .none, [])
      | .data publisher =>
        match publisher.publication, publisher.cachedMessage with
        | some p, some (rosTopic, cdr) =>
          if sends then (.ok .sent, [.echoed p.subscribedTopic rosTopic cdr requester])
          else (.ok .none, [])
        | _, _ => (.ok .none, [])

/-- A message arrives on the subscription of the data publisher under `key`. -/
def deliver (now : Time) (key cdr : Str) (s : LeaseState) : LeaseState :=
  match (s.subscriptions.lookup key : Option Subscription) with
  | none => s
  | some sub =>
    match sub.runtime with
    | .video _ _ => s
    | .audio _ => s
    | .data publisher =>
      { s with
        subscriptions :=
          s.subscriptions.insert key { sub with runtime := .data (publisher.push now cdr) } }

end LeaseManager

end LivekitBridge
