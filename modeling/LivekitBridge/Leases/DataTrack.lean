import LivekitBridge.Names.Node
import LivekitBridge.Streams.Spec

/-!
# Data tracks

`data_track_publisher.cpp`.  A `DataTrackPublisher` carries one ROS topic onto one
LiveKit data track.  It exists from the moment a subscription is created; its
`Publication` (the track and the ROS subscription that feeds it) may fail to come
up and is then tried again by a later `publish`.  The delivery interval is kept
twice, in the publisher and in the live publication, and `setIntervalMs` writes
both.

Time is in nanoseconds, as `std::chrono::steady_clock` counts it.
-/

namespace LivekitBridge

/-- A `steady_clock::time_point`. -/
abbrev Time := Nat

/-- What `RoomConnection::publishDataTrack` does. -/
inductive TrackReply
  | threw
  | null
  | track
deriving DecidableEq, Repr

/-- What happens outside the bridge while a `Publication` is constructed: the
reply to the track, the durability that the publishers on the graph resolve to,
and whether the ROS subscription can be created. -/
structure PublicationEffects where
  track : TrackReply
  isTransientLocal : Bool
  subscribes : Bool
deriving DecidableEq, Repr

/-- `DataTrackPublisher::Publication` with its `State`.  `subscribedTopic` is the
topic the ROS subscription is on. -/
structure Publication where
  subscribedTopic : Str
  intervalMs : Int
  lastPushAt : Option Time
  isTransientLocal : Bool
  cachedCdr : Option Str
deriving DecidableEq, Repr

namespace Publication

/-- The constructor.  A track that was published is unpublished again when the
subscription cannot be created. -/
def create (node : Node) (effects : PublicationEffects) (rosTopic : Str) (intervalMs : Int) :
    Option Publication :=
  match effects.track with
  | .threw => none
  | .null => none
  | .track =>
    if effects.subscribes then
      match node.resolveTopicName rosTopic with
      | .error _ => none
      | .ok topic =>
        some
          { subscribedTopic := topic
            intervalMs := intervalMs
            lastPushAt := none
            isTransientLocal := effects.isTransientLocal
            cachedCdr := none }
    else none

def setIntervalMs (p : Publication) (intervalMs : Int) : Publication :=
  { p with intervalMs := intervalMs }

/-- `State::push`: a message arrives.  The second component is whether it is handed
to the track. -/
def push (p : Publication) (now : Time) (cdr : Str) : Publication × Bool :=
  let p := if p.isTransientLocal then { p with cachedCdr := some cdr } else p
  if p.intervalMs ≠ 0 then
    match p.lastPushAt with
    | none => ({ p with lastPushAt := some now }, true)
    | some last =>
      if (now : Int) - last < p.intervalMs * 1000000 then (p, false)
      else ({ p with lastPushAt := some now }, true)
  else (p, true)

theorem create_eq_some {node : Node} {effects : PublicationEffects} {rosTopic : Str}
    {intervalMs : Int} {p : Publication} (h : create node effects rosTopic intervalMs = some p) :
    p.intervalMs = intervalMs ∧ node.resolveTopicName rosTopic = .ok p.subscribedTopic := by
  unfold create at h
  split at h
  · cases h
  · cases h
  · split at h
    · split at h
      · cases h
      · rename_i topic ht
        obtain rfl := Option.some.inj h
        exact ⟨rfl, ht⟩
    · cases h

/-- It has not seen a message. -/
theorem create_fresh {node : Node} {effects : PublicationEffects} {rosTopic : Str}
    {intervalMs : Int} {p : Publication} (h : create node effects rosTopic intervalMs = some p) :
    p.lastPushAt = none ∧ p.cachedCdr = none := by
  rw [create] at h
  split at h
  · cases h
  · cases h
  · split at h
    · split at h
      · cases h
      · obtain rfl := Option.some.inj h
        exact ⟨rfl, rfl⟩
    · cases h

/-- A message changes neither the interval nor the subscription. -/
theorem push_fst (p : Publication) (now : Time) (cdr : Str) :
    (p.push now cdr).1.intervalMs = p.intervalMs ∧
      (p.push now cdr).1.subscribedTopic = p.subscribedTopic := by
  unfold push
  generalize hq : (if p.isTransientLocal = true then { p with cachedCdr := some cdr } else p) = q
  have hkeep : q.intervalMs = p.intervalMs ∧ q.subscribedTopic = p.subscribedTopic := by
    rw [← hq]
    split
    · exact ⟨rfl, rfl⟩
    · exact ⟨rfl, rfl⟩
  dsimp only
  split
  · split
    · exact hkeep
    · split
      · exact hkeep
      · exact hkeep
  · exact hkeep

/-- A message is cached by a durable publication, whether the throttle lets it through or
not, and by no other. -/
theorem push_cachedCdr (p : Publication) (now : Time) (cdr : Str) :
    (p.push now cdr).1.isTransientLocal = p.isTransientLocal ∧
      (p.push now cdr).1.cachedCdr = if p.isTransientLocal then some cdr else p.cachedCdr := by
  unfold push
  generalize hq : (if p.isTransientLocal = true then { p with cachedCdr := some cdr } else p) = q
  have hkeep : q.isTransientLocal = p.isTransientLocal ∧
      q.cachedCdr = if p.isTransientLocal then some cdr else p.cachedCdr := by
    rw [← hq]
    by_cases hd : p.isTransientLocal = true
    · simp [hd]
    · simp [hd]
  dsimp only
  split
  · split
    · exact hkeep
    · split
      · exact hkeep
      · exact hkeep
  · exact hkeep

end Publication

structure SubscriptionQos where
  durability : Str
deriving DecidableEq, Repr

structure DataTrackPublisher where
  rosTopic : Str
  interfaceType : Str
  trackName : Str
  intervalMs : Int
  publication : Option Publication
deriving DecidableEq, Repr

namespace DataTrackPublisher

def makeTrackName (rosTopic : Str) : Str :=
  lit "lkros.data" ++ rosTopic.map fun ch => if ch = slash then dot else ch

/-- The constructor. -/
def new (rosTopic interfaceType : Str) : DataTrackPublisher :=
  { rosTopic := rosTopic
    interfaceType := interfaceType
    trackName := makeTrackName rosTopic
    intervalMs := 0
    publication := none }

def isPublished (d : DataTrackPublisher) : Bool := d.publication.isSome

/-- `publish`: does nothing on a live publication; a failure is swallowed. -/
def publish (node : Node) (effects : PublicationEffects) (d : DataTrackPublisher) :
    DataTrackPublisher :=
  match d.publication with
  | some _ => d
  | none => { d with publication := Publication.create node effects d.rosTopic d.intervalMs }

def setIntervalMs (d : DataTrackPublisher) (intervalMs : Int) : DataTrackPublisher :=
  { d with intervalMs := intervalMs, publication := d.publication.map (·.setIntervalMs intervalMs) }

def qos (d : DataTrackPublisher) : SubscriptionQos :=
  let isTransientLocal := d.publication.any (·.isTransientLocal)
  ⟨if isTransientLocal then lit "transient_local" else lit "volatile"⟩

/-- `cachedMessage`: the ROS topic and the bytes. -/
def cachedMessage (d : DataTrackPublisher) : Option (Str × Str) :=
  match d.publication with
  | none => none
  | some p =>
    match p.cachedCdr with
    | none => none
    | some cdr => some (d.rosTopic, cdr)

/-- A message arrives on the subscription. -/
def push (d : DataTrackPublisher) (now : Time) (cdr : Str) : DataTrackPublisher :=
  { d with publication := d.publication.map fun p => (p.push now cdr).1 }

/-- **Both copies of the interval are `i`**: the publisher's and, when a
publication is live, the publication's. -/
structure Paced (d : DataTrackPublisher) (i : Int) : Prop where
  publisher : d.intervalMs = i
  publication : ∀ p, d.publication = some p → p.intervalMs = i

theorem paced_setIntervalMs (d : DataTrackPublisher) (i : Int) : (d.setIntervalMs i).Paced i := by
  refine ⟨rfl, ?_⟩
  intro p hp
  obtain ⟨q, _, rfl⟩ := Option.map_eq_some_iff.mp hp
  rfl

/-- Publishing keeps the pace: a new publication is opened at the publisher's
interval. -/
theorem Paced.publish {d : DataTrackPublisher} {i : Int} (h : d.Paced i) (node : Node)
    (effects : PublicationEffects) : (d.publish node effects).Paced i := by
  unfold DataTrackPublisher.publish
  cases hd : d.publication with
  | some q => exact h
  | none =>
    refine ⟨h.publisher, ?_⟩
    intro p hp
    exact (Publication.create_eq_some hp).1.trans h.publisher

theorem Paced.push {d : DataTrackPublisher} {i : Int} (h : d.Paced i) (now : Time) (cdr : Str) :
    (d.push now cdr).Paced i := by
  refine ⟨h.publisher, ?_⟩
  intro p hp
  obtain ⟨q, hq, rfl⟩ := Option.map_eq_some_iff.mp hp
  exact (q.push_fst now cdr).1.trans (h.publication q hq)

end DataTrackPublisher

end LivekitBridge
