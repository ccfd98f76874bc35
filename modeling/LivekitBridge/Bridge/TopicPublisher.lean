import LivekitBridge.AccessPolicy
import LivekitBridge.Names.Node
import LivekitBridge.Streams.Spec

/-!
# Publishing ROS messages for clients

`ros_topic_publisher.cpp`: a client's `ros2.topic.pub` packet names a topic, an
interface type and a serialised message.  The topic is resolved by the node, the
policy is asked about the resolved name, and the message goes out on a publisher
that is kept for the topic once it has published.

`is_shutdown_` is read again after the first check, because a shutdown may run at
the same time; what these reads return is part of `PublishEffects`.
-/

namespace LivekitBridge

/-- `RosPublishRequest`, as `topic_publish::parse` makes it: the topic is the
trimmed text of the field. -/
structure PublishRequest where
  rosTopic : Str
  interfaceType : Str
  message : Str
deriving DecidableEq, Repr

/-- `RosTopicPublisher::Entry`.  `publishesOn` is the topic of the rclcpp
publisher. -/
structure PublisherEntry where
  type : Str
  publishesOn : Str
deriving DecidableEq, Repr

/-- What `RosTopicPublisher` changes. -/
structure PublisherState where
  isShutdown : Bool
  publishers : AList fun _ : Str => PublisherEntry

/-- The state of a publisher that was just constructed. -/
def PublisherState.initial : PublisherState := ⟨false, ∅⟩

/-- `RosTopicPublisher`, less what it changes. -/
structure TopicPublisher where
  node : Node
  policy : AccessPolicy
  maxTopics : Nat

def kDefaultMaxTopics : Nat := 50

/-- What happens outside while one request is served: the graph, whether
`create_generic_publisher` and `publish` return, and what the later reads of
`is_shutdown_` and of the size of the cache see. -/
structure PublishEffects where
  graph : AList fun _ : Str => List Str
  creates : Bool
  publishes : Bool
  shutdownBeforePublish : Bool
  shutdownAfterPublish : Bool
  shutdownBeforeInsert : Bool

/-- A message left on a ROS topic. -/
structure Published where
  topic : Str
  type : Str
  message : Str
deriving DecidableEq, Repr

namespace TopicPublisher

variable (p : TopicPublisher)

/-- The publisher and the type that a request for `topic` is served with: the
cached one, or a new one of the type on the graph; `none` when the request is
rejected.  The flag is `was_cached`. -/
def selectPublisher (fx : PublishEffects) (s : PublisherState) (topic interfaceType : Str) :
    Option (PublisherEntry × Bool) :=
  match (s.publishers.lookup topic : Option PublisherEntry) with
  | some entry => if entry.type ≠ interfaceType then none else some (entry, true)
  | none =>
    if p.maxTopics ≤ s.publishers.entries.length then none
    else
      match requireSingleType fx.graph topic (lit "topic") with
      | .error _ => none
      | .ok type =>
        if type ≠ interfaceType then none
        else if fx.creates then
          match p.node.resolveTopicName topic with
          | .error _ => none
          | .ok publishesOn => some (⟨type, publishesOn⟩, false)
        else none

def publish (fx : PublishEffects) (s : PublisherState) (request : PublishRequest) :
    PublisherState × List Published :=
  if s.isShutdown then (s, [])
  else
    match p.node.resolveTopicName request.rosTopic with
    | .error _ => (s, [])
    | .ok topic =>
      if p.policy.allows p.node.expand .publish topic = false then (s, [])
      else
        match p.selectPublisher fx s topic request.interfaceType with
        | none => (s, [])
        | some (entry, wasCached) =>
          if fx.shutdownBeforePublish then (s, [])
          else if fx.publishes then
            let sent : List Published := [⟨entry.publishesOn, entry.type, request.message⟩]
            if fx.shutdownAfterPublish || wasCached || fx.shutdownBeforeInsert then (s, sent)
            else if s.publishers.entries.length < p.maxTopics then
              ({ s with publishers := s.publishers.insert topic entry }, sent)
            else (s, sent)
          else (s, [])

def shutdown (s : PublisherState) : PublisherState :=
  if s.isShutdown then s else ⟨true, ∅⟩

/-- **What a served request does**: the message goes out on the publisher of the
resolved topic, which may then be kept. -/
theorem publish_cases {p : TopicPublisher} (fx : PublishEffects) (s : PublisherState)
    (request : PublishRequest) :
    ((p.publish fx s request).1 = s ∧ (p.publish fx s request).2 = []) ∨
      ∃ topic entry wasCached, p.node.resolveTopicName request.rosTopic = .ok topic ∧
        p.policy.allows p.node.expand .publish topic = true ∧
        p.selectPublisher fx s topic request.interfaceType = some (entry, wasCached) ∧
        (p.publish fx s request).2 = [⟨entry.publishesOn, entry.type, request.message⟩] ∧
        ((p.publish fx s request).1 = s ∨
          (wasCached = false ∧
            (p.publish fx s request).1 = { s with publishers := s.publishers.insert topic entry })) := by
  unfold publish
  split
  · exact .inl ⟨rfl, rfl⟩
  · split
    · exact .inl ⟨rfl, rfl⟩
    · rename_i topic htopic
      split
      · exact .inl ⟨rfl, rfl⟩
      · rename_i hallow
        rw [Bool.not_eq_false] at hallow
        split
        · exact .inl ⟨rfl, rfl⟩
        · rename_i entry wasCached hsel
          split
          · exact .inl ⟨rfl, rfl⟩
          · split
            · refine .inr ⟨topic, entry, wasCached, htopic, hallow, hsel, ?_⟩
              dsimp only
              split
              · exact ⟨rfl, .inl rfl⟩
              · rename_i hflags
                split
                · refine ⟨rfl, .inr ⟨?_, rfl⟩⟩
                  simp only [Bool.or_eq_true, not_or, Bool.not_eq_true] at hflags
                  exact hflags.1.2
                · exact ⟨rfl, .inl rfl⟩
            · exact .inl ⟨rfl, rfl⟩

theorem selectPublisher_cases {p : TopicPublisher} {fx : PublishEffects} {s : PublisherState}
    {topic interfaceType : Str} {entry : PublisherEntry} {wasCached : Bool}
    (h : p.selectPublisher fx s topic interfaceType = some (entry, wasCached)) :
    s.publishers.lookup topic = some entry ∨
      p.node.resolveTopicName topic = .ok entry.publishesOn := by
  unfold selectPublisher at h
  split at h
  · rename_i cached hl
    split at h
    · cases h
    · obtain ⟨rfl, _⟩ := Prod.mk.inj (Option.some.inj h)
      exact .inl hl
  · split at h
    · cases h
    · split at h
      · cases h
      · split at h
        · cases h
        · split at h
          · split at h
            · cases h
            · rename_i publishesOn hres
              obtain ⟨rfl, _⟩ := Prod.mk.inj (Option.some.inj h)
              exact .inr hres
          · cases h

end TopicPublisher

end LivekitBridge
