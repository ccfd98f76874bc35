import LivekitBridge.Bridge.TopicPublisher
import LivekitBridge.Lib.Assoc
import LivekitBridge.Lib.Machine
import Mathlib.Data.Finset.Card

/-!
# Publishing beside a shutdown

`RosTopicPublisher::publish` reads `is_shutdown_` four times and takes `mutex_` twice, and between
these the graph changes and a shutdown may run.  Here it is taken apart at these places: `Stage` is
where the request is, and `advance` goes on to the next.  Requests come one after the other.
`shutdown` sets the flag in one step and clears the cache in another; of several shutdowns only the
first does.  `advances` says once what each part can do, and the invariants follow from it.

What is published is seen in the trace.  Until a shutdown the cache holds exactly the topics that
were published on, but for the one of a request that has published and not yet come to the cache
(`Kept`).  So the bound on the cache bounds the topics as well.
-/

namespace LivekitBridge

/-- What happens outside at one step of a request. -/
structure PublishWorld where
  graph : AList fun _ : Str => List Str
  creates : Bool
  publishes : Bool

/-- The effects of `publish` when no shutdown runs beside it. -/
def PublishWorld.undisturbed (fx : PublishWorld) : PublishEffects where
  graph := fx.graph
  creates := fx.creates
  publishes := fx.publishes
  shutdownBeforePublish := false
  shutdownAfterPublish := false
  shutdownBeforeInsert := false

namespace TopicPublisher

/-- How far a request has come. -/
inductive Stage
  | idle
  /-- `is_shutdown_` was false. -/
  | called (request : PublishRequest)
  /-- The topic is resolved, and allowed. -/
  | resolved (request : PublishRequest) (topic : Str)
  /-- The cache was searched. -/
  | searched (request : PublishRequest) (topic : Str) (cached : Option PublisherEntry)
  /-- The type is that of the request. -/
  | typed (request : PublishRequest) (topic type : Str) (cached : Option PublisherEntry)
  /-- There is a publisher. -/
  | ready (request : PublishRequest) (topic : Str) (entry : PublisherEntry) (wasCached : Bool)
  /-- `is_shutdown_` was false again. -/
  | publishing (request : PublishRequest) (topic : Str) (entry : PublisherEntry) (wasCached : Bool)
  /-- `publish` has returned. -/
  | published (request : PublishRequest) (topic : Str) (entry : PublisherEntry) (wasCached : Bool)
  /-- `is_shutdown_` was false once more, and the publisher is to be kept. -/
  | keeping (request : PublishRequest) (topic : Str) (entry : PublisherEntry)

/-- What is seen of a run.  `created` is a call of `create_generic_publisher` and `handed` one of
`publish`, which returned or threw; `kept` is a publisher that came into the cache. -/
inductive PublishEvent
  | began (request : PublishRequest)
  | created (topic : Str) (entry : PublisherEntry)
  | handed (request : PublishRequest) (topic : Str) (entry : PublisherEntry) (succeeded : Bool)
  | kept (topic : Str) (entry : PublisherEntry)
  | shutdown
  | cleared

/-- The publisher, the request that is served, and whether a shutdown has yet to clear the cache. -/
structure Run where
  state : PublisherState
  stage : Stage
  clearing : Bool

/-- The next part of `publish`: the cache, how far the request has come, and what is seen. -/
def advance (p : TopicPublisher) (fx : PublishWorld) (s : PublisherState) :
    Stage → PublisherState × Stage × List PublishEvent
  | .idle => (s, .idle, [])
  | .called request =>
    match p.node.resolveTopicName request.rosTopic with
    | .error _ => (s, .idle, [])
    | .ok topic =>
      if p.policy.allows p.node.expand .publish topic = false then (s, .idle, [])
      else (s, .resolved request topic, [])
  | .resolved request topic =>
    match (s.publishers.lookup topic : Option PublisherEntry) with
    | some entry => (s, .searched request topic (some entry), [])
    | none =>
      if p.maxTopics ≤ s.publishers.entries.length then (s, .idle, [])
      else (s, .searched request topic none, [])
  | .searched request topic (some entry) =>
    if entry.type ≠ request.interfaceType then (s, .idle, [])
    else (s, .typed request topic entry.type (some entry), [])
  | .searched request topic none =>
    match requireSingleType fx.graph topic (lit "topic") with
    | .error _ => (s, .idle, [])
    | .ok type =>
      if type ≠ request.interfaceType then (s, .idle, []) else (s, .typed request topic type none, [])
  | .typed request topic _ (some entry) => (s, .ready request topic entry true, [])
  | .typed request topic type none =>
    if fx.creates then
      match p.node.resolveTopicName topic with
      | .error _ => (s, .idle, [])
      | .ok publishesOn =>
        (s, .ready request topic ⟨type, publishesOn⟩ false, [.created topic ⟨type, publishesOn⟩])
    else (s, .idle, [])
  | .ready request topic entry wasCached =>
    if s.isShutdown then (s, .idle, []) else (s, .publishing request topic entry wasCached, [])
  | .publishing request topic entry wasCached =>
    if fx.publishes then
      (s, .published request topic entry wasCached, [.handed request topic entry true])
    else (s, .idle, [.handed request topic entry false])
  | .published request topic entry wasCached =>
    if s.isShutdown || wasCached then (s, .idle, []) else (s, .keeping request topic entry, [])
  | .keeping _ topic entry =>
    if s.isShutdown then (s, .idle, [])
    else if s.publishers.entries.length < p.maxTopics then
      -- `emplace` leaves an entry that is there as it is
      if topic ∈ s.publishers then (s, .idle, [])
      else ({ s with publishers := s.publishers.insert topic entry }, .idle, [.kept topic entry])
    else (s, .idle, [])

/-- One step: a request comes or goes on, or a shutdown sets the flag or clears the cache. -/
inductive Serving (p : TopicPublisher) : Run → List PublishEvent → Run → Prop
  | begin (s : PublisherState) (clearing : Bool) (request : PublishRequest) :
      Serving p ⟨s, .idle, clearing⟩ [.began request]
        ⟨s, if s.isShutdown then .idle else .called request, clearing⟩
  | advance (s : PublisherState) (stage : Stage) (clearing : Bool) (fx : PublishWorld) :
      Serving p ⟨s, stage, clearing⟩ (p.advance fx s stage).2.2
        ⟨(p.advance fx s stage).1, (p.advance fx s stage).2.1, clearing⟩
  | shutdown (s : PublisherState) (stage : Stage) (clearing : Bool) :
      Serving p ⟨s, stage, clearing⟩ [.shutdown]
        ⟨{ s with isShutdown := true }, stage, clearing || !s.isShutdown⟩
  | clear (s : PublisherState) (stage : Stage) :
      Serving p ⟨s, stage, true⟩ [.cleared] ⟨{ s with publishers := ∅ }, stage, false⟩

/-- A publisher from its construction on. -/
def serving (p : TopicPublisher) : Lib.Machine Run PublishEvent where
  start s := s = ⟨.initial, .idle, false⟩
  step := Serving p

/-! ### Without a shutdown -/

/-- Several parts one after the other, in a world that stays the same. -/
def serve (p : TopicPublisher) (fx : PublishWorld) :
    Nat → PublisherState → Stage → PublisherState × Stage × List PublishEvent
  | 0, s, stage => (s, stage, [])
  | n + 1, s, stage =>
    let next := p.advance fx s stage
    let later := serve p fx n next.1 next.2.1
    (later.1, later.2.1, next.2.2 ++ later.2.2)

theorem serve_trace {p : TopicPublisher} {tr : List PublishEvent} {s : PublisherState}
    {stage : Stage} {clearing : Bool} (fx : PublishWorld) (n : Nat)
    (h : (serving p).Trace tr ⟨s, stage, clearing⟩) :
    (serving p).Trace (tr ++ (p.serve fx n s stage).2.2)
      ⟨(p.serve fx n s stage).1, (p.serve fx n s stage).2.1, clearing⟩ := by
  induction n generalizing tr s stage with
  | zero =>
    show (serving p).Trace (tr ++ []) ⟨s, stage, clearing⟩
    rw [List.append_nil]
    exact h
  | succ n ih =>
    have hnext := ih (h.step (.advance s stage clearing fx))
    rw [List.append_assoc] at hnext
    exact hnext

/-- The message that left. -/
def PublishEvent.sent : PublishEvent → Option Published
  | .handed request _ entry true => some ⟨entry.publishesOn, entry.type, request.message⟩
  | _ => none

/-- **The parts put together are `publish`.** -/
theorem serve_eq_publish (p : TopicPublisher) (fx : PublishWorld) (s : PublisherState)
    (request : PublishRequest) (hopen : s.isShutdown = false) :
    (p.serve fx 8 s (.called request)).1 = (p.publish fx.undisturbed s request).1 ∧
      (p.serve fx 8 s (.called request)).2.2.filterMap PublishEvent.sent =
        (p.publish fx.undisturbed s request).2 := by
  simp only [publish, hopen, Bool.false_eq_true, if_false]
  cases hres : p.node.resolveTopicName request.rosTopic with
  | error e => simp [serve, advance, hres]
  | ok topic =>
    by_cases hallow : p.policy.allows p.node.expand .publish topic = false
    · simp [serve, advance, hres, hallow]
    rw [Bool.not_eq_false] at hallow
    cases hl : (s.publishers.lookup topic : Option PublisherEntry) with
    | some entry =>
      by_cases htype : entry.type = request.interfaceType
      · cases hpub : fx.publishes <;>
          simp [serve, advance, selectPublisher, PublishWorld.undisturbed, PublishEvent.sent,
            hopen, hres, hallow, hl, htype, hpub]
      · simp [serve, advance, selectPublisher, hres, hallow, hl, htype]
    | none =>
      have hnew : topic ∉ s.publishers := AList.lookup_eq_none.mp hl
      by_cases hfull : p.maxTopics ≤ s.publishers.entries.length
      · simp [serve, advance, selectPublisher, hres, hallow, hl, hfull]
      cases hgraph : requireSingleType fx.graph topic (lit "topic") with
      | error e =>
        simp [serve, advance, selectPublisher, PublishWorld.undisturbed, hres, hallow, hl, hfull,
          hgraph]
      | ok type =>
        by_cases htype : type = request.interfaceType
        · cases hcreates : fx.creates with
          | false =>
            simp [serve, advance, selectPublisher, PublishWorld.undisturbed, hres, hallow, hl,
              hfull, hgraph, htype, hcreates]
          | true =>
            cases hon : p.node.resolveTopicName topic with
            | error e =>
              simp [serve, advance, selectPublisher, PublishWorld.undisturbed, hres, hallow, hl,
                hfull, hgraph, htype, hcreates, hon]
            | ok publishesOn =>
              cases hpub : fx.publishes with
              | false =>
                simp [serve, advance, selectPublisher, PublishWorld.undisturbed, PublishEvent.sent,
                  hopen, hres, hallow, hl, hfull, hgraph, htype, hcreates, hon, hpub]
              | true =>
                have hroom : s.publishers.entries.length < p.maxTopics := Nat.lt_of_not_le hfull
                have hsent : ∀ entry, List.filterMap PublishEvent.sent [.created topic entry,
                    .handed request topic entry true, .kept topic entry] =
                    [⟨entry.publishesOn, entry.type, request.message⟩] := fun entry => rfl
                simp [serve, advance, selectPublisher, PublishWorld.undisturbed, hopen, hres,
                  hallow, hl, hfull, hgraph, htype, hcreates, hon, hpub, hnew, hroom, hsent]
        · simp [serve, advance, selectPublisher, PublishWorld.undisturbed, hres, hallow, hl, hfull,
            hgraph, htype]

/-! ### What is seen of a run -/

/-- The topic on which a message was published. -/
def PublishEvent.publishedTopic : PublishEvent → Option Str
  | .handed _ topic _ true => some topic
  | _ => none

/-- The topics on which messages were published. -/
def publishedOn (tr : List PublishEvent) : Finset Str :=
  (tr.filterMap PublishEvent.publishedTopic).toFinset

/-- The cache after an event. -/
def PublishEvent.keep (publishers : AList fun _ : Str => PublisherEntry) :
    PublishEvent → AList fun _ : Str => PublisherEntry
  | .kept topic entry => publishers.insert topic entry
  | .cleared => ∅
  | _ => publishers

/-- The cache as the events made it. -/
def keptIn (tr : List PublishEvent) : AList fun _ : Str => PublisherEntry :=
  tr.foldl PublishEvent.keep ∅

/-- The request that is being served has published this message. -/
def HasPublished (tr : List PublishEvent) (topic : Str) (entry : PublisherEntry) : Prop :=
  ∃ pre request post, tr = pre ++ .handed request topic entry true :: post ∧
    ∀ request', .began request' ∉ post

/-! ### The invariant -/

section Invariant

variable (p : TopicPublisher) (tr : List PublishEvent)

structure Allowed (request : PublishRequest) (topic : Str) : Prop where
  resolved : p.node.resolveTopicName request.rosTopic = .ok topic
  allowed : p.policy.allows p.node.expand .publish topic = true

/-- What the search in the cache has found is so while no shutdown has begun. -/
def Searched (s : PublisherState) (topic : Str) (wasCached : Bool) : Prop :=
  s.isShutdown = false →
    if wasCached then topic ∈ s.publishers
    else topic ∉ s.publishers ∧ s.publishers.entries.length < p.maxTopics

/-- A publisher that was created for the topic, with the type that the request asks for. -/
structure Fits (request : PublishRequest) (topic : Str) (entry : PublisherEntry) : Prop where
  allowed : p.Allowed request topic
  type : entry.type = request.interfaceType
  created : .created topic entry ∈ tr

/-- What is known of a request, by how far it has come. -/
def Knows (s : PublisherState) : Stage → Prop
  | .idle => True
  | .called _ => True
  | .resolved request topic => p.Allowed request topic
  | .searched request topic cached =>
    p.Allowed request topic ∧ p.Searched s topic cached.isSome ∧
      ∀ entry, cached = some entry → .created topic entry ∈ tr
  | .typed request topic type cached =>
    p.Allowed request topic ∧ p.Searched s topic cached.isSome ∧ type = request.interfaceType ∧
      ∀ entry, cached = some entry → .created topic entry ∈ tr ∧ entry.type = type
  | .ready request topic entry wasCached =>
    p.Fits tr request topic entry ∧ p.Searched s topic wasCached
  | .publishing request topic entry wasCached =>
    p.Fits tr request topic entry ∧ p.Searched s topic wasCached ∧
      (topic ∈ publishedOn tr ∨ (publishedOn tr).card < p.maxTopics)
  | .published request topic entry wasCached =>
    p.Fits tr request topic entry ∧ p.Searched s topic wasCached ∧ HasPublished tr topic entry
  | .keeping request topic entry =>
    p.Fits tr request topic entry ∧ p.Searched s topic false ∧ HasPublished tr topic entry

/-- The topic that was published on and is not yet in the cache. -/
def Stage.unkept : Stage → Option Str
  | .published _ topic _ false => some topic
  | .keeping _ topic _ => some topic
  | _ => none

/-- **What holds of every run.** -/
structure Kept (s : Run) : Prop where
  contents : s.state.publishers = keptIn tr
  created : ∀ topic entry, s.state.publishers.lookup topic = some entry → .created topic entry ∈ tr
  subset : ∀ topic ∈ s.state.publishers, topic ∈ publishedOn tr
  kept : s.state.isShutdown = false → ∀ topic ∈ publishedOn tr,
    topic ∈ s.state.publishers ∨ s.stage.unkept = some topic
  bounded : (publishedOn tr).card ≤ p.maxTopics
  flag : s.state.isShutdown = true ↔ .shutdown ∈ tr
  clearing : s.clearing = true → s.state.isShutdown = true
  cleared : .cleared ∈ tr → s.state.isShutdown = true ∧ s.state.publishers = ∅
  pinned : .cleared ∉ tr → ∀ topic entry, .kept topic entry ∈ tr →
    s.state.publishers.lookup topic = some entry
  knows : p.Knows tr s.state s.stage

end Invariant

/-- What a part of `publish` can do. -/
inductive Advances (p : TopicPublisher) (s : PublisherState) :
    Stage → PublisherState → Stage → List PublishEvent → Prop
  /-- The request ends.  Nothing is lost by it while no shutdown has begun. -/
  | ends {stage : Stage} : (s.isShutdown = false → stage.unkept = none) →
      Advances p s stage s .idle []
  | resolves {request : PublishRequest} {topic : Str} : p.Allowed request topic →
      Advances p s (.called request) s (.resolved request topic) []
  | finds {request : PublishRequest} {topic : Str} {entry : PublisherEntry} :
      s.publishers.lookup topic = some entry →
      Advances p s (.resolved request topic) s (.searched request topic (some entry)) []
  | misses {request : PublishRequest} {topic : Str} : topic ∉ s.publishers →
      s.publishers.entries.length < p.maxTopics →
      Advances p s (.resolved request topic) s (.searched request topic none) []
  | types {request : PublishRequest} {topic type : Str} {cached : Option PublisherEntry} :
      type = request.interfaceType → (∀ entry, cached = some entry → entry.type = type) →
      Advances p s (.searched request topic cached) s (.typed request topic type cached) []
  | reuses {request : PublishRequest} {topic type : Str} {entry : PublisherEntry} :
      Advances p s (.typed request topic type (some entry)) s (.ready request topic entry true) []
  | creates {request : PublishRequest} {topic type publishesOn : Str} :
      Advances p s (.typed request topic type none) s
        (.ready request topic ⟨type, publishesOn⟩ false) [.created topic ⟨type, publishesOn⟩]
  | publishes {request : PublishRequest} {topic : Str} {entry : PublisherEntry} {wasCached : Bool} :
      s.isShutdown = false → Advances p s (.ready request topic entry wasCached) s
        (.publishing request topic entry wasCached) []
  | succeeds {request : PublishRequest} {topic : Str} {entry : PublisherEntry} {wasCached : Bool} :
      Advances p s (.publishing request topic entry wasCached) s
        (.published request topic entry wasCached) [.handed request topic entry true]
  | fails {request : PublishRequest} {topic : Str} {entry : PublisherEntry} {wasCached : Bool} :
      Advances p s (.publishing request topic entry wasCached) s .idle
        [.handed request topic entry false]
  | remembers {request : PublishRequest} {topic : Str} {entry : PublisherEntry} :
      Advances p s (.published request topic entry false) s (.keeping request topic entry) []
  | drops {request : PublishRequest} {topic : Str} {entry : PublisherEntry} :
      (topic ∉ s.publishers → ¬ s.publishers.entries.length < p.maxTopics) →
      Advances p s (.keeping request topic entry) s .idle []
  | keeps {request : PublishRequest} {topic : Str} {entry : PublisherEntry} :
      s.isShutdown = false → topic ∉ s.publishers →
      Advances p s (.keeping request topic entry)
        { s with publishers := s.publishers.insert topic entry } .idle [.kept topic entry]

theorem advances (p : TopicPublisher) (fx : PublishWorld) (s : PublisherState) (stage : Stage) :
    p.Advances s stage (p.advance fx s stage).1 (p.advance fx s stage).2.1
      (p.advance fx s stage).2.2 := by
  cases stage with
  | idle => exact .ends fun _ => rfl
  | called request =>
    simp only [advance]
    split
    · exact .ends fun _ => rfl
    · rename_i topic htopic
      split
      · exact .ends fun _ => rfl
      · rename_i hallowed
        rw [Bool.not_eq_false] at hallowed
        exact .resolves ⟨htopic, hallowed⟩
  | resolved request topic =>
    simp only [advance]
    split
    · rename_i entry hl
      exact .finds hl
    · rename_i hl
      split
      · exact .ends fun _ => rfl
      · rename_i hroom
        exact .misses (AList.lookup_eq_none.mp hl) (Nat.lt_of_not_le hroom)
  | searched request topic cached =>
    cases cached with
    | some entry =>
      simp only [advance]
      split
      · exact .ends fun _ => rfl
      · rename_i htype
        refine .types (not_not.mp htype) ?_
        intro entry' hentry'
        obtain rfl := Option.some.inj hentry'
        rfl
    | none =>
      simp only [advance]
      split
      · exact .ends fun _ => rfl
      · split
        · exact .ends fun _ => rfl
        · rename_i htype
          refine .types (not_not.mp htype) ?_
          intro entry' hentry'
          cases hentry'
  | typed request topic type cached =>
    cases cached with
    | some entry => exact .reuses
    | none =>
      simp only [advance]
      split
      · split
        · exact .ends fun _ => rfl
        · exact .creates
      · exact .ends fun _ => rfl
  | ready request topic entry wasCached =>
    simp only [advance]
    split
    · exact .ends fun _ => rfl
    · rename_i hopen
      rw [Bool.not_eq_true] at hopen
      exact .publishes hopen
  | publishing request topic entry wasCached =>
    simp only [advance]
    split
    · exact .succeeds
    · exact .fails
  | published request topic entry wasCached =>
    simp only [advance]
    split
    · rename_i hreturn
      refine .ends ?_
      intro hopen
      rw [hopen, Bool.false_or] at hreturn
      rw [hreturn]
      rfl
    · rename_i hreturn
      obtain ⟨_, rfl⟩ : s.isShutdown = false ∧ wasCached = false := by simpa using hreturn
      exact .remembers
  | keeping request topic entry =>
    simp only [advance]
    split
    · rename_i hshutdown
      refine .ends ?_
      intro hopen
      rw [hshutdown] at hopen
      cases hopen
    · rename_i hopen
      rw [Bool.not_eq_true] at hopen
      split
      · split
        · rename_i hmem
          exact .drops fun hnew => absurd hmem hnew
        · rename_i hnew
          exact .keeps hopen hnew
      · rename_i hroom
        exact .drops fun _ => hroom

section Preservation

variable {p : TopicPublisher} {tr evs : List PublishEvent} {s : PublisherState} {stage : Stage}
  {clearing : Bool}

theorem publishedOn_append (tr evs : List PublishEvent) :
    publishedOn (tr ++ evs) = publishedOn tr ∪ publishedOn evs := by
  rw [publishedOn, List.filterMap_append, List.toFinset_append]
  rfl

theorem keptIn_concat (tr : List PublishEvent) (e : PublishEvent) :
    keptIn (tr ++ [e]) = e.keep (keptIn tr) := by
  rw [keptIn, List.foldl_append]
  rfl

theorem card_le_length {topics : Finset Str} {publishers : AList fun _ : Str => PublisherEntry}
    (h : ∀ topic ∈ topics, topic ∈ publishers) : topics.card ≤ publishers.entries.length := by
  have hsub : topics ⊆ publishers.keys.toFinset := by
    intro topic htopic
    rw [List.mem_toFinset]
    exact h topic htopic
  calc topics.card ≤ publishers.keys.toFinset.card := Finset.card_le_card hsub
    _ ≤ publishers.keys.length := List.toFinset_card_le _
    _ = publishers.entries.length := List.length_map _

theorem length_le_card {topics : Finset Str} {publishers : AList fun _ : Str => PublisherEntry}
    (h : ∀ topic ∈ publishers, topic ∈ topics) : publishers.entries.length ≤ topics.card := by
  have hsub : publishers.keys.toFinset ⊆ topics := by
    intro topic htopic
    exact h topic (List.mem_toFinset.mp htopic)
  calc publishers.entries.length = publishers.keys.length := (List.length_map _).symm
    _ = publishers.keys.toFinset.card := (List.toFinset_card_of_nodup publishers.keys_nodup).symm
    _ ≤ topics.card := Finset.card_le_card hsub

/-- An event that changes nothing. -/
def PublishEvent.Quiet : PublishEvent → Prop
  | .began _ => True
  | .created _ _ => True
  | .handed _ _ _ succeeded => succeeded = false
  | _ => False

theorem PublishEvent.Quiet.facts {e : PublishEvent} (h : e.Quiet) :
    e.publishedTopic = none ∧ (∀ publishers, e.keep publishers = publishers) ∧ e ≠ .shutdown ∧
      e ≠ .cleared ∧ ∀ topic entry, e ≠ .kept topic entry := by
  cases e with
  | began request => simp [PublishEvent.publishedTopic, PublishEvent.keep]
  | created topic entry => simp [PublishEvent.publishedTopic, PublishEvent.keep]
  | handed request topic entry succeeded =>
    have hfailed : succeeded = false := h
    simp [PublishEvent.publishedTopic, PublishEvent.keep, hfailed]
  | kept topic entry => exact h.elim
  | shutdown => exact h.elim
  | cleared => exact h.elim

theorem publishedOn_quiet (h : ∀ e ∈ evs, e.Quiet) : publishedOn (tr ++ evs) = publishedOn tr := by
  have hnil : evs.filterMap PublishEvent.publishedTopic = [] := by
    rw [List.filterMap_eq_nil_iff]
    intro e he
    exact (h e he).facts.1
  rw [publishedOn, List.filterMap_append, hnil, List.append_nil]
  rfl

theorem keptIn_quiet (h : ∀ e ∈ evs, e.Quiet) : keptIn (tr ++ evs) = keptIn tr := by
  induction evs generalizing tr with
  | nil => rw [List.append_nil]
  | cons e evs ih =>
    rw [List.append_cons, ih fun e' he' => h e' (List.mem_cons_of_mem _ he'), keptIn_concat]
    exact (h e List.mem_cons_self).facts.2.1 _

theorem mem_append_quiet (h : ∀ e ∈ evs, e.Quiet) {e : PublishEvent} (he : ¬ e.Quiet) :
    e ∈ tr ++ evs ↔ e ∈ tr := by
  rw [List.mem_append, or_iff_left]
  intro hmem
  exact he (h e hmem)

/-- A step of the request that changes nothing. -/
theorem Kept.quiet {stage' : Stage} (h : Kept p tr ⟨s, stage, clearing⟩) (hevs : ∀ e ∈ evs, e.Quiet)
    (hunkept : s.isShutdown = false → ∀ topic, stage.unkept = some topic →
      stage'.unkept = some topic)
    (hknows : p.Knows (tr ++ evs) s stage') : Kept p (tr ++ evs) ⟨s, stage', clearing⟩ where
  contents := by
    rw [keptIn_quiet hevs]
    exact h.contents
  created topic entry hl := List.mem_append_left _ (h.created topic entry hl)
  subset := by
    rw [publishedOn_quiet hevs]
    exact h.subset
  kept := by
    rw [publishedOn_quiet hevs]
    intro hopen topic htopic
    exact (h.kept hopen topic htopic).imp_right (hunkept hopen topic)
  bounded := by
    rw [publishedOn_quiet hevs]
    exact h.bounded
  flag := by
    rw [mem_append_quiet hevs (e := .shutdown) fun hq => hq]
    exact h.flag
  clearing := h.clearing
  cleared := by
    rw [mem_append_quiet hevs (e := .cleared) fun hq => hq]
    exact h.cleared
  pinned := by
    intro hcleared topic entry hkept
    rw [mem_append_quiet hevs (e := .cleared) fun hq => hq] at hcleared
    rw [mem_append_quiet hevs (e := .kept topic entry) fun hq => hq] at hkept
    exact h.pinned hcleared topic entry hkept
  knows := hknows

/-! What was known stays known while the run goes on. -/

theorem Fits.append {request : PublishRequest} {topic : Str} {entry : PublisherEntry}
    (h : p.Fits tr request topic entry) (evs : List PublishEvent) :
    p.Fits (tr ++ evs) request topic entry :=
  ⟨h.allowed, h.type, List.mem_append_left _ h.created⟩

theorem HasPublished.append {topic : Str} {entry : PublisherEntry}
    (h : HasPublished tr topic entry) (hevs : ∀ request, .began request ∉ evs) :
    HasPublished (tr ++ evs) topic entry := by
  obtain ⟨pre, request, post, rfl, hpost⟩ := h
  refine ⟨pre, request, post ++ evs, by simp, ?_⟩
  intro request' hmem
  rcases List.mem_append.mp hmem with hmem | hmem
  · exact hpost request' hmem
  · exact hevs request' hmem

theorem Knows.shutdown {s' : PublisherState} (h : p.Knows tr s stage)
    (hshutdown : s'.isShutdown = true) (hquiet : publishedOn (tr ++ evs) = publishedOn tr)
    (hevs : ∀ request, .began request ∉ evs) : p.Knows (tr ++ evs) s' stage := by
  have hsearched : ∀ topic wasCached, p.Searched s' topic wasCached := by
    intro topic wasCached hopen
    rw [hshutdown] at hopen
    cases hopen
  cases stage with
  | idle => exact trivial
  | called request => exact trivial
  | resolved request topic => exact h
  | searched request topic cached =>
    refine ⟨h.1, hsearched _ _, ?_⟩
    intro entry hentry
    exact List.mem_append_left _ (h.2.2 entry hentry)
  | typed request topic type cached =>
    obtain ⟨hallowed, _, htype, hcached⟩ := h
    refine ⟨hallowed, hsearched _ _, htype, ?_⟩
    intro entry hentry
    exact ⟨List.mem_append_left _ (hcached entry hentry).1, (hcached entry hentry).2⟩
  | ready request topic entry wasCached => exact ⟨h.1.append evs, hsearched _ _⟩
  | publishing request topic entry wasCached =>
    refine ⟨h.1.append evs, hsearched _ _, ?_⟩
    rw [hquiet]
    exact h.2.2
  | published request topic entry wasCached =>
    exact ⟨h.1.append evs, hsearched _ _, h.2.2.append hevs⟩
  | keeping request topic entry => exact ⟨h.1.append evs, hsearched _ _, h.2.2.append hevs⟩

theorem kept_shutdown (h : Kept p tr ⟨s, stage, clearing⟩) :
    Kept p (tr ++ [.shutdown]) ⟨{ s with isShutdown := true }, stage, clearing || !s.isShutdown⟩ := by
  have hquiet : publishedOn (tr ++ [.shutdown]) = publishedOn tr := by
    rw [publishedOn_append]
    exact Finset.union_empty _
  refine ⟨?_, ?_, ?_, ?_, ?_, ?_, ?_, ?_, ?_, ?_⟩
  · rw [keptIn_concat]
    exact h.contents
  · intro topic entry hl
    exact List.mem_append_left _ (h.created topic entry hl)
  · rw [hquiet]
    exact h.subset
  · intro hopen
    cases hopen
  · rw [hquiet]
    exact h.bounded
  · simp
  · intro _
    rfl
  · intro hcleared
    have hmem : PublishEvent.cleared ∈ tr := by simpa using hcleared
    exact ⟨rfl, (h.cleared hmem).2⟩
  · intro hcleared topic entry hkept
    have hcleared' : PublishEvent.cleared ∉ tr := by simpa using hcleared
    exact h.pinned hcleared' topic entry (by simpa using hkept)
  · exact h.knows.shutdown rfl hquiet (by simp)

theorem kept_clear (h : Kept p tr ⟨s, stage, true⟩) :
    Kept p (tr ++ [.cleared]) ⟨{ s with publishers := ∅ }, stage, false⟩ := by
  have hshutdown : s.isShutdown = true := h.clearing rfl
  have hquiet : publishedOn (tr ++ [.cleared]) = publishedOn tr := by
    rw [publishedOn_append]
    exact Finset.union_empty _
  refine ⟨?_, ?_, ?_, ?_, ?_, ?_, ?_, ?_, ?_, ?_⟩
  · rw [keptIn_concat]
    rfl
  · intro topic entry hl
    rw [AList.lookup_empty] at hl
    cases hl
  · intro topic htopic
    exact absurd htopic (AList.notMem_empty topic)
  · intro hopen
    have hopen' : s.isShutdown = false := hopen
    rw [hshutdown] at hopen'
    cases hopen'
  · rw [hquiet]
    exact h.bounded
  · have hmem : PublishEvent.shutdown ∈ tr := h.flag.mp hshutdown
    simp [hshutdown, hmem]
  · intro hclearing
    cases hclearing
  · intro _
    exact ⟨hshutdown, rfl⟩
  · intro hcleared
    exact absurd (List.mem_append_right tr (List.mem_singleton_self _)) hcleared
  · exact h.knows.shutdown hshutdown hquiet (by simp)

theorem HasPublished.mem_publishedOn {topic : Str} {entry : PublisherEntry}
    (h : HasPublished tr topic entry) : topic ∈ publishedOn tr := by
  obtain ⟨pre, request, post, rfl, _⟩ := h
  rw [publishedOn, List.mem_toFinset, List.mem_filterMap]
  exact ⟨_, List.mem_append_right pre List.mem_cons_self, rfl⟩

/-- A message is published. -/
theorem kept_handed {request : PublishRequest} {topic : Str} {entry : PublisherEntry}
    {wasCached : Bool} (h : Kept p tr ⟨s, .publishing request topic entry wasCached, clearing⟩) :
    Kept p (tr ++ [.handed request topic entry true])
      ⟨s, .published request topic entry wasCached, clearing⟩ := by
  obtain ⟨hfits, hsearched, hroom⟩ := h.knows
  have hpublished : publishedOn (tr ++ [.handed request topic entry true]) =
      publishedOn tr ∪ {topic} := publishedOn_append _ _
  refine ⟨?_, ?_, ?_, ?_, ?_, ?_, h.clearing, ?_, ?_, ?_⟩
  · rw [keptIn_concat]
    exact h.contents
  · intro topic' entry' hl
    exact List.mem_append_left _ (h.created topic' entry' hl)
  · rw [hpublished]
    intro topic' htopic'
    exact Finset.mem_union_left _ (h.subset topic' htopic')
  · rw [hpublished]
    intro hopen topic' htopic'
    rcases Finset.mem_union.mp htopic' with hold | hnew
    · rcases h.kept hopen topic' hold with hcached | hunkept
      · exact .inl hcached
      · cases hunkept
    · rw [Finset.mem_singleton.mp hnew]
      have hfound := hsearched hopen
      cases wasCached with
      | true => exact .inl hfound
      | false => exact .inr rfl
  · rw [hpublished]
    rcases hroom with hmem | hless
    · rw [Finset.union_eq_left.mpr (Finset.singleton_subset_iff.mpr hmem)]
      exact h.bounded
    · calc (publishedOn tr ∪ {topic}).card
          ≤ (publishedOn tr).card + ({topic} : Finset Str).card := Finset.card_union_le _ _
        _ ≤ p.maxTopics := by
          rw [Finset.card_singleton]
          exact hless
  · simpa using h.flag
  · simpa using h.cleared
  · simpa using h.pinned
  · exact ⟨hfits.append _, hsearched, tr, request, [], rfl, by simp⟩

/-- A publisher comes into the cache. -/
theorem kept_keep {request : PublishRequest} {topic : Str} {entry : PublisherEntry}
    (h : Kept p tr ⟨s, .keeping request topic entry, clearing⟩) (hopen : s.isShutdown = false)
    (hnew : topic ∉ s.publishers) :
    Kept p (tr ++ [.kept topic entry])
      ⟨{ s with publishers := s.publishers.insert topic entry }, .idle, clearing⟩ := by
  obtain ⟨hfits, hsearched, hpublished⟩ := h.knows
  have hquiet : publishedOn (tr ++ [.kept topic entry]) = publishedOn tr := by
    rw [publishedOn_append]
    exact Finset.union_empty _
  have hnotCleared : PublishEvent.cleared ∉ tr := by
    intro hcleared
    have hshutdown : s.isShutdown = true := (h.cleared hcleared).1
    rw [hopen] at hshutdown
    cases hshutdown
  refine ⟨?_, ?_, ?_, ?_, ?_, ?_, h.clearing, ?_, ?_, trivial⟩
  · rw [keptIn_concat, ← h.contents]
    rfl
  · intro topic' entry' hl
    rw [AList.lookup_insert_eq_if] at hl
    split at hl
    · rename_i heq
      obtain rfl := Option.some.inj hl
      rw [heq]
      exact List.mem_append_left _ hfits.created
    · exact List.mem_append_left _ (h.created topic' entry' hl)
  · rw [hquiet]
    intro topic' htopic'
    rcases (AList.mem_insert _).mp htopic' with heq | hold
    · rw [heq]
      exact hpublished.mem_publishedOn
    · exact h.subset topic' hold
  · rw [hquiet]
    intro _ topic' htopic'
    left
    show topic' ∈ s.publishers.insert topic entry
    rw [AList.mem_insert]
    rcases h.kept hopen topic' htopic' with hold | hunkept
    · exact .inr hold
    · exact .inl (Option.some.inj hunkept).symm
  · rw [hquiet]
    exact h.bounded
  · simpa using h.flag
  · intro hcleared
    exact absurd (by simpa using hcleared) hnotCleared
  · intro _ topic' entry' hkept
    show (s.publishers.insert topic entry).lookup topic' = some entry'
    rw [AList.lookup_insert_eq_if]
    rcases List.mem_append.mp hkept with hold | hlast
    · have hl := h.pinned hnotCleared topic' entry' hold
      rw [if_neg, hl]
      intro heq
      rw [heq] at hl
      exact hnew (AList.mem_of_lookup hl)
    · cases List.mem_singleton.mp hlast
      rw [if_pos rfl]

/-- The request ends here, or goes on, without having changed anything. -/
theorem Kept.silent {stage' : Stage} (h : Kept p tr ⟨s, stage, clearing⟩)
    (hunkept : s.isShutdown = false → ∀ topic, stage.unkept = some topic →
      stage'.unkept = some topic)
    (hknows : p.Knows tr s stage') : Kept p (tr ++ []) ⟨s, stage', clearing⟩ := by
  apply h.quiet (by simp) hunkept
  rw [List.append_nil]
  exact hknows

theorem Kept.room {request : PublishRequest} {topic : Str} {entry : PublisherEntry}
    {wasCached : Bool} (h : Kept p tr ⟨s, .ready request topic entry wasCached, clearing⟩)
    (hopen : s.isShutdown = false) :
    topic ∈ publishedOn tr ∨ (publishedOn tr).card < p.maxTopics := by
  have hfound := h.knows.2 hopen
  cases wasCached with
  | true => exact .inl (h.subset topic hfound)
  | false =>
    right
    have hcached : ∀ topic' ∈ publishedOn tr, topic' ∈ s.publishers := by
      intro topic' htopic'
      rcases h.kept hopen topic' htopic' with hcached | hunkept
      · exact hcached
      · cases hunkept
    exact (card_le_length hcached).trans_lt hfound.2

theorem kept_advance {t : PublisherState} {stage' : Stage} (h : Kept p tr ⟨s, stage, clearing⟩)
    (hadvance : p.Advances s stage t stage' evs) : Kept p (tr ++ evs) ⟨t, stage', clearing⟩ := by
  have hnone : s.isShutdown = false → ∀ topic, none = some topic →
      stage'.unkept = some topic := by
    intro _ topic hunkept
    cases hunkept
  cases hadvance with
  | ends hlost =>
    refine h.silent ?_ trivial
    intro hopen topic hunkept
    rw [hlost hopen] at hunkept
    cases hunkept
  | resolves hallowed => exact h.silent hnone hallowed
  | @finds _ topic entry hl =>
    refine h.silent hnone ⟨h.knows, ?_, ?_⟩
    · intro _
      exact AList.mem_of_lookup hl
    · intro entry' hentry'
      obtain rfl := Option.some.inj hentry'
      exact h.created topic entry hl
  | misses hnew hroom =>
    refine h.silent hnone ⟨h.knows, ?_, ?_⟩
    · intro _
      exact ⟨hnew, hroom⟩
    · intro entry' hentry'
      cases hentry'
  | types htype hsame =>
    obtain ⟨hallowed, hsearched, hcached⟩ := h.knows
    refine h.silent hnone ⟨hallowed, hsearched, htype, ?_⟩
    intro entry hentry
    exact ⟨hcached entry hentry, hsame entry hentry⟩
  | @reuses _ _ _ entry =>
    obtain ⟨hallowed, hsearched, htype, hcached⟩ := h.knows
    obtain ⟨hcreated, hentry⟩ := hcached entry rfl
    exact h.silent hnone ⟨⟨hallowed, hentry.trans htype, hcreated⟩, hsearched⟩
  | creates =>
    obtain ⟨hallowed, hsearched, htype, _⟩ := h.knows
    apply h.quiet
    · exact List.forall_mem_singleton.mpr trivial
    · exact hnone
    · exact ⟨⟨hallowed, htype, by simp⟩, hsearched⟩
  | publishes hopen =>
    obtain ⟨hfits, hsearched⟩ := h.knows
    exact h.silent hnone ⟨hfits, hsearched, h.room hopen⟩
  | succeeds => exact kept_handed h
  | fails =>
    apply h.quiet
    · exact List.forall_mem_singleton.mpr rfl
    · exact hnone
    · exact trivial
  | remembers =>
    obtain ⟨hfits, hsearched, hpublished⟩ := h.knows
    refine h.silent ?_ ⟨hfits, hsearched, hpublished⟩
    intro _ topic hunkept
    exact hunkept
  | drops hfull =>
    -- the search has found room, so this is after a shutdown
    obtain ⟨_, hsearched, _⟩ := h.knows
    refine h.silent ?_ trivial
    intro hopen
    obtain ⟨hnew, hroom⟩ := hsearched hopen
    exact absurd hroom (hfull hnew)
  | keeps hopen hnew => exact kept_keep h hopen hnew

/-- **The cache of every run.** -/
theorem kept_run {r : Run} (h : (serving p).Trace tr r) : Kept p tr r := by
  apply h.invariant
  · intro r hstart
    have heq : r = ⟨.initial, .idle, false⟩ := hstart
    rw [heq]
    refine ⟨rfl, ?_, ?_, ?_, Nat.zero_le _, by simp [PublisherState.initial], ?_, ?_, ?_, trivial⟩
    · intro topic entry hl
      cases hl
    · intro topic htopic
      exact absurd htopic (AList.notMem_empty topic)
    · intro _ topic htopic
      exact absurd htopic (Finset.notMem_empty topic)
    · intro hclearing
      cases hclearing
    · intro hcleared
      cases hcleared
    · intro _ topic entry hkept
      cases hkept
  · intro tr evs r r' _ ih hstep
    cases hstep with
    | begin s clearing request =>
      apply ih.quiet
      · exact List.forall_mem_singleton.mpr trivial
      · intro _ topic hunkept
        cases hunkept
      · split
        · exact trivial
        · exact trivial
    | advance s stage clearing fx => exact kept_advance ih (p.advances fx s stage)
    | shutdown s stage clearing => exact kept_shutdown ih
    | clear s stage => exact kept_clear ih

end Preservation

/-! ### Results -/

/-- What an event needs to have before it: a message that is handed over, the right publisher, and
a publisher that is kept, its message. -/
def Justified (p : TopicPublisher) (history : List PublishEvent) : PublishEvent → Prop
  | .handed request topic entry _ => p.Fits history request topic entry
  | .kept topic entry => HasPublished history topic entry
  | _ => True

theorem justified_advance {p : TopicPublisher} {tr evs : List PublishEvent} {s t : PublisherState}
    {stage stage' : Stage} (h : p.Knows tr s stage) (hadvance : p.Advances s stage t stage' evs) :
    evs.length ≤ 1 ∧ ∀ e ∈ evs, p.Justified tr e := by
  cases hadvance with
  | creates => exact ⟨le_rfl, List.forall_mem_singleton.mpr trivial⟩
  | succeeds => exact ⟨le_rfl, List.forall_mem_singleton.mpr h.1⟩
  | fails => exact ⟨le_rfl, List.forall_mem_singleton.mpr h.1⟩
  | keeps _ _ => exact ⟨le_rfl, List.forall_mem_singleton.mpr h.2.2⟩
  | _ => exact ⟨Nat.zero_le 1, List.forall_mem_nil _⟩

theorem justified {p : TopicPublisher} {tr : List PublishEvent} {r : Run}
    (h : (serving p).Trace tr r) : ∀ pre e post, tr = pre ++ e :: post → p.Justified pre e := by
  apply h.at_single_event (P := p.Justified)
  intro tr evs r r' prior hstep
  cases hstep with
  | begin s clearing request => exact ⟨le_rfl, by simp [Justified]⟩
  | advance s stage clearing fx =>
    exact justified_advance (kept_run prior).knows (p.advances fx s stage)
  | shutdown s stage clearing => exact ⟨le_rfl, by simp [Justified]⟩
  | clear s stage => exact ⟨le_rfl, by simp [Justified]⟩

/-- **The cache of publishers, over every run.**  A message is handed over only for a topic that
the policy allows and with the type its publisher was created with; what is in the cache stays as
it is until it is cleared; neither the cache nor the topics that were published on are more than
`maxTopics`; only a request that has published changes the cache; and once it is cleared it stays
empty. -/
theorem publisherCache_over_runs {p : TopicPublisher} {tr : List PublishEvent} {r : Run}
    (h : (serving p).Trace tr r) :
    (∀ pre request topic entry succeeded post,
      tr = pre ++ .handed request topic entry succeeded :: post →
        p.node.resolveTopicName request.rosTopic = .ok topic ∧
        p.policy.allows p.node.expand .publish topic = true ∧
        entry.type = request.interfaceType ∧ .created topic entry ∈ pre) ∧
      (.cleared ∉ tr → ∀ topic entry, .kept topic entry ∈ tr →
        r.state.publishers.lookup topic = some entry) ∧
      r.state.publishers.entries.length ≤ p.maxTopics ∧ (publishedOn tr).card ≤ p.maxTopics ∧
      (r.state.publishers = keptIn tr ∧ (r.state.isShutdown = true ↔ .shutdown ∈ tr) ∧
        ∀ pre topic entry post, tr = pre ++ .kept topic entry :: post →
          HasPublished pre topic entry) ∧
      (.cleared ∈ tr → r.state.publishers = ∅) := by
  have hkept := kept_run h
  refine ⟨?_, hkept.pinned, (length_le_card hkept.subset).trans hkept.bounded, hkept.bounded,
    ⟨hkept.contents, hkept.flag, ?_⟩, ?_⟩
  · intro pre request topic entry succeeded post heq
    have hfits : p.Fits pre request topic entry := justified h pre _ post heq
    exact ⟨hfits.allowed.resolved, hfits.allowed.allowed, hfits.type, hfits.created⟩
  · intro pre topic entry post heq
    exact justified h pre _ post heq
  · intro hcleared
    exact (hkept.cleared hcleared).2

def forOneTopic : TopicPublisher where
  node := ⟨lit "bridge", lit "/", ros2Expand, id⟩
  policy := .ofConfig ros2Expand ⟨⟨[lit "/cmd"], []⟩, ⟨[], []⟩, ⟨[], []⟩⟩
  maxTopics := 1

def stopMessage : PublishRequest := ⟨lit "cmd", lit "std_msgs/msg/Empty", lit "stop"⟩

def cmdEntry : PublisherEntry := ⟨lit "std_msgs/msg/Empty", lit "/cmd"⟩

/-- The message is published, then the publisher is shut down. -/
def stopAndShutdown : List PublishEvent :=
  [.began stopMessage, .created (lit "/cmd") cmdEntry, .handed stopMessage (lit "/cmd") cmdEntry true,
    .kept (lit "/cmd") cmdEntry, .shutdown, .cleared]

theorem stopAndShutdown_trace :
    (serving forOneTopic).Trace stopAndShutdown ⟨⟨true, ∅⟩, .idle, false⟩ := by
  have hstart : (serving forOneTopic).Trace [] ⟨.initial, .idle, false⟩ := .start rfl
  have hbegan := hstart.step (.begin .initial false stopMessage)
  have hserved := serve_trace
    ⟨AList.singleton (lit "/cmd") [lit "std_msgs/msg/Empty"], true, true⟩ 8 hbegan
  have hshutdown := hserved.step (.shutdown _ _ _)
  exact hshutdown.step (.clear _ _)

theorem publisherCache_over_runs_stop :
    (publishedOn stopAndShutdown).card ≤ 1 ∧
      forOneTopic.policy.allows forOneTopic.node.expand .publish (lit "/cmd") = true := by
  obtain ⟨hhanded, _, _, hbounded, _⟩ := publisherCache_over_runs stopAndShutdown_trace
  refine ⟨hbounded, ?_⟩
  exact (hhanded [.began stopMessage, .created (lit "/cmd") cmdEntry] _ _ _ _ _ rfl).2.1

end TopicPublisher

end LivekitBridge
