import LivekitBridge.Leases.Sessions
import LivekitBridge.Bridge.TopicPublisher
import LivekitBridge.Bridge.TopicNames

/-!
# The policy and the topics that are used

The three surfaces put together: heartbeats, echo-once requests and publish
requests, in any order, on one node whose remap rules are an arbitrary function
`ρ` of topic names.

A heartbeat for `n` is checked against the policy as `n`, resolved to `ρ n`, and
the subscription that rclcpp creates for `ρ n` is on `ρ (ρ n)`; an echo-once request
sends what that subscription has cached.  A publish request for `n` is checked as
`ρ n` and its publisher is on `ρ (ρ n)`.  `policyCovers_iff` is that every run keeps
to the policy exactly when the policy allows `ρ (ρ n)` wherever it allows what was
checked.

`Subscription.Vouched` is the invariant of the subscriptions: each is on the second
image of a name that the policy allows.
-/

namespace LivekitBridge

open Lib

/-! ### The bridge -/

/-- The bridge: its lease manager, and the topic publisher on the same node with the
same policy. -/
structure Bridge where
  leases : LeaseManager

namespace Bridge

def node (b : Bridge) : Node := b.leases.node

def publisher (b : Bridge) : TopicPublisher :=
  ⟨b.leases.node, b.leases.accessPolicy, kDefaultMaxTopics⟩

/-- What the policy says of an operation on a name. -/
def permits (b : Bridge) (operation : AccessOperation) (name : Str) : Prop :=
  b.leases.accessPolicy.allows b.leases.node.expand operation name = true

/-- `RpcRouter::requestEchoOnce`: parse, ask the policy, dispatch. -/
def requestEchoOnce (b : Bridge) (sends : Bool) (s : LeaseState) (raw caller : Str) :
    Except Str LeaseManager.EchoOnceResult × List LeaseEvent :=
  match echoTopic b.leases.node.expand raw with
  | .error what => (.error what, [])
  | .ok name =>
    if b.leases.accessPolicy.allows b.leases.node.expand .subscribe name = false then
      (.error (lit "ROS topic '" ++ name ++ lit "' not permitted."), [])
    else b.leases.dispatchEchoOnce sends s .topic name caller

end Bridge

/-- What the bridge changes. -/
structure BridgeState where
  leases : LeaseState
  publishers : PublisherState

/-- What a step of the bridge did. -/
inductive BridgeEvent
  | lease (e : LeaseEvent)
  | published (p : Published)

/-- The topics of a heartbeat are as the parser leaves them. -/
def Heartbeat.Parsed (expand : Expand) (hb : Heartbeat) : Prop :=
  ∀ d ∈ hb.demands, d.kind = .topic → ∃ raw, heartbeatTopic expand raw = .ok d.name

/-- One call on the bridge. -/
inductive BridgeStep (b : Bridge) : BridgeState → List BridgeEvent → BridgeState → Prop
  | heartbeat (fx : Nat → DemandEffects) (now : Time) (identity : Str) (hb : Heartbeat)
      (s : BridgeState) : hb.Parsed b.leases.node.expand →
      BridgeStep b s ((b.leases.handleHeartbeat fx now identity hb s.leases).2.map .lease)
        { s with leases := (b.leases.handleHeartbeat fx now identity hb s.leases).1 }
  | prune (now : Time) (s : BridgeState) :
      BridgeStep b s
        (((LeaseManager.pruneExpiredLeases now s.leases).2 ++ [LeaseEvent.pruned now]).map .lease)
        { s with leases := (LeaseManager.pruneExpiredLeases now s.leases).1 }
  | deliver (now : Time) (key cdr : Str) (s : BridgeState) :
      BridgeStep b s [] { s with leases := LeaseManager.deliver now key cdr s.leases }
  | echo (sends : Bool) (raw caller : Str) (s : BridgeState) :
      BridgeStep b s ((b.requestEchoOnce sends s.leases raw caller).2.map .lease) s
  | publish (fx : PublishEffects) (raw interfaceType message topic : Str) (s : BridgeState) :
      requiredTopic raw = .ok topic →
      BridgeStep b s
        ((b.publisher.publish fx s.publishers ⟨topic, interfaceType, message⟩).2.map .published)
        { s with
          publishers := (b.publisher.publish fx s.publishers ⟨topic, interfaceType, message⟩).1 }
  | shutdown (s : BridgeState) :
      BridgeStep b s [.lease .shutDown]
        ⟨LeaseManager.shutdown s.leases, TopicPublisher.shutdown s.publishers⟩

def Bridge.machine (b : Bridge) : Machine BridgeState BridgeEvent where
  start s := s = ⟨.initial, .initial⟩
  step := BridgeStep b

/-- The ROS topics a subscription of the bridge is on. -/
def Subscription.subscribedTopics (sub : Subscription) : List Str :=
  match sub.runtime with
  | .data publisher => publisher.publication.toList.map (·.subscribedTopic)
  | .video _ topic => topic.toList
  | .audio _ => []

/-- Every topic the bridge is subscribed to, has echoed or has published on is
allowed by the policy. -/
structure PolicyCovers (b : Bridge) (tr : List BridgeEvent) (s : BridgeState) : Prop where
  subscribed : ∀ key sub topic, s.leases.subscriptions.lookup key = some sub →
    topic ∈ sub.subscribedTopics → b.permits .subscribe topic
  echoed : ∀ topic name cdr caller, BridgeEvent.lease (.echoed topic name cdr caller) ∈ tr →
    b.permits .subscribe topic
  published : ∀ p, BridgeEvent.published p ∈ tr → b.permits .publish p.topic

/-! ### Subscriptions -/

/-- Where a name that was checked ends up: through the remap rules twice. -/
def Node.used (node : Node) (n : Str) : Str := node.remap (node.remap n)

/-- The runtime is on the topic that a name satisfying `ok` ends up as. -/
def Runtime.Vouched (node : Node) (ok : Str → Prop) : Runtime → Prop
  | .data publisher => ∃ n, ok n ∧ publisher.rosTopic = node.remap n ∧
      ∀ p, publisher.publication = some p → p.subscribedTopic = node.used n
  | .video _ topic => ∀ t, topic = some t → ∃ n, ok n ∧ t = node.used n
  | .audio _ => True

theorem Runtime.Vouched.mem {node : Node} {ok : Str → Prop} {sub : Subscription}
    (h : sub.runtime.Vouched node ok) {topic : Str} (ht : topic ∈ sub.subscribedTopics) :
    ∃ n, ok n ∧ topic = node.used n := by
  unfold Subscription.subscribedTopics at ht
  cases hrt : sub.runtime with
  | data publisher =>
    rw [hrt] at h ht
    obtain ⟨n, hn, _, hp⟩ := h
    obtain ⟨p, hmem, rfl⟩ := List.mem_map.mp ht
    exact ⟨n, hn, hp p (by simpa using hmem)⟩
  | video spec t =>
    rw [hrt] at h ht
    exact h topic (by simpa using ht)
  | audio spec =>
    rw [hrt] at ht
    cases ht

section Vouched

variable {G : NameGrammar} {node : Node} {ok : Str → Prop}

theorem vouched_setIntervalMs {publisher : DataTrackPublisher} (i : Int)
    (h : (Runtime.data publisher).Vouched node ok) :
    (Runtime.data (publisher.setIntervalMs i)).Vouched node ok := by
  obtain ⟨n, hn, hros, hp⟩ := h
  refine ⟨n, hn, hros, ?_⟩
  intro p hpub
  obtain ⟨q, hq, rfl⟩ := Option.map_eq_some_iff.mp hpub
  exact hp q hq

theorem vouched_push {publisher : DataTrackPublisher} (now : Time) (cdr : Str)
    (h : (Runtime.data publisher).Vouched node ok) :
    (Runtime.data (publisher.push now cdr)).Vouched node ok := by
  obtain ⟨n, hn, hros, hp⟩ := h
  refine ⟨n, hn, hros, ?_⟩
  intro p hpub
  obtain ⟨q, hq, rfl⟩ := Option.map_eq_some_iff.mp hpub
  exact (q.push_fst now cdr).2.trans (hp q hq)

/-- A publication that comes up is on the second image of the name. -/
theorem vouched_publish (hG : Implements G node.expand) (hr : node.RemapsNames G)
    (hok : ∀ n, ok n → G.validFull false n = true) {publisher : DataTrackPublisher}
    (effects : PublicationEffects) (h : (Runtime.data publisher).Vouched node ok) :
    (Runtime.data (publisher.publish node effects)).Vouched node ok := by
  obtain ⟨n, hn, hros, hp⟩ := h
  unfold DataTrackPublisher.publish
  cases hpub : publisher.publication with
  | some q => exact ⟨n, hn, hros, hp⟩
  | none =>
    refine ⟨n, hn, hros, ?_⟩
    intro p hcreate
    have hres := (Publication.create_eq_some hcreate).2
    rw [hros, Node.resolveTopicName_full hG (hr n (hok n hn))] at hres
    exact (Except.ok.inj hres).symm

theorem vouched_renew (hG : Implements G node.expand) (hr : node.RemapsNames G)
    (hok : ∀ n, ok n → G.validFull false n = true) (fx : DemandEffects) {sub : Subscription}
    (requester : Str) (lease : Lease) (h : sub.runtime.Vouched node ok) :
    (renew node fx sub requester lease).1.runtime.Vouched node ok := by
  unfold renew
  cases hrt : sub.runtime with
  | data publisher =>
    rw [hrt] at h
    have hset := vouched_setIntervalMs (minimumIntervalMs (sub.leases.insert requester lease)) h
    dsimp only
    split
    · exact hset
    · exact vouched_publish hG hr hok fx.publication hset
  | video spec topic =>
    rw [hrt] at h
    exact h
  | audio spec =>
    rw [hrt] at h
    exact h

theorem vouched_prune {now : Time} {sub x : Subscription} (h : sub.runtime.Vouched node ok)
    (hx : (pruneSubscription now sub).1 = some x) : x.runtime.Vouched node ok := by
  unfold pruneSubscription at hx
  dsimp only at hx
  split at hx
  · obtain rfl := Option.some.inj hx
    exact h
  · split at hx
    · split at hx
      · rename_i publisher hrt
        obtain rfl := Option.some.inj hx
        rw [hrt] at h
        exact vouched_setIntervalMs _ h
      · obtain rfl := Option.some.inj hx
        exact h
      · obtain rfl := Option.some.inj hx
        exact h
    · cases hx

end Vouched

/-! ### Demands -/

section Demands

variable {G : NameGrammar} {m : LeaseManager} {ok : Str → Prop}

/-- Every subscription of the state is vouched for. -/
def AllVouched (node : Node) (ok : Str → Prop) (s : LeaseState) : Prop :=
  ∀ key sub, s.subscriptions.lookup key = some sub → sub.runtime.Vouched node ok

/-- **Where a subscription of the state after `ensure` comes from**: it was there, or
was renewed, or its runtime has just been created. -/
theorem ensure_lookup {fx : DemandEffects} {s : LeaseState} {requester key : Str}
    {d : ResolvedDemand} {expiry : Time} {x : Subscription}
    (h : (m.ensure fx s requester d expiry).2.1.subscriptions.lookup key = some x) :
    s.subscriptions.lookup key = some x ∨
      (∃ sub lease, s.subscriptions.lookup key = some sub ∧
        x = (renew m.node fx sub requester lease).1) ∨
      ∃ c leases evs, m.resolveDemandDelivery fx d = .ok c ∧
        m.createRuntime fx c leases = (.ok x.runtime, evs) := by
  unfold LeaseManager.ensure at h
  split at h
  · exact .inl h
  · dsimp only at h
    split at h
    · rename_i sub hsub
      dsimp only at h
      rw [AList.lookup_insert_eq_if] at h
      split at h
      · rename_i hk
        subst hk
        exact .inr (.inl ⟨sub, _, hsub, (Option.some.inj h).symm⟩)
      · exact .inl h
    · split at h
      · exact .inl h
      · rename_i c hc
        unfold LeaseManager.create at h
        dsimp only at h
        split at h
        · exact .inl h
        · rename_i runtime evs hrt
          split at h
          · exact .inl h
          · rw [AList.lookup_insert_eq_if] at h
            split at h
            · obtain rfl := Option.some.inj h
              exact .inr (.inr ⟨c, _, evs, hc, hrt⟩)
            · exact .inl h

/-- A stream on a ROS topic is on the second image of the name. -/
theorem vouched_createVideo (hG : Implements G m.node.expand) (hr : m.node.RemapsNames G)
    (hok : ∀ n, ok n → G.validFull false n = true) {fx : DemandEffects} {n interfaceType : Str}
    (hn : ok n) {spec : Video.StreamSpec} {runtime : Runtime}
    (hspec : Video.resolveRosTopicSpec m.node.expand m.videoStreamConfig (m.node.remap n)
      interfaceType = .ok spec)
    (h : m.createVideo fx spec = .ok runtime) : runtime.Vouched m.node ok := by
  have hfull := hr n (hok n hn)
  have hexp : m.node.expand (m.node.remap n) Video.kResourceNodeName (lit "/") false =
      .ok (m.node.remap n) := (hG _ _ _ _ _).mpr (rosExpand_full hfull _ _)
  have hne := (G.full_absolute hfull).ne_nil
  have hnorm : normalizeRosResourceName m.node.expand (m.node.remap n) Video.kResourceNodeName
      (lit "/") false = m.node.remap n :=
    (normalizeRosResourceName_eq_iff hne).mpr ⟨by rw [hG.trim_eq hexp]; exact hne,
      by rw [hG.trim_eq hexp]; exact hexp⟩
  unfold Video.resolveRosTopicSpec at hspec
  rw [hnorm] at hspec
  dsimp only at hspec
  rw [if_neg hne] at hspec
  split at hspec
  · cases hspec
  · split at hspec
    · cases hspec
    · obtain rfl := Except.ok.inj hspec
      obtain ⟨source, hinput, -⟩ | ⟨input, topic, hinput, htopic, rfl⟩ :=
        LeaseManager.createVideo_cases h
      · cases hinput
      · obtain rfl := Video.StreamInput.ros.inj hinput
        rw [Node.resolveTopicName_full hG hfull] at htopic
        intro t ht
        exact ⟨n, hn, (Option.some.inj ht).symm.trans (Except.ok.inj htopic).symm⟩

/-- A stream that is not on a ROS topic subscribes to nothing. -/
theorem vouched_createOther {fx : DemandEffects} {name : Str} {spec : Video.StreamSpec}
    {runtime : Runtime} (hspec : Video.resolveOtherSourceSpec m.videoStreamConfig name = .ok spec)
    (h : m.createVideo fx spec = .ok runtime) : runtime.Vouched m.node ok := by
  unfold Video.resolveOtherSourceSpec at hspec
  split at hspec
  · cases hspec
  · obtain rfl := Except.ok.inj hspec
    obtain ⟨source, -, rfl⟩ | ⟨input, topic, hinput, -, -⟩ := LeaseManager.createVideo_cases h
    · intro t ht
      cases ht
    · cases hinput

/-- The runtime that a demand without a subscription gets. -/
theorem vouched_createRuntime (hG : Implements G m.node.expand) (hr : m.node.RemapsNames G)
    (hok : ∀ n, ok n → G.validFull false n = true) {fx : DemandEffects} {d c : ResolvedDemand}
    (hfresh : d.videoSpec = none ∧ d.audioSpec = none)
    (hname : d.kind = .topic → ∃ n, ok n ∧ d.name = m.node.remap n)
    (hc : m.resolveDemandDelivery fx d = .ok c) {leases : Leases} {runtime : Runtime}
    {evs : List LeaseEvent} (h : m.createRuntime fx c leases = (.ok runtime, evs)) :
    runtime.Vouched m.node ok := by
  unfold LeaseManager.resolveDemandDelivery at hc
  split at hc
  · rename_i hkind
    obtain ⟨n, hn, hdn⟩ := hname hkind
    split at hc
    · cases hc
    · rename_i interfaceType _
      dsimp only at hc
      split at hc
      · -- a topic that is no image: a data track
        obtain rfl := Except.ok.inj hc
        simp only [LeaseManager.createRuntime, hfresh.1, hfresh.2] at h
        obtain rfl := Except.ok.inj (Prod.mk.inj h).1
        refine vouched_publish hG hr hok fx.publication (vouched_setIntervalMs _ ?_)
        exact ⟨n, hn, hdn, fun p hp => by cases hp⟩
      · unfold LeaseManager.resolveDemandSpec at hc
        dsimp only at hc
        rw [if_neg (by rw [hkind]; decide)] at hc
        split at hc
        · cases hc
        · rename_i spec hspec
          obtain rfl := Except.ok.inj hc
          simp only [LeaseManager.createRuntime, hfresh.2] at h
          rw [hkind, hdn] at hspec
          exact vouched_createVideo hG hr hok hn hspec (Prod.mk.inj h).1
  · rename_i hkind
    unfold LeaseManager.resolveDemandSpec at hc
    split at hc
    · split at hc
      · cases hc
      · obtain rfl := Except.ok.inj hc
        simp only [LeaseManager.createRuntime] at h
        split at h
        · cases (Prod.mk.inj h).1
        · obtain rfl := Except.ok.inj (Prod.mk.inj h).1
          trivial
    · rename_i haudio
      split at hc
      · cases hc
      · rename_i spec hspec
        obtain rfl := Except.ok.inj hc
        simp only [LeaseManager.createRuntime, hfresh.2] at h
        cases hk : d.kind with
        | topic => exact absurd hk hkind
        | otherAudio => exact absurd hk haudio
        | otherVideo =>
          rw [hk] at hspec
          exact vouched_createOther hspec (Prod.mk.inj h).1

/-- The names that a heartbeat may subscribe to. -/
def Subscribable (G : NameGrammar) (m : LeaseManager) (n : Str) : Prop :=
  G.validFull false n = true ∧ m.accessPolicy.allows m.node.expand .subscribe n = true

theorem resolveDemand_name (hG : Implements G m.node.expand) {demand : Demand} {d : ResolvedDemand}
    (hvalid : demand.kind = .topic → G.validFull false demand.name = true)
    (h : m.resolveDemand demand = .ok d) :
    d.kind = demand.kind ∧ (d.videoSpec = none ∧ d.audioSpec = none) ∧
      (d.kind = .topic → d.name = m.node.remap demand.name) := by
  unfold LeaseManager.resolveDemand at h
  split at h
  · cases h
  · rename_i name hname
    obtain rfl := Except.ok.inj h
    refine ⟨rfl, ⟨rfl, rfl⟩, ?_⟩
    intro hkind
    dsimp only at hkind
    rw [hkind, resolveName, trim_full (hvalid hkind),
      Node.resolveTopicName_full hG (hvalid hkind)] at hname
    exact (Except.ok.inj hname).symm

/-- One demand: what it creates or renews is vouched for by the policy check in
front of it. -/
theorem vouched_appendDemandStatus (hG : Implements G m.node.expand) (hr : m.node.RemapsNames G)
    (fx : DemandEffects) {s : LeaseState} (requester : Str) {demand : Demand} (expiry : Time)
    (hvalid : demand.kind = .topic → G.validFull false demand.name = true)
    (h : AllVouched m.node (Subscribable G m) s) :
    AllVouched m.node (Subscribable G m)
      (m.appendDemandStatus fx s requester demand expiry).2.1 := by
  unfold LeaseManager.appendDemandStatus
  split
  · exact h
  · rename_i hallow
    split
    · exact h
    · cases hd : m.resolveDemand demand with
      | error what => exact h
      | ok d =>
        obtain ⟨hkind, hfresh, hname⟩ := resolveDemand_name hG hvalid hd
        have hensure : AllVouched m.node (Subscribable G m)
            (m.ensure fx s requester d expiry).2.1 := by
          intro key x hx
          rcases ensure_lookup hx with hx | ⟨sub, lease, hsub, rfl⟩ | ⟨c, leases, evs, hc, hrt⟩
          · exact h key x hx
          · exact vouched_renew hG hr (fun n hn => hn.1) fx requester lease (h key sub hsub)
          · refine vouched_createRuntime hG hr (fun n hn => hn.1) hfresh ?_ hc hrt
            intro htopic
            have htopic' : demand.kind = .topic := hkind ▸ htopic
            refine ⟨demand.name, ⟨hvalid htopic', ?_⟩, hname htopic⟩
            by_contra hdeny
            exact hallow ⟨htopic', Bool.not_eq_true _ ▸ hdeny⟩
        dsimp only
        rcases he : m.ensure fx s requester d expiry with ⟨res, s', evs⟩
        rw [he] at hensure
        cases res with
        | error what => exact hensure
        | ok st => exact hensure

theorem vouched_appendDemandStatuses (hG : Implements G m.node.expand) (hr : m.node.RemapsNames G)
    (requester : Str) (expiry : Time) (demands : List Demand) :
    ∀ (fx : Nat → DemandEffects) (s : LeaseState),
      (∀ d ∈ demands, d.kind = .topic → G.validFull false d.name = true) →
      AllVouched m.node (Subscribable G m) s →
      AllVouched m.node (Subscribable G m)
        (m.appendDemandStatuses requester expiry fx s demands).2.1 := by
  induction demands with
  | nil =>
    intro fx s _ h
    exact h
  | cons demand demands ih =>
    intro fx s hvalid h
    simp only [LeaseManager.appendDemandStatuses]
    refine ih _ _ (fun d hd => hvalid d (List.mem_cons_of_mem _ hd)) ?_
    exact vouched_appendDemandStatus hG hr (fx 0) requester expiry (hvalid demand (by simp)) h

/-- What the parser leaves is a valid topic name. -/
theorem validFull_of_heartbeatTopic (hG : Implements G m.node.expand) {raw n : Str}
    (h : heartbeatTopic m.node.expand raw = .ok n) : G.validFull false n = true := by
  obtain ⟨_, _, _, _, _, _, hf⟩ := rosExpand_eq_some.mp ((heartbeatTopic_eq_ok hG).mp h)
  exact hf

theorem vouched_handleHeartbeat (hG : Implements G m.node.expand) (hr : m.node.RemapsNames G)
    (fx : Nat → DemandEffects) (now : Time) (identity : Str) {hb : Heartbeat} {s : LeaseState}
    (hparsed : hb.Parsed m.node.expand) (h : AllVouched m.node (Subscribable G m) s) :
    AllVouched m.node (Subscribable G m) (m.handleHeartbeat fx now identity hb s).1 := by
  cases hres : resolveIdentity s identity hb.sessionId with
  | none =>
    rw [LeaseManager.handleHeartbeat_of_refused hres]
    exact h
  | some requester =>
    rw [LeaseManager.handleHeartbeat_of_resolved hres]
    refine vouched_appendDemandStatuses hG hr _ _ _ _ _ ?_ ?_
    · intro d hd hkind
      obtain ⟨raw, hraw⟩ := hparsed d hd hkind
      exact validFull_of_heartbeatTopic hG hraw
    · intro key sub hl
      rw [LeaseState.bindSession_subscriptions] at hl
      exact h key sub hl

theorem vouched_pruneExpiredLeases (now : Time) {s : LeaseState} (h : AllVouched m.node ok s) :
    AllVouched m.node ok (LeaseManager.pruneExpiredLeases now s).1 := by
  unfold LeaseManager.pruneExpiredLeases
  split
  · exact h
  · intro key x hx
    dsimp only [pruneLeases] at hx
    rw [AList.lookup_filterMapVal] at hx
    obtain ⟨sub, hsub, hx⟩ := Option.bind_eq_some_iff.mp hx
    exact vouched_prune (h key sub hsub) hx

theorem vouched_deliver (now : Time) (key cdr : Str) {s : LeaseState}
    (h : AllVouched m.node ok s) : AllVouched m.node ok (LeaseManager.deliver now key cdr s) := by
  obtain ⟨hsame, -⟩ | ⟨sub, publisher, hsub, hrt, hpushed⟩ := LeaseManager.deliver_cases now key cdr s
  · rw [hsame]
    exact h
  · rw [hpushed]
    intro k x hx
    rw [AList.lookup_insert_eq_if] at hx
    split at hx
    · obtain rfl := Option.some.inj hx
      have := h key sub hsub
      rw [hrt] at this
      exact vouched_push now cdr this
    · exact h k x hx

theorem vouched_shutdown {s : LeaseState} (h : AllVouched m.node ok s) :
    AllVouched m.node ok (LeaseManager.shutdown s) := by
  unfold LeaseManager.shutdown
  split
  · exact h
  · intro key sub hl
    rw [AList.lookup_empty] at hl
    cases hl

/-- An echo carries the message of a subscription of the state. -/
theorem echoed_vouched {s : LeaseState} (h : AllVouched m.node ok s) {sends : Bool}
    {kind : TargetKind} {name caller topic rosTopic cdr dest : Str}
    (he : LeaseEvent.echoed topic rosTopic cdr dest ∈ (m.dispatchEchoOnce sends s kind name caller).2) :
    ∃ n, ok n ∧ topic = m.node.used n := by
  obtain ⟨key, sub, publisher, p, _, _, hsub, hrt, hpub, hecho⟩ :=
    LeaseManager.mem_dispatchEchoOnce he
  have hv := h key sub hsub
  rw [hrt] at hv
  obtain ⟨n, hn, _, hp⟩ := hv
  exact ⟨n, hn, (LeaseEvent.echoed.inj hecho).1.trans (hp p hpub)⟩

end Demands

/-! ### Runs -/

section Runs

variable {G : NameGrammar} {b : Bridge}

/-- The condition on the remap rules and the policy: whatever the policy allows of
the name it is asked about, it allows of the topic that the name ends up as. -/
structure RemapRespectsPolicy (G : NameGrammar) (b : Bridge) : Prop where
  subscribe : ∀ n, G.validFull false n = true → b.permits .subscribe n →
    b.permits .subscribe (b.node.used n)
  publish : ∀ n, G.validFull false n = true → b.permits .publish (b.node.remap n) →
    b.permits .publish (b.node.used n)

/-- What a run does, in terms of the names that were checked. -/
structure UsesChecked (G : NameGrammar) (b : Bridge) (tr : List BridgeEvent) (s : BridgeState) :
    Prop where
  subscribed : AllVouched b.node (Subscribable G b.leases) s.leases
  cached : ∀ topic entry, s.publishers.publishers.lookup topic = some entry →
    entry.publishesOn = b.node.remap topic
  echoed : ∀ topic name cdr caller, BridgeEvent.lease (.echoed topic name cdr caller) ∈ tr →
    ∃ n, Subscribable G b.leases n ∧ topic = b.node.used n
  published : ∀ p, BridgeEvent.published p ∈ tr →
    ∃ n, G.validFull false n = true ∧ b.permits .publish (b.node.remap n) ∧ p.topic = b.node.used n

/-- A step of the lease manager that echoes nothing keeps the other fields. -/
theorem UsesChecked.lease {tr : List BridgeEvent} {s : BridgeState} (h : UsesChecked G b tr s)
    (evs : List LeaseEvent) {leases : LeaseState}
    (hs : AllVouched b.node (Subscribable G b.leases) leases)
    (hev : ∀ topic name cdr caller, LeaseEvent.echoed topic name cdr caller ∈ evs →
      ∃ n, Subscribable G b.leases n ∧ topic = b.node.used n) :
    UsesChecked G b (tr ++ evs.map .lease) { s with leases := leases } := by
  refine ⟨hs, h.cached, ?_, ?_⟩
  · intro topic name cdr caller hm
    rcases List.mem_append.mp hm with hm | hm
    · exact h.echoed topic name cdr caller hm
    · obtain ⟨e, he, heq⟩ := List.mem_map.mp hm
      obtain rfl := BridgeEvent.lease.inj heq
      exact hev topic name cdr caller he
  · intro p hm
    rcases List.mem_append.mp hm with hm | hm
    · exact h.published p hm
    · obtain ⟨e, _, heq⟩ := List.mem_map.mp hm
      cases heq

/-- A publish request goes out on the second image of the name in it. -/
theorem UsesChecked.publish (hG : Implements G b.node.expand) (hr : b.node.RemapsNames G)
    {tr : List BridgeEvent} {s : BridgeState} (h : UsesChecked G b tr s) (fx : PublishEffects)
    (request : PublishRequest) :
    UsesChecked G b (tr ++ (b.publisher.publish fx s.publishers request).2.map .published)
      { s with publishers := (b.publisher.publish fx s.publishers request).1 } := by
  rcases TopicPublisher.publish_cases (p := b.publisher) fx s.publishers request with
    ⟨hs, hev⟩ | ⟨topic, entry, wasCached, hres, hallow, hsel, hev, hs⟩
  · rw [hs, hev, List.map_nil, List.append_nil]
    exact h
  · obtain ⟨n, hn, rfl⟩ := Node.resolveTopicName_ok hres
    have hvalid : G.validFull false n = true := by
      obtain ⟨_, _, _, _, _, _, hf⟩ := rosExpand_eq_some.mp ((hG _ _ _ _ _).mp hn)
      exact hf
    have hentry : entry.publishesOn = b.node.used n := by
      rcases TopicPublisher.selectPublisher_cases hsel with hl | hnew
      · exact h.cached _ entry hl
      · have hfull := Node.resolveTopicName_full hG (hr n hvalid)
        exact (Except.ok.inj (hfull.symm.trans hnew)).symm
    rw [hev]
    refine ⟨h.subscribed, ?_, ?_, ?_⟩
    · intro t e hl
      rcases hs with hs | ⟨_, hs⟩
      · rw [hs] at hl
        exact h.cached t e hl
      · rw [hs, AList.lookup_insert_eq_if] at hl
        split at hl
        · rename_i ht
          obtain rfl := Option.some.inj hl
          rw [ht]
          exact hentry
        · exact h.cached t e hl
    · intro t name cdr caller hm
      rcases List.mem_append.mp hm with hm | hm
      · exact h.echoed t name cdr caller hm
      · obtain ⟨p, _, heq⟩ := List.mem_map.mp hm
        cases heq
    · intro p hm
      rcases List.mem_append.mp hm with hm | hm
      · exact h.published p hm
      · obtain rfl : p = ⟨entry.publishesOn, entry.type, request.message⟩ := by simpa using hm
        exact ⟨n, hvalid, hallow, hentry⟩

/-- **Every run uses only images of names that were checked.** -/
theorem usesChecked_of_trace (hG : Implements G b.node.expand) (hr : b.node.RemapsNames G)
    {tr : List BridgeEvent} {s : BridgeState} (h : b.machine.Trace tr s) : UsesChecked G b tr s := by
  refine Machine.Trace.invariant (P := UsesChecked G b) ?_ ?_ h
  · rintro s rfl
    refine ⟨?_, ?_, fun _ _ _ _ hm => (List.not_mem_nil hm).elim,
      fun _ hm => (List.not_mem_nil hm).elim⟩
    · intro key sub hl
      rw [LeaseState.initial, AList.lookup_empty] at hl
      cases hl
    · intro topic entry hl
      rw [PublisherState.initial, AList.lookup_empty] at hl
      cases hl
  · intro tr evs s t _ hu hstep
    cases hstep with
    | heartbeat fx now identity hb _ hparsed =>
      refine hu.lease _ (vouched_handleHeartbeat hG hr fx now identity hparsed hu.subscribed) ?_
      intro topic name cdr caller hm
      cases hres : resolveIdentity s.leases identity hb.sessionId with
      | none =>
        rw [LeaseManager.handleHeartbeat_of_refused hres] at hm
        simp at hm
      | some requester =>
        obtain ⟨evs, hev, hserved⟩ := handleHeartbeat_events (m := b.leases) hres fx now
        rw [hev] at hm
        rcases List.mem_cons.mp hm with hm | hm
        · cases hm
        · exact (hserved _ hm).elim
    | prune now =>
      refine hu.lease _ (vouched_pruneExpiredLeases now hu.subscribed) ?_
      intro topic name cdr caller hm
      rcases List.mem_append.mp hm with hm | hm
      · obtain ⟨leases, _, heq⟩ := pruneExpiredLeases_events now s.leases _ hm
        cases heq
      · simp at hm
    | deliver now key cdr =>
      exact hu.lease [] (vouched_deliver now key cdr hu.subscribed)
        fun _ _ _ _ hm => (List.not_mem_nil hm).elim
    | echo sends raw caller =>
      refine hu.lease _ hu.subscribed ?_
      intro topic name cdr dest hm
      unfold Bridge.requestEchoOnce at hm
      split at hm
      · cases hm
      · split at hm
        · cases hm
        · exact echoed_vouched hu.subscribed hm
    | publish fx raw interfaceType message topic _ => exact hu.publish hG hr fx _
    | shutdown =>
      have hl := hu.lease [.shutDown] (vouched_shutdown hu.subscribed)
        fun _ _ _ _ hm => by simp at hm
      refine ⟨hl.subscribed, ?_, hl.echoed, hl.published⟩
      intro topic entry hlook
      unfold TopicPublisher.shutdown at hlook
      dsimp only at hlook
      split at hlook
      · exact hu.cached topic entry hlook
      · rw [AList.lookup_empty] at hlook
        cases hlook

/-- What the outside does in the runs that show a topic in use: `topic` has one type
on the graph, and everything comes up. -/
def servingEffects (topic : Str) : DemandEffects where
  graph := (∅ : AList fun _ : Str => List Str).insert topic [lit "std_msgs/msg/String"]
  runtime := .ok ()
  publication := ⟨.track, false, true⟩

theorem requireSingleType_serving (topic kind : Str) :
    requireSingleType (servingEffects topic).graph topic kind = .ok (lit "std_msgs/msg/String") := by
  unfold requireSingleType servingEffects
  rw [AList.lookup_insert]

/-- The data track that a first demand for `n` gets. -/
theorem exists_servedDemand (hG : Implements G b.node.expand) (hr : b.node.RemapsNames G) {n : Str}
    (hn : G.validFull false n = true) (hallow : b.permits .subscribe n) (requester : Str)
    (expiry : Time) :
    ∃ sub, (b.leases.appendDemandStatus (servingEffects (b.node.remap n)) .initial requester
        ⟨.topic, n, none⟩ expiry).2.1.subscriptions.lookup (makeKey .topic (b.node.remap n)) =
          some sub ∧
      b.node.used n ∈ sub.subscribedTopics := by
  have hres : b.leases.node.resolveTopicName n = .ok (b.node.remap n) :=
    Node.resolveTopicName_full hG hn
  have hres' : b.leases.node.resolveTopicName (b.node.remap n) = .ok (b.node.used n) :=
    Node.resolveTopicName_full hG (hr n hn)
  have hdemand : b.leases.resolveDemand ⟨.topic, n, none⟩ =
      .ok ⟨.topic, b.node.remap n, makeKey .topic (b.node.remap n), [], 0, none, none⟩ := by
    simp [LeaseManager.resolveDemand, resolveName, trim_full hn, hres]
  have hdelivery : b.leases.resolveDemandDelivery (servingEffects (b.node.remap n))
      ⟨.topic, b.node.remap n, makeKey .topic (b.node.remap n), [], 0, none, none⟩ =
      .ok ⟨.topic, b.node.remap n, makeKey .topic (b.node.remap n), lit "std_msgs/msg/String", 0,
        none, none⟩ := by
    simp only [LeaseManager.resolveDemandDelivery, if_true, requireSingleType_serving]
    rw [if_pos (by decide)]
  unfold LeaseManager.appendDemandStatus
  rw [if_neg (fun hc => by rw [hallow] at hc; exact absurd hc.2 (by decide)), if_neg (by decide),
    hdemand]
  dsimp only
  unfold LeaseManager.ensure
  rw [if_neg (by decide)]
  dsimp only
  rw [show (LeaseState.initial.subscriptions.lookup (makeKey .topic (b.node.remap n)) :
    Option Subscription) = none from rfl]
  dsimp only
  rw [hdelivery]
  simp only [LeaseManager.create, LeaseManager.createRuntime]
  rw [show (LeaseState.initial.subscriptions.lookup (makeKey .topic (b.node.remap n)) :
    Option Subscription) = none from rfl]
  refine ⟨_, AList.lookup_insert _, ?_⟩
  simp [Subscription.subscribedTopics, DataTrackPublisher.publish, DataTrackPublisher.setIntervalMs,
    DataTrackPublisher.new, Publication.create, servingEffects, hres']

/-- One heartbeat for an allowed name subscribes to its second image. -/
theorem exists_subscribed (hG : Implements G b.node.expand) (hr : b.node.RemapsNames G) {n : Str}
    (hn : G.validFull false n = true) (hallow : b.permits .subscribe n) :
    ∃ tr s key sub, b.machine.Trace tr s ∧ s.leases.subscriptions.lookup key = some sub ∧
      b.node.used n ∈ sub.subscribedTopics := by
  have hparsed : (⟨none, [⟨.topic, n, none⟩], []⟩ : Heartbeat).Parsed b.leases.node.expand := by
    intro d hd _
    obtain rfl := List.mem_singleton.mp hd
    have hexpand : rosExpand G (trim n) kHeartbeatTopicExpansionNodeName [slash] false = some n := by
      rw [trim_full hn]
      exact rosExpand_full hn _ _
    exact ⟨n, (heartbeatTopic_eq_ok hG).mpr hexpand⟩
  obtain ⟨sub, hsub, hmem⟩ := exists_servedDemand hG hr hn hallow (lit "client")
    (0 + b.leases.heartbeatLeaseDuration)
  have hrun : b.machine.Trace _ _ := .step (.start rfl) (.heartbeat
    (fun _ => servingEffects (b.node.remap n)) 0 (lit "client") _ _ hparsed)
  refine ⟨_, _, makeKey .topic (b.node.remap n), sub, hrun, ?_, hmem⟩
  have hres : resolveIdentity LeaseState.initial (lit "client") none = some (lit "client") := rfl
  rw [LeaseManager.handleHeartbeat_of_resolved hres]
  exact hsub

/-- One publish request for a name whose first image is allowed goes out on its
second. -/
theorem exists_published (hG : Implements G b.node.expand) (hr : b.node.RemapsNames G) {n : Str}
    (hn : G.validFull false n = true) (hallow : b.permits .publish (b.node.remap n)) :
    ∃ tr s p, b.machine.Trace tr s ∧ BridgeEvent.published p ∈ tr ∧ p.topic = b.node.used n := by
  have hres : b.publisher.node.resolveTopicName n = .ok (b.node.remap n) :=
    Node.resolveTopicName_full hG hn
  have hres' : b.publisher.node.resolveTopicName (b.node.remap n) = .ok (b.node.used n) :=
    Node.resolveTopicName_full hG (hr n hn)
  have htopic : requiredTopic n = .ok n := by
    rw [requiredTopic, trim_full hn, if_neg (G.full_absolute hn).ne_nil]
  have hrun : b.machine.Trace _ _ := .step (.start rfl) (.publish
    ⟨(servingEffects (b.node.remap n)).graph, true, true, false, false, false⟩ n
    (lit "std_msgs/msg/String") [0] n _ htopic)
  refine ⟨_, _, ⟨b.node.used n, lit "std_msgs/msg/String", [0]⟩, hrun, ?_, rfl⟩
  have hallow' : b.publisher.policy.allows b.publisher.node.expand .publish (b.node.remap n) =
      true := hallow
  have hsel : b.publisher.selectPublisher
      ⟨(servingEffects (b.node.remap n)).graph, true, true, false, false, false⟩
      PublisherState.initial (b.node.remap n) (lit "std_msgs/msg/String") =
      some (⟨lit "std_msgs/msg/String", b.node.used n⟩, false) := by
    unfold TopicPublisher.selectPublisher
    rw [show (PublisherState.initial.publishers.lookup (b.node.remap n) :
      Option PublisherEntry) = none from rfl]
    dsimp only
    have hroom : ¬ b.publisher.maxTopics ≤ PublisherState.initial.publishers.entries.length :=
      show ¬ kDefaultMaxTopics ≤ 0 by decide
    rw [if_neg hroom, requireSingleType_serving]
    dsimp only
    rw [if_neg (by simp), if_pos rfl, hres']
  have hsent : (b.publisher.publish
      ⟨(servingEffects (b.node.remap n)).graph, true, true, false, false, false⟩
      PublisherState.initial ⟨n, lit "std_msgs/msg/String", [0]⟩).2 =
      [⟨b.node.used n, lit "std_msgs/msg/String", [0]⟩] := by
    unfold TopicPublisher.publish
    rw [if_neg (by decide)]
    simp only [hres, hallow', hsel]
    rfl
  rw [hsent]
  simp

/-- **When the policy covers the topics that are used.**  Every run keeps to the
policy exactly when the policy allows of `ρ (ρ n)` what it allows of the name it is
asked about: `n` for subscriptions, `ρ n` for publishers. -/
theorem policyCovers_iff (hG : Implements G b.node.expand) (hr : b.node.RemapsNames G) :
    (∀ tr s, b.machine.Trace tr s → PolicyCovers b tr s) ↔ RemapRespectsPolicy G b := by
  constructor
  · intro h
    refine ⟨?_, ?_⟩
    · intro n hn hallow
      obtain ⟨tr, s, key, sub, htrace, hsub, hmem⟩ := exists_subscribed hG hr hn hallow
      exact (h tr s htrace).subscribed key sub _ hsub hmem
    · intro n hn hallow
      obtain ⟨tr, s, p, htrace, hmem, htopic⟩ := exists_published hG hr hn hallow
      rw [← htopic]
      exact (h tr s htrace).published p hmem
  · intro h tr s htrace
    have hu := usesChecked_of_trace hG hr htrace
    refine ⟨?_, ?_, ?_⟩
    · intro key sub topic hsub hmem
      obtain ⟨n, hn, rfl⟩ := (hu.subscribed key sub hsub).mem hmem
      exact h.subscribe n hn.1 hn.2
    · intro topic name cdr caller hm
      obtain ⟨n, hn, rfl⟩ := hu.echoed topic name cdr caller hm
      exact h.subscribe n hn.1 hn.2
    · intro p hm
      obtain ⟨n, hn, hallow, htopic⟩ := hu.published p hm
      rw [htopic]
      exact h.publish n hn hallow

end Runs

/-- A bridge on `/`, with the remap rules `remap`, that may subscribe to `/front`
only. -/
def frontBridge (remap : Str → Str) : Bridge where
  leases :=
    { openManager with
      node := ⟨lit "bridge", lit "/", ros2Expand, remap⟩
      accessPolicy := AccessPolicy.ofConfig ros2Expand (subscribePolicy [lit "/front"] []) }

/-- Without remap rules the policy covers every run. -/
theorem policyCovers_iff_id :
    RemapRespectsPolicy ros2Grammar (frontBridge id) ∧
      ∀ tr s, (frontBridge id).machine.Trace tr s → PolicyCovers (frontBridge id) tr s := by
  have hremap : RemapRespectsPolicy ros2Grammar (frontBridge id) := ⟨fun _ _ h => h, fun _ _ h => h⟩
  exact ⟨hremap, (policyCovers_iff implements_ros2Expand fun _ h => h).mpr hremap⟩

/-- The rule `/front:=/private`. -/
def frontToPrivate (n : Str) : Str := if n = lit "/front" then lit "/private" else n

theorem frontToPrivate_remapsNames : (frontBridge frontToPrivate).node.RemapsNames ros2Grammar := by
  intro n h
  show ros2Grammar.validFull false (frontToPrivate n) = true
  unfold frontToPrivate
  split
  · decide
  · exact h

/-- **A remapped topic escapes the policy**: a heartbeat for `/front`, which is
allowed, subscribes to `/private`, which is not. -/
theorem not_policyCovers_remapped :
    ¬ ∀ tr s, (frontBridge frontToPrivate).machine.Trace tr s →
      PolicyCovers (frontBridge frontToPrivate) tr s := by
  intro h
  obtain ⟨tr, s, key, sub, htrace, hsub, hmem⟩ := exists_subscribed (b := frontBridge frontToPrivate)
    implements_ros2Expand frontToPrivate_remapsNames (n := lit "/front") (by decide)
    (show _ = true by decide +kernel)
  have hbad := (h tr s htrace).subscribed key sub _ hsub hmem
  exact absurd hbad (show ¬ _ = true by decide +kernel)

end LivekitBridge
