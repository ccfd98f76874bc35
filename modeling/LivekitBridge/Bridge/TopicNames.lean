import LivekitBridge.AccessPolicy
import LivekitBridge.Names.Node
import Mathlib.Data.Bool.AllAny

/-!
# One name, one topic

A client's text reaches ROS on three surfaces, and an operator's text reaches the
access policy on a fourth.  Each expands it as seen from a node of its own:

* a heartbeat and an echo-once request from `livekit_ros2_bridge` in `/`,
* a publish request from the bridge's own node in its own namespace,
* an access rule from `livekit_ros2_bridge_access_policy` in `/`.

`oneTopic_iff` says for which texts the four agree: those whose expansion does not
use the node name, and uses the namespace only if the node's namespace is the
root.  In particular a relative name published from a bridge in a namespace does
not mean what it means in a heartbeat.
-/

namespace LivekitBridge

open RosResourcePattern

/-- The two JSON parsers trim the text, expand it, and turn what rclcpp throws into
the message of a validation error. -/
def expandTrimmed (expand : Expand) (nodeName namespace_ raw : Str) : Except Str Str :=
  match expand (trim raw) nodeName namespace_ false with
  | .ok n => .ok n
  | .error e => .error e.what

def kHeartbeatTopicExpansionNodeName : Str := lit "livekit_ros2_bridge"

def kHeartbeatTopicExpansionNamespace : Str := lit "/"

/-- The name of a topic entry in `subscriptions_json.cpp`, `parseTarget`. -/
def heartbeatTopic (expand : Expand) (raw : Str) : Except Str Str :=
  expandTrimmed expand kHeartbeatTopicExpansionNodeName kHeartbeatTopicExpansionNamespace raw

/-- `kTopicExpansionNodeName` of `echo_once_json.cpp` -/
def kTopicExpansionNodeName : Str := lit "livekit_ros2_bridge"

/-- `kTopicExpansionNamespace` of `echo_once_json.cpp` -/
def kTopicExpansionNamespace : Str := lit "/"

/-- The name in `echo_once_json.cpp`, `parse`. -/
def echoTopic (expand : Expand) (raw : Str) : Except Str Str :=
  expandTrimmed expand kTopicExpansionNodeName kTopicExpansionNamespace raw

/-- The `topic` field of a publish request: `requiredString` in `parse`. -/
def requiredTopic (raw : Str) : Except Str Str :=
  if trim raw = [] then .error (lit "Publish request requires a non-empty 'topic' field.")
  else .ok (trim raw)

/-- The topic of a publish request: `requiredTopic` in `parse`, then
`resolve_topic_name` in `RosTopicPublisher::publish`. -/
def publishTopic (node : Node) (raw : Str) : Except Str Str :=
  match requiredTopic raw with
  | .error what => .error what
  | .ok topic => node.resolveTopicName topic

/-- The same rules for both topic operations. -/
def topicPolicy (allow deny : List Str) : AccessPolicyConfig :=
  ⟨⟨allow, deny⟩, ⟨allow, deny⟩, ⟨[], []⟩⟩

/-- `raw` denotes `t` on every surface: in a heartbeat, in an echo-once request, in
a publish request, and as an entry of an allow or a deny list. -/
structure OneTopic (node : Node) (raw t : Str) : Prop where
  heartbeat : heartbeatTopic node.expand raw = .ok t
  echo : echoTopic node.expand raw = .ok t
  publish : publishTopic node raw = .ok t
  allowed : ∀ operation, operation ≠ .callService →
    (AccessPolicy.ofConfig node.expand (topicPolicy [raw] [])).allows node.expand operation t = true
  denied : ∀ operation, operation ≠ .callService → ∀ allow,
    (AccessPolicy.ofConfig node.expand (topicPolicy allow [raw])).allows node.expand operation t = false

section Surfaces

variable {G : NameGrammar} {node : Node} {raw t : Str}

theorem validNode_heartbeat : ValidNode kHeartbeatTopicExpansionNodeName [slash] :=
  ⟨by decide, List.all_iff_forall_prop.mp (by decide), by decide,
    List.all_iff_forall_prop.mp (by decide)⟩

theorem validNode_policy : ValidNode kPolicyNodeName [slash] :=
  ⟨by decide, List.all_iff_forall_prop.mp (by decide), by decide,
    List.all_iff_forall_prop.mp (by decide)⟩

theorem expandTrimmed_eq_ok {expand : Expand} {nodeName namespace_ : Str} :
    expandTrimmed expand nodeName namespace_ raw = .ok t ↔
      expand (trim raw) nodeName namespace_ false = .ok t := by
  unfold expandTrimmed
  cases expand (trim raw) nodeName namespace_ false with
  | ok n => simp
  | error e => simp

theorem heartbeatTopic_eq_ok (hG : Implements G node.expand) :
    heartbeatTopic node.expand raw = .ok t ↔
      rosExpand G (trim raw) kHeartbeatTopicExpansionNodeName [slash] false = some t := by
  rw [← hG]
  exact expandTrimmed_eq_ok

/-- What the parser accepts is not blank: nothing expands to `/`. -/
theorem trim_ne_of_heartbeatTopic (hG : Implements G node.expand)
    (h : heartbeatTopic node.expand raw = .ok t) : trim raw ≠ [] := by
  intro hnil
  rw [heartbeatTopic_eq_ok hG, hnil] at h
  obtain ⟨_, ps, text, hp, ht, htm, hf⟩ := rosExpand_eq_some.mp h
  obtain rfl := Option.some.inj hp
  obtain rfl := Option.some.inj ht
  obtain ⟨segs, hne, hsegs, heq⟩ := G.full_absolute hf
  rw [htm, show makeAbsolute [slash] [] = [slash] from rfl] at heq
  cases segs with
  | nil => exact hne rfl
  | cons a segs =>
    rw [Lib.render_cons, List.cons.injEq] at heq
    exact (hsegs a (by simp)).1 (List.append_eq_nil_iff.mp heq.2.symm).1

theorem publishTopic_eq_ok (hG : Implements G node.expand) (hremap : node.remap = id)
    (hne : trim raw ≠ []) :
    publishTopic node raw = .ok t ↔
      rosExpand G (trim raw) node.name node.namespace_ false = some t := by
  rw [← hG, publishTopic, requiredTopic, if_neg hne]
  dsimp only
  rw [Node.resolveTopicName, hremap]
  cases node.expand (trim raw) node.name node.namespace_ false with
  | ok n => simp
  | error e => simp

theorem topicPolicy_rules (allow deny : List Str) {operation : AccessOperation}
    (h : operation ≠ .callService) : (topicPolicy allow deny).rules operation = ⟨allow, deny⟩ := by
  cases operation with
  | publish => rfl
  | subscribe => rfl
  | callService => exact absurd rfl h

theorem isService_of_ne {operation : AccessOperation} (h : operation ≠ .callService) :
    operation.isService = false := by
  cases operation with
  | publish => rfl
  | subscribe => rfl
  | callService => exact absurd rfl h

theorem entryDenotes_iff (hG : Implements G node.expand) (hne : trim raw ≠ [])
    (hstar : star ∉ trim raw) {operation : AccessOperation} (h : operation ≠ .callService) :
    EntryDenotes node.expand operation raw t ↔
      rosExpand G (trim raw) kPolicyNodeName [slash] false = some t := by
  rw [← hG, EntryDenotes, Denotes, isService_of_ne h]
  constructor
  · rintro (he | he | ⟨P, E, he, _⟩ | ⟨_, _, he⟩)
    · exact absurd (he ▸ by decide) hstar
    · exact absurd (he ▸ by decide) hstar
    · exact absurd (he ▸ by simp [kRosResourceSubtreeWildcard]) hstar
    · exact he.2
  · intro he
    refine .inr (.inr (.inr ⟨?_, ?_, hne, he⟩))
    · intro hc
      exact hstar (hc ▸ by decide)
    · rintro ⟨P, hP⟩
      exact hstar (hP ▸ by simp [kRosResourceSubtreeWildcard])

/-- What the parser returns is the name the policy sees. -/
theorem policyName_iff (hG : Implements G node.expand)
    (hacc : heartbeatTopic node.expand raw = .ok t) {operation : AccessOperation}
    (h : operation ≠ .callService) {n : Str} : PolicyName node.expand operation t n ↔ n = t := by
  have hexp := expandTrimmed_eq_ok.mp hacc
  have hidem := hG.idem hexp kPolicyNodeName kPolicyRosNamespace
  have htrim := hG.trim_eq hexp
  rw [PolicyName, ExpandsTo, isService_of_ne h, htrim, hidem]
  constructor
  · rintro ⟨_, he⟩
    exact (Except.ok.inj he).symm
  · rintro rfl
    exact ⟨(hG.yieldsAbsolute _ _ _ _ _ hexp).ne_nil, rfl⟩

/-- **When one name denotes one topic.**  For a text that the heartbeat parser
accepts, the four surfaces agree exactly when its expansion does not use the node
name, and uses the namespace only if the node is in the root namespace. -/
theorem oneTopic_iff (hG : Implements G node.expand) (hv : ValidNode node.name node.namespace_)
    (hremap : node.remap = id) (hacc : heartbeatTopic node.expand raw = .ok t) :
    OneTopic node raw t ↔
      usesNode (trim raw) = false ∧ (usesNamespace (trim raw) = false ∨ node.namespace_ = [slash]) := by
  have hne := trim_ne_of_heartbeatTopic hG hacc
  have hheart := (heartbeatTopic_eq_ok hG).mp hacc
  have hstar : star ∉ trim raw := G.name_no_star (rosExpand_eq_some.mp hheart).1
  have hrule : ∀ operation, operation ≠ .callService → (EntryDenotes node.expand operation raw t ↔
      rosExpand G (trim raw) kPolicyNodeName [slash] false = some t) := fun operation h =>
    entryDenotes_iff hG hne hstar h
  constructor
  · intro h
    have hallow := (allows_iff hG.yieldsAbsolute _ .subscribe t).mp (h.allowed .subscribe (by decide))
    obtain ⟨n, hn, ⟨e, he, hd⟩, _⟩ := hallow
    obtain rfl := (policyName_iff hG hacc (by decide)).mp hn
    obtain rfl : e = raw := by simpa [topicPolicy_rules] using he
    have hpol := (hrule .subscribe (by decide)).mp hd
    have hnode := not_usesNode_of_eq validNode_heartbeat validNode_policy (by decide) hheart hpol
    refine ⟨hnode, ?_⟩
    by_cases hs : usesNamespace (trim e) = true
    · have hpub := (publishTopic_eq_ok hG hremap hne).mp h.publish
      have hlen := namespace_length_of_eq validNode_heartbeat hv hnode hs hheart hpub
      obtain ⟨c, hc⟩ := List.length_eq_one_iff.mp hlen
      have hhead := hv.namespace_head
      rw [hc, List.head?_cons, Option.some.injEq] at hhead
      exact .inr (by rw [hc, hhead])
    · exact .inl (Bool.not_eq_true _ ▸ hs)
  · rintro ⟨hnode, hs⟩
    have hpol : rosExpand G (trim raw) kPolicyNodeName [slash] false = some t := by
      rw [rosExpand_congr validNode_heartbeat hnode (.inr rfl)]
      exact hheart
    have hpub : rosExpand G (trim raw) node.name node.namespace_ false = some t := by
      rw [rosExpand_congr validNode_heartbeat hnode hs]
      exact hheart
    refine ⟨hacc, expandTrimmed_eq_ok.mpr (expandTrimmed_eq_ok.mp hacc),
      (publishTopic_eq_ok hG hremap hne).mpr hpub, ?_, ?_⟩
    · intro operation h
      rw [allows_iff hG.yieldsAbsolute]
      refine ⟨t, (policyName_iff hG hacc h).mpr rfl, ⟨raw, ?_, (hrule operation h).mpr hpol⟩, ?_⟩
      · simp [topicPolicy_rules _ _ h]
      · simp [topicPolicy_rules _ _ h]
    · intro operation h allow
      rw [Bool.eq_false_iff, ne_eq, allows_iff hG.yieldsAbsolute]
      rintro ⟨n, hn, _, hdeny⟩
      obtain rfl := (policyName_iff hG hacc h).mp hn
      exact hdeny raw (by simp [topicPolicy_rules _ _ h]) ((hrule operation h).mpr hpol)

end Surfaces

/-- A bridge in the namespace `/robot`. -/
def robotNode : Node := ⟨lit "bridge", lit "/robot", ros2Expand, id⟩

theorem validNode_robotNode : ValidNode robotNode.name robotNode.namespace_ :=
  ⟨by decide, List.all_iff_forall_prop.mp (by decide), by decide,
    List.all_iff_forall_prop.mp (by decide)⟩

/-- An absolute name is one topic, also from `/robot`. -/
theorem oneTopic_iff_absolute : OneTopic robotNode (lit " /chatter") (lit "/chatter") :=
  (oneTopic_iff implements_ros2Expand validNode_robotNode rfl (by decide +kernel)).mpr
    ⟨by decide, .inl (by decide)⟩

/-- **A relative name is two topics**: `chatter` is `/chatter` in a heartbeat and
`/robot/chatter` when it is published. -/
theorem not_oneTopic_relative :
    heartbeatTopic robotNode.expand (lit "chatter") = .ok (lit "/chatter") ∧
      publishTopic robotNode (lit "chatter") = .ok (lit "/robot/chatter") ∧
      ∀ t, ¬ OneTopic robotNode (lit "chatter") t := by
  have hheart : heartbeatTopic robotNode.expand (lit "chatter") = .ok (lit "/chatter") := by
    decide +kernel
  have hpub : publishTopic robotNode (lit "chatter") = .ok (lit "/robot/chatter") := by
    decide +kernel
  refine ⟨hheart, hpub, ?_⟩
  intro t h
  have h₁ := Except.ok.inj (hheart.symm.trans h.heartbeat)
  have h₂ := Except.ok.inj (hpub.symm.trans h.publish)
  exact absurd (h₁.trans h₂.symm) (by decide)

end LivekitBridge
