import LivekitBridge.Names.RosExpansion

/-!
# The node and its topic names

The bridge runs inside one ROS node.  What it uses of the node for names is
`NodeTopicsInterface::resolve_topic_name`: expand the text as seen from the node,
then apply the node's remap rules, which are an arbitrary function of the
expanded name.  `rclcpp::create_generic_subscription`, `create_subscription` and
`create_generic_publisher` resolve the text they are given in the same way, so a
name the bridge has resolved before goes through the rules once more.
-/

namespace LivekitBridge

/-- The node: its name, its namespace, rclcpp's expansion and its remap rules. -/
structure Node where
  name : Str
  namespace_ : Str
  expand : Expand
  remap : Str → Str

/-- `NodeTopicsInterface::resolve_topic_name`; the error is `exc.what()`. -/
def Node.resolveTopicName (node : Node) (name : Str) : Except Str Str :=
  match node.expand name node.name node.namespace_ false with
  | .ok n => .ok (node.remap n)
  | .error e => .error e.what

/-- Remap rules take valid topic names to valid topic names. -/
def Node.RemapsNames (G : NameGrammar) (node : Node) : Prop :=
  ∀ n, G.validFull false n = true → G.validFull false (node.remap n) = true

/-- **A valid absolute name is only remapped.** -/
theorem Node.resolveTopicName_full {G : NameGrammar} {node : Node} (hG : Implements G node.expand)
    {n : Str} (h : G.validFull false n = true) : node.resolveTopicName n = .ok (node.remap n) := by
  have he : node.expand n node.name node.namespace_ false = .ok n :=
    (hG _ _ _ _ _).mpr (rosExpand_full h _ _)
  rw [Node.resolveTopicName, he]

theorem Node.resolveTopicName_ok {node : Node} {name t : Str}
    (h : node.resolveTopicName name = .ok t) :
    ∃ n, node.expand name node.name node.namespace_ false = .ok n ∧ t = node.remap n := by
  unfold Node.resolveTopicName at h
  split at h
  · rename_i n hn
    exact ⟨n, hn, (Except.ok.inj h).symm⟩
  · cases h

end LivekitBridge
