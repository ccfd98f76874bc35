import LivekitBridge.Names.RosExpansion

/-!
# The canonical text of a pattern

A pattern that was parsed is passed on as its text and made a pattern again, by
`fromCanonical` or by `parse`, each of which tells the kind from the text by itself.

`IsCanonical` is what `parse` returns (`isCanonical_of_parse`): the subtree of everything, a
name followed by `/*`, or a name, where a name is something that expansion returns and leaves
alone.  A name has no `'*'`, so that the three are told apart by their text.
-/

namespace LivekitBridge

/-- What is relied on of `rclcpp::expand_topic_or_service_name` here: it returns absolute
names without `'*'` and without spaces, and returns these again. -/
structure ReturnsNames (expand : Expand) : Prop where
  absolute : ∀ name nodeName namespace_ isService n,
    expand name nodeName namespace_ isService = .ok n → n.head? = some slash
  no_star : ∀ name nodeName namespace_ isService n,
    expand name nodeName namespace_ isService = .ok n → star ∉ n
  no_space : ∀ name nodeName namespace_ isService n,
    expand name nodeName namespace_ isService = .ok n → ∀ c ∈ n, isSpace c = false
  fixed : ∀ name nodeName namespace_ isService n,
    expand name nodeName namespace_ isService = .ok n →
    ∀ nodeName' namespace', expand n nodeName' namespace' isService = .ok n

theorem Implements.returnsNames {G : NameGrammar} {expand : Expand} (h : Implements G expand) :
    ReturnsNames expand := by
  refine ⟨?_, ?_, ?_, ?_⟩
  · intro name nodeName namespace_ isService n hn
    exact (h.yieldsAbsolute _ _ _ _ _ hn).head?
  · intro name nodeName namespace_ isService n hn hstar
    obtain ⟨segs, _, hsegs, rfl⟩ := h.yieldsAbsolute _ _ _ _ _ hn
    rcases mem_render hstar with hc | ⟨seg, hseg, hc⟩
    · exact absurd hc (by decide)
    · exact (hsegs seg hseg).2.2 hc
  · intro name nodeName namespace_ isService n hn c hc
    obtain ⟨_, _, _, _, _, _, hf⟩ := rosExpand_eq_some.mp ((h _ _ _ _ _).mp hn)
    exact (G.full_plain hf c hc).2.2.2
  · intro name nodeName namespace_ isService n hn nodeName' namespace'
    exact h.idem hn nodeName' namespace'

namespace RosResourcePattern

def fromCanonical (pattern : Str) : RosResourcePattern :=
  if pattern = [star] ∨ pattern = kRosResourceSubtreeWildcard then rootSubtree
  else ⟨pattern, if hasSubtreeWildcard pattern then .subtree else .exact⟩

end RosResourcePattern

def rosResourceMatchesPattern (resource pattern : Str) : Bool :=
  (RosResourcePattern.fromCanonical pattern).matchesResource resource

namespace RosResourcePattern

/-- A name that expansion returns, and leaves alone. -/
structure IsName (expand : Expand) (isService : Bool) (n : Str) : Prop where
  absolute : n.head? = some slash
  no_star : star ∉ n
  no_space : ∀ c ∈ n, isSpace c = false
  fixed : ∀ nodeName namespace_, expand n nodeName namespace_ isService = .ok n

section Names

variable {expand : Expand} {isService : Bool} {n : Str}

theorem IsName.of_normalize (h : ReturnsNames expand) {name nodeName namespace_ : Str}
    (hne : normalizeRosResourceName expand name nodeName namespace_ isService ≠ []) :
    IsName expand isService (normalizeRosResourceName expand name nodeName namespace_ isService) := by
  have he := ((normalizeRosResourceName_eq_iff hne).mp rfl).2
  exact ⟨h.absolute _ _ _ _ _ he, h.no_star _ _ _ _ _ he, h.no_space _ _ _ _ _ he,
    h.fixed _ _ _ _ _ he⟩

theorem IsName.ne_nil (h : IsName expand isService n) : n ≠ [] := by
  intro hn
  have hhead := h.absolute
  rw [hn] at hhead
  cases hhead

theorem IsName.trim_eq (h : IsName expand isService n) : trim n = n :=
  trim_eq_self (fun c hc => h.no_space c (List.mem_of_mem_head? hc))
    (fun c hc => h.no_space c (List.mem_of_getLast? hc))

theorem IsName.normalize (h : IsName expand isService n) (nodeName namespace_ : Str) :
    normalizeRosResourceName expand n nodeName namespace_ isService = n := by
  refine (normalizeRosResourceName_eq_iff h.ne_nil).mpr ⟨?_, ?_⟩
  · rw [h.trim_eq]
    exact h.ne_nil
  · rw [h.trim_eq]
    exact h.fixed nodeName namespace_

/-- A name does not look like a pattern. -/
theorem IsName.not_wildcard (h : IsName expand isService n) :
    n ≠ [star] ∧ ¬ kRosResourceSubtreeWildcard <:+ n := by
  constructor
  · intro hn
    apply h.no_star
    rw [hn]
    exact List.mem_singleton_self star
  · intro hw
    apply h.no_star
    exact hw.subset (by decide)

/-- Nor is a name followed by `/*` one of the two texts for everything. -/
theorem IsName.append_ne (h : IsName expand isService n) :
    n ++ kRosResourceSubtreeWildcard ≠ [star] ∧
      n ++ kRosResourceSubtreeWildcard ≠ kRosResourceSubtreeWildcard := by
  constructor
  · intro he
    have hlen := congrArg List.length he
    simp [kRosResourceSubtreeWildcard] at hlen
  · intro he
    exact h.ne_nil (List.append_left_eq_self.mp he)

theorem IsName.trim_append (h : IsName expand isService n) :
    trim (n ++ kRosResourceSubtreeWildcard) = n ++ kRosResourceSubtreeWildcard := by
  refine trim_eq_self ?_ ?_
  · intro c hc
    rw [List.head?_append, h.absolute] at hc
    rw [← Option.some.inj hc]
    decide
  · intro c hc
    rw [List.getLast?_append, show kRosResourceSubtreeWildcard.getLast? = some star from rfl] at hc
    rw [← Option.some.inj hc]
    decide

end Names

/-! ### What is parsed -/

/-- The patterns that `parse` returns. -/
inductive IsCanonical (expand : Expand) (isService : Bool) : RosResourcePattern → Prop
  | root : IsCanonical expand isService rootSubtree
  | subtree {n : Str} : IsName expand isService n →
      IsCanonical expand isService ⟨n ++ kRosResourceSubtreeWildcard, .subtree⟩
  | exact {n : Str} : IsName expand isService n → IsCanonical expand isService ⟨n, .exact⟩

variable {expand : Expand} {isService : Bool} {p : RosResourcePattern}

theorem isCanonical_of_parse (h : ReturnsNames expand) {raw nodeName namespace_ : Str}
    (hp : parse expand raw nodeName namespace_ isService = some p) :
    IsCanonical expand isService p := by
  rcases entry_shape (trim raw) with h0 | hroot | ⟨P, hne, hP⟩ | ⟨h0, h1, h3⟩
  · rw [parse_of_blank h0] at hp
    cases hp
  · rw [parse_of_root hroot] at hp
    obtain rfl := Option.some.inj hp
    exact .root
  · rw [parse_of_subtree hne hP] at hp
    split at hp
    · cases hp
    · rename_i hnorm
      obtain rfl := Option.some.inj hp
      exact .subtree (.of_normalize h hnorm)
  · rw [parse_of_exact h0 h1 h3] at hp
    split at hp
    · cases hp
    · rename_i hnorm
      obtain rfl := Option.some.inj hp
      exact .exact (.of_normalize h hnorm)

/-- The text is made the same pattern again. -/
theorem IsCanonical.fromCanonical_eq (h : IsCanonical expand isService p) :
    fromCanonical p.canonical = p := by
  cases h with
  | root => rfl
  | @subtree n hn =>
    have hw : hasSubtreeWildcard (n ++ kRosResourceSubtreeWildcard) = true :=
      (hasSubtreeWildcard_iff _).mpr (List.suffix_append _ _)
    obtain ⟨h1, h2⟩ := hn.append_ne
    rw [fromCanonical, if_neg (not_or.mpr ⟨h1, h2⟩), hw, if_pos rfl]
  | @exact n hn =>
    obtain ⟨h1, h3⟩ := hn.not_wildcard
    have h2 : n ≠ kRosResourceSubtreeWildcard := by
      intro he
      apply h3
      rw [he]
    have hw : hasSubtreeWildcard n = false :=
      Bool.eq_false_iff.mpr fun hh => h3 ((hasSubtreeWildcard_iff _).mp hh)
    rw [fromCanonical, if_neg (not_or.mpr ⟨h1, h2⟩), hw, if_neg Bool.false_ne_true]

/-- The text is parsed to the same pattern again. -/
theorem IsCanonical.parse_eq (h : IsCanonical expand isService p) (nodeName namespace_ : Str) :
    parse expand p.canonical nodeName namespace_ isService = some p := by
  cases h with
  | root => exact parse_of_root (.inr (by decide))
  | @subtree n hn =>
    rw [parse_of_subtree hn.ne_nil hn.trim_append, hn.normalize, if_neg hn.ne_nil]
  | @exact n hn =>
    obtain ⟨h1, h3⟩ := hn.not_wildcard
    rw [parse_of_exact, hn.normalize, if_neg hn.ne_nil]
    · rw [hn.trim_eq]
      exact hn.ne_nil
    · rw [hn.trim_eq]
      exact h1
    · rw [hn.trim_eq]
      exact h3

/-- **A pattern is given back by its text**, by `fromCanonical` and by `parse` alike, so that
matching with the text is matching with the pattern, and patterns with one text match the same
names. -/
theorem canonical_roundTrip (h : ReturnsNames expand) {raw nodeName namespace_ : Str}
    (hp : parse expand raw nodeName namespace_ isService = some p) :
    fromCanonical p.canonical = p ∧
      (∀ nodeName' namespace', parse expand p.canonical nodeName' namespace' isService = some p) ∧
      (∀ resource, rosResourceMatchesPattern resource p.canonical = p.matchesResource resource) ∧
      ∀ raw' nodeName' namespace' isService' q,
        parse expand raw' nodeName' namespace' isService' = some q → q.canonical = p.canonical →
        ∀ resource, q.matchesResource resource = p.matchesResource resource := by
  have hcan := isCanonical_of_parse h hp
  refine ⟨hcan.fromCanonical_eq, hcan.parse_eq, ?_, ?_⟩
  · intro resource
    rw [rosResourceMatchesPattern, hcan.fromCanonical_eq]
  · intro raw' nodeName' namespace' isService' q hq htext resource
    have hqcan := isCanonical_of_parse h hq
    rw [← hcan.fromCanonical_eq, ← hqcan.fromCanonical_eq, htext]

theorem canonical_roundTrip_camera :
    parse ros2Expand (lit " camera/*") (lit "bridge") (lit "/") false =
        some ⟨lit "/camera/*", .subtree⟩ ∧
      rosResourceMatchesPattern (lit "/camera/front") (lit "/camera/*") = true := by
  have hp : parse ros2Expand (lit " camera/*") (lit "bridge") (lit "/") false =
      some ⟨lit "/camera/*", .subtree⟩ := by decide +kernel
  refine ⟨hp, ?_⟩
  rw [(canonical_roundTrip implements_ros2Expand.returnsNames hp).2.2.1]
  decide

end RosResourcePattern

end LivekitBridge
