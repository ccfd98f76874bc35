import LivekitBridge.Lib.Segments
import LivekitBridge.Text

/-!
# ROS resource names and patterns

`utils/ros_resource_name_utils.hpp`.  A name a client or an operator writes is
trimmed and handed to rclcpp's `expand_topic_or_service_name`, which makes it
absolute or throws.  That function is not part of the repository: `Expand` is
its type, and every result about names is stated for an arbitrary one, under the
hypotheses it names.

A pattern is an exact name, or a name followed by `/*`.  `RosResourcePattern`
keeps the text and the kind, as the class does, and `matches` works on prefixes
and lengths of that text (`matchesResource` here; `matches` is a keyword).

`Denotes` says what an entry of a rule list means, in segments and not in
prefixes: `*` and `/*` denote every name, `P/*` the names whose segments
strictly extend those of `P`, any other entry the one name it expands to.
`parse_matchesResource_iff` is that `parse` followed by `matches` computes it.
-/

namespace LivekitBridge

open Lib

/-! ### Expansion -/

/-- What `rclcpp::expand_topic_or_service_name` throws: a `NameValidationError`,
or a `std::runtime_error`. -/
inductive ExpandError
  | nameValidation (what : Str)
  | runtimeError (what : Str)
deriving DecidableEq, Repr

/-- `exc.what()` -/
def ExpandError.what : ExpandError → Str
  | .nameValidation what => what
  | .runtimeError what => what

/-- `rclcpp::expand_topic_or_service_name(name, node_name, namespace_, is_service)`. -/
abbrev Expand := (name nodeName namespace_ : Str) → (isService : Bool) → Except ExpandError Str

/-- An absolute name: non-empty segments without `'/'` and without `'*'`. -/
def IsAbsolute (n : Str) : Prop :=
  ∃ segs : List Str, segs ≠ [] ∧ (∀ s ∈ segs, s ≠ [] ∧ slash ∉ s ∧ star ∉ s) ∧ n = render slash segs

/-- An expansion that returns absolute names only. -/
def YieldsAbsolute (expand : Expand) : Prop :=
  ∀ name nodeName namespace_ isService n,
    expand name nodeName namespace_ isService = .ok n → IsAbsolute n

theorem IsAbsolute.ne_nil {n : Str} (h : IsAbsolute n) : n ≠ [] := by
  obtain ⟨segs, hne, _, rfl⟩ := h
  cases segs with
  | nil => exact absurd rfl hne
  | cons s segs => exact List.cons_ne_nil _ _

theorem IsAbsolute.head? {n : Str} (h : IsAbsolute n) : n.head? = some slash := by
  obtain ⟨segs, hne, _, rfl⟩ := h
  cases segs with
  | nil => exact absurd rfl hne
  | cons s segs => rfl

/-- `normalizeRosResourceName`: empty for blank input and for a name rclcpp
rejects. -/
def normalizeRosResourceName (expand : Expand) (name nodeName namespace_ : Str)
    (isService : Bool) : Str :=
  let trimmed := trim name
  if trimmed = [] then []
  else
    match expand trimmed nodeName namespace_ isService with
    | .ok n => n
    | .error (.nameValidation _) => []
    | .error (.runtimeError _) => []

/-- The trimmed text is not blank and expands to `n`. -/
def ExpandsTo (expand : Expand) (nodeName namespace_ : Str) (isService : Bool) (name n : Str) :
    Prop :=
  trim name ≠ [] ∧ expand (trim name) nodeName namespace_ isService = .ok n

theorem ExpandsTo.isAbsolute {expand : Expand} (habs : YieldsAbsolute expand)
    {nodeName namespace_ name n : Str} {isService : Bool}
    (h : ExpandsTo expand nodeName namespace_ isService name n) : IsAbsolute n :=
  habs _ _ _ _ _ h.2

theorem ExpandsTo.unique {expand : Expand} {nodeName namespace_ name n n' : Str} {isService : Bool}
    (h : ExpandsTo expand nodeName namespace_ isService name n)
    (h' : ExpandsTo expand nodeName namespace_ isService name n') : n = n' := by
  have := h.2.symm.trans h'.2
  exact Except.ok.inj this

section Normalize

variable {expand : Expand} {nodeName namespace_ name n : Str} {isService : Bool}

/-- **What normalisation returns**: a non-empty result is the expansion of the
trimmed text. -/
theorem normalizeRosResourceName_eq_iff (hn : n ≠ []) :
    normalizeRosResourceName expand name nodeName namespace_ isService = n ↔
      ExpandsTo expand nodeName namespace_ isService name n := by
  unfold normalizeRosResourceName ExpandsTo
  by_cases ht : trim name = []
  · simp [ht, hn.symm]
  · simp only [ht, if_false, ne_eq, not_false_eq_true, true_and]
    cases he : expand (trim name) nodeName namespace_ isService with
    | ok m => simp
    | error e => cases e <;> simp [hn.symm]

theorem normalizeRosResourceName_eq_nil_iff (habs : YieldsAbsolute expand) :
    normalizeRosResourceName expand name nodeName namespace_ isService = [] ↔
      ∀ n, ¬ ExpandsTo expand nodeName namespace_ isService name n := by
  constructor
  · intro h n hn
    have hne := (hn.isAbsolute habs).ne_nil
    exact hne (((normalizeRosResourceName_eq_iff hne).mpr hn).symm.trans h)
  · intro h
    by_contra hne
    exact h _ ((normalizeRosResourceName_eq_iff hne).mp rfl)

end Normalize

/-! ### Patterns -/

/-- `RosResourcePattern::Kind` -/
inductive PatternKind
  | exact
  | subtree
deriving DecidableEq, Repr

def kRosResourceSubtreeWildcard : Str := [slash, star]

/-- `RosResourcePattern`: the canonical text and its kind. -/
structure RosResourcePattern where
  canonical : Str
  kind : PatternKind
deriving DecidableEq, Repr

namespace RosResourcePattern

/-- `hasSubtreeWildcard`: the text ends in `/*`. -/
def hasSubtreeWildcard (pattern : Str) : Bool :=
  decide (kRosResourceSubtreeWildcard.length ≤ pattern.length) &&
    pattern.drop (pattern.length - kRosResourceSubtreeWildcard.length) == kRosResourceSubtreeWildcard

def rootSubtree : RosResourcePattern := ⟨kRosResourceSubtreeWildcard, .subtree⟩

/-- `parse`: nothing for a blank text and for a name that does not normalise. -/
def parse (expand : Expand) (raw nodeName namespace_ : Str) (isService : Bool) :
    Option RosResourcePattern :=
  let pattern := trim raw
  if pattern = [] then none
  else if pattern = [star] then some rootSubtree
  else if pattern = kRosResourceSubtreeWildcard then some rootSubtree
  else if hasSubtreeWildcard pattern then
    let pre := normalizeRosResourceName expand
      (pattern.take (pattern.length - kRosResourceSubtreeWildcard.length)) nodeName namespace_ isService
    if pre = [] then none
    else some ⟨pre ++ kRosResourceSubtreeWildcard, .subtree⟩
  else
    let resource := normalizeRosResourceName expand pattern nodeName namespace_ isService
    if resource = [] then none
    else some ⟨resource, .exact⟩

/-- `matches` -/
def matchesResource (p : RosResourcePattern) (resource : Str) : Bool :=
  match p.kind with
  | .exact => resource == p.canonical
  | .subtree =>
    let pre := p.canonical.take (p.canonical.length - kRosResourceSubtreeWildcard.length)
    if pre = [] then resource.head? == some slash
    else decide (pre.length < resource.length) && resource.take pre.length == pre &&
      resource[pre.length]? == some slash

theorem hasSubtreeWildcard_iff (t : Str) :
    hasSubtreeWildcard t = true ↔ kRosResourceSubtreeWildcard <:+ t := by
  rw [List.suffix_iff_eq_drop, hasSubtreeWildcard, Bool.and_eq_true, decide_eq_true_iff, beq_iff_eq]
  constructor
  · rintro ⟨_, h⟩
    exact h.symm
  · intro h
    refine ⟨?_, h.symm⟩
    have := congrArg List.length h
    rw [List.length_drop] at this
    omega

theorem take_wildcard (P : Str) :
    (P ++ kRosResourceSubtreeWildcard).take
      ((P ++ kRosResourceSubtreeWildcard).length - kRosResourceSubtreeWildcard.length) = P := by
  rw [List.length_append, Nat.add_sub_cancel, List.take_left']
  rfl

section Shapes

variable {expand : Expand} {raw nodeName namespace_ : Str} {isService : Bool}

theorem parse_of_blank (h : trim raw = []) :
    parse expand raw nodeName namespace_ isService = none := by
  simp [parse, h]

theorem parse_of_root (h : trim raw = [star] ∨ trim raw = kRosResourceSubtreeWildcard) :
    parse expand raw nodeName namespace_ isService = some rootSubtree := by
  rcases h with h | h <;> simp [parse, h, kRosResourceSubtreeWildcard]

theorem parse_of_subtree {P : Str} (hne : P ≠ []) (h : trim raw = P ++ kRosResourceSubtreeWildcard) :
    parse expand raw nodeName namespace_ isService =
      if normalizeRosResourceName expand P nodeName namespace_ isService = [] then none
      else some ⟨normalizeRosResourceName expand P nodeName namespace_ isService
        ++ kRosResourceSubtreeWildcard, .subtree⟩ := by
  have hlen : 0 < P.length := List.length_pos_iff.mpr hne
  have h0 : P ++ kRosResourceSubtreeWildcard ≠ [] := by simp [hne]
  have h1 : P ++ kRosResourceSubtreeWildcard ≠ [star] := by
    intro he
    have := congrArg List.length he
    simp [kRosResourceSubtreeWildcard] at this
  have h2 : P ++ kRosResourceSubtreeWildcard ≠ kRosResourceSubtreeWildcard := by
    rw [ne_eq, List.append_left_eq_self]
    exact hne
  have hw : hasSubtreeWildcard (P ++ kRosResourceSubtreeWildcard) = true :=
    (hasSubtreeWildcard_iff _).mpr (List.suffix_append _ _)
  simp only [parse, h, if_neg h0, if_neg h1, if_neg h2, hw, if_true, take_wildcard]

theorem parse_of_exact (h0 : trim raw ≠ []) (h1 : trim raw ≠ [star])
    (h3 : ¬ kRosResourceSubtreeWildcard <:+ trim raw) :
    parse expand raw nodeName namespace_ isService =
      if normalizeRosResourceName expand raw nodeName namespace_ isService = [] then none
      else some ⟨normalizeRosResourceName expand raw nodeName namespace_ isService, .exact⟩ := by
  have h2 : trim raw ≠ kRosResourceSubtreeWildcard := by
    intro he
    rw [he] at h3
    exact h3 (List.suffix_refl _)
  have hw : hasSubtreeWildcard (trim raw) = false :=
    Bool.eq_false_iff.mpr fun hh => h3 ((hasSubtreeWildcard_iff _).mp hh)
  have hn : normalizeRosResourceName expand (trim raw) nodeName namespace_ isService
      = normalizeRosResourceName expand raw nodeName namespace_ isService := by
    simp only [normalizeRosResourceName, trim_trim]
  simp only [parse, if_neg h0, if_neg h1, if_neg h2, hw, hn, Bool.false_eq_true, if_false]

/-- The four shapes of an entry: blank, a catch-all, a subtree, a single name. -/
theorem entry_shape (t : Str) :
    t = [] ∨ (t = [star] ∨ t = kRosResourceSubtreeWildcard) ∨
      (∃ P, P ≠ [] ∧ t = P ++ kRosResourceSubtreeWildcard) ∨
      (t ≠ [] ∧ t ≠ [star] ∧ ¬ kRosResourceSubtreeWildcard <:+ t) := by
  by_cases h0 : t = []
  · exact .inl h0
  by_cases h1 : t = [star]
  · exact .inr (.inl (.inl h1))
  by_cases h3 : kRosResourceSubtreeWildcard <:+ t
  · obtain ⟨P, rfl⟩ := h3
    by_cases hP : P = []
    · exact .inr (.inl (.inr (by rw [hP, List.nil_append])))
    · exact .inr (.inr (.inl ⟨P, hP, rfl⟩))
  · exact .inr (.inr (.inr ⟨h0, h1, h3⟩))

end Shapes

theorem matchesResource_rootSubtree {n : Str} (h : IsAbsolute n) :
    rootSubtree.matchesResource n = true := by
  simp [matchesResource, rootSubtree, h.head?]

theorem matchesResource_exact (resource n : Str) :
    matchesResource ⟨resource, .exact⟩ n = true ↔ n = resource := by
  simp [matchesResource]

/-- The prefix test of a subtree pattern, as one textual prefix. -/
theorem matchesResource_subtree {pre : Str} (hpre : pre ≠ []) (n : Str) :
    matchesResource ⟨pre ++ kRosResourceSubtreeWildcard, .subtree⟩ n = true ↔
      pre ++ [slash] <+: n := by
  simp only [matchesResource, take_wildcard, if_neg hpre, Bool.and_eq_true, decide_eq_true_iff,
    beq_iff_eq]
  constructor
  · rintro ⟨⟨hlen, htake⟩, hsep⟩
    refine ⟨n.drop (pre.length + 1), ?_⟩
    have hget : n[pre.length] = slash := by
      rw [List.getElem?_eq_getElem hlen] at hsep
      exact Option.some.inj hsep
    have hdrop : n.drop pre.length = slash :: n.drop (pre.length + 1) := by
      rw [List.drop_eq_getElem_cons hlen, hget]
    calc pre ++ [slash] ++ n.drop (pre.length + 1)
        = n.take pre.length ++ n.drop pre.length := by
          rw [htake, hdrop, List.append_assoc, List.singleton_append]
      _ = n := List.take_append_drop _ _
  · rintro ⟨rest, rfl⟩
    refine ⟨⟨?_, ?_⟩, ?_⟩
    · simp
    · rw [List.append_assoc, List.take_left']; rfl
    · simp

/-- **A subtree pattern matches the names whose segments strictly extend its
own.** -/
theorem matchesResource_subtree_iff {pre n : Str} (hpre : IsAbsolute pre) (hn : IsAbsolute n) :
    matchesResource ⟨pre ++ kRosResourceSubtreeWildcard, .subtree⟩ n = true ↔
      segments slash pre <+: segments slash n ∧ segments slash pre ≠ segments slash n := by
  rw [matchesResource_subtree hpre.ne_nil]
  obtain ⟨l₁, _, h₁, rfl⟩ := hpre
  obtain ⟨l₂, _, h₂, rfl⟩ := hn
  have s₁ : ∀ s ∈ l₁, slash ∉ s := fun s hs => (h₁ s hs).2.1
  have s₂ : ∀ s ∈ l₂, slash ∉ s := fun s hs => (h₂ s hs).2.1
  rw [prefix_sep_iff_segments s₁ s₂, segments_render s₁, segments_render s₂]

/-! ### What an entry denotes -/

/-- The names a rule entry denotes.  The prefix of `P/*` is trimmed before it is
expanded, as any other name is. -/
def Denotes (expand : Expand) (nodeName namespace_ : Str) (isService : Bool) (entry n : Str) :
    Prop :=
  trim entry = [star] ∨ trim entry = kRosResourceSubtreeWildcard ∨
  (∃ P E, trim entry = P ++ kRosResourceSubtreeWildcard ∧ P ≠ [] ∧
    ExpandsTo expand nodeName namespace_ isService P E ∧
    segments slash E <+: segments slash n ∧ segments slash E ≠ segments slash n) ∨
  (trim entry ≠ [star] ∧ ¬ kRosResourceSubtreeWildcard <:+ trim entry ∧
    ExpandsTo expand nodeName namespace_ isService entry n)

/-- **Parsing and matching compute the denotation.** -/
theorem parse_matchesResource_iff {expand : Expand} (habs : YieldsAbsolute expand)
    (raw nodeName namespace_ : Str) (isService : Bool) {n : Str} (hn : IsAbsolute n) :
    (∃ p, parse expand raw nodeName namespace_ isService = some p ∧ p.matchesResource n = true) ↔
      Denotes expand nodeName namespace_ isService raw n := by
  have hsuffix : ∀ P : Str, kRosResourceSubtreeWildcard <:+ P ++ kRosResourceSubtreeWildcard :=
    fun P => List.suffix_append _ _
  have hstar : ∀ P : Str, P ++ kRosResourceSubtreeWildcard ≠ [star] := by
    intro P he
    have := congrArg List.length he
    simp [kRosResourceSubtreeWildcard] at this
  rcases entry_shape (trim raw) with h0 | hroot | ⟨P, hne, hP⟩ | ⟨h0, h1, h3⟩
  · -- a blank entry has none of the other shapes
    rw [parse_of_blank h0]
    constructor
    · rintro ⟨p, hp, _⟩; cases hp
    · rintro (h | h | ⟨P, E, h, hne, _⟩ | ⟨_, _, h⟩)
      · rw [h0] at h; cases h
      · rw [h0] at h; cases h
      · rw [h0] at h; exact absurd (List.append_eq_nil_iff.mp h.symm).1 hne
      · exact absurd h0 h.1
  · rw [parse_of_root hroot]
    exact ⟨fun _ => hroot.elim .inl (.inr ∘ .inl),
      fun _ => ⟨rootSubtree, rfl, matchesResource_rootSubtree hn⟩⟩
  · rw [parse_of_subtree hne hP]
    constructor
    · rintro ⟨p, hpp, hm⟩
      split at hpp
      · cases hpp
      · next hnorm =>
        obtain rfl := Option.some.inj hpp
        have hE := (normalizeRosResourceName_eq_iff hnorm).mp rfl
        exact .inr (.inr (.inl ⟨P, _, hP, hne, hE,
          (matchesResource_subtree_iff (hE.isAbsolute habs) hn).mp hm⟩))
    · rintro (h | h | ⟨P', E, h, _, hE, hseg⟩ | ⟨_, h, _⟩)
      · exact absurd (hP.symm.trans h) (hstar P)
      · exact absurd (List.append_left_eq_self.mp (hP.symm.trans h)) hne
      · obtain rfl : P = P' := List.append_cancel_right (hP.symm.trans h)
        have hEne := (hE.isAbsolute habs).ne_nil
        have hnorm := (normalizeRosResourceName_eq_iff hEne).mpr hE
        rw [hnorm, if_neg hEne]
        exact ⟨_, rfl, (matchesResource_subtree_iff (hE.isAbsolute habs) hn).mpr hseg⟩
      · exact absurd (hP ▸ hsuffix P) h
  · rw [parse_of_exact h0 h1 h3]
    constructor
    · rintro ⟨p, hpp, hm⟩
      split at hpp
      · cases hpp
      · next hnorm =>
        obtain rfl := Option.some.inj hpp
        have hE := (normalizeRosResourceName_eq_iff hnorm).mp rfl
        rw [matchesResource_exact] at hm
        rw [← hm] at hE
        exact .inr (.inr (.inr ⟨h1, h3, hE⟩))
    · rintro (h | h | ⟨P, E, h, _, _, _⟩ | ⟨_, _, hE⟩)
      · exact absurd h h1
      · exact absurd (h ▸ hsuffix []) h3
      · exact absurd (h ▸ hsuffix P) h3
      · have hEne := (hE.isAbsolute habs).ne_nil
        rw [(normalizeRosResourceName_eq_iff hEne).mpr hE, if_neg hEne]
        exact ⟨_, rfl, (matchesResource_exact _ _).mpr rfl⟩

end RosResourcePattern

end LivekitBridge
