import LivekitBridge.Names.RosExpansion

/-!
# The access policy

`access_policy.cpp`: an allow list and a deny list for each of the three
operations, parsed once, and `allows`, which asks the deny list first.  Entries
that do not parse are skipped without an error, and names are expanded as seen
from a node called `livekit_ros2_bridge_access_policy` in the root namespace.

`allows_iff` is the meaning of a policy in terms of what its entries denote
(`Denotes`): some allow entry denotes the name and no deny entry does.  Order and
multiplicity of the entries drop out of it.

The second part compares the parser with the normalisation that the
configuration document describes (`documentedNorm`: trim, collapse repeated `/`,
add a leading `/`, drop a trailing one).  The code does not collapse anything: it
hands the spelling to rclcpp.  So an entry whose spelling has repeated or
trailing separators is skipped (`parse_of_not_wellSpelled`), and any other entry
parses to the pattern its normal form stands for (`parse_documentedNorm`).
-/

namespace LivekitBridge

open Lib RosResourcePattern

/-! ### The policy -/

structure AccessRulesConfig where
  allow : List Str
  deny : List Str
deriving DecidableEq, Repr

structure AccessPolicyConfig where
  publish : AccessRulesConfig
  subscribe : AccessRulesConfig
  service : AccessRulesConfig
deriving DecidableEq, Repr

inductive AccessOperation
  | publish
  | subscribe
  | callService
deriving DecidableEq, Repr

def AccessPolicyConfig.rules (config : AccessPolicyConfig) : AccessOperation → AccessRulesConfig
  | .publish => config.publish
  | .subscribe => config.subscribe
  | .callService => config.service

def AccessOperation.isService (operation : AccessOperation) : Bool := operation == .callService

/-- `kNodeName` -/
def kPolicyNodeName : Str := lit "livekit_ros2_bridge_access_policy"

/-- `kRosNamespace` -/
def kPolicyRosNamespace : Str := lit "/"

/-- `AccessPolicy::Rules` -/
structure AccessRules where
  patterns : List RosResourcePattern
deriving DecidableEq, Repr

/-- `Rules::parse`: entries that do not parse are skipped. -/
def AccessRules.parse (expand : Expand) (ruleEntries : List Str) (isService : Bool) : AccessRules :=
  ⟨ruleEntries.filterMap fun entry =>
    RosResourcePattern.parse expand entry kPolicyNodeName kPolicyRosNamespace isService⟩

/-- `Rules::matches` -/
def AccessRules.matchesResource (rules : AccessRules) (resource : Str) : Bool :=
  rules.patterns.any fun pattern => pattern.matchesResource resource

structure AccessPolicy where
  publishAllow : AccessRules
  publishDeny : AccessRules
  subscribeAllow : AccessRules
  subscribeDeny : AccessRules
  serviceAllow : AccessRules
  serviceDeny : AccessRules
deriving DecidableEq, Repr

namespace AccessPolicy

/-- The constructor from a configuration. -/
def ofConfig (expand : Expand) (config : AccessPolicyConfig) : AccessPolicy where
  publishAllow := .parse expand config.publish.allow false
  publishDeny := .parse expand config.publish.deny false
  subscribeAllow := .parse expand config.subscribe.allow false
  subscribeDeny := .parse expand config.subscribe.deny false
  serviceAllow := .parse expand config.service.allow true
  serviceDeny := .parse expand config.service.deny true

def allows (expand : Expand) (policy : AccessPolicy) (operation : AccessOperation) (name : Str) :
    Bool :=
  let isService := operation == .callService
  let resource := normalizeRosResourceName expand name kPolicyNodeName kPolicyRosNamespace isService
  if resource = [] then false
  else
    match operation with
    | .publish =>
      !policy.publishDeny.matchesResource resource && policy.publishAllow.matchesResource resource
    | .subscribe =>
      !policy.subscribeDeny.matchesResource resource && policy.subscribeAllow.matchesResource resource
    | .callService =>
      !policy.serviceDeny.matchesResource resource && policy.serviceAllow.matchesResource resource

end AccessPolicy

/-! ### What a policy means -/

section Meaning

variable {expand : Expand}

/-- The text expands to `n`, as the policy sees it. -/
abbrev PolicyName (expand : Expand) (operation : AccessOperation) (name n : Str) : Prop :=
  ExpandsTo expand kPolicyNodeName kPolicyRosNamespace operation.isService name n

/-- The entry denotes `n`, as the policy sees it. -/
abbrev EntryDenotes (expand : Expand) (operation : AccessOperation) (entry n : Str) : Prop :=
  Denotes expand kPolicyNodeName kPolicyRosNamespace operation.isService entry n

theorem AccessRules.parse_matchesResource_iff (habs : YieldsAbsolute expand) (entries : List Str)
    (isService : Bool) {n : Str} (hn : IsAbsolute n) :
    (AccessRules.parse expand entries isService).matchesResource n = true ↔
      ∃ e ∈ entries, Denotes expand kPolicyNodeName kPolicyRosNamespace isService e n := by
  simp only [AccessRules.matchesResource, AccessRules.parse, List.any_eq_true, List.mem_filterMap]
  constructor
  · rintro ⟨p, ⟨e, he, hp⟩, hm⟩
    exact ⟨e, he, (RosResourcePattern.parse_matchesResource_iff habs _ _ _ _ hn).mp ⟨p, hp, hm⟩⟩
  · rintro ⟨e, he, hd⟩
    obtain ⟨p, hp, hm⟩ := (RosResourcePattern.parse_matchesResource_iff habs _ _ _ _ hn).mpr hd
    exact ⟨p, ⟨e, he, hp⟩, hm⟩

/-- The rules of the operation that `allows` reads. -/
theorem allows_eq (config : AccessPolicyConfig) (operation : AccessOperation) (name : Str) :
    (AccessPolicy.ofConfig expand config).allows expand operation name =
      (let resource := normalizeRosResourceName expand name kPolicyNodeName kPolicyRosNamespace
          operation.isService
        if resource = [] then false
        else
          !(AccessRules.parse expand (config.rules operation).deny
              operation.isService).matchesResource resource &&
            (AccessRules.parse expand (config.rules operation).allow
              operation.isService).matchesResource resource) := by
  cases operation <;> rfl

/-- **What a policy allows**: a name that some allow entry denotes and no deny
entry does. -/
theorem allows_iff (habs : YieldsAbsolute expand) (config : AccessPolicyConfig)
    (operation : AccessOperation) (name : Str) :
    (AccessPolicy.ofConfig expand config).allows expand operation name = true ↔
      ∃ n, PolicyName expand operation name n ∧
        (∃ e ∈ (config.rules operation).allow, EntryDenotes expand operation e n) ∧
        ∀ e ∈ (config.rules operation).deny, ¬ EntryDenotes expand operation e n := by
  rw [allows_eq]
  simp only
  by_cases hnil : normalizeRosResourceName expand name kPolicyNodeName kPolicyRosNamespace
      operation.isService = []
  · rw [if_pos hnil]
    have hno := (normalizeRosResourceName_eq_nil_iff habs).mp hnil
    constructor
    · intro h; cases h
    · rintro ⟨n, hn, _⟩; exact absurd hn (hno n)
  · rw [if_neg hnil]
    have hn := (normalizeRosResourceName_eq_iff hnil).mp rfl
    have ha := hn.isAbsolute habs
    rw [Bool.and_eq_true, Bool.not_eq_true', Bool.eq_false_iff, ne_eq,
      AccessRules.parse_matchesResource_iff habs _ _ ha,
      AccessRules.parse_matchesResource_iff habs _ _ ha]
    constructor
    · rintro ⟨hdeny, hallow⟩
      exact ⟨_, hn, hallow, fun e he hd => hdeny ⟨e, he, hd⟩⟩
    · rintro ⟨n, hn', hallow, hdeny⟩
      obtain rfl := hn'.unique hn
      exact ⟨fun ⟨e, he, hd⟩ => hdeny e he hd, hallow⟩

/-- A name that is allowed stays allowed when the allow list grows and the deny
list shrinks, as sets of entries. -/
theorem allows_mono (habs : YieldsAbsolute expand) {config config' : AccessPolicyConfig}
    {operation : AccessOperation}
    (hallow : ∀ e ∈ (config.rules operation).allow, e ∈ (config'.rules operation).allow)
    (hdeny : ∀ e ∈ (config'.rules operation).deny, e ∈ (config.rules operation).deny) (name : Str)
    (h : (AccessPolicy.ofConfig expand config).allows expand operation name = true) :
    (AccessPolicy.ofConfig expand config').allows expand operation name = true := by
  rw [allows_iff habs] at h ⊢
  obtain ⟨n, hn, ⟨e, he, hd⟩, hno⟩ := h
  exact ⟨n, hn, ⟨e, hallow e he, hd⟩, fun e he => hno e (hdeny e he)⟩

/-- **The exact meaning of a policy**, with what follows from it: order and
multiplicity of the entries do not matter, a deny entry never enables a name and
an allow entry never disables one. -/
theorem policy_exact (habs : YieldsAbsolute expand) (operation : AccessOperation) :
    (∀ (config : AccessPolicyConfig) (name : Str),
      (AccessPolicy.ofConfig expand config).allows expand operation name = true ↔
        ∃ n, PolicyName expand operation name n ∧
          (∃ e ∈ (config.rules operation).allow, EntryDenotes expand operation e n) ∧
          ∀ e ∈ (config.rules operation).deny, ¬ EntryDenotes expand operation e n) ∧
    (∀ (config config' : AccessPolicyConfig) (name : Str),
      (∀ e, e ∈ (config.rules operation).allow ↔ e ∈ (config'.rules operation).allow) →
      (∀ e, e ∈ (config.rules operation).deny ↔ e ∈ (config'.rules operation).deny) →
      (AccessPolicy.ofConfig expand config).allows expand operation name =
        (AccessPolicy.ofConfig expand config').allows expand operation name) ∧
    (∀ (config config' : AccessPolicyConfig) (name : Str),
      (config'.rules operation).allow = (config.rules operation).allow →
      (∀ e ∈ (config.rules operation).deny, e ∈ (config'.rules operation).deny) →
      (AccessPolicy.ofConfig expand config').allows expand operation name = true →
      (AccessPolicy.ofConfig expand config).allows expand operation name = true) ∧
    (∀ (config config' : AccessPolicyConfig) (name : Str),
      (∀ e ∈ (config.rules operation).allow, e ∈ (config'.rules operation).allow) →
      (config'.rules operation).deny = (config.rules operation).deny →
      (AccessPolicy.ofConfig expand config).allows expand operation name = true →
      (AccessPolicy.ofConfig expand config').allows expand operation name = true) := by
  refine ⟨fun config name => allows_iff habs config operation name, ?_, ?_, ?_⟩
  · intro config config' name ha hd
    rw [Bool.eq_iff_iff]
    exact ⟨allows_mono habs (fun e => (ha e).mp) (fun e => (hd e).mpr) name,
      allows_mono habs (fun e => (ha e).mpr) (fun e => (hd e).mp) name⟩
  · intro config config' name ha hd
    exact allows_mono habs (fun e he => ha ▸ he) hd name
  · intro config config' name ha hd
    exact allows_mono habs ha (fun e he => hd ▸ he) name

/-- A policy for topic subscriptions only. -/
def subscribePolicy (allow deny : List Str) : AccessPolicyConfig :=
  ⟨⟨[], []⟩, ⟨allow, deny⟩, ⟨[], []⟩⟩

/-- The meaning at a concrete policy: `/foobar` is not under `foo/*`. -/
theorem policy_exact_foo :
    ¬ ∃ n, PolicyName ros2Expand .subscribe (lit "/foobar") n ∧
      (∃ e ∈ [lit "foo/*"], EntryDenotes ros2Expand .subscribe e n) ∧
      ∀ e ∈ ([] : List Str), ¬ EntryDenotes ros2Expand .subscribe e n := by
  intro h
  have := ((policy_exact implements_ros2Expand.yieldsAbsolute .subscribe).1
    (subscribePolicy [lit "foo/*"] []) (lit "/foobar")).mpr h
  exact absurd this (by decide)

/-- What an entry would denote if the prefix of `P/*` were expanded as it is
written, spaces and all. -/
def DenotesAsWritten (expand : Expand) (operation : AccessOperation) (entry n : Str) : Prop :=
  trim entry = [star] ∨ trim entry = kRosResourceSubtreeWildcard ∨
  (∃ P E, trim entry = P ++ kRosResourceSubtreeWildcard ∧ P ≠ [] ∧
    expand P kPolicyNodeName kPolicyRosNamespace operation.isService = .ok E ∧
    segments slash E <+: segments slash n ∧ segments slash E ≠ segments slash n) ∨
  (trim entry ≠ [star] ∧ ¬ kRosResourceSubtreeWildcard <:+ trim entry ∧
    PolicyName expand operation entry n)

/-- **The prefix of a subtree entry is trimmed too**: `foo /*` allows `/foo/bar`,
although rclcpp does not expand `foo` with a space after it. -/
theorem not_denotesAsWritten :
    ¬ ∀ expand : Expand, YieldsAbsolute expand →
      ∀ (config : AccessPolicyConfig) (operation : AccessOperation) (name : Str),
        (AccessPolicy.ofConfig expand config).allows expand operation name = true ↔
          ∃ n, PolicyName expand operation name n ∧
            (∃ e ∈ (config.rules operation).allow, DenotesAsWritten expand operation e n) ∧
            ∀ e ∈ (config.rules operation).deny, ¬ DenotesAsWritten expand operation e n := by
  intro h
  have hiff := h ros2Expand implements_ros2Expand.yieldsAbsolute
    (subscribePolicy [lit "foo /*"] []) .subscribe (lit "/foo/bar")
  obtain ⟨n, _, ⟨e, he, hd⟩, _⟩ := hiff.mp (by decide)
  obtain rfl : e = lit "foo /*" := by simpa [AccessPolicyConfig.rules, subscribePolicy] using he
  rcases hd with hd | hd | ⟨P, E, hP, _, hE, _⟩ | ⟨_, hd, _⟩
  · exact absurd hd (by decide)
  · exact absurd hd (by decide)
  · have hPfoo : P = lit "foo " :=
      List.append_cancel_right (hP.symm.trans (show trim (lit "foo /*")
        = lit "foo " ++ kRosResourceSubtreeWildcard by decide))
    subst hPfoo
    have hbad : (ros2Expand (lit "foo ") kPolicyNodeName kPolicyRosNamespace
      AccessOperation.subscribe.isService).isOk = false := by decide
    rw [hE] at hbad
    cases hbad
  · exact hd (by decide)

end Meaning

/-! ### The documented normalisation -/

/-- Repeated separators written once. -/
def collapseSlashes : Str → Str
  | [] => []
  | [c] => [c]
  | c :: d :: r =>
    if c = slash ∧ d = slash then collapseSlashes (d :: r) else c :: collapseSlashes (d :: r)

/-- A missing leading separator added. -/
def addLeadingSlash (t : Str) : Str := if t.head? = some slash then t else slash :: t

/-- A trailing separator dropped, except for `/`. -/
def dropTrailingSlash (t : Str) : Str :=
  if t ≠ [slash] ∧ t.getLast? = some slash then t.dropLast else t

/-- The normalisation the configuration document describes. -/
def documentedNorm (x : Str) : Str := dropTrailingSlash (addLeadingSlash (collapseSlashes (trim x)))

/-- The trimmed spelling has neither repeated separators nor a trailing one. -/
def WellSpelled (x : Str) : Prop :=
  ¬ [slash, slash] <:+: trim x ∧ (trim x).getLast? ≠ some slash

/-- What the policy relies on of rclcpp about separators: names with repeated or
trailing ones are rejected, and a relative name is resolved from `/`. -/
structure SlashLaws (expand : Expand) (operation : AccessOperation) : Prop where
  repeated : ∀ name n, [slash, slash] <:+: name →
    expand name kPolicyNodeName kPolicyRosNamespace operation.isService ≠ .ok n
  trailing : ∀ name n, name.getLast? = some slash →
    expand name kPolicyNodeName kPolicyRosNamespace operation.isService ≠ .ok n
  relative : ∀ name n, name ≠ [] → name.head? ≠ some slash →
    expand (slash :: name) kPolicyNodeName kPolicyRosNamespace operation.isService = .ok n →
    expand name kPolicyNodeName kPolicyRosNamespace operation.isService = .ok n

/-- ROS name expansion has them. -/
theorem Implements.slashLaws {G : NameGrammar} {expand : Expand} (h : Implements G expand)
    (operation : AccessOperation) : SlashLaws expand operation where
  repeated := by
    intro name n hname hn
    exact G.name_no_repeat (rosExpand_eq_some.mp ((h _ _ _ _ _).mp hn)).1 hname
  trailing := by
    intro name n hname hn
    exact G.name_no_trailing (rosExpand_eq_some.mp ((h _ _ _ _ _).mp hn)).1 hname
  relative := by
    intro name n hne hhead hn
    exact (h _ _ _ _ _).mpr (rosExpand_relative hne hhead ((h _ _ _ _ _).mp hn))

theorem collapseSlashes_eq_self : ∀ t : Str, ¬ [slash, slash] <:+: t → collapseSlashes t = t := by
  intro t
  induction t using collapseSlashes.induct with
  | case1 => intro _; rfl
  | case2 c => intro _; rfl
  | case3 c d r hcd ih =>
    intro h
    obtain ⟨rfl, rfl⟩ := hcd
    exact absurd ⟨[], r, rfl⟩ h
  | case4 c d r hcd ih =>
    intro h
    rw [collapseSlashes, if_neg hcd, ih (fun ⟨a, b, hab⟩ => h ⟨c :: a, b, by rw [← hab]; rfl⟩)]

theorem documentedNorm_of_wellSpelled {x : Str} (h : WellSpelled x) (hne : trim x ≠ []) :
    documentedNorm x = addLeadingSlash (trim x) := by
  rw [documentedNorm, collapseSlashes_eq_self _ h.1, dropTrailingSlash, if_neg]
  rintro ⟨_, hlast⟩
  apply h.2
  rw [addLeadingSlash] at hlast
  split at hlast
  · exact hlast
  · rwa [List.getLast?_cons_of_ne_nil hne] at hlast

theorem parse_congr_trim {expand : Expand} {a b nodeName namespace_ : Str} {isService : Bool}
    (h : trim a = trim b) : RosResourcePattern.parse expand a nodeName namespace_ isService =
      RosResourcePattern.parse expand b nodeName namespace_ isService := by
  simp only [RosResourcePattern.parse, h]

/-- Trimming after a separator, for a text that starts with no space. -/
theorem trim_slash_cons {c : UInt8} {r : Str} (h : isSpace c = false) :
    trim (slash :: c :: r) = slash :: trim (c :: r) := by
  rw [trim_cons (by decide), trim_cons h]
  exact rdropWhile_append_of_not (a := [slash]) (b := c :: r) (by simp; decide)

theorem trim_cons_ne_nil {c : UInt8} {r : Str} (h : isSpace c = false) : trim (c :: r) ≠ [] := by
  rw [trim_cons h, ne_eq, List.rdropWhile_eq_nil_iff]
  intro hall
  have := hall c List.mem_cons_self
  rw [h] at this
  cases this

/-- Where a repeated separator of `P/*` is. -/
theorem repeated_of_append_wildcard {P a b : Str}
    (h : a ++ [slash, slash] ++ b = P ++ kRosResourceSubtreeWildcard) :
    [slash, slash] <:+: P ∨ P.getLast? = some slash := by
  have hb : 1 ≤ b.length := by
    by_contra hlt
    obtain rfl : b = [] := List.length_eq_zero_iff.mp (by omega)
    have := congrArg List.getLast? h
    simp [kRosResourceSubtreeWildcard, slash, star] at this
  obtain ⟨b', x, rfl⟩ := (List.eq_nil_or_concat b).resolve_left (List.length_pos_iff.mp hb)
  rw [List.concat_eq_append] at h
  have h' : (a ++ [slash, slash] ++ b') ++ [x] = (P ++ [slash]) ++ [star] := by
    simpa [kRosResourceSubtreeWildcard] using h
  have h'' := (List.append_inj' h' rfl).1
  rcases List.eq_nil_or_concat b' with rfl | ⟨b'', y, rfl⟩
  · right
    have hlast : a ++ [slash] ++ [slash] = P ++ [slash] := by simpa using h''
    rw [← (List.append_inj' hlast rfl).1]
    simp
  · left
    rw [List.concat_eq_append, ← List.append_assoc] at h''
    exact ⟨a, b'', (List.append_inj' h'' rfl).1⟩

section Spelling

variable {expand : Expand} {operation : AccessOperation}

/-- `RosResourcePattern::parse` as the policy calls it. -/
abbrev parseEntry (expand : Expand) (operation : AccessOperation) (entry : Str) :
    Option RosResourcePattern :=
  RosResourcePattern.parse expand entry kPolicyNodeName kPolicyRosNamespace operation.isService

theorem expandsTo_of_slash (hlaws : SlashLaws expand operation) {c : UInt8} {r n : Str}
    (hspace : isSpace c = false) (hc : c ≠ slash)
    (h : PolicyName expand operation (slash :: c :: r) n) :
    PolicyName expand operation (c :: r) n := by
  have hne := trim_cons_ne_nil (r := r) hspace
  refine ⟨hne, ?_⟩
  have he := h.2
  rw [trim_slash_cons hspace] at he
  refine hlaws.relative _ _ hne ?_ he
  rw [trim_cons hspace]
  obtain ⟨t, ht⟩ := List.rdropWhile_prefix isSpace (c :: r)
  intro hhead
  have := congrArg List.head? ht
  rw [List.head?_append, hhead, Option.some_or, List.head?_cons, Option.some.injEq] at this
  exact hc this.symm

theorem parseEntry_of_slash (hlaws : SlashLaws expand operation) {c : UInt8} {r : Str}
    {p : RosResourcePattern} (hspace : isSpace c = false) (hc : c ≠ slash)
    (hself : trim (c :: r) = c :: r) (hp : parseEntry expand operation (slash :: c :: r) = some p) :
    parseEntry expand operation (c :: r) = some p := by
  have hslash : trim (slash :: c :: r) = slash :: c :: r := by rw [trim_slash_cons hspace, hself]
  rcases entry_shape (c :: r) with h0 | (h0 | h0) | ⟨P, hne, h0⟩ | ⟨h0, h1, h3⟩
  · cases h0
  · rw [h0] at hself hslash hp ⊢
    rw [parseEntry, parse_of_root (.inr hslash)] at hp
    rw [parseEntry, parse_of_root (.inl hself), hp]
  · exact absurd (List.cons.inj h0).1 hc
  · -- `P` is not empty, so it starts with the byte `c`
    obtain ⟨a, P, rfl⟩ := List.exists_cons_of_ne_nil hne
    obtain rfl : c = a := (List.cons.inj h0).1
    rw [parseEntry, parse_of_subtree (P := slash :: c :: P) (List.cons_ne_nil _ _)
      (by rw [hslash, h0]; rfl)] at hp
    split at hp
    · cases hp
    · next hnorm =>
      have hE := expandsTo_of_slash hlaws hspace hc ((normalizeRosResourceName_eq_iff hnorm).mp rfl)
      have hn := (normalizeRosResourceName_eq_iff hnorm).mpr hE
      rw [parseEntry, parse_of_subtree hne (by rw [hself, h0]), hn, if_neg hnorm]
      exact hp
  · have hroot : trim (slash :: c :: r) ≠ [star] := by rw [hslash]; simp
    have hsuffix : ¬ kRosResourceSubtreeWildcard <:+ trim (slash :: c :: r) := by
      rw [hslash, List.suffix_cons_iff]
      rintro (h | h)
      · exact h1 (List.cons.inj h).2.symm
      · exact h3 h
    rw [parseEntry, parse_of_exact (by rw [hslash]; simp) hroot hsuffix] at hp
    split at hp
    · cases hp
    · next hnorm =>
      have hE := expandsTo_of_slash hlaws hspace hc ((normalizeRosResourceName_eq_iff hnorm).mp rfl)
      have hn := (normalizeRosResourceName_eq_iff hnorm).mpr hE
      rw [← hself] at h0 h1 h3
      rw [parseEntry, parse_of_exact h0 h1 h3, hn, if_neg hnorm]
      exact hp

theorem parseEntry_slash (hlaws : SlashLaws expand operation) :
    parseEntry expand operation [slash] = none := by
  rw [parseEntry, parse_of_exact (by decide) (by decide) (by decide), if_pos]
  by_contra hne
  have hE := ((normalizeRosResourceName_eq_iff hne).mp rfl).2
  exact hlaws.trailing _ _ (by decide) hE

/-- **A well-spelled entry parses to the pattern its normal form stands for.** -/
theorem parse_documentedNorm (hlaws : SlashLaws expand operation) {d : Str} {p : RosResourcePattern}
    (hw : WellSpelled d) (hp : parseEntry expand operation (documentedNorm d) = some p) :
    parseEntry expand operation d = some p := by
  cases ht : trim d with
  | nil =>
    -- a blank entry normalises to `/`
    have hnorm : documentedNorm d = [slash] := by rw [documentedNorm, ht]; decide
    rw [hnorm, parseEntry_slash hlaws] at hp
    cases hp
  | cons c r =>
    have hspace : isSpace c = false := isSpace_of_mem_head?_trim d (by rw [ht]; rfl)
    have hself : trim (c :: r) = c :: r := by rw [← ht]; exact trim_trim d
    have hnorm := documentedNorm_of_wellSpelled hw (by rw [ht]; simp)
    rw [ht, addLeadingSlash, List.head?_cons] at hnorm
    have hd : parseEntry expand operation d = parseEntry expand operation (c :: r) :=
      parse_congr_trim (by rw [ht, hself])
    rw [hd]
    by_cases hc : c = slash
    · rw [if_pos (by rw [hc])] at hnorm
      rwa [hnorm] at hp
    · rw [if_neg (by simpa using hc)] at hnorm
      rw [hnorm] at hp
      exact parseEntry_of_slash hlaws hspace hc hself hp

/-- Repeated separators survive trimming. -/
theorem infix_trim {c : UInt8} {r : Str} (hspace : isSpace c = false)
    (h : [slash, slash] <:+: c :: r) : [slash, slash] <:+: trim (c :: r) := by
  obtain ⟨a, b, hab⟩ := h
  rw [trim_cons hspace, ← hab, rdropWhile_append_of_not (a := a ++ [slash, slash])]
  · exact ⟨a, _, rfl⟩
  · simp
    decide

/-- **An entry that is not well spelled is skipped.** -/
theorem parse_of_not_wellSpelled (hlaws : SlashLaws expand operation) {d : Str}
    (hw : ¬ WellSpelled d) : parseEntry expand operation d = none := by
  have hbad : [slash, slash] <:+: trim d ∨ (trim d).getLast? = some slash := by
    by_contra h
    rw [not_or] at h
    exact hw h
  rcases entry_shape (trim d) with h0 | (h0 | h0) | ⟨P, hne, h0⟩ | ⟨h0, h1, h3⟩
  · exact parse_of_blank h0
  · rw [h0] at hbad; exact absurd hbad (by decide)
  · rw [h0] at hbad; exact absurd hbad (by decide)
  · rw [parseEntry, parse_of_subtree hne h0, if_pos]
    by_contra hnorm
    have hE := ((normalizeRosResourceName_eq_iff hnorm).mp rfl).2
    obtain ⟨c, P, rfl⟩ := List.exists_cons_of_ne_nil hne
    have hspace : isSpace c = false := isSpace_of_mem_head?_trim d (by rw [h0]; rfl)
    -- a repeated separator of `P/*` is inside `P`, or `P` ends in one
    have hP : [slash, slash] <:+: c :: P ∨ (c :: P).getLast? = some slash := by
      rw [h0] at hbad
      rcases hbad with ⟨a, b, hab⟩ | hlast
      · exact repeated_of_append_wildcard hab
      · rw [List.getLast?_append, show kRosResourceSubtreeWildcard.getLast? = some star from rfl,
          Option.some_or] at hlast
        exact absurd hlast (by decide)
    rcases hP with hP | hP
    · exact hlaws.repeated _ _ (infix_trim hspace hP) hE
    · have hself : trim (c :: P) = c :: P := by
        refine trim_eq_self (by simpa using hspace) ?_
        rw [hP]
        simp
        decide
      rw [hself] at hE
      exact hlaws.trailing _ _ hP hE
  · rw [parseEntry, parse_of_exact h0 h1 h3, if_pos]
    by_contra hnorm
    have hE := ((normalizeRosResourceName_eq_iff hnorm).mp rfl).2
    rcases hbad with hbad | hbad
    · exact hlaws.repeated _ _ hbad hE
    · exact hlaws.trailing _ _ hbad hE

theorem not_allows_of_deny (habs : YieldsAbsolute expand) {config : AccessPolicyConfig}
    {d name n : Str} {p : RosResourcePattern} (hd : d ∈ (config.rules operation).deny)
    (hp : parseEntry expand operation d = some p) (hn : PolicyName expand operation name n)
    (hm : p.matchesResource n = true) :
    (AccessPolicy.ofConfig expand config).allows expand operation name = false := by
  rw [Bool.eq_false_iff]
  intro hallow
  obtain ⟨n', hn', _, hno⟩ := (allows_iff habs config operation name).mp hallow
  obtain rfl := hn'.unique hn
  exact hno d hd ((RosResourcePattern.parse_matchesResource_iff habs _ _ _ _
    (hn.isAbsolute habs)).mp ⟨p, hp, hm⟩)

/-- **Deny entries and the documented normalisation.**  Let the normal form of a
deny entry be the pattern `p`.  If the entry is spelled without repeated and
without trailing separators, every name that `p` matches is denied, whatever the
allow list; otherwise the entry is skipped, and the rules are those of the list
without it. -/
theorem deny_entry_effect (habs : YieldsAbsolute expand) (hlaws : SlashLaws expand operation)
    (d : Str) (p : RosResourcePattern)
    (hp : parseEntry expand operation (documentedNorm d) = some p) :
    (WellSpelled d → ∀ config : AccessPolicyConfig, d ∈ (config.rules operation).deny →
      ∀ name n, PolicyName expand operation name n → p.matchesResource n = true →
        (AccessPolicy.ofConfig expand config).allows expand operation name = false) ∧
    (¬ WellSpelled d → ∀ before after : List Str,
      AccessRules.parse expand (before ++ d :: after) operation.isService =
        AccessRules.parse expand (before ++ after) operation.isService) := by
  refine ⟨fun hw config hd name n hn hm => ?_, fun hw before after => ?_⟩
  · exact not_allows_of_deny habs hd (parse_documentedNorm hlaws hw hp) hn hm
  · have hnone := parse_of_not_wellSpelled hlaws hw
    simp only [AccessRules.parse, List.filterMap_append, List.filterMap_cons_none hnone]

end Spelling

/-- `private/*` under ROS name expansion: the name `/private/secret` is denied. -/
theorem deny_entry_effect_private :
    (AccessPolicy.ofConfig ros2Expand (subscribePolicy [lit "*"] [lit " private/* "])).allows
      ros2Expand .subscribe (lit "/private/secret") = false :=
  (deny_entry_effect implements_ros2Expand.yieldsAbsolute (implements_ros2Expand.slashLaws .subscribe)
    (lit " private/* ") ⟨lit "/private/*", .subtree⟩ (by decide)).1 (by unfold WellSpelled; decide)
    (subscribePolicy [lit "*"] [lit " private/* "]) (by decide)
    (lit "/private/secret") (lit "/private/secret") ⟨by decide, by decide⟩ (by decide)

/-- **A deny entry can vanish**: `/secret/` normalises to `/secret`, and a policy
that allows everything but `/secret/` allows `/secret`. -/
theorem deny_entry_vanishes :
    ¬ ∀ (expand : Expand) (operation : AccessOperation), YieldsAbsolute expand →
      SlashLaws expand operation → ∀ (d : Str) (p : RosResourcePattern),
      parseEntry expand operation (documentedNorm d) = some p →
      ∀ config : AccessPolicyConfig, d ∈ (config.rules operation).deny →
      ∀ n, PolicyName expand operation n n → p.matchesResource n = true →
        (AccessPolicy.ofConfig expand config).allows expand operation n = false := by
  intro h
  have := h ros2Expand .subscribe implements_ros2Expand.yieldsAbsolute
    (implements_ros2Expand.slashLaws .subscribe) (lit "/secret/") ⟨lit "/secret", .exact⟩ (by decide)
    (subscribePolicy [lit "*"] [lit "/secret/"]) (by decide) (lit "/secret")
    ⟨by decide, by decide⟩ (by decide)
  exact absurd this (by decide)

end LivekitBridge
