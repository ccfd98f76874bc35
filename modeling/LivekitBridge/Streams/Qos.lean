import LivekitBridge.Streams.Rules
import LivekitBridge.Streams.Spec
import Mathlib.Data.List.Perm.Basic

/-!
# The QoS of subscriptions

`subscription_qos.cpp`: a subscription has the reliability and the durability that an override for
its topic sets, else one that the visible publishers can serve, else those of its base QoS.

Whether a publisher can serve a request is for the middleware to say: `check` is
`rclcpp::qos_check_compatible`, answering `Ok` or not, and it is sound (`SoundCheck`) when it does
not say `Ok` to a request that is stronger than the offer.

Both axes are inferred by one function, `summarizePolicy`.  What it returns depends only on the set
of concrete offers (`summarizeOffers_congr`), so neither the order of the publishers nor those
without a concrete policy make a difference, and it is never stronger than an offer
(`summarizeOffers_safe`).

Publishers that agree do not keep their policy: the loop over the candidates runs for them too, and
it keeps the weakest request that is compatible (`unanimous_kept_iff`).
-/

namespace LivekitBridge

/-! ### QoS profiles -/

inductive ReliabilityPolicy
  | bestEffort
  | reliable
  | systemDefault
  | bestAvailable
  | unknown
deriving DecidableEq, Repr

inductive DurabilityPolicy
  | volatile
  | transientLocal
  | systemDefault
  | bestAvailable
  | unknown
deriving DecidableEq, Repr

inductive HistoryPolicy
  | keepLast
  | keepAll
  | systemDefault
  | unknown
deriving DecidableEq, Repr

inductive LivelinessPolicy
  | automatic
  | manualByTopic
  | systemDefault
  | bestAvailable
  | unknown
deriving DecidableEq, Repr

/-- `rmw_time_t` -/
structure RmwTime where
  sec : Nat
  nsec : Nat
deriving DecidableEq, Repr

structure QoS where
  history : HistoryPolicy
  depth : Nat
  reliability : ReliabilityPolicy
  durability : DurabilityPolicy
  deadline : RmwTime
  lifespan : RmwTime
  liveliness : LivelinessPolicy
  livelinessLeaseDuration : RmwTime
  avoidRosNamespaceConventions : Bool
deriving DecidableEq, Repr

/-- `rclcpp::QoS{rclcpp::KeepLast(depth)}` -/
def QoS.keepLast (depth : Nat) : QoS :=
  ⟨.keepLast, depth, .reliable, .volatile, ⟨0, 0⟩, ⟨0, 0⟩, .systemDefault, ⟨0, 0⟩, false⟩

/-- `qos.reliability(policy)` -/
def QoS.setReliability (qos : QoS) (policy : ReliabilityPolicy) : QoS :=
  { qos with reliability := policy }

/-- `qos.durability(policy)` -/
def QoS.setDurability (qos : QoS) (policy : DurabilityPolicy) : QoS :=
  { qos with durability := policy }

/-! ### Inference -/

structure PolicySummary (Policy : Type) where
  policy : Option Policy
  mixed : Bool
deriving DecidableEq, Repr

section Summarize

variable {Policy : Type} [DecidableEq Policy]

def areCompatible (check : QoS → QoS → Bool) (mutator : QoS → Policy → QoS)
    (offered requested : Policy) : Bool :=
  check (mutator (.keepLast 1) offered) (mutator (.keepLast 1) requested)

variable (compatible : Policy → Policy → Bool) (candidates : List Policy)

/-- The first loop of `summarizePolicy`, for one publisher. -/
def noteOffer (summary : PolicySummary Policy) (policy : Policy) : PolicySummary Policy :=
  if policy ∉ candidates then summary
  else
    match summary.policy with
    | none => { summary with policy := some policy }
    | some first => if first ≠ policy then { summary with mixed := true } else summary

/-- The inner loop over the publishers: every concrete offer is compatible with the request. -/
def allCompatible (policies : List Policy) (requested : Policy) : Bool :=
  policies.all fun offered => if offered ∉ candidates then true else compatible offered requested

/-- The loop over the candidates: the last that is compatible. -/
def compatibleRequest (policies : List Policy) : Option Policy :=
  candidates.foldl (fun found requested =>
    if allCompatible compatible candidates policies requested then some requested else found) none

/-- `summarizePolicy`, of the policies of the publishers. -/
def summarizeOffers (policies : List Policy) : PolicySummary Policy :=
  let summary := policies.foldl (noteOffer candidates) ⟨none, false⟩
  if summary.policy = none then summary
  else
    match compatibleRequest compatible candidates policies with
    | some requested => { summary with policy := some requested }
    | none => if summary.mixed then { summary with policy := candidates.getLast? } else summary

def summarizePolicy (check : QoS → QoS → Bool) (accessor : QoS → Policy)
    (mutator : QoS → Policy → QoS) (candidates : List Policy) (publisherQos : List QoS) :
    PolicySummary Policy :=
  summarizeOffers (areCompatible check mutator) candidates (publisherQos.map accessor)

end Summarize

/-- The candidates for the reliability, strongest first. -/
def reliabilityCandidates : List ReliabilityPolicy := [.reliable, .bestEffort]

/-- The candidates for the durability, strongest first. -/
def durabilityCandidates : List DurabilityPolicy := [.transientLocal, .volatile]

/-- The reliability that the publishers can serve. -/
def summarizeReliability (check : QoS → QoS → Bool) (publisherQos : List QoS) :
    PolicySummary ReliabilityPolicy :=
  summarizePolicy check QoS.reliability QoS.setReliability reliabilityCandidates publisherQos

/-- The durability that the publishers can serve. -/
def summarizeDurability (check : QoS → QoS → Bool) (publisherQos : List QoS) :
    PolicySummary DurabilityPolicy :=
  summarizePolicy check QoS.durability QoS.setDurability durabilityCandidates publisherQos

/-! ### Resolution -/

structure TopicSubscriptionQosOverride where
  id : Str
  pattern : RosResourcePattern
  reliability : Option ReliabilityPolicy
  durability : Option DurabilityPolicy
deriving DecidableEq, Repr

structure SubscriptionQosConfig where
  topicOverrides : List TopicSubscriptionQosOverride
deriving DecidableEq, Repr

inductive SubscriptionQosResolutionSource
  | fallback
  | publisherQos
  | override
deriving DecidableEq, Repr

structure ResolvedSubscriptionQos where
  qos : QoS
  source : SubscriptionQosResolutionSource
  mixedReliability : Bool
  mixedDurability : Bool
  publisherCount : Nat
  overrideId : Str
deriving DecidableEq, Repr

/-- The override with the best pattern, when there is a configuration. -/
def matchingOverride (topic : Str) (config : Option SubscriptionQosConfig) :
    Option TopicSubscriptionQosOverride :=
  match config with
  | none => none
  | some config =>
    findBestRosResourcePatternMatch config.topicOverrides topic TopicSubscriptionQosOverride.pattern

def resolveSubscriptionQos (check : QoS → QoS → Bool) (topic : Str) (base : QoS)
    (config : Option SubscriptionQosConfig) (publisherQos : List QoS) : ResolvedSubscriptionQos :=
  let found := matchingOverride topic config
  let reliability := summarizeReliability check publisherQos
  let durability := summarizeDurability check publisherQos
  let resolved : ResolvedSubscriptionQos :=
    ⟨base, .fallback, reliability.mixed, durability.mixed, publisherQos.length,
      (found.map TopicSubscriptionQosOverride.id).getD []⟩
  if found = none ∧ reliability.policy = none ∧ durability.policy = none then resolved
  else
    let (qos, usedReliability) :=
      match found.bind TopicSubscriptionQosOverride.reliability, reliability.policy with
      | some policy, _ => (resolved.qos.setReliability policy, false)
      | none, some policy => (resolved.qos.setReliability policy, true)
      | none, none => (resolved.qos, false)
    let (qos, usedDurability) :=
      match found.bind TopicSubscriptionQosOverride.durability, durability.policy with
      | some policy, _ => (qos.setDurability policy, false)
      | none, some policy => (qos.setDurability policy, true)
      | none, none => (qos, false)
    { resolved with
      qos := qos
      source :=
        if found ≠ none then .override
        else if usedReliability || usedDurability then .publisherQos
        else resolved.source }

/-! ### What is inferred -/

section Offers

variable {Policy : Type} [DecidableEq Policy] {compatible : Policy → Policy → Bool}
  {candidates : List Policy}

/-- After a first offer, the loop only looks for another one. -/
theorem foldl_noteOffer (first : Policy) : ∀ (policies : List Policy) (mixed : Bool),
    policies.foldl (noteOffer candidates) ⟨some first, mixed⟩ =
      ⟨some first, mixed || decide (∃ p ∈ policies, p ∈ candidates ∧ p ≠ first)⟩ := by
  intro policies
  induction policies with
  | nil =>
    intro mixed
    simp
  | cons p policies ih =>
    intro mixed
    rw [List.foldl_cons, noteOffer]
    by_cases hconcrete : p ∈ candidates
    · by_cases hsame : first = p
      · subst hsame
        simp [hconcrete, ih]
      · have hother : ∃ q ∈ p :: policies, q ∈ candidates ∧ q ≠ first :=
          ⟨p, List.mem_cons_self, hconcrete, fun h => hsame h.symm⟩
        rw [decide_eq_true hother]
        simp [hconcrete, hsame, ih]
    · simp [hconcrete, ih]

/-- **What the first loop returns**: nothing, or a concrete offer and whether there is another. -/
theorem foldl_noteOffer_cases (candidates : List Policy) : ∀ policies : List Policy,
    ((∀ p ∈ policies, p ∉ candidates) ∧
      policies.foldl (noteOffer candidates) ⟨none, false⟩ = ⟨none, false⟩) ∨
    ∃ first ∈ policies, first ∈ candidates ∧
      policies.foldl (noteOffer candidates) ⟨none, false⟩ =
        ⟨some first, decide (∃ p ∈ policies, p ∈ candidates ∧ p ≠ first)⟩ := by
  intro policies
  induction policies with
  | nil => exact .inl ⟨by simp, rfl⟩
  | cons p policies ih =>
    rw [List.foldl_cons, noteOffer]
    by_cases hconcrete : p ∈ candidates
    · refine .inr ⟨p, List.mem_cons_self, hconcrete, ?_⟩
      simp [hconcrete, foldl_noteOffer]
    · rw [if_pos hconcrete]
      rcases ih with ⟨hnone, hfold⟩ | ⟨first, hfirst, hcandidate, hfold⟩
      · refine .inl ⟨?_, hfold⟩
        intro q hq
        rcases List.mem_cons.mp hq with rfl | hq
        · exact hconcrete
        · exact hnone q hq
      · refine .inr ⟨first, List.mem_cons_of_mem p hfirst, hcandidate, ?_⟩
        rw [hfold]
        simp [hconcrete]

/-- There are two different concrete offers. -/
def Mixed (candidates policies : List Policy) : Prop :=
  ∃ p ∈ policies, p ∈ candidates ∧ ∃ q ∈ policies, q ∈ candidates ∧ q ≠ p

instance (candidates policies : List Policy) : Decidable (Mixed candidates policies) :=
  inferInstanceAs (Decidable (∃ p ∈ policies, p ∈ candidates ∧ ∃ q ∈ policies, q ∈ candidates ∧ q ≠ p))

theorem mixed_iff {policies : List Policy} {first : Policy} (hfirst : first ∈ policies)
    (hcandidate : first ∈ candidates) :
    Mixed candidates policies ↔ ∃ p ∈ policies, p ∈ candidates ∧ p ≠ first := by
  constructor
  · intro h
    obtain ⟨p, hp, hpc, q, hq, hqc, hne⟩ := h
    by_cases hpf : p = first
    · exact ⟨q, hq, hqc, fun h => hne (h.trans hpf.symm)⟩
    · exact ⟨p, hp, hpc, hpf⟩
  · intro h
    exact ⟨first, hfirst, hcandidate, h⟩

/-- **What is inferred** from concrete offers. -/
theorem summarizeOffers_cases (compatible : Policy → Policy → Bool) (candidates policies : List Policy) :
    ((∀ p ∈ policies, p ∉ candidates) ∧
      summarizeOffers compatible candidates policies = ⟨none, false⟩) ∨
    ∃ first ∈ policies, first ∈ candidates ∧
      summarizeOffers compatible candidates policies =
        ⟨match compatibleRequest compatible candidates policies with
          | some requested => some requested
          | none => if Mixed candidates policies then candidates.getLast? else some first,
          decide (Mixed candidates policies)⟩ := by
  rw [summarizeOffers]
  rcases foldl_noteOffer_cases candidates policies with
    ⟨hnone, hfold⟩ | ⟨first, hfirst, hcandidate, hfold⟩
  · rw [hfold]
    exact .inl ⟨hnone, rfl⟩
  · refine .inr ⟨first, hfirst, hcandidate, ?_⟩
    simp only [hfold, ← mixed_iff hfirst hcandidate]
    cases compatibleRequest compatible candidates policies with
    | some requested => rfl
    | none =>
      by_cases hmixed : Mixed candidates policies
      · simp [hmixed]
      · simp [hmixed]

theorem allCompatible_iff {policies : List Policy} {requested : Policy} :
    allCompatible compatible candidates policies requested = true ↔
      ∀ p ∈ policies, p ∈ candidates → compatible p requested = true := by
  rw [allCompatible, List.all_eq_true]
  refine forall₂_congr ?_
  intro p _
  by_cases hconcrete : p ∈ candidates
  · simp [hconcrete]
  · simp [hconcrete]

/-- The request that is kept is a candidate, and compatible with every concrete offer. -/
theorem compatibleRequest_some {policies : List Policy} {requested : Policy}
    (h : compatibleRequest compatible candidates policies = some requested) :
    requested ∈ candidates ∧ ∀ p ∈ policies, p ∈ candidates → compatible p requested = true := by
  have hfold : ∀ (todo : List Policy) (found : Option Policy),
      (todo.foldl (fun found requested =>
        if allCompatible compatible candidates policies requested then some requested else found)
          found) = some requested →
      found = some requested ∨ requested ∈ todo ∧
        allCompatible compatible candidates policies requested = true := by
    intro todo
    induction todo with
    | nil =>
      intro found hf
      exact .inl hf
    | cons candidate todo ih =>
      intro found hf
      rw [List.foldl_cons] at hf
      rcases ih _ hf with hf | ⟨hmem, hall⟩
      · split at hf
        · rename_i hall
          cases hf
          exact .inr ⟨List.mem_cons_self, hall⟩
        · exact .inl hf
      · exact .inr ⟨List.mem_cons_of_mem candidate hmem, hall⟩
  rcases hfold candidates none h with hnone | ⟨hmem, hall⟩
  · cases hnone
  · exact ⟨hmem, allCompatible_iff.mp hall⟩

/-- **Only the set of concrete offers counts.** -/
theorem summarizeOffers_congr {policies policies' : List Policy}
    (h : ∀ p ∈ candidates, (p ∈ policies ↔ p ∈ policies')) :
    summarizeOffers compatible candidates policies =
      summarizeOffers compatible candidates policies' := by
  have hall : ∀ requested, allCompatible compatible candidates policies requested =
      allCompatible compatible candidates policies' requested := by
    intro requested
    rw [Bool.eq_iff_iff, allCompatible_iff, allCompatible_iff]
    constructor
    · intro hp p hmem hcandidate
      exact hp p ((h p hcandidate).mpr hmem) hcandidate
    · intro hp p hmem hcandidate
      exact hp p ((h p hcandidate).mp hmem) hcandidate
  have hrequest : compatibleRequest compatible candidates policies =
      compatibleRequest compatible candidates policies' := by
    simp only [compatibleRequest, hall]
  have hmixed : Mixed candidates policies ↔ Mixed candidates policies' := by
    constructor
    · intro hm
      obtain ⟨p, hp, hpc, q, hq, hqc, hne⟩ := hm
      exact ⟨p, (h p hpc).mp hp, hpc, q, (h q hqc).mp hq, hqc, hne⟩
    · intro hm
      obtain ⟨p, hp, hpc, q, hq, hqc, hne⟩ := hm
      exact ⟨p, (h p hpc).mpr hp, hpc, q, (h q hqc).mpr hq, hqc, hne⟩
  rcases summarizeOffers_cases compatible candidates policies with
    ⟨hnone, hs⟩ | ⟨first, hfirst, hcandidate, hs⟩
  · rcases summarizeOffers_cases compatible candidates policies' with
      ⟨_, hs'⟩ | ⟨first', hfirst', hcandidate', _⟩
    · rw [hs, hs']
    · exact absurd hcandidate' (hnone first' ((h first' hcandidate').mpr hfirst'))
  · rcases summarizeOffers_cases compatible candidates policies' with
      ⟨hnone', _⟩ | ⟨first', hfirst', hcandidate', hs'⟩
    · exact absurd hcandidate (hnone' first ((h first hcandidate).mp hfirst))
    · rw [hs, hs', hrequest]
      simp only [hmixed]
      by_cases hm : Mixed candidates policies'
      · simp only [if_pos hm]
      · -- all concrete offers are the same
        have hsame : first = first' := by
          by_contra hne
          exact hm ⟨first', hfirst', hcandidate', first, (h first hcandidate).mp hfirst, hcandidate, hne⟩
        simp only [if_neg hm, hsame]

/-- **What is inferred is not stronger than any concrete offer**, when the check is sound and the
last candidate is the weakest. -/
theorem summarizeOffers_safe {stronger : Policy → Policy → Prop} (hirrefl : ∀ p, ¬ stronger p p)
    (hsound : ∀ offered requested, compatible offered requested = true → ¬ stronger requested offered)
    (hlast : ∀ last ∈ candidates.getLast?, ∀ p ∈ candidates, ¬ stronger last p)
    {policies : List Policy} {requested : Policy}
    (h : (summarizeOffers compatible candidates policies).policy = some requested) :
    ∀ p ∈ policies, p ∈ candidates → ¬ stronger requested p := by
  intro p hp hcandidate
  rcases summarizeOffers_cases compatible candidates policies with
    ⟨_, hs⟩ | ⟨first, hfirst, hfirstCandidate, hs⟩
  · rw [hs] at h
    cases h
  · rw [hs] at h
    cases hrequest : compatibleRequest compatible candidates policies with
    | some found =>
      simp only [hrequest, Option.some.injEq] at h
      subst h
      exact hsound p found ((compatibleRequest_some hrequest).2 p hp hcandidate)
    | none =>
      simp only [hrequest] at h
      by_cases hm : Mixed candidates policies
      · rw [if_pos hm] at h
        exact hlast requested h p hcandidate
      · rw [if_neg hm, Option.some.injEq] at h
        subst h
        have hsame : p = first := by
          by_contra hne
          exact hm ⟨first, hfirst, hfirstCandidate, p, hp, hcandidate, hne⟩
        rw [hsame]
        exact hirrefl first

theorem mem_candidates_of_summarizeOffers {policies : List Policy} {requested : Policy}
    (h : (summarizeOffers compatible candidates policies).policy = some requested) :
    requested ∈ candidates := by
  rcases summarizeOffers_cases compatible candidates policies with
    ⟨_, hs⟩ | ⟨first, _, hfirst, hs⟩
  · rw [hs] at h
    cases h
  · rw [hs] at h
    cases hrequest : compatibleRequest compatible candidates policies with
    | some found =>
      simp only [hrequest, Option.some.injEq] at h
      subst h
      exact (compatibleRequest_some hrequest).1
    | none =>
      simp only [hrequest] at h
      split at h
      · exact List.mem_of_getLast? h
      · exact Option.some.inj h ▸ hfirst

/-- Something is inferred exactly from concrete offers. -/
theorem summarizeOffers_eq_none_iff (hne : candidates ≠ []) {policies : List Policy} :
    (summarizeOffers compatible candidates policies).policy = none ↔
      ∀ p ∈ policies, p ∉ candidates := by
  rcases summarizeOffers_cases compatible candidates policies with
    ⟨hnone, hs⟩ | ⟨first, hfirst, hcandidate, hs⟩
  · rw [hs]
    exact ⟨fun _ => hnone, fun _ => rfl⟩
  · constructor
    · intro h
      rw [hs] at h
      cases hrequest : compatibleRequest compatible candidates policies with
      | some found =>
        simp only [hrequest] at h
        cases h
      | none =>
        simp only [hrequest] at h
        split at h
        · exact absurd (List.getLast?_eq_none_iff.mp h) hne
        · cases h
    · intro h
      exact absurd hcandidate (h first hfirst)

/-- The concrete offers are all the same, and there is one. -/
def Unanimous (candidates policies : List Policy) (p : Policy) : Prop :=
  p ∈ candidates ∧ p ∈ policies ∧ ∀ q ∈ policies, q ∈ candidates → q = p

/-- **Publishers that agree** are not mixed, and keep their policy exactly when it is the weakest or
the check does not call the weakest compatible with it. -/
theorem summarizeOffers_unanimous {strong weak : Policy} (hne : strong ≠ weak)
    (hsound : compatible weak strong = false) {policies : List Policy} {p : Policy}
    (h : Unanimous [strong, weak] policies p) :
    (summarizeOffers compatible [strong, weak] policies).mixed = false ∧
      ((summarizeOffers compatible [strong, weak] policies).policy = some p ↔
        p = weak ∨ compatible p weak = false) := by
  obtain ⟨hcandidate, hp, hsame⟩ := h
  have hall : ∀ requested, allCompatible compatible [strong, weak] policies requested =
      compatible p requested := by
    intro requested
    rw [Bool.eq_iff_iff, allCompatible_iff]
    constructor
    · intro hc
      exact hc p hp hcandidate
    · intro hc q hq hqc
      rw [hsame q hq hqc]
      exact hc
  have hrequest : compatibleRequest compatible [strong, weak] policies =
      if compatible p weak then some weak else if compatible p strong then some strong else none := by
    simp only [compatibleRequest, List.foldl_cons, List.foldl_nil, hall]
  have hmixed : ¬ Mixed [strong, weak] policies := by
    intro hm
    obtain ⟨q, hq, hqc, r, hr, hrc, hqr⟩ := hm
    exact hqr ((hsame r hr hrc).trans (hsame q hq hqc).symm)
  rcases summarizeOffers_cases compatible [strong, weak] policies with
    ⟨hnone, _⟩ | ⟨first, hfirst, hfirstCandidate, hs⟩
  · exact absurd hcandidate (hnone p hp)
  obtain rfl : first = p := hsame first hfirst hfirstCandidate
  rw [hs, hrequest]
  refine ⟨decide_eq_false hmixed, ?_⟩
  simp only [if_neg hmixed]
  rcases List.mem_pair.mp hcandidate with rfl | rfl
  · cases hweak : compatible first weak with
    | true => simp [hne, Ne.symm hne]
    | false =>
      cases compatible first first with
      | true => simp
      | false => simp
  · cases compatible first first with
    | true => simp
    | false => simp [hsound]

end Offers

/-! ### Strength -/

/-- The first policy is stronger than the second. -/
def ReliabilityPolicy.Stronger (requested offered : ReliabilityPolicy) : Prop :=
  requested = .reliable ∧ offered = .bestEffort

/-- The first policy is stronger than the second. -/
def DurabilityPolicy.Stronger (requested offered : DurabilityPolicy) : Prop :=
  requested = .transientLocal ∧ offered = .volatile

/-- The check says `Ok` only when the request is not stronger than the offer. -/
def SoundCheck (check : QoS → QoS → Bool) : Prop :=
  ∀ publisher subscription, check publisher subscription = true →
    ¬ subscription.reliability.Stronger publisher.reliability ∧
      ¬ subscription.durability.Stronger publisher.durability

section Resolve

variable {check : QoS → QoS → Bool} {topic : Str} {base : QoS}
  {config : Option SubscriptionQosConfig} {publisherQos : List QoS}

/-- **What `resolveSubscriptionQos` returns.** -/
theorem resolveSubscriptionQos_eq :
    resolveSubscriptionQos check topic base config publisherQos =
      { qos :=
          { base with
            reliability := (((matchingOverride topic config).bind (·.reliability)).or
              (summarizeReliability check publisherQos).policy).getD base.reliability
            durability := (((matchingOverride topic config).bind (·.durability)).or
              (summarizeDurability check publisherQos).policy).getD base.durability }
        source :=
          if matchingOverride topic config ≠ none then .override
          else if (summarizeReliability check publisherQos).policy ≠ none ∨
              (summarizeDurability check publisherQos).policy ≠ none then .publisherQos
          else .fallback
        mixedReliability := (summarizeReliability check publisherQos).mixed
        mixedDurability := (summarizeDurability check publisherQos).mixed
        publisherCount := publisherQos.length
        overrideId := ((matchingOverride topic config).map (·.id)).getD [] } := by
  rw [resolveSubscriptionQos]
  cases matchingOverride topic config with
  | none =>
    cases (summarizeReliability check publisherQos).policy with
    | none =>
      cases (summarizeDurability check publisherQos).policy with
      | none => simp
      | some durability => simp [QoS.setDurability]
    | some reliability =>
      cases (summarizeDurability check publisherQos).policy with
      | none => simp [QoS.setReliability]
      | some durability => simp [QoS.setReliability, QoS.setDurability]
  | some found =>
    obtain ⟨id, pattern, reliability, durability⟩ := found
    cases reliability <;> cases durability <;>
      cases (summarizeReliability check publisherQos).policy <;>
      cases (summarizeDurability check publisherQos).policy <;>
      simp [QoS.setReliability, QoS.setDurability]

/-- The override that decides for the topic: the best match of those that are configured, or none
if none matches. -/
def IsBestOverride (topic : Str) (config : Option SubscriptionQosConfig) :
    Option TopicSubscriptionQosOverride → Prop
  | none => ∀ c ∈ config, ∀ o ∈ c.topicOverrides, o.pattern.matchesResource topic = false
  | some o => ∃ c ∈ config, ∃ pre post,
      BestAt topic TopicSubscriptionQosOverride.pattern c.topicOverrides pre o post

theorem isBestOverride_matchingOverride (topic : Str) (config : Option SubscriptionQosConfig) :
    IsBestOverride topic config (matchingOverride topic config) := by
  cases config with
  | none =>
    intro c hc
    cases hc
  | some c =>
    cases hfound : matchingOverride topic (some c) with
    | none =>
      intro c' hc'
      obtain rfl := Option.some.inj hc'
      exact findBest_eq_none_iff.mp hfound
    | some o => exact ⟨c, rfl, findBest_eq_some_iff.mp hfound⟩

theorem IsBestOverride.unique {topic : Str} {config : Option SubscriptionQosConfig}
    {found found' : Option TopicSubscriptionQosOverride} (h : IsBestOverride topic config found)
    (h' : IsBestOverride topic config found') : found = found' := by
  have hmatched : ∀ {overrides pre post : List TopicSubscriptionQosOverride}
      {o : TopicSubscriptionQosOverride},
      BestAt topic TopicSubscriptionQosOverride.pattern overrides pre o post → o ∈ overrides := by
    intro overrides pre post o hbest
    rw [hbest.split]
    simp
  cases found with
  | none =>
    cases found' with
    | none => rfl
    | some o =>
      obtain ⟨c, hc, pre, post, hbest⟩ := h'
      have hnot := h c hc o (hmatched hbest)
      rw [hbest.matched] at hnot
      cases hnot
  | some o =>
    obtain ⟨c, hc, pre, post, hbest⟩ := h
    cases found' with
    | none =>
      have hnot := h' c hc o (hmatched hbest)
      rw [hbest.matched] at hnot
      cases hnot
    | some o' =>
      obtain ⟨c', hc', pre', post', hbest'⟩ := h'
      obtain rfl := Option.some.inj (hc.symm.trans hc')
      rw [(hbest.unique hbest').2.1]

/-- One axis of a resolution: where the policy comes from, and that an inferred one is concrete and
leaves no concrete offer unmatched. -/
structure AxisResolved {Policy : Type} (stronger : Policy → Policy → Prop) (candidates : List Policy)
    (overriding inferred : Option Policy) (base resolved : Policy) (offers : List Policy) :
    Prop where
  overridden : ∀ policy, overriding = some policy → resolved = policy
  fromOffers : overriding = none → (∃ p ∈ offers, p ∈ candidates) → inferred = some resolved
  fromBase : overriding = none → (∀ p ∈ offers, p ∉ candidates) → resolved = base
  concrete : ∀ policy, inferred = some policy → policy ∈ candidates
  safe : ∀ policy, inferred = some policy → ∀ p ∈ offers, p ∈ candidates → ¬ stronger policy p

theorem axisResolved {Policy : Type} [DecidableEq Policy] {stronger : Policy → Policy → Prop}
    {compatible : Policy → Policy → Bool} {strong weak : Policy}
    (hstronger : ∀ p q, stronger p q → p = strong ∧ q = weak) (hne : strong ≠ weak)
    (hsound : ∀ offered requested, compatible offered requested = true → ¬ stronger requested offered)
    (overriding : Option Policy) (base : Policy) (offers : List Policy) :
    AxisResolved stronger [strong, weak] overriding
      (summarizeOffers compatible [strong, weak] offers).policy base
      ((overriding.or (summarizeOffers compatible [strong, weak] offers).policy).getD base)
      offers where
  overridden policy h := by
    rw [h]
    rfl
  fromOffers h hconcrete := by
    obtain ⟨p, hp, hcandidate⟩ := hconcrete
    cases hs : (summarizeOffers compatible [strong, weak] offers).policy with
    | none => exact absurd hcandidate ((summarizeOffers_eq_none_iff (by simp)).mp hs p hp)
    | some policy =>
      rw [h]
      rfl
  fromBase h hnone := by
    rw [h, (summarizeOffers_eq_none_iff (by simp)).mpr hnone]
    rfl
  concrete policy h := mem_candidates_of_summarizeOffers h
  safe policy h := by
    refine summarizeOffers_safe ?_ hsound ?_ h
    · intro p hp
      obtain ⟨hs, hw⟩ := hstronger p p hp
      exact hne (hs.symm.trans hw)
    · intro last hlast p _ hp
      obtain rfl : weak = last := Option.some.inj hlast
      exact hne (hstronger _ p hp).1.symm

/-- Publishers with the same concrete policies give the same result, up to their number. -/
theorem resolveSubscriptionQos_congr {publisherQos' : List QoS}
    (hreliability : ∀ p ∈ reliabilityCandidates,
      (p ∈ publisherQos'.map QoS.reliability ↔ p ∈ publisherQos.map QoS.reliability))
    (hdurability : ∀ p ∈ durabilityCandidates,
      (p ∈ publisherQos'.map QoS.durability ↔ p ∈ publisherQos.map QoS.durability)) :
    resolveSubscriptionQos check topic base config publisherQos' =
      { resolveSubscriptionQos check topic base config publisherQos with
        publisherCount := publisherQos'.length } := by
  have hr : summarizeReliability check publisherQos' = summarizeReliability check publisherQos :=
    summarizeOffers_congr hreliability
  have hd : summarizeDurability check publisherQos' = summarizeDurability check publisherQos :=
    summarizeOffers_congr hdurability
  rw [resolveSubscriptionQos_eq, resolveSubscriptionQos_eq, hr, hd]

theorem mem_map_of_perm_append {Policy : Type} {accessor : QoS → Policy} {candidates : List Policy}
    {added publisherQos' : List QoS} (hadded : ∀ qos ∈ added, accessor qos ∉ candidates)
    (hperm : publisherQos'.Perm (publisherQos ++ added)) :
    ∀ p ∈ candidates, (p ∈ publisherQos'.map accessor ↔ p ∈ publisherQos.map accessor) := by
  intro p hp
  rw [(hperm.map accessor).mem_iff, List.map_append, List.mem_append]
  constructor
  · intro h
    rcases h with h | h
    · exact h
    · obtain ⟨qos, hqos, rfl⟩ := List.mem_map.mp h
      exact absurd hp (hadded qos hqos)
  · intro h
    exact .inl h

theorem SoundCheck.reliability (h : SoundCheck check) (offered requested : ReliabilityPolicy)
    (hc : areCompatible check QoS.setReliability offered requested = true) :
    ¬ requested.Stronger offered := (h _ _ hc).1

theorem SoundCheck.durability (h : SoundCheck check) (offered requested : DurabilityPolicy)
    (hc : areCompatible check QoS.setDurability offered requested = true) :
    ¬ requested.Stronger offered := (h _ _ hc).2

end Resolve

/-- **Resolution is safe, independent of the order, and confined to two axes.**  On each axis the
best override decides, where it sets one; it is the best by its definition, not by the scan. -/
theorem resolveSubscriptionQos_safe {check : QoS → QoS → Bool} (hsound : SoundCheck check)
    (topic : Str) (base : QoS) (config : Option SubscriptionQosConfig) (publisherQos : List QoS) :
    (∃ overriding, IsBestOverride topic config overriding ∧
      AxisResolved ReliabilityPolicy.Stronger reliabilityCandidates
        (overriding.bind (·.reliability))
        (summarizeReliability check publisherQos).policy base.reliability
        (resolveSubscriptionQos check topic base config publisherQos).qos.reliability
        (publisherQos.map QoS.reliability) ∧
      AxisResolved DurabilityPolicy.Stronger durabilityCandidates
        (overriding.bind (·.durability))
        (summarizeDurability check publisherQos).policy base.durability
        (resolveSubscriptionQos check topic base config publisherQos).qos.durability
        (publisherQos.map QoS.durability)) ∧
    (resolveSubscriptionQos check topic base config publisherQos).qos =
      { base with
        reliability := (resolveSubscriptionQos check topic base config publisherQos).qos.reliability
        durability := (resolveSubscriptionQos check topic base config publisherQos).qos.durability } ∧
    (∀ publisherQos', publisherQos'.Perm publisherQos →
      resolveSubscriptionQos check topic base config publisherQos' =
        resolveSubscriptionQos check topic base config publisherQos) ∧
    ∀ added, (∀ qos ∈ added, qos.reliability ∉ reliabilityCandidates ∧
        qos.durability ∉ durabilityCandidates) →
      ∀ publisherQos', publisherQos'.Perm (publisherQos ++ added) →
        resolveSubscriptionQos check topic base config publisherQos' =
          { resolveSubscriptionQos check topic base config publisherQos with
            publisherCount := publisherQos'.length } := by
  have hadd : ∀ added, (∀ qos ∈ added, qos.reliability ∉ reliabilityCandidates ∧
        qos.durability ∉ durabilityCandidates) →
      ∀ publisherQos', publisherQos'.Perm (publisherQos ++ added) →
        resolveSubscriptionQos check topic base config publisherQos' =
          { resolveSubscriptionQos check topic base config publisherQos with
            publisherCount := publisherQos'.length } := by
    intro added hadded publisherQos' hperm
    exact resolveSubscriptionQos_congr
      (mem_map_of_perm_append (fun qos hqos => (hadded qos hqos).1) hperm)
      (mem_map_of_perm_append (fun qos hqos => (hadded qos hqos).2) hperm)
  refine ⟨⟨_, isBestOverride_matchingOverride topic config, ?_, ?_⟩, ?_, ?_, hadd⟩
  · rw [resolveSubscriptionQos_eq]
    exact axisResolved (fun _ _ h => h) (by decide) hsound.reliability _ _ _
  · rw [resolveSubscriptionQos_eq]
    exact axisResolved (fun _ _ h => h) (by decide) hsound.durability _ _ _
  · rw [resolveSubscriptionQos_eq]
  · intro publisherQos' hperm
    rw [hadd [] (by simp) publisherQos' (by rwa [List.append_nil]), hperm.length_eq]
    rw [resolveSubscriptionQos_eq]

/-- The relation of DDS: each axis on its own, a weaker request is served. -/
def ddsCheck (publisher subscription : QoS) : Bool :=
  !(subscription.reliability == .reliable && publisher.reliability == .bestEffort) &&
    !(subscription.durability == .transientLocal && publisher.durability == .volatile)

theorem sound_ddsCheck : SoundCheck ddsCheck := by
  intro publisher subscription h
  rw [ddsCheck, Bool.and_eq_true, Bool.not_eq_true', Bool.not_eq_true'] at h
  constructor
  · intro hstronger
    rw [hstronger.1, hstronger.2] at h
    cases h.1
  · intro hstronger
    rw [hstronger.1, hstronger.2] at h
    cases h.2

/-- A publisher with these policies. -/
def offering (reliability : ReliabilityPolicy) (durability : DurabilityPolicy) : QoS :=
  { QoS.keepLast 10 with reliability := reliability, durability := durability }

/-- Every topic is received with best effort, but `/scan` reliably. -/
def scanOverrides : SubscriptionQosConfig :=
  ⟨[⟨lit "all", ⟨lit "/*", .subtree⟩, some .bestEffort, none⟩,
    ⟨lit "scan", ⟨lit "/scan", .exact⟩, some .reliable, none⟩]⟩

/-- The exact pattern decides for `/scan`. -/
theorem isBestOverride_scan : IsBestOverride (lit "/scan") (some scanOverrides)
    (some ⟨lit "scan", ⟨lit "/scan", .exact⟩, some .reliable, none⟩) :=
  ⟨scanOverrides, rfl, [⟨lit "all", ⟨lit "/*", .subtree⟩, some .bestEffort, none⟩], [], rfl,
    by decide, by decide, by decide⟩

/-- Two publishers that disagree are both served on the axis that is not overridden. -/
theorem resolveSubscriptionQos_safe_disagreeing : SoundCheck ddsCheck ∧
    (resolveSubscriptionQos ddsCheck (lit "/scan") (.keepLast 2) (some scanOverrides)
      [offering .reliable .transientLocal, offering .bestEffort .volatile]).qos.reliability =
        .reliable ∧
    ¬ (resolveSubscriptionQos ddsCheck (lit "/scan") (.keepLast 2) (some scanOverrides)
      [offering .reliable .transientLocal, offering .bestEffort .volatile]).qos.durability.Stronger
        .volatile := by
  obtain ⟨⟨overriding, hbest, hreliability, hdurability⟩, -⟩ := resolveSubscriptionQos_safe
    sound_ddsCheck (lit "/scan") (.keepLast 2) (some scanOverrides)
    [offering .reliable .transientLocal, offering .bestEffort .volatile]
  obtain rfl := hbest.unique isBestOverride_scan
  refine ⟨sound_ddsCheck, hreliability.overridden _ rfl, ?_⟩
  exact hdurability.safe _ (hdurability.fromOffers rfl ⟨.volatile, by decide, by decide⟩) .volatile
    (by decide) (by decide)

/-! ### Publishers that agree -/

/-- The messages of the topic are kept for echo-once: what `setTransientLocal` is given. -/
def ResolvedSubscriptionQos.keepsForEchoOnce (resolved : ResolvedSubscriptionQos) : Bool :=
  resolved.qos.durability == .transientLocal

/-- One axis, when there is no override for it. -/
theorem kept_iff_of_unanimous {Policy : Type} [DecidableEq Policy]
    {compatible : Policy → Policy → Bool} {strong weak : Policy} (hne : strong ≠ weak)
    (hsound : compatible weak strong = false) {overriding : Option Policy} {base p : Policy}
    {offers : List Policy} (h : Unanimous [strong, weak] offers p) (hauto : overriding = none) :
    (overriding.or (summarizeOffers compatible [strong, weak] offers).policy).getD base = p ∧
        (summarizeOffers compatible [strong, weak] offers).mixed = false ↔
      p = weak ∨ compatible p weak = false := by
  obtain ⟨hmixed, hpolicy⟩ := summarizeOffers_unanimous hne hsound h
  rw [← hpolicy, hauto]
  cases hs : (summarizeOffers compatible [strong, weak] offers).policy with
  | none => exact absurd h.1 ((summarizeOffers_eq_none_iff (by simp)).mp hs p h.2.1)
  | some policy => simp [hmixed]

/-- **Publishers that agree keep their policy** exactly when it is the weakest, or the check does
not call the weakest compatible with it. -/
theorem unanimous_kept_iff {check : QoS → QoS → Bool} (hsound : SoundCheck check) (topic : Str)
    (base : QoS) (config : Option SubscriptionQosConfig) (publisherQos : List QoS) :
    (∀ p, Unanimous reliabilityCandidates (publisherQos.map QoS.reliability) p →
      (matchingOverride topic config).bind (·.reliability) = none →
      ((resolveSubscriptionQos check topic base config publisherQos).qos.reliability = p ∧
        (resolveSubscriptionQos check topic base config publisherQos).mixedReliability = false ↔
          p = .bestEffort ∨ areCompatible check QoS.setReliability p .bestEffort = false)) ∧
    (∀ p, Unanimous durabilityCandidates (publisherQos.map QoS.durability) p →
      (matchingOverride topic config).bind (·.durability) = none →
      ((resolveSubscriptionQos check topic base config publisherQos).qos.durability = p ∧
        (resolveSubscriptionQos check topic base config publisherQos).mixedDurability = false ↔
          p = .volatile ∨ areCompatible check QoS.setDurability p .volatile = false)) ∧
    (Unanimous durabilityCandidates (publisherQos.map QoS.durability) .transientLocal →
      (matchingOverride topic config).bind (·.durability) = none →
      ((resolveSubscriptionQos check topic base config publisherQos).keepsForEchoOnce = true ↔
        areCompatible check QoS.setDurability .transientLocal .volatile = false)) := by
  have hdurability : ∀ p, Unanimous durabilityCandidates (publisherQos.map QoS.durability) p →
      (matchingOverride topic config).bind (·.durability) = none →
      ((resolveSubscriptionQos check topic base config publisherQos).qos.durability = p ∧
        (resolveSubscriptionQos check topic base config publisherQos).mixedDurability = false ↔
          p = .volatile ∨ areCompatible check QoS.setDurability p .volatile = false) := by
    intro p hunanimous hauto
    rw [resolveSubscriptionQos_eq]
    refine kept_iff_of_unanimous (by decide) ?_ hunanimous hauto
    exact Bool.eq_false_iff.mpr fun hc => hsound.durability _ _ hc ⟨rfl, rfl⟩
  refine ⟨?_, hdurability, ?_⟩
  · intro p hunanimous hauto
    rw [resolveSubscriptionQos_eq]
    refine kept_iff_of_unanimous (by decide) ?_ hunanimous hauto
    exact Bool.eq_false_iff.mpr fun hc => hsound.reliability _ _ hc ⟨rfl, rfl⟩
  · intro hunanimous hauto
    have hkept := hdurability .transientLocal hunanimous hauto
    have hmixed : (resolveSubscriptionQos check topic base config publisherQos).mixedDurability =
        false := by
      rw [resolveSubscriptionQos_eq]
      refine (summarizeOffers_unanimous (by decide) ?_ hunanimous).1
      exact Bool.eq_false_iff.mpr fun hc => hsound.durability _ _ hc ⟨rfl, rfl⟩
    rw [ResolvedSubscriptionQos.keepsForEchoOnce, beq_iff_eq]
    constructor
    · intro h
      exact (hkept.mp ⟨h, hmixed⟩).resolve_left (by decide)
    · intro h
      exact (hkept.mpr (.inr h)).1

/-- Publishers that are all volatile keep it. -/
theorem unanimous_kept_iff_volatile :
    (resolveSubscriptionQos ddsCheck (lit "/scan") (.keepLast 2) none
      [offering .bestEffort .volatile, offering .unknown .unknown]).qos.durability = .volatile :=
  (((unanimous_kept_iff sound_ddsCheck (lit "/scan") (.keepLast 2) none
    [offering .bestEffort .volatile, offering .unknown .unknown]).2.1 .volatile
      ⟨by decide, by decide, by decide⟩ rfl).mpr (.inl rfl)).1

/-- A single publisher that is durable does not, under the relation of DDS. -/
theorem not_unanimous_kept :
    ¬ ∀ check, SoundCheck check → ∀ (topic : Str) (base : QoS)
      (config : Option SubscriptionQosConfig) (publisherQos : List QoS) (p : DurabilityPolicy),
      Unanimous durabilityCandidates (publisherQos.map QoS.durability) p →
      (matchingOverride topic config).bind (·.durability) = none →
      (resolveSubscriptionQos check topic base config publisherQos).qos.durability = p ∧
        (resolveSubscriptionQos check topic base config publisherQos).mixedDurability = false := by
  intro h
  have hkept := (h ddsCheck sound_ddsCheck (lit "/map") (.keepLast 2) none
    [offering .reliable .transientLocal] .transientLocal ⟨by decide, by decide, by decide⟩ rfl).1
  exact absurd hkept (by decide)

end LivekitBridge
