import LivekitBridge.AccessPolicy
import LivekitBridge.Connection.Watchdog
import LivekitBridge.Interfaces.Registered
import LivekitBridge.Streams.OtherSources
import LivekitBridge.Streams.Qos

/-!
# The configuration at startup

`runtime_config.cpp`: one snapshot of the parameters becomes the configuration of the bridge, or the
node does not start.  The parts are read one after another, and what is thrown is logged with the
stage that it came from.

The subscription QoS is configured by entries with an id, a pattern and a policy for each axis,
where the text `auto` leaves the axis to the publishers.  `configured_qos` goes from these texts to
the QoS that a subscription has: which configurations are accepted, which entry decides for a topic,
and that it decides nothing but the axes that it names.

The generated parameters come from outside, as does what `rmw` makes of the names of policies
(`RmwStrings`); the recovery timeout is read as it is after its conversion from seconds.
-/

namespace LivekitBridge

open Lib

/-! ### Subscription QoS -/

/-- An entry of `subscription.qos`. -/
structure QosEntryParams where
  pattern : Str
  reliability : Str
  durability : Str
deriving DecidableEq, Repr

/-- What `loadSubscriptionQosConfig` reads of `Params`. -/
structure QosParams where
  subscriptionQosIds : List Str
  entries : AList fun _ : Str => QosEntryParams

/-- `rmw_qos_reliability_policy_from_str` and `rmw_qos_durability_policy_from_str`. -/
structure RmwStrings where
  reliability : Str → ReliabilityPolicy
  durability : Str → DurabilityPolicy

def parseSubscriptionQosPolicy {Policy : Type} (value : Str) (parse : Str → Policy) :
    Option Policy :=
  if trim value = lit "auto" then none else some (parse (cString (trim value)))

section Load

variable (expand : Expand) (rmw : RmwStrings)

def loadQosOverride (id : Str) (entry : QosEntryParams) :
    Except Str TopicSubscriptionQosOverride := do
  let pattern ← Video.requireRosResourcePattern expand entry.pattern (lit "subscription.qos")
  .ok ⟨id, pattern, parseSubscriptionQosPolicy entry.reliability rmw.reliability,
    parseSubscriptionQosPolicy entry.durability rmw.durability⟩

/-- The loop of `loadSubscriptionQosConfig`. -/
def loadQosOverrides (entries : AList fun _ : Str => QosEntryParams) :
    List Str → List Str → Except Str (List TopicSubscriptionQosOverride)
  | [], _ => .ok []
  | id :: ids, seen => do
    let (seen, entry) ← requireUniqueEntry seen id entries (lit "subscription QoS override id")
      (lit "subscription QoS override entry")
    let qosOverride ← loadQosOverride expand rmw id entry
    let overrides ← loadQosOverrides entries ids seen
    .ok (qosOverride :: overrides)

def loadSubscriptionQosConfig (params : QosParams) : Except Str SubscriptionQosConfig := do
  let overrides ← loadQosOverrides expand rmw params.entries params.subscriptionQosIds []
  .ok ⟨overrides⟩

end Load

/-! ### The whole configuration -/

/-- What `loadRuntimeConfig` reads of `Params`. -/
structure StartupParams where
  url : Str
  token : Str
  watchdog : WatchdogConfig
  access : AccessPolicyConfig
  qos : QosParams
  video : Video.Params
  audio : Audio.Params

structure RuntimeConfig where
  url : Str
  accessToken : Str
  watchdog : WatchdogConfig
  accessPolicy : AccessPolicy
  subscriptionQos : SubscriptionQosConfig
  videoStream : Video.StreamConfig
  audioStream : Audio.StreamConfig

/-- `resolveAccessToken`, with the value of `LIVEKIT_TOKEN` in the environment. -/
def resolveAccessToken (params : StartupParams) (environment : Option Str) : Except Str Str :=
  if params.token ≠ [] then .ok params.token
  else
    match environment with
    | some (c :: value) => .ok (c :: value)
    | _ => .error (lit "LiveKit startup token is required; set livekit.token or LIVEKIT_TOKEN")

/-- A part that throws is logged with its stage. -/
def atStage {α : Type} (stage : Str) (part : Except Str α) : Except (Str × Str) α :=
  part.mapError fun what => (stage, what)

/-- `loadRuntimeConfig`: the configuration, or the stage and what is thrown. -/
def loadRuntimeConfig (expand : Expand) (rmw : RmwStrings)
    (validate : Str → Str → EndpointLayout → Except Str Unit) (environment : Option Str)
    (params : StartupParams) : Except (Str × Str) RuntimeConfig := do
  let accessToken ← atStage (lit "livekit_config") (resolveAccessToken params environment)
  let subscriptionQos ← atStage (lit "subscription_qos_config")
    (loadSubscriptionQosConfig expand rmw params.qos)
  let videoStream ← atStage (lit "video_config") (Video.loadConfig expand validate params.video)
  let audioStream ← atStage (lit "audio_config") (Audio.loadConfig validate params.audio)
  .ok ⟨params.url, accessToken, params.watchdog, .ofConfig expand params.access, subscriptionQos,
    videoStream, audioStream⟩

/-! ### What is accepted -/

/-- The entry of an id, and the override that it stands for. -/
structure ConfiguredQos (expand : Expand) (rmw : RmwStrings)
    (entries : AList fun _ : Str => QosEntryParams) (id : Str)
    (qosOverride : TopicSubscriptionQosOverride) (entry : QosEntryParams) : Prop where
  found : entries.lookup id = some entry
  id : qosOverride.id = id
  pattern : RosResourcePattern.parse expand entry.pattern Video.kResourceNodeName (lit "/") false =
    some qosOverride.pattern
  reliability : qosOverride.reliability =
    parseSubscriptionQosPolicy entry.reliability rmw.reliability
  durability : qosOverride.durability = parseSubscriptionQosPolicy entry.durability rmw.durability

section Accepted

variable {expand : Expand} {rmw : RmwStrings} {entries : AList fun _ : Str => QosEntryParams}
  {id : Str} {entry : QosEntryParams} {qosOverride : TopicSubscriptionQosOverride}
  {ids seen : List Str} {overrides : List TopicSubscriptionQosOverride}

theorem requireUniqueEntry_eq_ok_iff {α : Type} {entries : AList fun _ : Str => α} {entry : α}
    {seen' : List Str} {duplicateLabel missingLabel : Str} :
    requireUniqueEntry seen id entries duplicateLabel missingLabel = .ok (seen', entry) ↔
      id ∉ seen ∧ seen' = id :: seen ∧ entries.lookup id = some entry := by
  rw [requireUniqueEntry]
  by_cases hseen : id ∈ seen
  · simp [hseen]
  · cases hlookup : (entries.lookup id : Option α) with
    | none => simp [hseen]
    | some found => simp [hseen, eq_comm]

/-- A blank pattern does not parse either. -/
theorem requireRosResourcePattern_eq_ok_iff {raw context : Str} {pattern : RosResourcePattern} :
    Video.requireRosResourcePattern expand raw context = .ok pattern ↔
      RosResourcePattern.parse expand raw Video.kResourceNodeName (lit "/") false =
        some pattern := by
  rw [Video.requireRosResourcePattern]
  by_cases hblank : trim raw = []
  · simp [hblank, RosResourcePattern.parse]
  · rw [if_neg hblank]
    cases RosResourcePattern.parse expand raw Video.kResourceNodeName (lit "/") false with
    | none => simp
    | some found => simp

theorem loadQosOverride_eq_ok_iff (hentry : entries.lookup id = some entry) :
    loadQosOverride expand rmw id entry = .ok qosOverride ↔
      ConfiguredQos expand rmw entries id qosOverride entry := by
  rw [loadQosOverride, bind_eq_ok]
  constructor
  · intro h
    obtain ⟨pattern, hpattern, h⟩ := h
    cases h
    exact ⟨hentry, rfl, requireRosResourcePattern_eq_ok_iff.mp hpattern, rfl, rfl⟩
  · intro h
    obtain ⟨-, hid, hpattern, hreliability, hdurability⟩ := h
    obtain ⟨id', pattern, reliability, durability⟩ := qosOverride
    subst hid hreliability hdurability
    exact ⟨pattern, requireRosResourcePattern_eq_ok_iff.mpr hpattern, rfl⟩

/-- **What the loop accepts**: ids without a repetition, each with an entry whose pattern parses. -/
theorem loadQosOverrides_eq_ok_iff :
    loadQosOverrides expand rmw entries ids seen = .ok overrides ↔
      ids.Nodup ∧ (∀ id ∈ ids, id ∉ seen) ∧
        List.Forall₂ (fun id qosOverride => ∃ entry,
          ConfiguredQos expand rmw entries id qosOverride entry) ids overrides := by
  induction ids generalizing seen overrides with
  | nil =>
    rw [loadQosOverrides, List.forall₂_nil_left_iff]
    simp [eq_comm]
  | cons id ids ih =>
    rw [loadQosOverrides, bind_eq_ok, List.nodup_cons, List.forall₂_cons_left_iff]
    constructor
    · intro h
      obtain ⟨⟨seen', entry⟩, hunique, h⟩ := h
      obtain ⟨hseen, rfl, hentry⟩ := requireUniqueEntry_eq_ok_iff.mp hunique
      obtain ⟨qosOverride, hload, h⟩ := bind_eq_ok.mp h
      obtain ⟨rest, hrest, h⟩ := bind_eq_ok.mp h
      cases h
      obtain ⟨hnodup, hnew, hconfigured⟩ := ih.mp hrest
      refine ⟨⟨fun hid => hnew id hid List.mem_cons_self, hnodup⟩, ?_,
        qosOverride, rest, ⟨entry, (loadQosOverride_eq_ok_iff hentry).mp hload⟩, hconfigured, rfl⟩
      intro other hother
      rcases List.mem_cons.mp hother with rfl | hother
      · exact hseen
      · exact fun hin => hnew other hother (List.mem_cons_of_mem _ hin)
    · intro h
      obtain ⟨⟨hid, hnodup⟩, hnew, qosOverride, rest, ⟨entry, hfirst⟩, hconfigured, rfl⟩ := h
      have hrest : loadQosOverrides expand rmw entries ids (id :: seen) = .ok rest := by
        refine ih.mpr ⟨hnodup, fun other hother hin => ?_, hconfigured⟩
        rcases List.mem_cons.mp hin with rfl | hin
        · exact hid hother
        · exact hnew other (List.mem_cons_of_mem _ hother) hin
      refine ⟨(id :: seen, entry), requireUniqueEntry_eq_ok_iff.mpr
        ⟨hnew id List.mem_cons_self, rfl, hfirst.found⟩, ?_⟩
      exact bind_eq_ok.mpr ⟨qosOverride, (loadQosOverride_eq_ok_iff hfirst.found).mpr hfirst,
        bind_eq_ok.mpr ⟨rest, hrest, rfl⟩⟩

theorem exists_configured (h : ∀ id ∈ ids, ∃ qosOverride entry,
    ConfiguredQos expand rmw entries id qosOverride entry) :
    ∃ overrides, List.Forall₂ (fun id qosOverride => ∃ entry,
      ConfiguredQos expand rmw entries id qosOverride entry) ids overrides := by
  induction ids with
  | nil => exact ⟨[], .nil⟩
  | cons id ids ih =>
    obtain ⟨rest, hrest⟩ := ih fun other hother => h other (List.mem_cons_of_mem _ hother)
    obtain ⟨qosOverride, hfirst⟩ := h id List.mem_cons_self
    exact ⟨qosOverride :: rest, .cons hfirst hrest⟩

theorem forall_configured (h : List.Forall₂ (fun id qosOverride => ∃ entry,
    ConfiguredQos expand rmw entries id qosOverride entry) ids overrides) :
    (∀ id ∈ ids, ∃ qosOverride entry, ConfiguredQos expand rmw entries id qosOverride entry) ∧
      ∀ qosOverride ∈ overrides, ∃ entry,
        ConfiguredQos expand rmw entries qosOverride.id qosOverride entry := by
  induction h with
  | nil => simp
  | @cons id qosOverride ids overrides hfirst _ ih =>
    obtain ⟨entry, hfirst⟩ := hfirst
    have hself : ConfiguredQos expand rmw entries qosOverride.id qosOverride entry := by
      rw [hfirst.id]
      exact hfirst
    constructor
    · intro other hother
      rcases List.mem_cons.mp hother with rfl | hother
      · exact ⟨qosOverride, entry, hfirst⟩
      · exact ih.1 other hother
    · intro other hother
      rcases List.mem_cons.mp hother with rfl | hother
      · exact ⟨entry, hself⟩
      · exact ih.2 other hother

theorem map_id_of_configured (h : List.Forall₂ (fun id qosOverride => ∃ entry,
    ConfiguredQos expand rmw entries id qosOverride entry) ids overrides) :
    overrides.map TopicSubscriptionQosOverride.id = ids := by
  induction h with
  | nil => rfl
  | cons hfirst _ ih =>
    obtain ⟨entry, hfirst⟩ := hfirst
    rw [List.map_cons, hfirst.id, ih]

end Accepted

section Startup

variable {expand : Expand} {rmw : RmwStrings}
  {validate : Str → Str → EndpointLayout → Except Str Unit} {environment : Option Str}
  {params : StartupParams} {config : RuntimeConfig}

theorem loadSubscriptionQosConfig_eq_ok_iff {params : QosParams} {config : SubscriptionQosConfig} :
    loadSubscriptionQosConfig expand rmw params = .ok config ↔ params.subscriptionQosIds.Nodup ∧
      List.Forall₂ (fun id qosOverride => ∃ entry,
        ConfiguredQos expand rmw params.entries id qosOverride entry)
        params.subscriptionQosIds config.topicOverrides := by
  rw [loadSubscriptionQosConfig, bind_eq_ok]
  constructor
  · intro h
    obtain ⟨overrides, hload, h⟩ := h
    cases h
    obtain ⟨hnodup, -, hconfigured⟩ := loadQosOverrides_eq_ok_iff.mp hload
    exact ⟨hnodup, hconfigured⟩
  · intro h
    exact ⟨config.topicOverrides, loadQosOverrides_eq_ok_iff.mpr ⟨h.1, by simp, h.2⟩, rfl⟩

theorem atStage_eq_ok_iff {α : Type} {stage : Str} {part : Except Str α} {a : α} :
    atStage stage part = .ok a ↔ part = .ok a := by
  cases part with
  | ok b => simp [atStage, Except.mapError]
  | error what => simp [atStage, Except.mapError]

/-- A token is found if one is set. -/
theorem exists_resolveAccessToken : (∃ token, resolveAccessToken params environment = .ok token) ↔
    params.token ≠ [] ∨ ∃ value, environment = some value ∧ value ≠ [] := by
  unfold resolveAccessToken
  by_cases htoken : params.token = []
  · cases environment with
    | none => simp [htoken]
    | some value =>
      cases value with
      | nil => simp [htoken]
      | cons c value => simp [htoken]
  · simp [htoken]

theorem loadRuntimeConfig_eq_ok_iff :
    loadRuntimeConfig expand rmw validate environment params = .ok config ↔
      resolveAccessToken params environment = .ok config.accessToken ∧
        loadSubscriptionQosConfig expand rmw params.qos = .ok config.subscriptionQos ∧
        Video.loadConfig expand validate params.video = .ok config.videoStream ∧
        Audio.loadConfig validate params.audio = .ok config.audioStream ∧
        config.url = params.url ∧ config.watchdog = params.watchdog ∧
        config.accessPolicy = .ofConfig expand params.access := by
  rw [loadRuntimeConfig, bind_eq_ok]
  constructor
  · intro h
    obtain ⟨token, htoken, h⟩ := h
    obtain ⟨qos, hqos, h⟩ := bind_eq_ok.mp h
    obtain ⟨video, hvideo, h⟩ := bind_eq_ok.mp h
    obtain ⟨audio, haudio, h⟩ := bind_eq_ok.mp h
    cases h
    exact ⟨atStage_eq_ok_iff.mp htoken, atStage_eq_ok_iff.mp hqos, atStage_eq_ok_iff.mp hvideo,
      atStage_eq_ok_iff.mp haudio, rfl, rfl, rfl⟩
  · intro h
    obtain ⟨url, token, watchdog, access, qos, video, audio⟩ := config
    obtain ⟨htoken, hqos, hvideo, haudio, rfl, rfl, rfl⟩ := h
    exact ⟨token, atStage_eq_ok_iff.mpr htoken, bind_eq_ok.mpr ⟨qos, atStage_eq_ok_iff.mpr hqos,
      bind_eq_ok.mpr ⟨video, atStage_eq_ok_iff.mpr hvideo,
        bind_eq_ok.mpr ⟨audio, atStage_eq_ok_iff.mpr haudio, rfl⟩⟩⟩⟩

end Startup

/-! ### What a subscription gets -/

/-- The QoS that is resolved with the overrides, beside the one that is inferred without them. -/
inductive FollowsQos (expand : Expand) (rmw : RmwStrings)
    (entries : AList fun _ : Str => QosEntryParams) (overrides : List TopicSubscriptionQosOverride)
    (topic : Str) (inferred : ResolvedSubscriptionQos) : ResolvedSubscriptionQos → Prop
  /-- No pattern matches, and nothing changes. -/
  | unmatched : (∀ o ∈ overrides, o.pattern.matchesResource topic = false) →
      FollowsQos expand rmw entries overrides topic inferred inferred
  /-- The first of the most specific patterns decides, on the axes that its entry names. -/
  | matched {pre post : List TopicSubscriptionQosOverride} {o : TopicSubscriptionQosOverride}
      {entry : QosEntryParams} :
      BestAt topic TopicSubscriptionQosOverride.pattern overrides pre o post →
      ConfiguredQos expand rmw entries o.id o entry →
      FollowsQos expand rmw entries overrides topic inferred
        { inferred with
          qos :=
            { inferred.qos with
              reliability := (parseSubscriptionQosPolicy entry.reliability rmw.reliability).getD
                inferred.qos.reliability
              durability := (parseSubscriptionQosPolicy entry.durability rmw.durability).getD
                inferred.qos.durability }
          source := .override
          overrideId := o.id }

theorem followsQos {expand : Expand} {rmw : RmwStrings}
    {entries : AList fun _ : Str => QosEntryParams} {config : SubscriptionQosConfig}
    (hconfigured : ∀ o ∈ config.topicOverrides, ∃ entry,
      ConfiguredQos expand rmw entries o.id o entry)
    (check : QoS → QoS → Bool) (topic : Str) (base : QoS) (publisherQos : List QoS) :
    FollowsQos expand rmw entries config.topicOverrides topic
      (resolveSubscriptionQos check topic base none publisherQos)
      (resolveSubscriptionQos check topic base (some config) publisherQos) := by
  have hnone : matchingOverride topic none = none := rfl
  cases hfound : matchingOverride topic (some config) with
  | none =>
    have hsame : resolveSubscriptionQos check topic base (some config) publisherQos =
        resolveSubscriptionQos check topic base none publisherQos := by
      rw [resolveSubscriptionQos_eq, resolveSubscriptionQos_eq, hfound, hnone]
    rw [hsame]
    exact .unmatched (findBest_eq_none_iff.mp hfound)
  | some o =>
    obtain ⟨pre, post, hbest⟩ := findBest_eq_some_iff.mp hfound
    obtain ⟨entry, hentry⟩ := hconfigured o (by rw [hbest.split]; simp)
    have hresolved : FollowsQos expand rmw entries config.topicOverrides topic
        (resolveSubscriptionQos check topic base none publisherQos) _ := .matched hbest hentry
    rw [← hentry.reliability, ← hentry.durability] at hresolved
    have heq : resolveSubscriptionQos check topic base (some config) publisherQos =
        { resolveSubscriptionQos check topic base none publisherQos with
          qos :=
            { (resolveSubscriptionQos check topic base none publisherQos).qos with
              reliability := o.reliability.getD
                (resolveSubscriptionQos check topic base none publisherQos).qos.reliability
              durability := o.durability.getD
                (resolveSubscriptionQos check topic base none publisherQos).qos.durability }
          source := .override
          overrideId := o.id } := by
      rw [resolveSubscriptionQos_eq, resolveSubscriptionQos_eq, hfound, hnone]
      simp
    rw [heq]
    exact hresolved

/-- **The QoS that is configured** is the QoS that subscriptions have.  The bridge starts exactly
when a token is set, the ids of the QoS entries are not repeated and each has an entry whose pattern
parses, and the streams are accepted.  Then each id has its override, in the order of the ids, and
for every topic, whatever the publishers offer, the resolved QoS is the one inferred without a
configuration but for the axes that the entry with the best pattern names. -/
theorem configured_qos (expand : Expand) (rmw : RmwStrings)
    (validate : Str → Str → EndpointLayout → Except Str Unit) (environment : Option Str)
    (params : StartupParams) :
    ((∃ config, loadRuntimeConfig expand rmw validate environment params = .ok config) ↔
      (params.token ≠ [] ∨ ∃ value, environment = some value ∧ value ≠ []) ∧
        (params.qos.subscriptionQosIds.Nodup ∧ ∀ id ∈ params.qos.subscriptionQosIds,
          ∃ o entry, ConfiguredQos expand rmw params.qos.entries id o entry) ∧
        (∃ video, Video.loadConfig expand validate params.video = .ok video) ∧
        ∃ audio, Audio.loadConfig validate params.audio = .ok audio) ∧
    ∀ config, loadRuntimeConfig expand rmw validate environment params = .ok config →
      config.subscriptionQos.topicOverrides.map TopicSubscriptionQosOverride.id =
        params.qos.subscriptionQosIds ∧
      ∀ check topic base publisherQos,
        FollowsQos expand rmw params.qos.entries config.subscriptionQos.topicOverrides topic
          (resolveSubscriptionQos check topic base none publisherQos)
          (resolveSubscriptionQos check topic base (some config.subscriptionQos) publisherQos) := by
  refine ⟨⟨?_, ?_⟩, ?_⟩
  · intro h
    obtain ⟨config, hload⟩ := h
    obtain ⟨htoken, hqos, hvideo, haudio, -⟩ := loadRuntimeConfig_eq_ok_iff.mp hload
    obtain ⟨hnodup, hconfigured⟩ := loadSubscriptionQosConfig_eq_ok_iff.mp hqos
    exact ⟨exists_resolveAccessToken.mp ⟨_, htoken⟩, ⟨hnodup, (forall_configured hconfigured).1⟩,
      ⟨_, hvideo⟩, ⟨_, haudio⟩⟩
  · intro h
    obtain ⟨htoken, ⟨hnodup, hids⟩, ⟨video, hvideo⟩, ⟨audio, haudio⟩⟩ := h
    obtain ⟨token, htoken⟩ := exists_resolveAccessToken.mpr htoken
    obtain ⟨overrides, hconfigured⟩ := exists_configured hids
    exact ⟨⟨params.url, token, params.watchdog, .ofConfig expand params.access, ⟨overrides⟩, video,
      audio⟩, loadRuntimeConfig_eq_ok_iff.mpr ⟨htoken,
        loadSubscriptionQosConfig_eq_ok_iff.mpr ⟨hnodup, hconfigured⟩, hvideo, haudio, rfl, rfl,
        rfl⟩⟩
  · intro config hload
    obtain ⟨-, hqos, -⟩ := loadRuntimeConfig_eq_ok_iff.mp hload
    obtain ⟨-, hconfigured⟩ := loadSubscriptionQosConfig_eq_ok_iff.mp hqos
    refine ⟨map_id_of_configured hconfigured, ?_⟩
    intro check topic base publisherQos
    exact followsQos (forall_configured hconfigured).2 check topic base publisherQos

/-- What `rmw` makes of the names that the parameters are documented to have. -/
def rmwNames : RmwStrings where
  reliability name :=
    if name = lit "reliable" then .reliable
    else if name = lit "best_effort" then .bestEffort
    else .unknown
  durability name :=
    if name = lit "transient_local" then .transientLocal
    else if name = lit "volatile" then .volatile
    else .unknown

/-- A subtree, and one topic of it. -/
def frontParams : StartupParams where
  url := lit "wss://example"
  token := lit "token"
  watchdog := ⟨true, 75000⟩
  access := ⟨⟨[], []⟩, ⟨[], []⟩, ⟨[], []⟩⟩
  qos :=
    { subscriptionQosIds := [lit "camera", lit "front"]
      entries := (AList.insert (lit "camera") ⟨lit "/camera/*", lit "best_effort", lit "auto"⟩
        ∅).insert (lit "front") ⟨lit "camera/front ", lit "auto", lit "transient_local"⟩ }
  video := ⟨[], ∅, [], ∅⟩
  audio := ⟨[], ∅⟩

/-- The entry of the topic decides alone: it names the durability, and the reliability of the
subtree is not inherited. -/
theorem configured_qos_front :
    ∃ config, loadRuntimeConfig ros2Expand rmwNames (fun _ _ _ => .ok ()) none frontParams =
        .ok config ∧
      ∀ check base publisherQos,
        (resolveSubscriptionQos check (lit "/camera/front") base (some config.subscriptionQos)
          publisherQos).qos.durability = .transientLocal ∧
        (resolveSubscriptionQos check (lit "/camera/front") base (some config.subscriptionQos)
          publisherQos).qos.reliability =
          (resolveSubscriptionQos check (lit "/camera/front") base none
            publisherQos).qos.reliability := by
  have hload : loadRuntimeConfig ros2Expand rmwNames (fun _ _ _ => .ok ()) none frontParams =
      .ok ⟨lit "wss://example", lit "token", ⟨true, 75000⟩, ⟨⟨[]⟩, ⟨[]⟩, ⟨[]⟩, ⟨[]⟩, ⟨[]⟩, ⟨[]⟩⟩,
        ⟨[⟨lit "camera", ⟨lit "/camera/*", .subtree⟩, some .bestEffort, none⟩,
          ⟨lit "front", ⟨lit "/camera/front", .exact⟩, none, some .transientLocal⟩]⟩,
        Video.makeDefaultConfig, Audio.makeDefaultConfig⟩ := by rfl
  refine ⟨_, hload, ?_⟩
  intro check base publisherQos
  obtain ⟨-, hfollows⟩ := (configured_qos ros2Expand rmwNames (fun _ _ _ => .ok ()) none
    frontParams).2 _ hload
  specialize hfollows check (lit "/camera/front") base publisherQos
  generalize resolveSubscriptionQos check (lit "/camera/front") base (some _) publisherQos =
    resolved at hfollows ⊢
  cases hfollows with
  | unmatched hnone =>
    have hmatch := hnone _ (List.mem_cons_of_mem _ List.mem_cons_self)
    exact absurd hmatch (by decide)
  | @matched pre post o entry hbest hentry =>
    have hsplit := hbest.split
    cases pre with
    | nil =>
      obtain ⟨rfl, rfl⟩ := List.cons.inj hsplit
      exact absurd (hbest.after _ List.mem_cons_self (by decide)) (by decide)
    | cons first pre =>
      cases pre with
      | nil =>
        obtain ⟨rfl, -⟩ := List.cons.inj (List.cons.inj hsplit).2
        rw [← hentry.durability, ← hentry.reliability]
        exact ⟨rfl, rfl⟩
      | cons second pre => simp at hsplit

end LivekitBridge
