import LivekitBridge.Leases.Registry

/-!
# Echo-once

A client asks for the last message of a topic, and gets it as a byte stream of its own.
The message comes from the cache of the topic's publication, which is kept only for a
durable topic, is written by every message that arrives, throttled or not, and is gone
with the publication.

So what `dispatchEchoOnce` answers depends on the history: on the messages since the
publication was created.  `EchoEvent` is that history, `LastReceived` reads it, and
`Cached` is the invariant: what the cache of a publication holds is the last message
received since it was created.  A renewal and a sweep change the interval of a
publication and nothing else (`Carries`), and no publication is made in one step with a
message in it.
-/

namespace LivekitBridge

open Lib

/-! ### Publications in the registry -/

/-- The live publication of a data runtime. -/
def Runtime.publication : Runtime → Option Publication
  | .data publisher => publisher.publication
  | .video _ _ => none
  | .audio _ => none

/-- The live publication of the subscription under `key`. -/
def LeaseState.publicationAt (s : LeaseState) (key : Str) : Option Publication :=
  (s.subscriptions.lookup key : Option Subscription).bind fun sub => sub.runtime.publication

/-- The history of the publications. -/
inductive EchoEvent
  /-- A publication was created under the key. -/
  | opened (key : Str)
  /-- A message was received on the publication under the key. -/
  | received (key cdr : Str)
  /-- `dispatchEchoOnce` handed these over to `sendByteStream` and returned. -/
  | dispatched (result : Except Str LeaseManager.EchoOnceResult) (streams : List LeaseEvent)

/-- The publications that a step created. -/
def openedBetween (s t : LeaseState) : List EchoEvent :=
  (t.subscriptions.keys.filter fun key =>
    (s.publicationAt key).isNone && (t.publicationAt key).isSome).map .opened

/-- The message, if there is a publication to receive it. -/
def receivedBy (s : LeaseState) (key cdr : Str) : List EchoEvent :=
  if (s.publicationAt key).isSome then [.received key cdr] else []

/-- One call on the executor, with what it did to the publications. -/
inductive EchoStep (m : LeaseManager) : LeaseState → List EchoEvent → LeaseState → Prop
  | heartbeat (fx : Nat → DemandEffects) (now : Time) (identity : Str) (hb : Heartbeat)
      (s : LeaseState) :
      EchoStep m s (openedBetween s (m.handleHeartbeat fx now identity hb s).1)
        (m.handleHeartbeat fx now identity hb s).1
  | prune (now : Time) (s : LeaseState) :
      EchoStep m s (openedBetween s (LeaseManager.pruneExpiredLeases now s).1)
        (LeaseManager.pruneExpiredLeases now s).1
  | shutdown (s : LeaseState) :
      EchoStep m s (openedBetween s (LeaseManager.shutdown s)) (LeaseManager.shutdown s)
  | deliver (now : Time) (key cdr : Str) (s : LeaseState) :
      EchoStep m s (receivedBy s key cdr) (LeaseManager.deliver now key cdr s)
  | echo (sends : Bool) (kind : TargetKind) (name requester : Str) (s : LeaseState) :
      EchoStep m s
        [.dispatched (m.dispatchEchoOnce sends s kind name requester).1
          (m.dispatchEchoOnce sends s kind name requester).2] s

/-- The manager as a machine, with the history of its publications. -/
def LeaseManager.echoMachine (m : LeaseManager) : Machine LeaseState EchoEvent where
  start s := s = .initial
  step := EchoStep m

/-- The message received on the publication under the key. -/
def receivedOn (key : Str) : EchoEvent → Option Str
  | .received k cdr => if k = key then some cdr else none
  | _ => none

/-- A new publication under the key starts with nothing received. -/
def OpensUnder (key : Str) (_ : Str) : EchoEvent → Prop
  | .opened k => k = key
  | _ => False

/-- `cdr` is the last message received under the key since its publication was
created. -/
def LastReceived (key : Str) (tr : List EchoEvent) (cdr : Str) : Prop :=
  Standing (receivedOn key) (OpensUnder key) tr cdr

/-! ### What carries a publication over -/

/-- A publication stays with its cache and its durability, and a new one has an empty
cache. -/
structure Carries (old new : Option Publication) : Prop where
  keeps : ∀ p, old = some p →
    ∃ q, new = some q ∧ q.cachedCdr = p.cachedCdr ∧ q.isTransientLocal = p.isTransientLocal
  fresh : old = none → ∀ q, new = some q → q.cachedCdr = none

theorem Carries.refl (p : Option Publication) : Carries p p where
  keeps := fun p hp => ⟨p, hp, rfl, rfl⟩
  fresh := fun hnone q hq => by
    rw [hnone] at hq
    cases hq

theorem Carries.trans {a b c : Option Publication} (h : Carries a b) (h' : Carries b c) :
    Carries a c where
  keeps := by
    intro p hp
    obtain ⟨q, hq, hcache, hdurable⟩ := h.keeps p hp
    obtain ⟨r, hr, hcache', hdurable'⟩ := h'.keeps q hq
    exact ⟨r, hr, hcache'.trans hcache, hdurable'.trans hdurable⟩
  fresh := by
    intro hnone r hr
    cases hb : b with
    | none => exact h'.fresh hb r hr
    | some q =>
      obtain ⟨r', hr', hcache, _⟩ := h'.keeps q hb
      obtain rfl : r' = r := Option.some.inj (hr'.symm.trans hr)
      exact hcache.trans (h.fresh hnone q hb)

theorem DataTrackPublisher.carries_publish (d : DataTrackPublisher) (node : Node)
    (effects : PublicationEffects) : Carries d.publication (d.publish node effects).publication := by
  unfold DataTrackPublisher.publish
  cases hd : d.publication with
  | some p =>
    show Carries (some p) d.publication
    rw [hd]
    exact Carries.refl _
  | none =>
    refine ⟨fun p hp => (by cases hp), ?_⟩
    intro _ q hq
    exact (Publication.create_fresh hq).2

theorem DataTrackPublisher.carries_setIntervalMs (d : DataTrackPublisher) (intervalMs : Int) :
    Carries d.publication (d.setIntervalMs intervalMs).publication := by
  unfold DataTrackPublisher.setIntervalMs
  cases hd : d.publication with
  | none => exact Carries.refl none
  | some p =>
    refine ⟨?_, fun hnone => by cases hnone⟩
    rintro _ ⟨⟩
    exact ⟨_, rfl, rfl, rfl⟩

theorem renew_carries (node : Node) (fx : DemandEffects) (sub : Subscription) (requester : Str)
    (lease : Lease) :
    Carries sub.runtime.publication (renew node fx sub requester lease).1.runtime.publication := by
  unfold renew
  cases hrt : sub.runtime with
  | data publisher =>
    have hset := publisher.carries_setIntervalMs
      (minimumIntervalMs (sub.leases.insert requester lease))
    show Carries publisher.publication (DataTrackPublisher.publication _)
    split
    · exact hset
    · exact hset.trans (DataTrackPublisher.carries_publish _ node fx.publication)
  | video spec topic => exact Carries.refl none
  | audio spec => exact Carries.refl none

theorem publicationAt_insert (s : LeaseState) (key : Str) (sub : Subscription) (k : Str) :
    LeaseState.publicationAt { s with subscriptions := s.subscriptions.insert key sub } k =
      if k = key then sub.runtime.publication else s.publicationAt k := by
  rw [LeaseState.publicationAt, AList.lookup_insert_eq_if]
  split
  · rfl
  · rfl

namespace LeaseManager

variable (m : LeaseManager) (fx : DemandEffects) (s : LeaseState) (requester : Str)

theorem createRuntime_fresh {d : ResolvedDemand} {leases : Leases} {runtime : Runtime}
    {p : Publication} (h : (m.createRuntime fx d leases).1 = .ok runtime)
    (hp : runtime.publication = some p) : p.cachedCdr = none := by
  unfold createRuntime at h
  cases ha : d.audioSpec with
  | some spec =>
    rw [ha] at h
    cases hr : fx.runtime with
    | error what =>
      rw [hr] at h
      cases h
    | ok u =>
      rw [hr] at h
      obtain rfl := Except.ok.inj h
      cases hp
  | none =>
    rw [ha] at h
    cases hv : d.videoSpec with
    | some spec =>
      rw [hv] at h
      simp only [createVideo] at h
      split at h
      · cases h
      · split at h
        · obtain rfl := Except.ok.inj h
          cases hp
        · split at h
          · cases h
          · obtain rfl := Except.ok.inj h
            cases hp
    | none =>
      rw [hv] at h
      obtain rfl := Except.ok.inj h
      have hset := DataTrackPublisher.carries_setIntervalMs
        (DataTrackPublisher.new d.name d.interfaceType) (minimumIntervalMs leases)
      exact (hset.trans (DataTrackPublisher.carries_publish _ m.node fx.publication)).fresh rfl p hp

theorem create_carries (d : ResolvedDemand) (lease : Lease)
    (hnew : s.subscriptions.lookup d.key = none) (key : Str) :
    Carries (s.publicationAt key) ((m.create fx s d requester lease).2.1.publicationAt key) := by
  unfold create
  dsimp only
  rcases hrt : m.createRuntime fx d ((∅ : Leases).insert requester lease) with ⟨res, evs⟩
  cases res with
  | error what => exact Carries.refl _
  | ok runtime =>
    dsimp only
    rw [hnew]
    dsimp only
    rw [publicationAt_insert]
    split
    · rename_i hkey
      have hnone : s.publicationAt key = none := by
        rw [LeaseState.publicationAt, hkey, hnew]
        rfl
      rw [hnone]
      refine ⟨fun p hp => (by cases hp), fun _ q hq => ?_⟩
      exact m.createRuntime_fresh fx (by rw [hrt]) hq
    · exact Carries.refl _

theorem ensure_carries (d : ResolvedDemand) (expiry : Time) (key : Str) :
    Carries (s.publicationAt key) ((m.ensure fx s requester d expiry).2.1.publicationAt key) := by
  unfold ensure
  split
  · exact Carries.refl _
  · dsimp only
    cases hl : (s.subscriptions.lookup d.key : Option Subscription) with
    | some sub =>
      dsimp only
      rw [publicationAt_insert]
      split
      · rename_i hkey
        have hsub : s.publicationAt key = sub.runtime.publication := by
          rw [LeaseState.publicationAt, hkey, hl]
          rfl
        rw [hsub]
        exact renew_carries m.node fx sub requester _
      · exact Carries.refl _
    | none =>
      dsimp only
      cases hd : m.resolveDemandDelivery fx d with
      | error what => exact Carries.refl _
      | ok c =>
        refine m.create_carries fx s requester c _ ?_ key
        rw [(resolveDemandDelivery_keeps hd).2.2]
        exact hl

theorem appendDemandStatus_carries (demand : Demand) (expiry : Time) (key : Str) :
    Carries (s.publicationAt key)
      ((m.appendDemandStatus fx s requester demand expiry).2.1.publicationAt key) := by
  unfold appendDemandStatus
  split
  · exact Carries.refl _
  · split
    · exact Carries.refl _
    · cases hd : m.resolveDemand demand with
      | error what => exact Carries.refl _
      | ok d =>
        have he := m.ensure_carries fx s requester d expiry key
        dsimp only
        rcases hens : m.ensure fx s requester d expiry with ⟨res, s', evs⟩
        rw [hens] at he
        cases res with
        | error what => exact he
        | ok st => exact he

theorem appendDemandStatuses_carries (expiry : Time) (demands : List Demand) (key : Str) :
    ∀ (fx : Nat → DemandEffects) (s : LeaseState), Carries (s.publicationAt key)
      ((m.appendDemandStatuses requester expiry fx s demands).2.1.publicationAt key) := by
  induction demands with
  | nil => intro fx s; exact Carries.refl _
  | cons demand demands ih =>
    intro fx s
    exact (m.appendDemandStatus_carries (fx 0) s requester demand expiry key).trans
      (ih (fun i => fx (i + 1)) _)

/-- **A heartbeat carries every publication over.** -/
theorem handleHeartbeat_carries (fx : Nat → DemandEffects) (now : Time) (identity : Str)
    (hb : Heartbeat) (key : Str) :
    Carries (s.publicationAt key)
      ((m.handleHeartbeat fx now identity hb s).1.publicationAt key) := by
  cases hid : resolveIdentity s identity hb.sessionId with
  | none =>
    rw [handleHeartbeat_of_refused hid]
    exact Carries.refl _
  | some requester =>
    rw [handleHeartbeat_of_resolved hid]
    have hbind : s.publicationAt key =
        (s.bindSession requester hb.sessionId (now + m.heartbeatLeaseDuration)).publicationAt key := by
      unfold LeaseState.bindSession
      cases hb.sessionId <;> rfl
    rw [hbind]
    exact m.appendDemandStatuses_carries requester _ hb.demands key fx _

end LeaseManager

/-- A sweep drops a subscription or carries its publication over. -/
theorem pruneSubscription_carries (now : Time) (sub : Subscription) :
    (pruneSubscription now sub).1 = none ∨ ∃ kept, (pruneSubscription now sub).1 = some kept ∧
      Carries sub.runtime.publication kept.runtime.publication := by
  unfold pruneSubscription
  dsimp only
  split
  · exact .inr ⟨sub, rfl, Carries.refl _⟩
  · split
    · cases hrt : sub.runtime with
      | data publisher => exact .inr ⟨_, rfl, publisher.carries_setIntervalMs _⟩
      | video spec topic => exact .inr ⟨_, rfl, Carries.refl none⟩
      | audio spec => exact .inr ⟨_, rfl, Carries.refl none⟩
    · exact .inl rfl

theorem pruneExpiredLeases_carries (now : Time) (s : LeaseState) (key : Str) :
    (LeaseManager.pruneExpiredLeases now s).1.publicationAt key = none ∨
      Carries (s.publicationAt key)
        ((LeaseManager.pruneExpiredLeases now s).1.publicationAt key) := by
  unfold LeaseManager.pruneExpiredLeases
  split
  · exact .inr (Carries.refl _)
  · dsimp only [pruneLeases, pruneSessionLeases, LeaseState.publicationAt]
    rw [AList.lookup_filterMapVal]
    cases hl : (s.subscriptions.lookup key : Option Subscription) with
    | none => exact .inl rfl
    | some sub =>
      rcases pruneSubscription_carries now sub with hnone | ⟨kept, hkept, hcarries⟩
      · left
        simp [hnone]
      · right
        simpa [hkept] using hcarries

theorem shutdown_carries (s : LeaseState) (key : Str) :
    (LeaseManager.shutdown s).publicationAt key = none ∨
      Carries (s.publicationAt key) ((LeaseManager.shutdown s).publicationAt key) := by
  unfold LeaseManager.shutdown
  split
  · exact .inr (Carries.refl _)
  · exact .inl rfl

/-! ### A message -/

theorem publicationAt_deliver (now : Time) (key cdr : Str) (s : LeaseState) (k : Str) :
    (LeaseManager.deliver now key cdr s).publicationAt k =
      if k = key then (s.publicationAt key).map fun p => (p.push now cdr).1
      else s.publicationAt k := by
  obtain ⟨hsame, hnone⟩ | ⟨sub, publisher, hsub, hrt, hpushed⟩ :=
    LeaseManager.deliver_cases now key cdr s
  · -- without a data publisher under the key there is no publication either
    have hat : s.publicationAt key = none := by
      cases hl : (s.subscriptions.lookup key : Option Subscription) with
      | none =>
        rw [LeaseState.publicationAt, hl]
        rfl
      | some sub =>
        cases hrt : sub.runtime with
        | video _ _ =>
          rw [LeaseState.publicationAt, hl, Option.bind_some, hrt]
          rfl
        | audio _ =>
          rw [LeaseState.publicationAt, hl, Option.bind_some, hrt]
          rfl
        | data publisher => exact absurd hrt (hnone sub publisher hl)
    rw [hsame, hat]
    split
    · rename_i hk
      rw [hk, hat]
      rfl
    · rfl
  · have hat : s.publicationAt key = publisher.publication := by
      rw [LeaseState.publicationAt, hsub, Option.bind_some, hrt]
      rfl
    rw [hpushed, publicationAt_insert, hat]
    rfl

/-! ### The cache and the history -/

/-- The cache of a durable publication holds the last message received since it was
created, and the cache of any other is empty. -/
def Cached (tr : List EchoEvent) (s : LeaseState) : Prop :=
  ∀ key p, s.publicationAt key = some p →
    (p.isTransientLocal = true → ∀ cdr, p.cachedCdr = some cdr ↔ LastReceived key tr cdr) ∧
    (p.isTransientLocal = false → p.cachedCdr = none)

theorem cached_initial : Cached [] .initial := by
  intro key p hp
  cases hp

section Steps

variable {tr : List EchoEvent} {s t : LeaseState}

theorem opened_mem_openedBetween {key : Str} :
    EchoEvent.opened key ∈ openedBetween s t ↔
      s.publicationAt key = none ∧ (t.publicationAt key).isSome = true := by
  simp only [openedBetween, List.mem_map, List.mem_filter, Bool.and_eq_true, Option.isNone_iff_eq_none]
  constructor
  · rintro ⟨k, ⟨_, hk⟩, heq⟩
    obtain rfl := EchoEvent.opened.inj heq
    exact hk
  · rintro ⟨hs, ht⟩
    refine ⟨key, ⟨?_, hs, ht⟩, rfl⟩
    -- a publication belongs to a stored subscription
    rw [LeaseState.publicationAt] at ht
    cases hl : (t.subscriptions.lookup key : Option Subscription) with
    | none =>
      rw [hl] at ht
      cases ht
    | some sub =>
      exact AList.mem_keys.mp (AList.lookup_isSome.mp (by rw [hl]; rfl))

theorem receivedOn_openedBetween {key : Str} : ∀ e ∈ openedBetween s t, receivedOn key e = none := by
  intro e he
  obtain ⟨k, _, rfl⟩ := List.mem_map.mp he
  rfl

/-- A step that carries publications over, or drops them, keeps the caches in order. -/
theorem Cached.carry (h : Cached tr s)
    (hcarries : ∀ key, t.publicationAt key = none ∨
      Carries (s.publicationAt key) (t.publicationAt key)) :
    Cached (tr ++ openedBetween s t) t := by
  intro key q hq
  have hcarry : Carries (s.publicationAt key) (t.publicationAt key) := by
    rcases hcarries key with hnone | hcarry
    · rw [hq] at hnone
      cases hnone
    · exact hcarry
  cases hs : s.publicationAt key with
  | none =>
    have hempty := hcarry.fresh hs q hq
    refine ⟨fun _ cdr => ?_, fun _ => hempty⟩
    rw [hempty]
    have hopened : EchoEvent.opened key ∈ openedBetween s t :=
      opened_mem_openedBetween.mpr ⟨hs, by rw [hq]; rfl⟩
    have hcleared : ¬ LastReceived key (tr ++ openedBetween s t) cdr :=
      not_standing_append_of_clears receivedOn_openedBetween ⟨_, hopened, rfl⟩
    exact ⟨fun heq => (by cases heq), fun hlast => absurd hlast hcleared⟩
  | some p =>
    obtain ⟨q', hq', hcache, hdurable⟩ := hcarry.keeps p hs
    obtain rfl : q' = q := Option.some.inj (hq'.symm.trans hq)
    obtain ⟨hkept, hplain⟩ := h key p hs
    refine ⟨fun hd cdr => ?_, fun hd => ?_⟩
    · have hquiet : LastReceived key (tr ++ openedBetween s t) cdr ↔ LastReceived key tr cdr := by
        refine standing_append_of_quiet fun e he => ⟨receivedOn_openedBetween e he, ?_⟩
        obtain ⟨k, hk, rfl⟩ := List.mem_map.mp he
        rintro rfl
        rw [(opened_mem_openedBetween.mp he).1] at hs
        cases hs
      rw [hcache, hquiet]
      exact hkept (hdurable.symm.trans hd) cdr
    · rw [hcache]
      exact hplain (hdurable.symm.trans hd)

/-- A message is the last one received, on the publication it arrives at. -/
theorem Cached.deliver (h : Cached tr s) (now : Time) (key cdr : Str) :
    Cached (tr ++ receivedBy s key cdr) (LeaseManager.deliver now key cdr s) := by
  intro k q hq
  rw [publicationAt_deliver] at hq
  by_cases hk : k = key
  · subst hk
    rw [if_pos rfl] at hq
    obtain ⟨p, hp, rfl⟩ := Option.map_eq_some_iff.mp hq
    obtain ⟨hdurable, hcache⟩ := p.push_cachedCdr now cdr
    obtain ⟨_, hplain⟩ := h k p hp
    rw [hdurable, hcache, receivedBy, hp, Option.isSome_some, if_pos rfl]
    refine ⟨fun hd last => ?_, fun hd => ?_⟩
    · have hset : receivedOn k (.received k cdr) = some cdr := if_pos rfl
      rw [hd, if_pos rfl, LastReceived, standing_concat_of_set hset, Option.some.injEq, eq_comm]
    · rw [hd]
      exact hplain hd
  · rw [if_neg hk] at hq
    obtain ⟨hkept, hplain⟩ := h k q hq
    refine ⟨fun hd last => ?_, hplain⟩
    rw [hkept hd last]
    refine (standing_append_of_quiet fun e he => ?_).symm
    unfold receivedBy at he
    split at he
    · obtain rfl := List.mem_singleton.mp he
      exact ⟨if_neg fun heq => hk heq.symm, fun hc => hc⟩
    · cases he

theorem cached_of_trace {m : LeaseManager} (h : m.echoMachine.Trace tr s) : Cached tr s := by
  refine Machine.Trace.invariant ?_ ?_ h
  · rintro _ rfl
    exact cached_initial
  · intro tr evs s t _ hc hs
    cases hs with
    | heartbeat fx now identity hb =>
      exact hc.carry fun key => .inr (m.handleHeartbeat_carries s fx now identity hb key)
    | prune now => exact hc.carry fun key => pruneExpiredLeases_carries now s key
    | shutdown => exact hc.carry fun key => shutdown_carries s key
    | deliver now key cdr => exact hc.deliver now key cdr
    | echo sends kind name requester =>
      intro key p hp
      obtain ⟨hkept, hplain⟩ := hc key p hp
      refine ⟨fun hd cdr => ?_, hplain⟩
      rw [hkept hd cdr]
      refine (standing_append_of_quiet fun e he => ?_).symm
      obtain rfl := List.mem_singleton.mp he
      exact ⟨rfl, fun hc => hc⟩

end Steps

/-! ### The answers -/

/-- There is something to echo: the subscription under the resolved key is delivered as
data, its publication is live and durable, and `cdr` is the last message received on it. -/
def Echoable (m : LeaseManager) (tr : List EchoEvent) (s : LeaseState) (kind : TargetKind)
    (name cdr : Str) : Prop :=
  ∃ resolved sub publisher p, resolveName m.node kind name = .ok resolved ∧
    s.subscriptions.lookup (makeKey kind resolved) = some sub ∧ sub.runtime = .data publisher ∧
    publisher.publication = some p ∧ p.isTransientLocal = true ∧
    LastReceived (makeKey kind resolved) tr cdr

theorem publicationAt_eq_some {s : LeaseState} {key : Str} {p : Publication} :
    s.publicationAt key = some p ↔ ∃ sub publisher,
      (s.subscriptions.lookup key : Option Subscription) = some sub ∧
        sub.runtime = .data publisher ∧ publisher.publication = some p := by
  constructor
  · intro h
    obtain ⟨sub, hl, hpub⟩ := Option.bind_eq_some_iff.mp h
    cases hrt : sub.runtime with
    | data publisher =>
      rw [hrt] at hpub
      exact ⟨sub, publisher, hl, hrt, hpub⟩
    | video spec topic =>
      rw [hrt] at hpub
      cases hpub
    | audio spec =>
      rw [hrt] at hpub
      cases hpub
  · rintro ⟨sub, publisher, hl, hrt, hpub⟩
    rw [LeaseState.publicationAt, hl, Option.bind_some, hrt]
    exact hpub

namespace LeaseManager

variable {m : LeaseManager} {s : LeaseState} {kind : TargetKind} {name resolved : Str}
  {sub : Subscription} {publisher : DataTrackPublisher} {p : Publication}

theorem dispatchEchoOnce_of_live (hname : resolveName m.node kind name = .ok resolved)
    (hsub : s.subscriptions.lookup (makeKey kind resolved) = some sub)
    (hrt : sub.runtime = .data publisher) (hp : publisher.publication = some p) (sends : Bool)
    (requester : Str) :
    m.dispatchEchoOnce sends s kind name requester =
      (p.cachedCdr.elim (.ok .none) fun _ => if sends then .ok .sent else .ok .none,
        p.cachedCdr.elim [] fun cdr =>
          if sends then [.echoed p.subscribedTopic publisher.rosTopic cdr requester] else []) := by
  unfold dispatchEchoOnce
  rw [hname]
  dsimp only
  rw [hsub]
  dsimp only
  rw [hrt]
  dsimp only
  rw [DataTrackPublisher.cachedMessage, hp]
  dsimp only
  cases p.cachedCdr with
  | none => rfl
  | some cdr => cases sends <;> rfl

/-- Without one there is nothing to send. -/
theorem dispatchEchoOnce_of_not_live
    (h : ∀ resolved, resolveName m.node kind name = .ok resolved →
      s.publicationAt (makeKey kind resolved) = none) (sends : Bool) (requester : Str) :
    (m.dispatchEchoOnce sends s kind name requester).1 ≠ .ok .sent ∧
      (m.dispatchEchoOnce sends s kind name requester).2 = [] := by
  unfold dispatchEchoOnce
  split
  · exact ⟨by simp, rfl⟩
  · rename_i resolved hname
    have hnone := h resolved hname
    split
    · exact ⟨by simp, rfl⟩
    · rename_i sub hsub
      split
      · exact ⟨by simp, rfl⟩
      · exact ⟨by simp, rfl⟩
      · rename_i publisher hrt
        cases hp : publisher.publication with
        | none => exact ⟨by simp, rfl⟩
        | some p =>
          have hsome := publicationAt_eq_some.mpr ⟨sub, publisher, hsub, hrt, hp⟩
          rw [hnone] at hsome
          cases hsome

end LeaseManager

theorem echoable_iff {m : LeaseManager} {tr : List EchoEvent} {s : LeaseState} {kind : TargetKind}
    {name resolved cdr : Str} {sub : Subscription} {publisher : DataTrackPublisher} {p : Publication}
    (hcached : Cached tr s) (hname : resolveName m.node kind name = .ok resolved)
    (hsub : s.subscriptions.lookup (makeKey kind resolved) = some sub)
    (hrt : sub.runtime = .data publisher) (hp : publisher.publication = some p) :
    Echoable m tr s kind name cdr ↔ p.cachedCdr = some cdr := by
  obtain ⟨hdurable, hplain⟩ :=
    hcached _ p (publicationAt_eq_some.mpr ⟨sub, publisher, hsub, hrt, hp⟩)
  constructor
  · rintro ⟨resolved', sub', publisher', p', hname', hsub', hrt', hp', htl, hlast⟩
    obtain rfl : resolved = resolved' := Except.ok.inj (hname.symm.trans hname')
    obtain rfl : sub = sub' := Option.some.inj (hsub.symm.trans hsub')
    obtain rfl : publisher = publisher' := Runtime.data.inj (hrt.symm.trans hrt')
    obtain rfl : p = p' := Option.some.inj (hp.symm.trans hp')
    exact (hdurable htl cdr).mpr hlast
  · intro hcdr
    cases htl : p.isTransientLocal with
    | false =>
      rw [hplain htl] at hcdr
      cases hcdr
    | true =>
      exact ⟨resolved, sub, publisher, p, hname, hsub, hrt, hp, htl, (hdurable htl cdr).mp hcdr⟩

theorem EchoStep.eq_of_dispatched {m : LeaseManager} {s t : LeaseState} {evs : List EchoEvent}
    {result : Except Str LeaseManager.EchoOnceResult} {streams : List LeaseEvent}
    (hs : EchoStep m s evs t) (he : .dispatched result streams ∈ evs) : t = s := by
  cases hs with
  | echo sends kind name requester => rfl
  | deliver now key cdr =>
    unfold receivedBy at he
    split at he
    · simp at he
    · cases he
  | _ => simp [openedBetween] at he

/-- **Echo-once over whole runs.**  The answer is Sent exactly if there is something to
echo and the hand-off does not throw; then one stream went to the requester, with the last
message received; otherwise none did; and the registry is as it was. -/
theorem echoOnce_over_runs (m : LeaseManager) {tr : List EchoEvent} {s : LeaseState}
    (h : m.echoMachine.Trace tr s) (sends : Bool) (kind : TargetKind) (name requester : Str) :
    ((m.dispatchEchoOnce sends s kind name requester).1 = .ok .sent ↔
      (∃ cdr, Echoable m tr s kind name cdr) ∧ sends = true) ∧
    ((m.dispatchEchoOnce sends s kind name requester).1 = .ok .sent →
      ∃ topic rosTopic cdr, Echoable m tr s kind name cdr ∧
        (m.dispatchEchoOnce sends s kind name requester).2 =
          [.echoed topic rosTopic cdr requester]) ∧
    ((m.dispatchEchoOnce sends s kind name requester).1 ≠ .ok .sent →
      (m.dispatchEchoOnce sends s kind name requester).2 = []) ∧
    ∀ evs t, m.echoMachine.step s evs t →
      .dispatched (m.dispatchEchoOnce sends s kind name requester).1
        (m.dispatchEchoOnce sends s kind name requester).2 ∈ evs → t = s := by
  have hcached := cached_of_trace h
  have hframe : ∀ evs t, m.echoMachine.step s evs t →
      .dispatched (m.dispatchEchoOnce sends s kind name requester).1
        (m.dispatchEchoOnce sends s kind name requester).2 ∈ evs → t = s :=
    fun evs t hs he => EchoStep.eq_of_dispatched hs he
  by_cases hlive : ∃ resolved p, resolveName m.node kind name = .ok resolved ∧
      s.publicationAt (makeKey kind resolved) = some p
  · obtain ⟨resolved, p, hname, hat⟩ := hlive
    obtain ⟨sub, publisher, hsub, hrt, hp⟩ := publicationAt_eq_some.mp hat
    have hechoable : ∀ cdr, Echoable m tr s kind name cdr ↔ p.cachedCdr = some cdr :=
      fun cdr => echoable_iff hcached hname hsub hrt hp
    have hanswer := LeaseManager.dispatchEchoOnce_of_live hname hsub hrt hp sends requester
    refine ⟨?_, ?_, ?_, hframe⟩
    · rw [hanswer]
      simp only [hechoable]
      cases p.cachedCdr <;> cases sends <;> simp
    · rw [hanswer]
      simp only [hechoable]
      cases p.cachedCdr <;> cases sends <;> simp
    · rw [hanswer]
      cases p.cachedCdr <;> cases sends <;> simp
  · have hnone : ∀ resolved, resolveName m.node kind name = .ok resolved →
        s.publicationAt (makeKey kind resolved) = none := by
      intro resolved hname
      cases hat : s.publicationAt (makeKey kind resolved) with
      | none => rfl
      | some p => exact absurd ⟨resolved, p, hname, hat⟩ hlive
    obtain ⟨hresult, hstreams⟩ := LeaseManager.dispatchEchoOnce_of_not_live hnone sends requester
    refine ⟨⟨fun hsent => absurd hsent hresult, ?_⟩, fun hsent => absurd hsent hresult,
      fun _ => hstreams, hframe⟩
    rintro ⟨⟨cdr, resolved, sub, publisher, p, hname, hsub, hrt, hp, _⟩, _⟩
    exact absurd ⟨resolved, p, hname, publicationAt_eq_some.mpr ⟨sub, publisher, hsub, hrt, hp⟩⟩ hlive

/-- Alice listens to `/chatter` at most once in 100 ms; of two messages in one
millisecond the throttle drops the second. -/
def throttled : LeaseState :=
  LeaseManager.deliver 1000000 (lit "topic:/chatter") (lit "two")
    (LeaseManager.deliver 0 (lit "topic:/chatter") (lit "one")
      (openManager.handleHeartbeat (fun _ => chatterEffects) 0 (lit "alice")
        (chatterHeartbeat none 100) .initial).1)

/-- Bob is sent the second message. -/
theorem echoOnce_over_runs_throttled :
    (openManager.dispatchEchoOnce true throttled .topic (lit "chatter") (lit "bob")).1 = .ok .sent ∧
      LastReceived (lit "topic:/chatter")
        [.opened (lit "topic:/chatter"), .received (lit "topic:/chatter") (lit "one"),
          .received (lit "topic:/chatter") (lit "two")] (lit "two") ∧
      (openManager.dispatchEchoOnce true throttled .topic (lit "chatter") (lit "bob")).2 =
        [.echoed (lit "/chatter") (lit "/chatter") (lit "two") (lit "bob")] := by
  have h0 : openManager.echoMachine.Trace [] .initial := .start rfl
  have h1 := h0.step (EchoStep.heartbeat (fun _ => chatterEffects) 0 (lit "alice")
    (chatterHeartbeat none 100) _)
  have h2 := h1.step (EchoStep.deliver 0 (lit "topic:/chatter") (lit "one") _)
  have h3 : openManager.echoMachine.Trace
      [.opened (lit "topic:/chatter"), .received (lit "topic:/chatter") (lit "one"),
        .received (lit "topic:/chatter") (lit "two")] throttled :=
    h2.step (EchoStep.deliver 1000000 (lit "topic:/chatter") (lit "two") _)
  have hsent : (openManager.dispatchEchoOnce true throttled .topic (lit "chatter")
      (lit "bob")).1 = .ok .sent := rfl
  have hstreams : (openManager.dispatchEchoOnce true throttled .topic (lit "chatter")
      (lit "bob")).2 = [.echoed (lit "/chatter") (lit "/chatter") (lit "two") (lit "bob")] := rfl
  obtain ⟨topic, rosTopic, cdr, ⟨resolved, _, _, _, hname, _, _, _, _, hlast⟩, heq⟩ :=
    (echoOnce_over_runs openManager h3 true .topic (lit "chatter") (lit "bob")).2.1 hsent
  rw [hstreams] at heq
  obtain ⟨-, -, rfl, -⟩ := LeaseEvent.echoed.inj (List.cons.inj heq).1
  obtain rfl : lit "/chatter" = resolved :=
    Except.ok.inj (show Except.ok (lit "/chatter") = Except.ok resolved from hname)
  exact ⟨hsent, hlast, hstreams⟩

end LivekitBridge
