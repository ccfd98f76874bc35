import LivekitBridge.Leases.Manager
import Mathlib.Order.Bounds.Basic

/-!
# The lease registry

What holds of the leases in every reachable state, whatever the order of
heartbeats, sweeps and shutdowns and whatever fails on the way.

`ensure_cases` says once what `ensure` can do: either nothing, or it stores one
subscription under the demand's key whose leases are those that were there, with
the requester's replaced.  Everything about heartbeats follows from it.
`Registered tr s` is the invariant of a trace, and `Registered.step` carries it
through each kind of step; its last field ties the leases to the history, by the
`Standing` register of each key and requester.
-/

namespace LivekitBridge

open Lib

/-! ### Runs of the manager -/

/-- One call on the executor, with what it did; a sweep and a shutdown are recorded
here, whatever they do.  Messages that arrive on ROS subscriptions and echo-once
requests come between the calls that change leases. -/
inductive LeaseStep (m : LeaseManager) : LeaseState → List LeaseEvent → LeaseState → Prop
  | heartbeat (fx : Nat → DemandEffects) (now : Time) (identity : Str) (hb : Heartbeat)
      (s : LeaseState) :
      LeaseStep m s (m.handleHeartbeat fx now identity hb s).2
        (m.handleHeartbeat fx now identity hb s).1
  | prune (now : Time) (s : LeaseState) :
      LeaseStep m s ((LeaseManager.pruneExpiredLeases now s).2 ++ [.pruned now])
        (LeaseManager.pruneExpiredLeases now s).1
  | shutdown (s : LeaseState) : LeaseStep m s [.shutDown] (LeaseManager.shutdown s)
  | deliver (now : Time) (key cdr : Str) (s : LeaseState) :
      LeaseStep m s [] (LeaseManager.deliver now key cdr s)
  | echo (sends : Bool) (kind : TargetKind) (name requester : Str) (s : LeaseState) :
      LeaseStep m s (m.dispatchEchoOnce sends s kind name requester).2 s

def LeaseManager.machine (m : LeaseManager) : Machine LeaseState LeaseEvent where
  start s := s = .initial
  step := LeaseStep m

/-- The lease of `requester` under `key`. -/
def LeaseState.leaseAt (s : LeaseState) (key requester : Str) : Option Lease :=
  (s.subscriptions.lookup key : Option Subscription).bind fun sub =>
    (sub.leases.lookup requester : Option Lease)

/-- The lease that a successful `ensure` for `(key, requester)` stores. -/
def ensuredLease (key requester : Str) : LeaseEvent → Option Lease
  | .ensured k r lease => if k = key ∧ r = requester then some lease else none
  | _ => none

/-- A sweep at or after the expiry ends a lease, and so does a shutdown. -/
def EndsLease (lease : Lease) : LeaseEvent → Prop
  | .pruned now => lease.expiry ≤ now
  | .shutDown => True
  | _ => False

/-- The history of `(key, requester)`: the last successful `ensure` stored
`lease`, and neither a sweep since has found it expired nor a shutdown has
happened. -/
def Leased (key requester : Str) (tr : List LeaseEvent) (lease : Lease) : Prop :=
  Standing (ensuredLease key requester) EndsLease tr lease

/-! ### The minimum interval -/

/-- The intervals that the leases ask for. -/
def preferredIntervals (leases : Leases) : Set Int :=
  {ms | ∃ requester lease, leases.lookup requester = some lease ∧ lease.preferredIntervalMs = ms}

theorem foldl_min_isLeast : ∀ (l : List (Sigma fun _ : Str => Lease)) (init : Int),
    IsLeast ({init} ∪ {ms | ∃ e ∈ l, e.2.preferredIntervalMs = ms})
      (l.foldl (fun ms e => min ms e.2.preferredIntervalMs) init) := by
  intro l
  induction l with
  | nil =>
    intro init
    simp [IsLeast, lowerBounds]
  | cons e l ih =>
    intro init
    obtain ⟨hmem, hlow⟩ := ih (min init e.2.preferredIntervalMs)
    rw [List.foldl_cons]
    constructor
    · rcases hmem with h | ⟨e', he', h⟩
      · rw [Set.mem_singleton_iff] at h
        rw [h]
        rcases le_total init e.2.preferredIntervalMs with hm | hm
        · exact .inl (min_eq_left hm)
        · exact .inr ⟨e, by simp, (min_eq_right hm).symm⟩
      · exact .inr ⟨e', by simp [he'], h⟩
    · have hinit := hlow (.inl rfl)
      rintro ms (rfl | ⟨e', he', rfl⟩)
      · exact hinit.trans (min_le_left _ _)
      · rcases List.mem_cons.mp he' with rfl | he'
        · exact hinit.trans (min_le_right _ _)
        · exact hlow (.inr ⟨e', he', rfl⟩)

/-- **The loop computes the minimum** of a map that is not empty. -/
theorem minimumIntervalMs_isLeast {leases : Leases} (h : leases ≠ ∅) :
    IsLeast (preferredIntervals leases) (minimumIntervalMs leases) := by
  have hset : preferredIntervals leases = {ms | ∃ e ∈ leases.entries, e.2.preferredIntervalMs = ms} := by
    ext ms
    constructor
    · rintro ⟨r, lease, hl, hms⟩
      exact ⟨⟨r, lease⟩, AList.mem_lookup_iff.mp hl, hms⟩
    · rintro ⟨⟨r, lease⟩, he, hms⟩
      exact ⟨r, lease, AList.mem_lookup_iff.mpr he, hms⟩
  rw [hset, minimumIntervalMs]
  cases he : leases.entries with
  | nil => exact absurd (AList.ext he) h
  | cons e l =>
    have hl := foldl_min_isLeast (e :: l) e.2.preferredIntervalMs
    rwa [Set.union_eq_self_of_subset_left] at hl
    rintro ms rfl
    exact ⟨e, by simp, rfl⟩

/-! ### What one demand can do -/

/-- What holds of a subscription stored under `key`. -/
structure Subscription.WellFormed (key : Str) (sub : Subscription) : Prop where
  key_eq : key = makeKey sub.kind sub.name
  leases_ne : sub.leases ≠ ∅
  paced : ∀ publisher, sub.runtime = .data publisher →
    publisher.Paced (minimumIntervalMs sub.leases)

/-- `minimumIntervalMs` was evaluated on leases, and on nothing else happened. -/
def OnlyMinima (evs : List LeaseEvent) : Prop :=
  ∀ e ∈ evs, ∃ leases : Leases, leases ≠ ∅ ∧ e = .minimum leases

theorem onlyMinima_nil : OnlyMinima [] := by
  intro e he
  cases he

theorem onlyMinima_singleton {leases : Leases} (h : leases ≠ ∅) :
    OnlyMinima [.minimum leases] := by
  intro e he
  exact ⟨leases, h, by simpa using he⟩

theorem insert_ne_empty (leases : Leases) (r : Str) (lease : Lease) :
    leases.insert r lease ≠ ∅ := by
  intro h
  have := AList.lookup_insert (s := leases) (a := r) (b := lease)
  rw [h, AList.lookup_empty] at this
  cases this

/-- `renew` stores the lease, keeps the name, and sets the pace. -/
theorem renew_spec (node : Node) (fx : DemandEffects) (sub : Subscription) (r : Str)
    (lease : Lease) :
    OnlyMinima (renew node fx sub r lease).2 ∧
      (renew node fx sub r lease).1.kind = sub.kind ∧
      (renew node fx sub r lease).1.name = sub.name ∧
      (renew node fx sub r lease).1.leases = sub.leases.insert r lease ∧
      ∀ publisher, (renew node fx sub r lease).1.runtime = .data publisher →
        publisher.Paced (minimumIntervalMs (sub.leases.insert r lease)) := by
  have hne := insert_ne_empty sub.leases r lease
  unfold renew
  cases hrt : sub.runtime with
  | data publisher =>
    refine ⟨onlyMinima_singleton hne, rfl, rfl, rfl, ?_⟩
    intro p hp
    obtain rfl := Runtime.data.inj hp
    have hpace := publisher.paced_setIntervalMs (minimumIntervalMs (sub.leases.insert r lease))
    split
    · exact hpace
    · exact hpace.publish node fx.publication
  | video spec topic =>
    refine ⟨onlyMinima_nil, rfl, rfl, rfl, ?_⟩
    intro p hp
    exact absurd hp (by simp)
  | audio spec =>
    refine ⟨onlyMinima_nil, rfl, rfl, rfl, ?_⟩
    intro p hp
    exact absurd hp (by simp)

namespace LeaseManager

variable {m : LeaseManager} {fx : DemandEffects} {s s' : LeaseState}

theorem resolveDemand_key {demand : Demand} {d : ResolvedDemand}
    (h : m.resolveDemand demand = .ok d) : d.key = makeKey d.kind d.name := by
  unfold resolveDemand at h
  split at h
  · cases h
  · obtain rfl := Except.ok.inj h
    rfl

theorem resolveDemandSpec_keeps {d c : ResolvedDemand} (h : m.resolveDemandSpec d = .ok c) :
    c.kind = d.kind ∧ c.name = d.name ∧ c.key = d.key := by
  unfold resolveDemandSpec at h
  split at h
  all_goals
    split at h
    · cases h
    · obtain rfl := Except.ok.inj h
      exact ⟨rfl, rfl, rfl⟩

theorem resolveDemandDelivery_keeps {d c : ResolvedDemand}
    (h : m.resolveDemandDelivery fx d = .ok c) :
    c.kind = d.kind ∧ c.name = d.name ∧ c.key = d.key := by
  unfold resolveDemandDelivery at h
  split at h
  · split at h
    · cases h
    · dsimp only at h
      split at h
      · obtain rfl := Except.ok.inj h
        exact ⟨rfl, rfl, rfl⟩
      · have := resolveDemandSpec_keeps h
        exact this
  · exact resolveDemandSpec_keeps h

theorem createVideo_cases {fx : DemandEffects} {spec : Video.StreamSpec} {runtime : Runtime}
    (h : m.createVideo fx spec = .ok runtime) :
    (∃ source, spec.input = .other source ∧ runtime = .video spec none) ∨
    ∃ input topic, spec.input = .ros input ∧ m.node.resolveTopicName input.topic = .ok topic ∧
      runtime = .video spec (some topic) := by
  unfold createVideo at h
  split at h
  · cases h
  · split at h
    · rename_i source hinput
      exact .inl ⟨source, hinput, (Except.ok.inj h).symm⟩
    · rename_i input hinput
      split at h
      · cases h
      · rename_i topic htopic
        exact .inr ⟨input, topic, hinput, htopic, (Except.ok.inj h).symm⟩

theorem createRuntime_spec (m : LeaseManager) (fx : DemandEffects) (d : ResolvedDemand)
    {leases : Leases} (hne : leases ≠ ∅) :
    OnlyMinima (m.createRuntime fx d leases).2 ∧
      ∀ publisher, (m.createRuntime fx d leases).1 = .ok (.data publisher) →
        publisher.Paced (minimumIntervalMs leases) := by
  unfold createRuntime
  cases d.audioSpec with
  | some spec =>
    cases fx.runtime with
    | error what => exact ⟨onlyMinima_nil, fun p hp => by simp at hp⟩
    | ok u => exact ⟨onlyMinima_nil, fun p hp => by simp at hp⟩
  | none =>
    cases d.videoSpec with
    | some spec =>
      refine ⟨onlyMinima_nil, fun p hp => ?_⟩
      obtain ⟨_, _, hvideo⟩ | ⟨_, _, _, _, hvideo⟩ := createVideo_cases hp
      · cases hvideo
      · cases hvideo
    | none =>
      refine ⟨onlyMinima_singleton hne, fun p hp => ?_⟩
      obtain rfl := Runtime.data.inj (Except.ok.inj hp)
      exact (DataTrackPublisher.paced_setIntervalMs _ _).publish m.node fx.publication

/-- What a successful `ensure` for `(key, requester)` does to the state: one
subscription is stored under `key`, with the requester's lease replaced. -/
structure Stores (s : LeaseState) (key requester : Str) (lease : Lease) (s' : LeaseState) : Prop where
  opened : s.isShutdown = false
  stored : ∃ sub : Subscription, s' = { s with subscriptions := s.subscriptions.insert key sub } ∧
    ((∀ old, s.subscriptions.lookup key = some old → key = makeKey old.kind old.name) →
      sub.WellFormed key) ∧
    ∀ r, sub.leases.lookup r = if r = requester then some lease else s.leaseAt key r

/-- `create` under a key that is not taken: the runtime fails, or the one lease is
stored, and the status is that of the new subscription. -/
theorem create_cases (m : LeaseManager) (fx : DemandEffects) (requester : Str)
    {c : ResolvedDemand} (lease : Lease)
    (hkey : c.key = makeKey c.kind c.name) (hsd : s.isShutdown = false)
    (hnew : s.subscriptions.lookup c.key = none) :
    OnlyMinima (m.create fx s c requester lease).2.2 ∧
      ((∃ what, (m.create fx s c requester lease).1 = .error what ∧
          (m.create fx s c requester lease).2.1 = s) ∨
        (∃ sub, (m.create fx s c requester lease).1 = .ok (status sub) ∧
          (m.create fx s c requester lease).2.1.subscriptions.lookup c.key = some sub ∧
          Stores s c.key requester lease (m.create fx s c requester lease).2.1)) := by
  have hne := insert_ne_empty ∅ requester lease
  obtain ⟨hmin, hpace⟩ := createRuntime_spec m fx c hne
  unfold create
  dsimp only
  rcases hrt : m.createRuntime fx c ((∅ : Leases).insert requester lease) with ⟨res, evs⟩
  rw [hrt] at hmin hpace
  cases res with
  | error what => exact ⟨hmin, .inl ⟨_, rfl, rfl⟩⟩
  | ok runtime =>
    dsimp only
    rw [hnew]
    refine ⟨hmin, .inr ⟨_, rfl, AList.lookup_insert _, hsd, _, rfl, ?_, ?_⟩⟩
    · intro _
      exact ⟨hkey, hne, fun publisher hp => hpace publisher (congrArg Except.ok hp)⟩
    · intro r
      rw [AList.lookup_insert_eq_if, AList.lookup_empty, LeaseState.leaseAt, hnew]
      rfl

/-- **What `ensure` can do**: fail and leave the state alone, or store the lease and
return the status of the subscription under the key. -/
theorem ensure_cases (m : LeaseManager) (fx : DemandEffects) (s : LeaseState) (requester : Str)
    {d : ResolvedDemand} (expiry : Time)
    (hkey : d.key = makeKey d.kind d.name) :
    OnlyMinima (m.ensure fx s requester d expiry).2.2 ∧
      ((∃ what, (m.ensure fx s requester d expiry).1 = .error what ∧
          (m.ensure fx s requester d expiry).2.1 = s) ∨
        (∃ sub, (m.ensure fx s requester d expiry).1 = .ok (status sub) ∧
          (m.ensure fx s requester d expiry).2.1.subscriptions.lookup d.key = some sub ∧
          Stores s d.key requester ⟨d.preferredIntervalMs, expiry⟩
            (m.ensure fx s requester d expiry).2.1)) := by
  unfold ensure
  by_cases hsd : s.isShutdown = true
  · rw [if_pos hsd]
    exact ⟨onlyMinima_nil, .inl ⟨_, rfl, rfl⟩⟩
  · rw [if_neg hsd]
    rw [Bool.not_eq_true] at hsd
    dsimp only
    cases hl : (s.subscriptions.lookup d.key : Option Subscription) with
    | some sub =>
      obtain ⟨hmin, hkind, hname, hleases, hpace⟩ :=
        renew_spec m.node fx sub requester ⟨d.preferredIntervalMs, expiry⟩
      refine ⟨hmin, .inr ⟨_, rfl, AList.lookup_insert _, hsd, _, rfl, ?_, ?_⟩⟩
      · intro hold
        refine ⟨?_, ?_, ?_⟩
        · rw [hkind, hname]
          exact hold sub hl
        · rw [hleases]
          exact insert_ne_empty _ _ _
        · rw [hleases]
          exact hpace
      · intro r
        rw [hleases, AList.lookup_insert_eq_if, LeaseState.leaseAt, hl]
        rfl
    | none =>
      dsimp only
      cases hd : m.resolveDemandDelivery fx d with
      | error what => exact ⟨onlyMinima_nil, .inl ⟨_, rfl, rfl⟩⟩
      | ok c =>
        obtain ⟨hckind, hcname, hckey⟩ := resolveDemandDelivery_keeps hd
        have hc := create_cases m fx (s := s) (c := c) requester
          ⟨d.preferredIntervalMs, expiry⟩ (by rw [hckind, hcname, hckey]; exact hkey) hsd
          (by rw [hckey]; exact hl)
        rwa [hckey] at hc

/-- The policy denies a demand: subscribe rules apply to ROS topics. -/
def Denied (m : LeaseManager) (demand : Demand) : Prop :=
  demand.kind = .topic ∧ m.accessPolicy.allows m.node.expand .subscribe demand.name = false

/-- A demand cannot be served: the registry is shut down, its name does not resolve, or
`ensure` throws. -/
def EnsureFails (m : LeaseManager) (fx : DemandEffects) (s : LeaseState) (requester : Str)
    (demand : Demand) (expiry : Time) : Prop :=
  s.isShutdown = true ∨ (∃ what, m.resolveDemand demand = .error what) ∨
    ∃ d what, m.resolveDemand demand = .ok d ∧
      (m.ensure fx s requester d expiry).1 = .error what

/-- **What one demand of a heartbeat can do**: nothing to the state, and its entry is an
error that names it; or one successful `ensure` under the key it resolves to, and its
entry shows the subscription there. -/
theorem appendDemandStatus_cases (m : LeaseManager) (fx : DemandEffects) (s : LeaseState)
    (requester : Str) (demand : Demand) (expiry : Time) :
    ((m.Denied demand ∨ m.EnsureFails fx s requester demand expiry) ∧
      (m.appendDemandStatus fx s requester demand expiry).2.1 = s ∧
      OnlyMinima (m.appendDemandStatus fx s requester demand expiry).2.2 ∧
      ∃ reason message, reason ≠ .unsupportedKind ∧
        (m.appendDemandStatus fx s requester demand expiry).1 =
          demandError demand reason message) ∨
    (¬ (m.Denied demand ∨ m.EnsureFails fx s requester demand expiry) ∧
      ∃ d evs sub, m.resolveDemand demand = .ok d ∧ OnlyMinima evs ∧
        (m.appendDemandStatus fx s requester demand expiry).2.2 =
          evs ++ [.ensured d.key requester ⟨d.preferredIntervalMs, expiry⟩] ∧
        Stores s d.key requester ⟨d.preferredIntervalMs, expiry⟩
          (m.appendDemandStatus fx s requester demand expiry).2.1 ∧
        (m.appendDemandStatus fx s requester demand expiry).2.1.subscriptions.lookup d.key =
          some sub ∧
        (m.appendDemandStatus fx s requester demand expiry).1 = .active (status sub)) := by
  unfold appendDemandStatus
  by_cases hdenied : demand.kind = .topic ∧
      m.accessPolicy.allows m.node.expand .subscribe demand.name = false
  · rw [if_pos hdenied]
    exact .inl ⟨.inl hdenied, rfl, onlyMinima_nil, _, _, by decide, rfl⟩
  · rw [if_neg hdenied]
    by_cases hsd : s.isShutdown = true
    · rw [if_pos hsd]
      exact .inl ⟨.inr (.inl hsd), rfl, onlyMinima_nil, _, _, by decide, rfl⟩
    · rw [if_neg hsd]
      cases hd : m.resolveDemand demand with
      | error what =>
        exact .inl ⟨.inr (.inr (.inl ⟨what, hd⟩)), rfl, onlyMinima_nil, _, _, by decide, rfl⟩
      | ok d =>
        dsimp only
        obtain ⟨hmin, hcases⟩ := ensure_cases m fx s requester expiry (resolveDemand_key hd)
        rcases he : m.ensure fx s requester d expiry with ⟨res, s', evs⟩
        rw [he] at hmin hcases
        rcases hcases with ⟨what, rfl, hs⟩ | ⟨sub, rfl, hsub, hs⟩
        · refine .inl ⟨.inr (.inr (.inr ⟨d, what, hd, by rw [he]⟩)), hs, hmin, _, _, by decide, rfl⟩
        · refine .inr ⟨?_, d, evs, sub, rfl, hmin, rfl, hs, hsub, rfl⟩
          rintro (hyes | hyes | ⟨what, hyes⟩ | ⟨d', what, hyes, hwhat⟩)
          · exact hdenied hyes
          · exact hsd hyes
          · rw [hd] at hyes
            cases hyes
          · obtain rfl := Except.ok.inj (hd.symm.trans hyes)
            rw [he] at hwhat
            cases hwhat

end LeaseManager

/-! ### What a heartbeat does -/

/-- The session of a heartbeat is bound to its requester until `expiry`. -/
def LeaseState.bindSession (s : LeaseState) (requester : Str) (sessionId : Option Str)
    (expiry : Time) : LeaseState :=
  match sessionId with
  | none => s
  | some id => { s with sessionLeases := s.sessionLeases.insert id ⟨requester, expiry⟩ }

@[simp] theorem LeaseState.bindSession_isShutdown (s : LeaseState) (r : Str) (id : Option Str)
    (e : Time) : (s.bindSession r id e).isShutdown = s.isShutdown := by
  cases id <;> rfl

@[simp] theorem LeaseState.bindSession_subscriptions (s : LeaseState) (r : Str) (id : Option Str)
    (e : Time) : (s.bindSession r id e).subscriptions = s.subscriptions := by
  cases id <;> rfl

section Heartbeat

variable {m : LeaseManager} {s : LeaseState} {identity requester : Str} {sessionId : Option Str}

theorem resolveIdentity_bound (h : resolveIdentity s identity sessionId = some requester)
    {id : Str} (hid : sessionId = some id) {lease : SessionLease}
    (hl : s.sessionLeases.lookup id = some lease) : lease.requesterIdentity = requester := by
  subst hid
  unfold resolveIdentity at h
  split at h
  · simp only [Option.bind_some, hl] at h
    exact Option.some.inj h
  · simp only [hl] at h
    split at h
    · cases h
    · rename_i heq
      rw [ne_eq, not_not] at heq
      exact heq.trans (Option.some.inj h)

/-- **`renewSessionLease` does not throw** after `resolveIdentity` has answered. -/
theorem renewSessionLease_of_resolved (expiry : Time)
    (h : resolveIdentity s identity sessionId = some requester) :
    renewSessionLease s requester sessionId expiry =
      .ok (s.bindSession requester sessionId expiry) := by
  unfold renewSessionLease
  cases sessionId with
  | none => rfl
  | some id =>
    have hfound : ((s.sessionLeases.lookup id : Option SessionLease).getD
        ⟨requester, expiry⟩).requesterIdentity = requester := by
      cases hl : (s.sessionLeases.lookup id : Option SessionLease) with
      | none => rfl
      | some lease => exact resolveIdentity_bound h rfl hl
    dsimp only
    rw [if_neg (by rw [hfound]; simp), hfound]
    rfl

namespace LeaseManager

variable {fx : Nat → DemandEffects} {now : Time} {hb : Heartbeat}

theorem handleHeartbeat_of_refused (h : resolveIdentity s identity hb.sessionId = none) :
    m.handleHeartbeat fx now identity hb s =
      (s, [.heartbeat now identity hb.sessionId none]) := by
  unfold handleHeartbeat
  rw [h]

/-- The demands of a heartbeat, served for `requester`. -/
def serveDemands (m : LeaseManager) (fx : Nat → DemandEffects) (now : Time) (hb : Heartbeat)
    (s : LeaseState) (requester : Str) : List StatusEntry × LeaseState × List LeaseEvent :=
  m.appendDemandStatuses requester (now + m.heartbeatLeaseDuration) fx
    (s.bindSession requester hb.sessionId (now + m.heartbeatLeaseDuration)) hb.demands

def reportOf (m : LeaseManager) (now : Time) (hb : Heartbeat) (entries : List StatusEntry) :
    StatusReport :=
  ⟨entries ++ hb.unsupported.map appendUnsupportedStatus, hb.sessionId,
    now + m.heartbeatLeaseDuration⟩

/-- **What an accepted heartbeat does**: bind the session, serve the demands in
turn, report to the requester. -/
theorem handleHeartbeat_of_resolved
    (h : resolveIdentity s identity hb.sessionId = some requester) :
    m.handleHeartbeat fx now identity hb s =
      ((m.serveDemands fx now hb s requester).2.1,
        .heartbeat now identity hb.sessionId (some requester) ::
          (m.serveDemands fx now hb s requester).2.2 ++
          publishStatusReport requester
            (m.reportOf now hb (m.serveDemands fx now hb s requester).1)) := by
  unfold handleHeartbeat
  rw [h]
  dsimp only
  rw [renewSessionLease_of_resolved _ h]
  rfl

end LeaseManager

end Heartbeat

/-! ### What a message and an echo do -/

section Message

variable {m : LeaseManager} {s : LeaseState}

/-- A message changes nothing, or goes to the data publisher under its key. -/
theorem LeaseManager.deliver_cases (now : Time) (key cdr : Str) (s : LeaseState) :
    (LeaseManager.deliver now key cdr s = s ∧
      ∀ (sub : Subscription) (publisher : DataTrackPublisher),
        s.subscriptions.lookup key = some sub → sub.runtime ≠ .data publisher) ∨
    ∃ (sub : Subscription) (publisher : DataTrackPublisher),
      s.subscriptions.lookup key = some sub ∧ sub.runtime = .data publisher ∧
      LeaseManager.deliver now key cdr s =
        { s with
          subscriptions :=
            s.subscriptions.insert key { sub with runtime := .data (publisher.push now cdr) } } := by
  unfold LeaseManager.deliver
  split
  · rename_i hl
    refine .inl ⟨rfl, ?_⟩
    intro sub publisher hsub
    rw [hl] at hsub
    cases hsub
  · rename_i sub hl
    split
    · rename_i spec topic hrt
      refine .inl ⟨rfl, ?_⟩
      intro sub' publisher hsub
      obtain rfl := Option.some.inj (hl.symm.trans hsub)
      simp [hrt]
    · rename_i spec hrt
      refine .inl ⟨rfl, ?_⟩
      intro sub' publisher hsub
      obtain rfl := Option.some.inj (hl.symm.trans hsub)
      simp [hrt]
    · rename_i publisher hrt
      exact .inr ⟨sub, publisher, hl, hrt, rfl⟩

theorem LeaseManager.mem_dispatchEchoOnce {sends : Bool} {kind : TargetKind}
    {name requester : Str} {e : LeaseEvent}
    (he : e ∈ (m.dispatchEchoOnce sends s kind name requester).2) :
    ∃ (key : Str) (sub : Subscription) (publisher : DataTrackPublisher) (p : Publication)
      (rosTopic cdr : Str), s.subscriptions.lookup key = some sub ∧
      sub.runtime = .data publisher ∧ publisher.publication = some p ∧
      e = .echoed p.subscribedTopic rosTopic cdr requester := by
  unfold LeaseManager.dispatchEchoOnce at he
  split at he
  · cases he
  · split at he
    · cases he
    · rename_i sub hsub
      split at he
      · cases he
      · cases he
      · rename_i publisher hrt
        split at he
        · rename_i p rosTopic cdr hpub _
          split at he
          · exact ⟨_, sub, publisher, p, rosTopic, cdr, hsub, hrt, hpub, List.mem_singleton.mp he⟩
          · cases he
        · cases he

theorem LeaseManager.dispatchEchoOnce_events {sends : Bool} {kind : TargetKind}
    {name requester : Str} {e : LeaseEvent}
    (he : e ∈ (m.dispatchEchoOnce sends s kind name requester).2) :
    ∃ topic rosTopic cdr, e = .echoed topic rosTopic cdr requester := by
  obtain ⟨_, _, _, p, rosTopic, cdr, _, _, _, hecho⟩ := mem_dispatchEchoOnce he
  exact ⟨p.subscribedTopic, rosTopic, cdr, hecho⟩

end Message

/-! ### Leases across one change -/

section LeaseAt

variable {s s' : LeaseState}

theorem leaseAt_insert (s : LeaseState) (key : Str) (sub : Subscription) (k r : Str) :
    ({ s with subscriptions := s.subscriptions.insert key sub } : LeaseState).leaseAt k r =
      if k = key then sub.leases.lookup r else s.leaseAt k r := by
  rw [LeaseState.leaseAt, AList.lookup_insert_eq_if]
  split
  · rfl
  · rfl

theorem LeaseManager.Stores.leaseAt {key requester : Str} {lease : Lease}
    (h : LeaseManager.Stores s key requester lease s') (k r : Str) :
    s'.leaseAt k r = if k = key ∧ r = requester then some lease else s.leaseAt k r := by
  obtain ⟨sub, rfl, _, hl⟩ := h.stored
  rw [leaseAt_insert]
  by_cases hk : k = key
  · subst hk
    rw [if_pos rfl, hl]
    by_cases hr : r = requester
    · simp [hr]
    · simp [hr]
  · simp [hk]

theorem leaseAt_of_empty (h : s.subscriptions = ∅) (k r : Str) : s.leaseAt k r = none := by
  rw [LeaseState.leaseAt, h, AList.lookup_empty]
  rfl

/-- The leases a sweep at `now` keeps. -/
def live (now : Time) (lease : Lease) : Option Lease :=
  if now < lease.expiry then some lease else none

theorem live_eq_some {now : Time} {lease l : Lease} :
    live now lease = some l ↔ lease = l ∧ now < l.expiry := by
  unfold live
  split
  · rename_i h
    constructor
    · rintro ⟨⟩
      exact ⟨rfl, h⟩
    · rintro ⟨rfl, _⟩
      rfl
  · rename_i h
    constructor
    · intro hc
      cases hc
    · rintro ⟨rfl, hl⟩
      exact absurd hl h

/-- Every lease survives when the sweep removes none. -/
theorem lookup_of_not_removedAny {now : Time} {leases : Leases}
    (h : (leases.entries.any fun e => !decide (now < e.2.expiry)) = false) (r : Str) :
    (leases.lookup r : Option Lease) = (leases.lookup r : Option Lease).bind (live now) := by
  cases hl : (leases.lookup r : Option Lease) with
  | none => rfl
  | some lease =>
    rw [List.any_eq_false] at h
    have := h ⟨r, lease⟩ (AList.mem_lookup_iff.mp hl)
    have hlive : now < lease.expiry := by simpa using this
    exact (live_eq_some.mpr ⟨rfl, hlive⟩).symm

/-- **One subscription in a sweep**: the live leases stay, and a subscription is
dropped exactly when it has none left. -/
theorem pruneSubscription_spec (now : Time) (sub : Subscription) :
    OnlyMinima (pruneSubscription now sub).2 ∧
      (∀ r, ((pruneSubscription now sub).1.bind fun x => (x.leases.lookup r : Option Lease)) =
        (sub.leases.lookup r : Option Lease).bind (live now)) ∧
      ∀ key x, (pruneSubscription now sub).1 = some x → sub.WellFormed key → x.WellFormed key := by
  have hlook : ∀ r, ((sub.leases.filterMapVal (live now)).lookup r : Option Lease) =
      (sub.leases.lookup r : Option Lease).bind (live now) := fun r =>
    AList.lookup_filterMapVal (live now) sub.leases r
  have hfilter : (sub.leases.filterMapVal fun lease =>
      if now < lease.expiry then some lease else none) = sub.leases.filterMapVal (live now) := rfl
  unfold pruneSubscription
  rw [hfilter]
  dsimp only
  split
  · rename_i hany
    refine ⟨onlyMinima_nil, ?_, ?_⟩
    · exact lookup_of_not_removedAny (by simpa using hany)
    · rintro key x ⟨⟩ hw
      exact hw
  · split
    · rename_i hne
      have hne : sub.leases.filterMapVal (live now) ≠ ∅ := fun he => hne (by rw [he]; rfl)
      cases hrt : sub.runtime with
      | data publisher =>
        refine ⟨onlyMinima_singleton hne, hlook, ?_⟩
        rintro key x ⟨⟩ hw
        refine ⟨hw.key_eq, hne, ?_⟩
        rintro p ⟨⟩
        exact publisher.paced_setIntervalMs _
      | video spec topic =>
        refine ⟨onlyMinima_nil, hlook, ?_⟩
        rintro key x ⟨⟩ hw
        exact ⟨hw.key_eq, hne, fun p hp => by simp at hp⟩
      | audio spec =>
        refine ⟨onlyMinima_nil, hlook, ?_⟩
        rintro key x ⟨⟩ hw
        exact ⟨hw.key_eq, hne, fun p hp => by simp at hp⟩
    · rename_i hnil
      refine ⟨onlyMinima_nil, ?_, fun key x hx => by simp at hx⟩
      intro r
      have he : sub.leases.filterMapVal (live now) = ∅ := AList.ext (by simpa using hnil)
      rw [← hlook r, he]
      rfl

theorem pruneLeases_leaseAt (now : Time) (s : LeaseState) (key r : Str) :
    (pruneLeases now s).1.leaseAt key r = (s.leaseAt key r).bind (live now) := by
  rw [LeaseState.leaseAt, LeaseState.leaseAt, pruneLeases, AList.lookup_filterMapVal]
  cases (s.subscriptions.lookup key : Option Subscription) with
  | none => rfl
  | some sub => exact (pruneSubscription_spec now sub).2.1 r

end LeaseAt

/-! ### The invariant -/

/-- An event that neither stores nor ends a lease, and evaluates no empty
minimum. -/
def Inert : LeaseEvent → Prop
  | .minimum leases => leases ≠ ∅
  | .ensured _ _ _ => False
  | .pruned _ => False
  | .shutDown => False
  | _ => True

/-- What holds of a trace and the state it reaches. -/
structure Registered (tr : List LeaseEvent) (s : LeaseState) : Prop where
  closed : s.isShutdown = true → s.subscriptions = ∅
  wellFormed : ∀ key sub, s.subscriptions.lookup key = some sub → sub.WellFormed key
  minima : ∀ leases, LeaseEvent.minimum leases ∈ tr → leases ≠ ∅
  leased : ∀ key r lease, s.leaseAt key r = some lease ↔ Leased key r tr lease

section Steps

variable {m : LeaseManager} {tr evs : List LeaseEvent} {s s' : LeaseState}

theorem OnlyMinima.inert (h : OnlyMinima evs) : ∀ e ∈ evs, Inert e := by
  intro e he
  obtain ⟨leases, hne, rfl⟩ := h e he
  exact hne

theorem registered_initial : Registered [] .initial := by
  refine ⟨fun _ => rfl, ?_, ?_, ?_⟩
  · intro key sub h
    rw [LeaseState.initial, AList.lookup_empty] at h
    cases h
  · intro leases h
    cases h
  · intro key r lease
    rw [leaseAt_of_empty rfl]
    exact ⟨fun h => by simp at h, fun h => absurd h (not_standing_nil lease)⟩

/-- The invariant reads nothing of the sessions. -/
theorem Registered.congr (h : Registered tr s) (hsd : s'.isShutdown = s.isShutdown)
    (hsub : s'.subscriptions = s.subscriptions) : Registered tr s' := by
  have hat : ∀ key r, s'.leaseAt key r = s.leaseAt key r := by
    intro key r
    rw [LeaseState.leaseAt, hsub, LeaseState.leaseAt]
  exact ⟨by rw [hsd, hsub]; exact h.closed, by rw [hsub]; exact h.wellFormed, h.minima,
    fun key r lease => by rw [hat]; exact h.leased key r lease⟩

theorem Registered.inert (h : Registered tr s) (hev : ∀ e ∈ evs, Inert e) :
    Registered (tr ++ evs) s := by
  refine ⟨h.closed, h.wellFormed, ?_, ?_⟩
  · intro leases hmem
    rcases List.mem_append.mp hmem with hmem | hmem
    · exact h.minima leases hmem
    · exact hev _ hmem
  · intro key r lease
    rw [h.leased, Leased, Leased, standing_append_of_quiet]
    intro e he
    have := hev e he
    cases e <;> simp_all [Inert, ensuredLease, EndsLease]

theorem Registered.stores (h : Registered tr s) {key requester : Str} {lease : Lease}
    (hs : LeaseManager.Stores s key requester lease s') :
    Registered (tr ++ [.ensured key requester lease]) s' := by
  have hat := hs.leaseAt
  obtain ⟨sub, rfl, hwf, _⟩ := hs.stored
  refine ⟨?_, ?_, ?_, ?_⟩
  · intro hsd
    rw [show s.isShutdown = false from hs.opened] at hsd
    cases hsd
  · intro k x hx
    rw [AList.lookup_insert_eq_if] at hx
    split at hx
    · rename_i hk
      subst hk
      obtain rfl := Option.some.inj hx
      exact hwf fun old hold => (h.wellFormed k old hold).key_eq
    · exact h.wellFormed k x hx
  · intro leases hmem
    exact h.minima leases (by simpa using hmem)
  · intro k r l
    rw [hat, Leased, standing_concat]
    by_cases hkr : key = k ∧ requester = r
    · obtain ⟨rfl, rfl⟩ := hkr
      simp [ensuredLease]
    · have hkr' : ¬ (k = key ∧ r = requester) := fun hc => hkr ⟨hc.1.symm, hc.2.symm⟩
      rw [if_neg hkr', h.leased]
      simp [ensuredLease, hkr, EndsLease, Leased]

theorem Registered.demand (h : Registered tr s) (fx : DemandEffects) (requester : Str)
    (demand : Demand) (expiry : Time) :
    Registered (tr ++ (m.appendDemandStatus fx s requester demand expiry).2.2)
      (m.appendDemandStatus fx s requester demand expiry).2.1 := by
  rcases LeaseManager.appendDemandStatus_cases m fx s requester demand expiry with
    ⟨-, hs, hmin, -⟩ | ⟨-, d, evs, sub, -, hmin, hev, hs, -⟩
  · rw [hs]
    exact h.inert hmin.inert
  · rw [hev, ← List.append_assoc]
    exact (h.inert hmin.inert).stores hs

theorem Registered.demands (requester : Str) (expiry : Time) (demands : List Demand) :
    ∀ {tr : List LeaseEvent} {s : LeaseState} (fx : Nat → DemandEffects), Registered tr s →
      Registered (tr ++ (m.appendDemandStatuses requester expiry fx s demands).2.2)
        (m.appendDemandStatuses requester expiry fx s demands).2.1 := by
  induction demands with
  | nil =>
    intro tr s fx h
    simpa [LeaseManager.appendDemandStatuses] using h
  | cons demand demands ih =>
    intro tr s fx h
    simp only [LeaseManager.appendDemandStatuses]
    rw [← List.append_assoc]
    exact ih _ (h.demand (fx 0) requester demand expiry)

theorem publishStatusReport_inert (requester : Str) (report : StatusReport) :
    ∀ e ∈ LeaseManager.publishStatusReport requester report, Inert e := by
  intro e he
  unfold LeaseManager.publishStatusReport at he
  split at he
  · cases he
  · obtain rfl := List.mem_singleton.mp he
    trivial

theorem Registered.heartbeat (h : Registered tr s) (fx : Nat → DemandEffects) (now : Time)
    (identity : Str) (hb : Heartbeat) :
    Registered (tr ++ (m.handleHeartbeat fx now identity hb s).2)
      (m.handleHeartbeat fx now identity hb s).1 := by
  cases hres : resolveIdentity s identity hb.sessionId with
  | none =>
    rw [LeaseManager.handleHeartbeat_of_refused hres]
    exact h.inert (by simp [Inert])
  | some requester =>
    rw [LeaseManager.handleHeartbeat_of_resolved hres]
    have h₁ : Registered (tr ++ [.heartbeat now identity hb.sessionId (some requester)])
        (s.bindSession requester hb.sessionId (now + m.heartbeatLeaseDuration)) :=
      (h.congr (s.bindSession_isShutdown _ _ _) (s.bindSession_subscriptions _ _ _)).inert
        (by simp [Inert])
    have h₂ := Registered.demands (m := m) requester (now + m.heartbeatLeaseDuration) hb.demands fx h₁
    have h₃ := h₂.inert (publishStatusReport_inert requester
      (m.reportOf now hb (m.serveDemands fx now hb s requester).1))
    simpa [LeaseManager.serveDemands] using h₃

theorem Registered.prune (h : Registered tr s) (now : Time) :
    Registered (tr ++ ((LeaseManager.pruneExpiredLeases now s).2 ++ [.pruned now]))
      (LeaseManager.pruneExpiredLeases now s).1 := by
  unfold LeaseManager.pruneExpiredLeases
  split
  · -- after a shutdown there is nothing to sweep
    rename_i hsd
    refine ⟨h.closed, h.wellFormed, fun leases hm => h.minima leases (by simpa using hm), ?_⟩
    intro key r lease
    have hnone : s.leaseAt key r = none := leaseAt_of_empty (h.closed hsd) key r
    have hnot : ¬ Leased key r tr lease := by
      rw [← h.leased, hnone]
      simp
    rw [hnone, List.nil_append, Leased, standing_concat_of_not_set rfl]
    exact ⟨fun hc => by simp at hc, fun hc => absurd hc.1 hnot⟩
  · rename_i hsd
    have hmin : ∀ e ∈ (pruneLeases now (pruneSessionLeases now s)).2, Inert e := by
      intro e he
      obtain ⟨x, _, hx⟩ := List.mem_flatMap.mp he
      exact (pruneSubscription_spec now x.2).1.inert e hx
    have h₁ : Registered (tr ++ (pruneLeases now (pruneSessionLeases now s)).2) s := h.inert hmin
    rw [← List.append_assoc]
    refine ⟨fun hc => absurd hc hsd, ?_, fun leases hm => h₁.minima leases (by simpa using hm), ?_⟩
    · intro key x hx
      rw [pruneLeases, AList.lookup_filterMapVal] at hx
      obtain ⟨sub, hsub, hx⟩ := Option.bind_eq_some_iff.mp hx
      exact (pruneSubscription_spec now sub).2.2 key x hx (h.wellFormed key sub hsub)
    · intro key r lease
      rw [pruneLeases_leaseAt, Leased, standing_concat_of_not_set rfl]
      have hs := h₁.leased key r lease
      rw [Leased] at hs
      rw [← hs, Option.bind_eq_some_iff]
      constructor
      · rintro ⟨l, hl, hlive⟩
        obtain ⟨rfl, hlt⟩ := live_eq_some.mp hlive
        exact ⟨hl, Nat.not_le.mpr hlt⟩
      · rintro ⟨hl, hlt⟩
        exact ⟨lease, hl, live_eq_some.mpr ⟨rfl, Nat.not_le.mp hlt⟩⟩

theorem Registered.shutdown (h : Registered tr s) :
    Registered (tr ++ [.shutDown]) (LeaseManager.shutdown s) := by
  have hsub : (LeaseManager.shutdown s).subscriptions = ∅ := by
    unfold LeaseManager.shutdown
    split
    · exact h.closed ‹_›
    · rfl
  refine ⟨fun _ => hsub, ?_, ?_, ?_⟩
  · intro key sub hl
    rw [hsub, AList.lookup_empty] at hl
    cases hl
  · intro leases hm
    exact h.minima leases (by simpa using hm)
  · intro key r lease
    rw [leaseAt_of_empty hsub, Leased, standing_concat_of_not_set rfl]
    exact ⟨fun hc => by simp at hc, fun hc => absurd trivial hc.2⟩

theorem Registered.deliver (h : Registered tr s) (now : Time) (key cdr : Str) :
    Registered tr (LeaseManager.deliver now key cdr s) := by
  obtain ⟨hsame, -⟩ | ⟨sub, publisher, hsub, hrt, hpushed⟩ := LeaseManager.deliver_cases now key cdr s
  · rw [hsame]
    exact h
  · rw [hpushed]
    have hw := h.wellFormed key sub hsub
    refine ⟨?_, ?_, h.minima, ?_⟩
    · intro hsd
      rw [h.closed hsd, AList.lookup_empty] at hsub
      cases hsub
    · intro k x hx
      rw [AList.lookup_insert_eq_if] at hx
      split at hx
      · rename_i hk
        subst hk
        obtain rfl := Option.some.inj hx
        refine ⟨hw.key_eq, hw.leases_ne, ?_⟩
        rintro p ⟨⟩
        exact (hw.paced publisher hrt).push now cdr
      · exact h.wellFormed k x hx
    · intro k r lease
      rw [leaseAt_insert, ← h.leased]
      by_cases hk : k = key
      · subst hk
        rw [if_pos rfl, LeaseState.leaseAt, hsub]
        rfl
      · rw [if_neg hk]

theorem Registered.echo (h : Registered tr s) (sends : Bool) (kind : TargetKind)
    (name requester : Str) :
    Registered (tr ++ (m.dispatchEchoOnce sends s kind name requester).2) s := by
  refine h.inert ?_
  intro e he
  obtain ⟨topic, rosTopic, cdr, rfl⟩ := LeaseManager.dispatchEchoOnce_events he
  trivial

/-- **Every run keeps the registry in order.** -/
theorem registered_of_trace (h : m.machine.Trace tr s) : Registered tr s := by
  refine Machine.Trace.invariant (P := Registered) ?_ ?_ h
  · rintro s rfl
    exact registered_initial
  · intro tr evs s t _ hr hstep
    cases hstep with
    | heartbeat fx now identity hb => exact hr.heartbeat fx now identity hb
    | prune now => exact hr.prune now
    | shutdown => exact hr.shutdown
    | deliver now key cdr =>
      rw [List.append_nil]
      exact hr.deliver now key cdr
    | echo sends kind name requester => exact hr.echo sends kind name requester

end Steps

/-! ### What a heartbeat leaves alone -/

section Frame

variable {m : LeaseManager}

/-- Demands served for `requester` change no other requester's lease, nothing
under a key that none of them resolves to, and no session. -/
theorem appendDemandStatuses_frame (requester : Str) (expiry : Time) (demands : List Demand) :
    ∀ (fx : Nat → DemandEffects) (s : LeaseState),
      (∀ key r, r ≠ requester →
        (m.appendDemandStatuses requester expiry fx s demands).2.1.leaseAt key r =
          s.leaseAt key r) ∧
      (∀ key, (∀ demand ∈ demands, ∀ d, m.resolveDemand demand = .ok d → d.key ≠ key) →
        (m.appendDemandStatuses requester expiry fx s demands).2.1.subscriptions.lookup key =
          s.subscriptions.lookup key) ∧
      (m.appendDemandStatuses requester expiry fx s demands).2.1.sessionLeases = s.sessionLeases ∧
      (m.appendDemandStatuses requester expiry fx s demands).2.1.isShutdown = s.isShutdown := by
  induction demands with
  | nil =>
    intro fx s
    exact ⟨fun _ _ _ => rfl, fun _ _ => rfl, rfl, rfl⟩
  | cons demand demands ih =>
    intro fx s
    simp only [LeaseManager.appendDemandStatuses]
    obtain ⟨hother, hkeys, hrest⟩ := ih (fun i => fx (i + 1))
      (m.appendDemandStatus (fx 0) s requester demand expiry).2.1
    rcases LeaseManager.appendDemandStatus_cases m (fx 0) s requester demand expiry with
      ⟨-, hs, -⟩ | ⟨-, d, evs, sub, hd, -, -, hs, -⟩
    · rw [hs] at hother hkeys hrest ⊢
      exact ⟨hother, fun key hk => hkeys key fun x hx => hk x (List.mem_cons_of_mem _ hx), hrest⟩
    · refine ⟨?_, ?_, ?_⟩
      · intro key r hr
        rw [hother key r hr, hs.leaseAt, if_neg fun hc => hr hc.2]
      · intro key hk
        rw [hkeys key fun x hx => hk x (List.mem_cons_of_mem _ hx)]
        obtain ⟨sub, hsub, _⟩ := hs.stored
        rw [hsub, AList.lookup_insert_ne (hk demand (by simp) d hd).symm]
      · rw [hrest.1, hrest.2]
        obtain ⟨sub, hsub, _⟩ := hs.stored
        rw [hsub]
        exact ⟨rfl, rfl⟩

/-- **A heartbeat attributed to `requester` acts for it alone.** -/
theorem handleHeartbeat_frame {s : LeaseState} {identity requester : Str} {hb : Heartbeat}
    (h : resolveIdentity s identity hb.sessionId = some requester) (fx : Nat → DemandEffects)
    (now : Time) :
    (∀ key r, r ≠ requester →
      (m.handleHeartbeat fx now identity hb s).1.leaseAt key r = s.leaseAt key r) ∧
    (∀ key, (∀ demand ∈ hb.demands, ∀ d, m.resolveDemand demand = .ok d → d.key ≠ key) →
      (m.handleHeartbeat fx now identity hb s).1.subscriptions.lookup key =
        s.subscriptions.lookup key) ∧
    (∀ id, hb.sessionId ≠ some id →
      (m.handleHeartbeat fx now identity hb s).1.sessionLeases.lookup id =
        s.sessionLeases.lookup id) := by
  rw [LeaseManager.handleHeartbeat_of_resolved h]
  obtain ⟨hother, hkeys, hsessions, _⟩ := appendDemandStatuses_frame (m := m) requester
    (now + m.heartbeatLeaseDuration) hb.demands fx
    (s.bindSession requester hb.sessionId (now + m.heartbeatLeaseDuration))
  refine ⟨?_, ?_, ?_⟩
  · intro key r hr
    rw [LeaseManager.serveDemands, hother key r hr, LeaseState.leaseAt, LeaseState.leaseAt,
      LeaseState.bindSession_subscriptions]
  · intro key hk
    rw [LeaseManager.serveDemands, hkeys key hk, LeaseState.bindSession_subscriptions]
  · intro id hid
    rw [LeaseManager.serveDemands, hsessions]
    cases hsid : hb.sessionId with
    | none => rfl
    | some id' =>
      refine AList.lookup_insert_ne ?_
      rintro rfl
      exact hid hsid

end Frame

/-! ### The registry in every reachable state -/

/-- **The lease registry.**  In every state that a run reaches: subscriptions are
stored under their own key and are leased; a data track is delivered at the
minimum of the intervals asked for; the leases are those that the history says
stand; and a heartbeat acts only for the requester it is attributed to. -/
theorem lease_registry_invariant (m : LeaseManager) {tr : List LeaseEvent} {s : LeaseState}
    (h : m.machine.Trace tr s) :
    (∀ key sub, s.subscriptions.lookup key = some sub →
      key = makeKey sub.kind sub.name ∧ sub.leases ≠ ∅) ∧
    (∀ leases, LeaseEvent.minimum leases ∈ tr → leases ≠ ∅) ∧
    (∀ key sub publisher, s.subscriptions.lookup key = some sub → sub.runtime = .data publisher →
      IsLeast (preferredIntervals sub.leases) publisher.intervalMs ∧
      ∀ p, publisher.publication = some p →
        IsLeast (preferredIntervals sub.leases) p.intervalMs) ∧
    (∀ key r lease, s.leaseAt key r = some lease ↔ Leased key r tr lease) ∧
    (∀ fx now identity hb requester, resolveIdentity s identity hb.sessionId = some requester →
      (∀ key r, r ≠ requester →
        (m.handleHeartbeat fx now identity hb s).1.leaseAt key r = s.leaseAt key r) ∧
      (∀ key, (∀ demand ∈ hb.demands, ∀ d, m.resolveDemand demand = .ok d → d.key ≠ key) →
        (m.handleHeartbeat fx now identity hb s).1.subscriptions.lookup key =
          s.subscriptions.lookup key) ∧
      (∀ id, hb.sessionId ≠ some id →
        (m.handleHeartbeat fx now identity hb s).1.sessionLeases.lookup id =
          s.sessionLeases.lookup id)) := by
  have hr := registered_of_trace h
  refine ⟨?_, hr.minima, ?_, hr.leased, fun fx now _ _ _ hres => handleHeartbeat_frame hres fx now⟩
  · intro key sub hl
    exact ⟨(hr.wellFormed key sub hl).key_eq, (hr.wellFormed key sub hl).leases_ne⟩
  · intro key sub publisher hl hrt
    have hw := hr.wellFormed key sub hl
    have hleast := minimumIntervalMs_isLeast hw.leases_ne
    have hpace := hw.paced publisher hrt
    refine ⟨?_, ?_⟩
    · rw [hpace.publisher]
      exact hleast
    · intro p hp
      rw [hpace.publication p hp]
      exact hleast

/-- A manager on a node without remap rules that lets clients subscribe to
everything. -/
def openManager : LeaseManager where
  node := ⟨lit "bridge", lit "/", ros2Expand, id⟩
  accessPolicy := AccessPolicy.ofConfig ros2Expand (subscribePolicy [lit "*"] [])
  videoStreamConfig? := none
  audioStreamConfig? := none
  heartbeatLeaseDuration := 45000000000

/-- A graph with one topic, and publications that come up. -/
def chatterEffects : DemandEffects where
  graph := (∅ : AList fun _ : Str => List Str).insert (lit "/chatter") [lit "std_msgs/msg/String"]
  runtime := .ok ()
  publication := ⟨.track, true, true⟩

/-- A heartbeat for `/chatter`. -/
def chatterHeartbeat (sessionId : Option Str) (intervalMs : Int) : Heartbeat :=
  ⟨sessionId, [⟨.topic, lit "/chatter", some intervalMs⟩], []⟩

/-- One client asks for 100 ms, then another for 40 ms. -/
def twoListeners : LeaseState × List LeaseEvent :=
  let first := openManager.handleHeartbeat (fun _ => chatterEffects) 0 (lit "alice")
    (chatterHeartbeat none 100) .initial
  let second := openManager.handleHeartbeat (fun _ => chatterEffects) 1 (lit "bob")
    (chatterHeartbeat none 40) first.1
  (second.1, [] ++ first.2 ++ second.2)

/-- With two listeners the track is delivered at the shorter interval. -/
theorem lease_registry_invariant_chatter :
    ∃ sub publisher, twoListeners.1.subscriptions.lookup (lit "topic:/chatter") = some sub ∧
      sub.runtime = .data publisher ∧ publisher.intervalMs = 40 ∧
      IsLeast (preferredIntervals sub.leases) publisher.intervalMs := by
  have htrace : openManager.machine.Trace twoListeners.2 twoListeners.1 :=
    .step (.step (.start rfl) (.heartbeat _ _ _ _ _)) (.heartbeat _ _ _ _ _)
  have heval : ∃ sub publisher,
      twoListeners.1.subscriptions.lookup (lit "topic:/chatter") = some sub ∧
        sub.runtime = .data publisher ∧ publisher.intervalMs = 40 := ⟨_, _, rfl, rfl, rfl⟩
  obtain ⟨sub, publisher, hl, hrt, hms⟩ := heval
  exact ⟨sub, publisher, hl, hrt, hms,
    ((lease_registry_invariant openManager htrace).2.2.1 _ sub publisher hl hrt).1⟩

end LivekitBridge
