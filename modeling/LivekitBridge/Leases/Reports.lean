import LivekitBridge.Leases.Registry
import LivekitBridge.Protocol.Status

/-!
# Heartbeats and their reports

`handleHeartbeatPayload`, from the bytes of a heartbeat to the report.  A heartbeat that is
refused does nothing.  One that is accepted serves its demands in turn, and the entry of
each demand tells what that demand did: an error entry stands for a demand that did
nothing, an active one for a lease that was stored (`appendDemandStatus_cases`).

The demands of one heartbeat change the state one after another, so what an entry says is
about the state its demand was served in: `demandState` is the state before the `i`-th.
-/

namespace LivekitBridge

open Lib

/-- `handleHeartbeatPayload`: a payload that does not parse is logged and dropped. -/
def LeaseManager.handleHeartbeatPayload (m : LeaseManager) (parseText : Str → Option Json)
    (fx : Nat → DemandEffects) (now : Time) (identity payload : Str) (s : LeaseState) :
    LeaseState × List LeaseEvent :=
  match parseHeartbeatPayload parseText m.node.expand payload with
  | .error _ => (s, [])
  | .ok heartbeat => m.handleHeartbeat fx now identity heartbeat s

/-! ### Refused heartbeats -/

/-- No identity, and no session that tells it. -/
def AnonymousWithoutSession (s : LeaseState) (identity : Str) (sessionId : Option Str) : Prop :=
  identity = [] ∧ ∀ id, sessionId = some id → s.sessionLeases.lookup id = none

/-- The session is bound to another identity. -/
def SessionConflict (s : LeaseState) (identity : Str) (sessionId : Option Str) : Prop :=
  identity ≠ [] ∧ ∃ id lease, sessionId = some id ∧ s.sessionLeases.lookup id = some lease ∧
    lease.requesterIdentity ≠ identity

theorem resolveIdentity_eq_none_iff (s : LeaseState) (identity : Str) (sessionId : Option Str) :
    resolveIdentity s identity sessionId = none ↔
      AnonymousWithoutSession s identity sessionId ∨ SessionConflict s identity sessionId := by
  unfold resolveIdentity AnonymousWithoutSession SessionConflict
  by_cases hidentity : identity = []
  · cases sessionId with
    | none => simp [hidentity]
    | some id =>
      cases hl : (s.sessionLeases.lookup id : Option SessionLease) with
      | none => simp [hidentity, hl]
      | some lease => simp [hidentity, hl]
  · cases sessionId with
    | none => simp [hidentity]
    | some id =>
      cases hl : (s.sessionLeases.lookup id : Option SessionLease) with
      | none => simp [hidentity, hl]
      | some lease => simp [hidentity, hl]

namespace LeaseManager

variable {m : LeaseManager}

/-! ### One demand after another -/

/-- The state before the `i`-th demand is served. -/
def demandState (m : LeaseManager) (requester : Str) (expiry : Time) (fx : Nat → DemandEffects)
    (s : LeaseState) (demands : List Demand) (i : Nat) : LeaseState :=
  (m.appendDemandStatuses requester expiry fx s (demands.take i)).2.1

/-- **The entries are those of the demands, in turn**: the `i`-th is what the `i`-th demand
appends in the state that the demands before it have left. -/
theorem appendDemandStatuses_getElem? (requester : Str) (expiry : Time) {demands : List Demand}
    {i : Nat} {demand : Demand} (h : demands[i]? = some demand) (fx : Nat → DemandEffects)
    (s : LeaseState) :
    (m.appendDemandStatuses requester expiry fx s demands).1[i]? =
        some (m.appendDemandStatus (fx i) (m.demandState requester expiry fx s demands i)
          requester demand expiry).1 ∧
      m.demandState requester expiry fx s demands (i + 1) =
        (m.appendDemandStatus (fx i) (m.demandState requester expiry fx s demands i)
          requester demand expiry).2.1 := by
  induction demands generalizing i fx s with
  | nil => cases h
  | cons first demands ih =>
    cases i with
    | zero =>
      obtain rfl := Option.some.inj h
      exact ⟨rfl, rfl⟩
    | succ i =>
      exact ih h (fun i => fx (i + 1)) (m.appendDemandStatus (fx 0) s requester first expiry).2.1

theorem length_appendDemandStatuses (requester : Str) (expiry : Time) (demands : List Demand)
    (fx : Nat → DemandEffects) (s : LeaseState) :
    (m.appendDemandStatuses requester expiry fx s demands).1.length = demands.length := by
  induction demands generalizing fx s with
  | nil => rfl
  | cons demand demands ih => exact congrArg (· + 1) (ih _ _)

/-- The reports that were handed to `publishData`, with their destinations. -/
def sentReports (evs : List LeaseEvent) : List (Str × StatusReport) :=
  evs.filterMap fun
    | .statusSent destination report => some (destination, report)
    | _ => none

theorem sentReports_append (evs evs' : List LeaseEvent) :
    sentReports (evs ++ evs') = sentReports evs ++ sentReports evs' :=
  List.filterMap_append

theorem sentReports_of_onlyMinima {evs : List LeaseEvent} (h : OnlyMinima evs) :
    sentReports evs = [] := by
  refine List.filterMap_eq_nil_iff.mpr fun e he => ?_
  obtain ⟨leases, -, rfl⟩ := h e he
  rfl

/-- Serving the demands sends nothing. -/
theorem sentReports_appendDemandStatuses (requester : Str) (expiry : Time) (demands : List Demand)
    (fx : Nat → DemandEffects) (s : LeaseState) :
    sentReports (m.appendDemandStatuses requester expiry fx s demands).2.2 = [] := by
  induction demands generalizing fx s with
  | nil => rfl
  | cons demand demands ih =>
    have hone : sentReports (m.appendDemandStatus (fx 0) s requester demand expiry).2.2 = [] := by
      rcases appendDemandStatus_cases m (fx 0) s requester demand expiry with
        ⟨-, -, hmin, -⟩ | ⟨-, d, evs, sub, -, hmin, hev, -⟩
      · exact sentReports_of_onlyMinima hmin
      · rw [hev, sentReports_append, sentReports_of_onlyMinima hmin]
        rfl
    simp only [appendDemandStatuses]
    rw [sentReports_append, hone, ih, List.nil_append]

/-- The state of an accepted heartbeat before its `i`-th demand is served. -/
def served (m : LeaseManager) (fx : Nat → DemandEffects) (now : Time) (heartbeat : Heartbeat)
    (s : LeaseState) (requester : Str) (i : Nat) : LeaseState :=
  m.demandState requester (now + m.heartbeatLeaseDuration) fx
    (s.bindSession requester heartbeat.sessionId (now + m.heartbeatLeaseDuration))
    heartbeat.demands i

/-- The report of an accepted heartbeat. -/
def report (m : LeaseManager) (fx : Nat → DemandEffects) (now : Time) (heartbeat : Heartbeat)
    (s : LeaseState) (requester : Str) : StatusReport :=
  m.reportOf now heartbeat (m.serveDemands fx now heartbeat s requester).1

section Heartbeat

variable {s : LeaseState} {identity requester : Str} {heartbeat : Heartbeat}

/-- **An accepted heartbeat** ends in the state after its last demand, and sends its report
to its requester unless the report is empty. -/
theorem handleHeartbeat_served
    (h : resolveIdentity s identity heartbeat.sessionId = some requester)
    (fx : Nat → DemandEffects) (now : Time) :
    (m.handleHeartbeat fx now identity heartbeat s).1 =
        m.served fx now heartbeat s requester heartbeat.demands.length ∧
      sentReports (m.handleHeartbeat fx now identity heartbeat s).2 =
        if (m.report fx now heartbeat s requester).statuses = [] then []
        else [(requester, m.report fx now heartbeat s requester)] := by
  rw [handleHeartbeat_of_resolved h]
  constructor
  · rw [served, demandState, List.take_length]
    rfl
  · rw [List.cons_append]
    change sentReports ((m.serveDemands fx now heartbeat s requester).2.2 ++
      publishStatusReport requester (m.report fx now heartbeat s requester)) = _
    rw [sentReports_append, serveDemands, sentReports_appendDemandStatuses, List.nil_append,
      publishStatusReport]
    split
    · rfl
    · rfl

theorem report_getElem? {i : Nat} {demand : Demand} (h : heartbeat.demands[i]? = some demand)
    (fx : Nat → DemandEffects) (now : Time) (s : LeaseState) (requester : Str) :
    (m.report fx now heartbeat s requester).statuses[i]? =
        some (m.appendDemandStatus (fx i) (m.served fx now heartbeat s requester i) requester
          demand (now + m.heartbeatLeaseDuration)).1 ∧
      m.served fx now heartbeat s requester (i + 1) =
        (m.appendDemandStatus (fx i) (m.served fx now heartbeat s requester i) requester
          demand (now + m.heartbeatLeaseDuration)).2.1 := by
  obtain ⟨hentry, hstate⟩ := appendDemandStatuses_getElem? (m := m) requester
    (now + m.heartbeatLeaseDuration) h fx
    (s.bindSession requester heartbeat.sessionId (now + m.heartbeatLeaseDuration))
  have hlt : i < (m.serveDemands fx now heartbeat s requester).1.length := by
    rw [serveDemands, length_appendDemandStatuses]
    exact (List.getElem?_eq_some_iff.mp h).1
  refine ⟨?_, hstate⟩
  rw [report, reportOf, List.getElem?_append_left hlt]
  exact hentry

end Heartbeat

end LeaseManager

/-! ### Refused work -/

/-- **Refused work leaves the registry alone.**  A payload that does not parse and a
heartbeat that is not attributed to anyone change nothing and send nothing; and a demand of
an accepted heartbeat whose entry is an error left the state as it found it. -/
theorem refused_work_untouched (m : LeaseManager) (parseText : Str → Option Json)
    (fx : Nat → DemandEffects) (now : Time) (identity payload : Str) (s : LeaseState) :
    (∀ e, parseHeartbeatPayload parseText m.node.expand payload = .error e →
      m.handleHeartbeatPayload parseText fx now identity payload s = (s, [])) ∧
    ∀ heartbeat, parseHeartbeatPayload parseText m.node.expand payload = .ok heartbeat →
      (AnonymousWithoutSession s identity heartbeat.sessionId ∨
          SessionConflict s identity heartbeat.sessionId →
        (m.handleHeartbeatPayload parseText fx now identity payload s).1 = s ∧
        LeaseManager.sentReports
          (m.handleHeartbeatPayload parseText fx now identity payload s).2 = []) ∧
      ∀ requester, resolveIdentity s identity heartbeat.sessionId = some requester →
        (m.handleHeartbeatPayload parseText fx now identity payload s).1 =
          m.served fx now heartbeat s requester heartbeat.demands.length ∧
        LeaseManager.sentReports
            (m.handleHeartbeatPayload parseText fx now identity payload s).2 =
          (if (m.report fx now heartbeat s requester).statuses = [] then []
          else [(requester, m.report fx now heartbeat s requester)]) ∧
        ∀ i demand error, heartbeat.demands[i]? = some demand →
          (m.report fx now heartbeat s requester).statuses[i]? = some (.error error) →
          m.served fx now heartbeat s requester (i + 1) =
            m.served fx now heartbeat s requester i := by
  refine ⟨?_, ?_⟩
  · intro e he
    rw [LeaseManager.handleHeartbeatPayload, he]
  · intro heartbeat hparse
    have hhandle : m.handleHeartbeatPayload parseText fx now identity payload s =
        m.handleHeartbeat fx now identity heartbeat s := by
      rw [LeaseManager.handleHeartbeatPayload, hparse]
    rw [hhandle]
    refine ⟨?_, ?_⟩
    · intro hrefused
      rw [LeaseManager.handleHeartbeat_of_refused
        ((resolveIdentity_eq_none_iff s identity heartbeat.sessionId).mpr hrefused)]
      exact ⟨rfl, rfl⟩
    · intro requester hrequester
      obtain ⟨hstate, hsent⟩ := LeaseManager.handleHeartbeat_served (m := m) hrequester fx now
      refine ⟨hstate, hsent, ?_⟩
      intro i demand error hdemand herror
      obtain ⟨hentry, hnext⟩ := LeaseManager.report_getElem? (m := m) hdemand fx now s requester
      rw [herror] at hentry
      rcases LeaseManager.appendDemandStatus_cases m (fx i)
        (m.served fx now heartbeat s requester i) requester demand
        (now + m.heartbeatLeaseDuration) with
        ⟨-, hsame, -⟩ | ⟨-, d, evs, sub, -, -, -, -, -, hactive⟩
      · rw [hnext, hsame]
      · rw [hactive] at hentry
        cases hentry

/-! ### The report and the registry -/

theorem makeKey_inj {kind kind' : TargetKind} {name name' : Str}
    (h : makeKey kind name = makeKey kind' name') : kind = kind' := by
  have hwire : ∀ kind name, makeKey kind name = wireKey kind name := by
    intro kind name
    cases kind <;> rfl
  rw [hwire, hwire] at h
  exact congrArg Prod.fst (wireKey_inj h)

namespace LeaseManager

section Leases

variable {m : LeaseManager} {requester : Str} {expiry : Time} {fx : Nat → DemandEffects}
  {s : LeaseState} {demands : List Demand}

theorem resolveDemand_kind {demand : Demand} {d : ResolvedDemand}
    (h : m.resolveDemand demand = .ok d) : d.kind = demand.kind := by
  unfold resolveDemand at h
  split at h
  · cases h
  · obtain rfl := Except.ok.inj h
    rfl

/-- A lease that expires at `expiry` is kept, or renewed until `expiry`, by the demands that
follow. -/
theorem demandState_renewed {key : Str} {i j : Nat} (hij : i ≤ j) (hj : j ≤ demands.length)
    (h : ∃ lease, (m.demandState requester expiry fx s demands i).leaseAt key requester =
      some lease ∧ lease.expiry = expiry) :
    ∃ lease, (m.demandState requester expiry fx s demands j).leaseAt key requester =
      some lease ∧ lease.expiry = expiry := by
  induction j, hij using Nat.le_induction with
  | base => exact h
  | succ j hij ih =>
    obtain ⟨lease, hlease, hexpiry⟩ := ih (by omega)
    obtain ⟨demand, hdemand⟩ : ∃ demand, demands[j]? = some demand :=
      ⟨_, List.getElem?_eq_getElem (by omega)⟩
    obtain ⟨-, hnext⟩ := appendDemandStatuses_getElem? (m := m) requester expiry hdemand fx s
    rw [hnext]
    rcases appendDemandStatus_cases m (fx j) (m.demandState requester expiry fx s demands j)
      requester demand expiry with ⟨-, hsame, -⟩ | ⟨-, d, evs, sub, -, -, -, hstores, -⟩
    · rw [hsame]
      exact ⟨lease, hlease, hexpiry⟩
    · rw [hstores.leaseAt]
      split
      · exact ⟨_, rfl, rfl⟩
      · exact ⟨lease, hlease, hexpiry⟩

theorem demandState_untouched {key : Str}
    (h : ∀ j demand, demands[j]? = some demand →
      (m.Denied demand ∨ m.EnsureFails (fx j) (m.demandState requester expiry fx s demands j)
        requester demand expiry) ∨
      ∀ d, m.resolveDemand demand = .ok d → d.key ≠ key)
    {i : Nat} (hi : i ≤ demands.length) :
    (m.demandState requester expiry fx s demands i).leaseAt key requester =
      s.leaseAt key requester := by
  induction i with
  | zero => rfl
  | succ i ih =>
    obtain ⟨demand, hdemand⟩ : ∃ demand, demands[i]? = some demand :=
      ⟨_, List.getElem?_eq_getElem (by omega)⟩
    obtain ⟨-, hnext⟩ := appendDemandStatuses_getElem? (m := m) requester expiry hdemand fx s
    rw [hnext, ← ih (by omega)]
    rcases appendDemandStatus_cases m (fx i) (m.demandState requester expiry fx s demands i)
      requester demand expiry with
      ⟨-, hsame, -⟩ | ⟨hfine, d, evs, sub, hd, -, -, hstores, -⟩
    · rw [hsame]
    · rcases h i demand hdemand with hfails | hkey
      · exact absurd hfails hfine
      · rw [hstores.leaseAt, if_neg fun heq => hkey d hd heq.1.symm]

end Leases

/-- Distinct demands resolve to distinct keys. -/
def KeysDiffer (m : LeaseManager) (demands : List Demand) : Prop :=
  ∀ demand ∈ demands, ∀ demand' ∈ demands, demand ≠ demand' →
    ∀ d d', m.resolveDemand demand = .ok d → m.resolveDemand demand' = .ok d' → d.key ≠ d'.key

/-- `requester` holds a lease on the key of a demand that expires at `expiry`. -/
def HoldsUntil (m : LeaseManager) (s : LeaseState) (requester : Str) (demand : Demand)
    (expiry : Time) : Prop :=
  ∃ d lease, m.resolveDemand demand = .ok d ∧ s.leaseAt d.key requester = some lease ∧
    lease.expiry = expiry

section Report

variable {m : LeaseManager} {tr : List LeaseEvent} {s : LeaseState} {requester : Str}
  {heartbeat : Heartbeat} {fx : Nat → DemandEffects} {now : Time}

/-- The demand at a position can be served. -/
def Succeeds (m : LeaseManager) (fx : Nat → DemandEffects) (now : Time) (heartbeat : Heartbeat)
    (s : LeaseState) (requester : Str) (i : Nat) (demand : Demand) : Prop :=
  ¬ (m.Denied demand ∨ m.EnsureFails (fx i) (m.served fx now heartbeat s requester i) requester
    demand (now + m.heartbeatLeaseDuration))

theorem served_registered (m : LeaseManager) (fx : Nat → DemandEffects) (now : Time)
    (heartbeat : Heartbeat) (requester : Str) (h : Registered tr s) (i : Nat) :
    ∃ tr', Registered tr' (m.served fx now heartbeat s requester i) := by
  have hbound : Registered tr
      (s.bindSession requester heartbeat.sessionId (now + m.heartbeatLeaseDuration)) :=
    h.congr (LeaseState.bindSession_isShutdown _ _ _ _)
      (LeaseState.bindSession_subscriptions _ _ _ _)
  exact ⟨_, Registered.demands requester _ (heartbeat.demands.take i) fx hbound⟩

theorem status_kind (h : Registered tr s) {demand : Demand} {d : ResolvedDemand} {lease : Lease}
    {s' : LeaseState} {sub : Subscription} (hd : m.resolveDemand demand = .ok d)
    (hstores : Stores s d.key requester lease s')
    (hsub : s'.subscriptions.lookup d.key = some sub) : (status sub).kind = demand.kind := by
  have hkey := ((h.stores hstores).wellFormed d.key sub hsub).key_eq
  rw [resolveDemand_key hd] at hkey
  have hstatus : (status sub).kind = sub.kind := by
    unfold status
    split <;> rfl
  rw [hstatus, ← makeKey_inj hkey, resolveDemand_kind hd]

theorem report_entry (fx : Nat → DemandEffects) (now : Time) (requester : Str)
    (h : Registered tr s) {i : Nat} {demand : Demand}
    (hdemand : heartbeat.demands[i]? = some demand) :
    ∃ entry, (m.report fx now heartbeat s requester).statuses[i]? = some entry ∧
      HasKind entry ∧
      (entryBody entry).find (lit "kind") = some (.string (toWire demand.kind)) ∧
      ((m.Succeeds fx now heartbeat s requester i demand ∧ SaysActive (entryBody entry)) ∨
        (¬ m.Succeeds fx now heartbeat s requester i demand ∧ SaysError (entryBody entry))) := by
  obtain ⟨hentry, -⟩ := report_getElem? (m := m) hdemand fx now s requester
  obtain ⟨tr', hreg⟩ := served_registered m fx now heartbeat requester h i
  rcases appendDemandStatus_cases m (fx i) (m.served fx now heartbeat s requester i) requester
    demand (now + m.heartbeatLeaseDuration) with
    ⟨hfails, -, -, reason, message, hreason, herror⟩ |
    ⟨hfine, d, evs, sub, hd, -, -, hstores, hsub, hactive⟩
  · rw [herror] at hentry
    refine ⟨_, hentry, fun hunsupported => absurd hunsupported hreason, ?_,
      .inr ⟨not_not_intro hfails, (find_errorBody _).2.2⟩⟩
    rw [demandError, entryBody, (find_errorBody _).1, if_neg hreason]
  · rw [hactive] at hentry
    refine ⟨_, hentry, trivial, ?_, .inl ⟨hfine, (find_serializeStatus _).2⟩⟩
    rw [entryBody, (find_serializeStatus _).1, status_kind hreg hd hstores hsub]

theorem holdsUntil_of_succeeds {i : Nat} {demand : Demand}
    (hdemand : heartbeat.demands[i]? = some demand)
    (hfine : m.Succeeds fx now heartbeat s requester i demand) :
    m.HoldsUntil (m.served fx now heartbeat s requester heartbeat.demands.length) requester demand
      (now + m.heartbeatLeaseDuration) := by
  obtain ⟨-, hnext⟩ := report_getElem? (m := m) hdemand fx now s requester
  have hlt : i < heartbeat.demands.length := (List.getElem?_eq_some_iff.mp hdemand).1
  rcases appendDemandStatus_cases m (fx i) (m.served fx now heartbeat s requester i) requester
    demand (now + m.heartbeatLeaseDuration) with
    ⟨hfails, -⟩ | ⟨-, d, evs, sub, hd, -, -, hstores, -⟩
  · exact absurd hfails hfine
  · have hstored : ∃ lease, (m.served fx now heartbeat s requester (i + 1)).leaseAt d.key requester =
        some lease ∧ lease.expiry = now + m.heartbeatLeaseDuration := by
      rw [hnext, hstores.leaseAt, if_pos ⟨rfl, rfl⟩]
      exact ⟨_, rfl, rfl⟩
    obtain ⟨lease, hlease, hexpiry⟩ := demandState_renewed (by omega) le_rfl hstored
    exact ⟨d, lease, hd, hlease, hexpiry⟩

/-- A demand that failed holds what it held before the heartbeat, unless another demand has
its key. -/
theorem holdsUntil_of_not_succeeds (hnodup : heartbeat.demands.Nodup)
    (hkeys : m.KeysDiffer heartbeat.demands) {i : Nat} {demand : Demand}
    (hdemand : heartbeat.demands[i]? = some demand)
    (hfails : ¬ m.Succeeds fx now heartbeat s requester i demand) {expiry : Time}
    (hholds : m.HoldsUntil (m.served fx now heartbeat s requester heartbeat.demands.length)
      requester demand expiry) : m.HoldsUntil s requester demand expiry := by
  obtain ⟨d, lease, hd, hlease, hexpiry⟩ := hholds
  have huntouched : (m.served fx now heartbeat s requester heartbeat.demands.length).leaseAt d.key
      requester = s.leaseAt d.key requester := by
    have hbound : (s.bindSession requester heartbeat.sessionId
        (now + m.heartbeatLeaseDuration)).leaseAt d.key requester = s.leaseAt d.key requester := by
      rw [LeaseState.leaseAt, LeaseState.bindSession_subscriptions, LeaseState.leaseAt]
    refine (demandState_untouched ?_ le_rfl).trans hbound
    intro j demand' hdemand'
    by_cases hij : j = i
    · subst hij
      obtain rfl := Option.some.inj (hdemand.symm.trans hdemand')
      exact .inl (not_not.mp hfails)
    · refine .inr fun d' hd' => ?_
      have hne : demand' ≠ demand := by
        rintro rfl
        obtain ⟨hi, hdi⟩ := List.getElem?_eq_some_iff.mp hdemand
        obtain ⟨hj, hdj⟩ := List.getElem?_eq_some_iff.mp hdemand'
        exact hij ((List.Nodup.getElem_inj_iff hnodup).mp (hdj.trans hdi.symm))
      exact hkeys demand' (List.mem_of_getElem? hdemand') demand (List.mem_of_getElem? hdemand) hne
        d' d hd' hd
  rw [huntouched] at hlease
  exact ⟨d, lease, hd, hlease, hexpiry⟩

/-- The entry of an unsupported subscription: it echoes the kind, and the name if there
is one. -/
theorem report_unsupported (fx : Nat → DemandEffects) (now : Time) (s : LeaseState)
    (requester : Str) {j : Nat} {u : UnsupportedSubscription}
    (hu : heartbeat.unsupported[j]? = some u) :
    (m.report fx now heartbeat s requester).statuses[heartbeat.demands.length + j]? =
      some (appendUnsupportedStatus u) := by
  have hlength : (m.serveDemands fx now heartbeat s requester).1.length =
      heartbeat.demands.length := length_appendDemandStatuses _ _ _ _ _
  rw [report, reportOf, ← hlength, List.getElem?_append_right (Nat.le_add_right _ _),
    Nat.add_sub_cancel_left, List.getElem?_map, hu]
  rfl

theorem length_report (m : LeaseManager) (heartbeat : Heartbeat) (fx : Nat → DemandEffects)
    (now : Time) (s : LeaseState) (requester : Str) :
    (m.report fx now heartbeat s requester).statuses.length =
      heartbeat.demands.length + heartbeat.unsupported.length := by
  rw [report, reportOf, List.length_append, List.length_map, serveDemands,
    length_appendDemandStatuses]

/-- The serializer does not throw on the report of a heartbeat that was parsed. -/
theorem report_hasKind (h : Registered tr s) (hkinds : ∀ u ∈ heartbeat.unsupported, u.kind ≠ []) :
    ∀ entry ∈ (m.report fx now heartbeat s requester).statuses, HasKind entry := by
  intro entry hentry
  obtain ⟨i, hi⟩ := List.mem_iff_getElem?.mp hentry
  have hlt : i < heartbeat.demands.length + heartbeat.unsupported.length := by
    rw [← length_report m heartbeat fx now s requester]
    exact (List.getElem?_eq_some_iff.mp hi).1
  by_cases hdemand : i < heartbeat.demands.length
  · obtain ⟨entry', hentry', hkind, -⟩ := report_entry (m := m) fx now requester h
      (List.getElem?_eq_getElem hdemand)
    obtain rfl := Option.some.inj (hi.symm.trans hentry')
    exact hkind
  · obtain ⟨j, rfl⟩ := Nat.exists_eq_add_of_le (Nat.le_of_not_lt hdemand)
    have hu := List.getElem?_eq_getElem (show j < heartbeat.unsupported.length by omega)
    obtain rfl := Option.some.inj (hi.symm.trans (report_unsupported fx now s requester hu))
    exact fun _ => hkinds _ (List.getElem_mem _)

end Report

/-- The packets of a step, serialized at the time `serializedAt`. -/
def statusPackets (serializedAt : Time) (evs : List LeaseEvent) : List (Except Str DataPacket) :=
  (sentReports evs).map fun sent => statusPacket serializedAt sent.1 sent.2

end LeaseManager

/-- **The status report says what the heartbeat did.**  From every state that a run reaches, a
heartbeat that is attributed to `requester` is answered by one packet to it, unless it asks
for nothing.  The packet has one entry for each demand, an error exactly if the demand is
denied or cannot be served, then one for each unsupported entry, which echoes it.  If the
demands have distinct keys, and the expiry of the heartbeat is new, an entry is active exactly
if the requester then holds the lease with that expiry. -/
theorem status_report_correspondence (m : LeaseManager) {tr : List LeaseEvent} {s : LeaseState}
    (h : m.machine.Trace tr s) (parseText : Str → Option Json) (fx : Nat → DemandEffects)
    (now serializedAt : Time) (identity requester payload : Str) (heartbeat : Heartbeat)
    (hparse : parseHeartbeatPayload parseText m.node.expand payload = .ok heartbeat)
    (hidentity : resolveIdentity s identity heartbeat.sessionId = some requester) :
    (heartbeat.demands = [] ∧ heartbeat.unsupported = [] →
      LeaseManager.statusPackets serializedAt
        (m.handleHeartbeatPayload parseText fx now identity payload s).2 = []) ∧
    (¬ (heartbeat.demands = [] ∧ heartbeat.unsupported = []) →
      ∃ body entries,
        LeaseManager.statusPackets serializedAt
            (m.handleHeartbeatPayload parseText fx now identity payload s).2 =
          [.ok ⟨body, true, [requester], kStatusTopic⟩] ∧
        body.find (lit "subscriptions") = some (.array entries) ∧
        body.find (lit "session_id") = heartbeat.sessionId.map .string ∧
        entries.length = heartbeat.demands.length + heartbeat.unsupported.length ∧
        (∀ i demand, heartbeat.demands[i]? = some demand → ∃ entry, entries[i]? = some entry ∧
          entry.find (lit "kind") = some (.string (toWire demand.kind)) ∧
          (SaysActive entry ↔ ¬ SaysError entry) ∧
          (SaysError entry ↔ m.Denied demand ∨
            m.EnsureFails (fx i) (m.served fx now heartbeat s requester i) requester demand
              (now + m.heartbeatLeaseDuration)) ∧
          (m.KeysDiffer heartbeat.demands →
            ¬ m.HoldsUntil s requester demand (now + m.heartbeatLeaseDuration) →
            (SaysActive entry ↔
              m.HoldsUntil (m.handleHeartbeatPayload parseText fx now identity payload s).1
                requester demand (now + m.heartbeatLeaseDuration)))) ∧
        ∀ j u, heartbeat.unsupported[j]? = some u →
          ∃ entry, entries[heartbeat.demands.length + j]? = some entry ∧
            SaysError entry ∧
            entry.find (lit "kind") = some (.string u.kind) ∧
            entry.find (lit "name") = u.name.map .string) := by
  have hreg := registered_of_trace h
  obtain ⟨hnodup, hkinds⟩ := parseHeartbeatPayload_ok hparse
  have hhandle : m.handleHeartbeatPayload parseText fx now identity payload s =
      m.handleHeartbeat fx now identity heartbeat s := by
    rw [LeaseManager.handleHeartbeatPayload, hparse]
  obtain ⟨hafter, hsent⟩ := LeaseManager.handleHeartbeat_served (m := m) hidentity fx now
  have hlength := LeaseManager.length_report m heartbeat fx now s requester
  rw [hhandle, LeaseManager.statusPackets, hsent]
  refine ⟨?_, ?_⟩
  · rintro ⟨hdemands, hunsupported⟩
    have hempty : (m.report fx now heartbeat s requester).statuses = [] := by
      rw [← List.length_eq_zero_iff, hlength, hdemands, hunsupported]
      rfl
    rw [if_pos hempty, List.map_nil]
  · intro hasks
    have hne : (m.report fx now heartbeat s requester).statuses ≠ [] := by
      rw [← List.length_pos_iff, hlength]
      rw [← List.length_eq_zero_iff, ← List.length_eq_zero_iff] at hasks
      omega
    obtain ⟨body, hbody, hentries, hsession⟩ := serializeReport_of_hasKind
      (LeaseManager.report_hasKind (m := m) hreg hkinds) serializedAt
    refine ⟨body, _, ?_, hentries, hsession, ?_, ?_, ?_⟩
    · rw [if_neg hne, List.map_singleton, statusPacket, hbody]
    · rw [List.length_map, hlength]
    · intro i demand hdemand
      obtain ⟨entry, hentry, -, hkind, hsays⟩ :=
        LeaseManager.report_entry (m := m) fx now requester hreg hdemand
      refine ⟨entryBody entry, by rw [List.getElem?_map, hentry]; rfl, hkind, ?_⟩
      rcases hsays with ⟨hfine, hactive⟩ | ⟨hfails, herror⟩
      · refine ⟨iff_of_true hactive hactive.not_saysError,
          iff_of_false hactive.not_saysError hfine, fun _ _ => iff_of_true hactive ?_⟩
        rw [hafter]
        exact LeaseManager.holdsUntil_of_succeeds hdemand hfine
      · have hinactive : ¬ SaysActive (entryBody entry) := fun hactive =>
          hactive.not_saysError herror
        refine ⟨iff_of_false hinactive (not_not_intro herror), iff_of_true herror (not_not.mp hfails),
          fun hkeys hnew => iff_of_false hinactive fun hholds => hnew ?_⟩
        rw [hafter] at hholds
        exact LeaseManager.holdsUntil_of_not_succeeds hnodup hkeys hdemand hfails hholds
    · intro j u hu
      have hentry := LeaseManager.report_unsupported (m := m) fx now s requester hu
      obtain ⟨hkind, hname, herror⟩ := find_errorBody ⟨.topic, [], u.kind, u.name, .unsupportedKind,
        lit "This bridge does not support subscription kind '" ++ u.kind ++ lit "'."⟩
      exact ⟨_, by rw [List.getElem?_map, hentry]; rfl, herror, hkind, hname⟩

/-- The text of a heartbeat for `/chatter` and for a kind that the bridge does not know. -/
def lidarHeartbeatText : Str :=
  lit "\x7b\"subscriptions\":[\x7b\"kind\":\"topic\",\"name\":\"/chatter\"\x7d,\x7b\"kind\":\"lidar\"\x7d]\x7d"

/-- What that text says. -/
def lidarHeartbeatJson : Json :=
  .object [(lit "subscriptions", .array
    [.object [(lit "kind", .string (lit "topic")), (lit "name", .string (lit "/chatter"))],
      .object [(lit "kind", .string (lit "lidar"))]])]

/-- A parser that knows that text. -/
def lidarParser (text : Str) : Option Json :=
  if text = lidarHeartbeatText then some lidarHeartbeatJson else none

/-- The heartbeat is answered by one packet of two entries. -/
theorem status_report_correspondence_lidar :
    ∃ body entries,
      LeaseManager.statusPackets 0 (openManager.handleHeartbeatPayload lidarParser
          (fun _ => chatterEffects) 0 (lit "alice") lidarHeartbeatText .initial).2 =
        [.ok ⟨body, true, [lit "alice"], kStatusTopic⟩] ∧
      body.find (lit "subscriptions") = some (.array entries) ∧ entries.length = 2 := by
  obtain ⟨body, entries, hpackets, hentries, -, hlength, -⟩ :=
    (status_report_correspondence openManager (.start rfl) lidarParser (fun _ => chatterEffects) 0 0
      (lit "alice") (lit "alice") lidarHeartbeatText
      ⟨none, [⟨.topic, lit "/chatter", none⟩], [⟨lit "lidar", none⟩]⟩ rfl rfl).2 (by simp)
  exact ⟨body, entries, hpackets, hentries, hlength⟩

end LivekitBridge
