import LivekitBridge.Leases.Registry

/-!
# Client sessions

A heartbeat that carries an identity and a session binds the session to that
identity; a heartbeat without an identity is attributed to whoever its session is
bound to.

`Sessions tr s` is the invariant: a binding names a non-empty identity, the one of
the latest accepted heartbeat that had an identity and carried the session.
`session_binding_safety` follows: bindings are neither stolen nor dropped before
they expire, and an anonymous heartbeat acts for that identity alone.

The expiry of a binding is enforced by the sweep only: `resolveIdentity` looks
the session up and does not compare its expiry with the clock.  `Bound` is the
binding as the history has it (made by the latest accepted heartbeat, dropped by
the first sweep at or after its expiry), and `expiryHonoured_iff` says when a
run treats an expired binding as gone: exactly when no heartbeat of another sender
carries the session between the expiry and that sweep.
-/

namespace LivekitBridge

open Lib

/-! ### What an accepted heartbeat emits -/

/-- Events of work done for `requester`. -/
def ServedFor (requester : Str) : LeaseEvent → Prop
  | .minimum _ => True
  | .ensured _ r _ => r = requester
  | .statusSent destination _ => destination = requester
  | _ => False

section Events

variable {m : LeaseManager} {requester : Str}

theorem OnlyMinima.servedFor {evs : List LeaseEvent} (h : OnlyMinima evs) :
    ∀ e ∈ evs, ServedFor requester e := by
  intro e he
  obtain ⟨leases, _, rfl⟩ := h e he
  trivial

theorem appendDemandStatuses_servedFor (expiry : Time) (demands : List Demand) :
    ∀ (fx : Nat → DemandEffects) (s : LeaseState),
      ∀ e ∈ (m.appendDemandStatuses requester expiry fx s demands).2.2, ServedFor requester e := by
  induction demands with
  | nil =>
    intro fx s e he
    cases he
  | cons demand demands ih =>
    intro fx s e he
    simp only [LeaseManager.appendDemandStatuses] at he
    rcases List.mem_append.mp he with he | he
    · rcases LeaseManager.appendDemandStatus_cases m (fx 0) s requester demand expiry with
        ⟨-, -, hmin, -⟩ | ⟨-, d, evs, sub, -, hmin, hev, -⟩
      · exact hmin.servedFor e he
      · rw [hev] at he
        rcases List.mem_append.mp he with he | he
        · exact hmin.servedFor e he
        · obtain rfl := List.mem_singleton.mp he
          rfl
    · exact ih _ _ e he

/-- **An accepted heartbeat works for its requester only.** -/
theorem handleHeartbeat_events {s : LeaseState} {identity : Str} {hb : Heartbeat}
    (h : resolveIdentity s identity hb.sessionId = some requester) (fx : Nat → DemandEffects)
    (now : Time) :
    ∃ evs, (m.handleHeartbeat fx now identity hb s).2 =
        .heartbeat now identity hb.sessionId (some requester) :: evs ∧
      ∀ e ∈ evs, ServedFor requester e := by
  rw [LeaseManager.handleHeartbeat_of_resolved h]
  refine ⟨_, List.cons_append, ?_⟩
  intro e he
  rcases List.mem_append.mp he with he | he
  · exact appendDemandStatuses_servedFor _ _ _ _ e he
  · unfold LeaseManager.publishStatusReport at he
    split at he
    · cases he
    · obtain rfl := List.mem_singleton.mp he
      rfl

theorem handleHeartbeat_sessions {s : LeaseState} {identity : Str} {hb : Heartbeat}
    (h : resolveIdentity s identity hb.sessionId = some requester) (fx : Nat → DemandEffects)
    (now : Time) (id : Str) :
    (m.handleHeartbeat fx now identity hb s).1.sessionLeases.lookup id =
      if hb.sessionId = some id then some ⟨requester, now + m.heartbeatLeaseDuration⟩
      else s.sessionLeases.lookup id := by
  rw [LeaseManager.handleHeartbeat_of_resolved h, LeaseManager.serveDemands,
    (appendDemandStatuses_frame requester _ hb.demands fx _).2.2.1]
  cases hsid : hb.sessionId with
  | none => rfl
  | some id' =>
    rw [LeaseState.bindSession, AList.lookup_insert_eq_if]
    simp only [Option.some.injEq, eq_comm]

theorem handleHeartbeat_isShutdown (s : LeaseState) (identity : Str) (hb : Heartbeat)
    (fx : Nat → DemandEffects) (now : Time) :
    (m.handleHeartbeat fx now identity hb s).1.isShutdown = s.isShutdown := by
  cases h : resolveIdentity s identity hb.sessionId with
  | none => rw [LeaseManager.handleHeartbeat_of_refused h]
  | some requester =>
    rw [LeaseManager.handleHeartbeat_of_resolved h, LeaseManager.serveDemands,
      (appendDemandStatuses_frame requester _ hb.demands fx _).2.2.2,
      LeaseState.bindSession_isShutdown]

end Events

/-! ### Who a session is bound to -/

/-- The identity of an accepted heartbeat that had one and carried `id`. -/
def identifiedBy (id : Str) : LeaseEvent → Option Str
  | .heartbeat _ identity (some id') (some _) =>
    if identity ≠ [] ∧ id' = id then some identity else none
  | _ => none

/-- `identity` is the one of the latest accepted identified heartbeat with `id`. -/
def LatestIdentity (id : Str) (tr : List LeaseEvent) (identity : Str) : Prop :=
  Standing (identifiedBy id) (fun _ _ => False) tr identity

/-- What holds of the sessions after a trace. -/
structure Sessions (tr : List LeaseEvent) (s : LeaseState) : Prop where
  bound : ∀ id lease, s.sessionLeases.lookup id = some lease →
    lease.requesterIdentity ≠ [] ∧ LatestIdentity id tr lease.requesterIdentity
  quiet : ∀ what, LeaseEvent.threw what ∉ tr

section Steps

variable {m : LeaseManager} {tr evs : List LeaseEvent} {s : LeaseState}

theorem LatestIdentity.append {id identity : Str} (h : LatestIdentity id tr identity)
    (hev : ∀ e ∈ evs, identifiedBy id e = none) : LatestIdentity id (tr ++ evs) identity :=
  (standing_append_of_quiet fun e he => ⟨hev e he, fun hc => hc⟩).mpr h

theorem ServedFor.identifiedBy {requester id : Str} {e : LeaseEvent} (h : ServedFor requester e) :
    identifiedBy id e = none := by
  cases e <;> first | rfl | exact absurd h (by simp [ServedFor])

/-- Whom a heartbeat is attributed to: itself, or whoever its session is bound
to. -/
theorem resolveIdentity_cases {identity requester : Str} {sessionId : Option Str}
    (h : resolveIdentity s identity sessionId = some requester) :
    (identity ≠ [] ∧ requester = identity) ∨
      (identity = [] ∧ ∃ id lease, sessionId = some id ∧ s.sessionLeases.lookup id = some lease ∧
        requester = lease.requesterIdentity) := by
  unfold resolveIdentity at h
  split at h
  · rename_i hid
    split at h
    · cases h
    · rename_i lease hl
      obtain ⟨id, hsid, hlook⟩ := Option.bind_eq_some_iff.mp hl
      exact .inr ⟨hid, id, lease, hsid, hlook, (Option.some.inj h).symm⟩
  · rename_i hid
    refine .inl ⟨hid, ?_⟩
    split at h
    · exact (Option.some.inj h).symm
    · split at h
      · exact (Option.some.inj h).symm
      · split at h
        · cases h
        · exact (Option.some.inj h).symm

theorem Sessions.heartbeat (h : Sessions tr s) (fx : Nat → DemandEffects) (now : Time)
    (identity : Str) (hb : Heartbeat) :
    Sessions (tr ++ (m.handleHeartbeat fx now identity hb s).2)
      (m.handleHeartbeat fx now identity hb s).1 := by
  cases hres : resolveIdentity s identity hb.sessionId with
  | none =>
    rw [LeaseManager.handleHeartbeat_of_refused hres]
    refine ⟨?_, ?_⟩
    · intro id lease hl
      obtain ⟨hne, hlast⟩ := h.bound id lease hl
      refine ⟨hne, hlast.append ?_⟩
      intro e he
      obtain rfl := List.mem_singleton.mp he
      cases hb.sessionId <;> rfl
    · intro what hm
      exact h.quiet what (by simpa using hm)
  | some requester =>
    obtain ⟨evs, hev, hserved⟩ := handleHeartbeat_events (m := m) hres fx now
    rw [hev]
    refine ⟨?_, ?_⟩
    · intro id lease hl
      rw [handleHeartbeat_sessions hres] at hl
      rw [show ∀ a : LeaseEvent, tr ++ a :: evs = (tr ++ [a]) ++ evs by simp]
      -- the rest of the heartbeat is no register of any session
      suffices hs : lease.requesterIdentity ≠ [] ∧ LatestIdentity id
          (tr ++ [.heartbeat now identity hb.sessionId (some requester)]) lease.requesterIdentity from
        ⟨hs.1, hs.2.append fun e he => (hserved e he).identifiedBy⟩
      by_cases hid : hb.sessionId = some id
      · rw [if_pos hid] at hl
        obtain rfl := Option.some.inj hl
        rw [hid]
        rcases resolveIdentity_cases hres with ⟨hne, rfl⟩ | ⟨hnil, id', old, hid', hold, rfl⟩
        · refine ⟨hne, ?_⟩
          rw [LatestIdentity, standing_concat_of_set (w := requester) (by simp [identifiedBy, hne])]
        · obtain rfl : id = id' := Option.some.inj (hid.symm.trans hid')
          obtain ⟨hne, hlast⟩ := h.bound id old hold
          refine ⟨hne, hlast.append ?_⟩
          intro e he
          obtain rfl := List.mem_singleton.mp he
          simp [LivekitBridge.identifiedBy, hnil]
      · rw [if_neg hid] at hl
        obtain ⟨hne, hlast⟩ := h.bound id lease hl
        refine ⟨hne, hlast.append ?_⟩
        intro e he
        obtain rfl := List.mem_singleton.mp he
        cases hsid : hb.sessionId with
        | none => rfl
        | some id' =>
          have : id' ≠ id := fun hc => hid (by rw [hsid, hc])
          simp [LivekitBridge.identifiedBy, this]
    · intro what hm
      rcases List.mem_append.mp hm with hm | hm
      · exact h.quiet what hm
      · rcases List.mem_cons.mp hm with hm | hm
        · cases hm
        · exact hserved _ hm

/-- A binding after a sweep that is not stopped by a shutdown. -/
theorem pruneExpiredLeases_sessions (hopen : s.isShutdown = false) (now : Time) (id : Str)
    (lease : SessionLease) :
    (LeaseManager.pruneExpiredLeases now s).1.sessionLeases.lookup id = some lease ↔
      s.sessionLeases.lookup id = some lease ∧ now < lease.expiry := by
  unfold LeaseManager.pruneExpiredLeases
  rw [if_neg (by simp [hopen])]
  show (pruneSessionLeases now s).sessionLeases.lookup id = some lease ↔ _
  rw [pruneSessionLeases, AList.lookup_filterMapVal, Option.bind_eq_some_iff]
  constructor
  · rintro ⟨l, hl, hlive⟩
    split at hlive
    · obtain rfl := Option.some.inj hlive
      exact ⟨hl, ‹_›⟩
    · cases hlive
  · rintro ⟨hl, hlt⟩
    exact ⟨lease, hl, if_pos hlt⟩

/-- A sweep evaluates minima. -/
theorem pruneExpiredLeases_events (now : Time) (s : LeaseState) :
    OnlyMinima (LeaseManager.pruneExpiredLeases now s).2 := by
  unfold LeaseManager.pruneExpiredLeases
  split
  · exact onlyMinima_nil
  · intro e he
    obtain ⟨x, _, hx⟩ := List.mem_flatMap.mp he
    exact (pruneSubscription_spec now x.2).1 e hx

/-- A sweep makes no binding. -/
theorem lookup_of_pruneExpiredLeases {now : Time} {id : Str} {lease : SessionLease}
    (h : (LeaseManager.pruneExpiredLeases now s).1.sessionLeases.lookup id = some lease) :
    s.sessionLeases.lookup id = some lease := by
  cases hsd : s.isShutdown with
  | false => exact ((pruneExpiredLeases_sessions hsd now id lease).mp h).1
  | true =>
    rw [LeaseManager.pruneExpiredLeases, if_pos hsd] at h
    exact h

/-- Events that no register of a session reads. -/
def NoSession : LeaseEvent → Prop
  | .heartbeat _ _ _ _ => False
  | .threw _ => False
  | _ => True

theorem Sessions.quiet_step {t : LeaseState} (h : Sessions tr s)
    (hsub : ∀ id lease, t.sessionLeases.lookup id = some lease →
      s.sessionLeases.lookup id = some lease)
    (hev : ∀ e ∈ evs, NoSession e) : Sessions (tr ++ evs) t := by
  refine ⟨?_, ?_⟩
  · intro id lease hl
    obtain ⟨hne, hlast⟩ := h.bound id lease (hsub id lease hl)
    refine ⟨hne, hlast.append fun e he => ?_⟩
    have := hev e he
    cases e <;> first | rfl | exact absurd this (by simp [NoSession])
  · intro what hm
    rcases List.mem_append.mp hm with hm | hm
    · exact h.quiet what hm
    · exact hev _ hm

theorem deliver_sessions (now : Time) (key cdr : Str) (s : LeaseState) :
    (LeaseManager.deliver now key cdr s).sessionLeases = s.sessionLeases ∧
      (LeaseManager.deliver now key cdr s).isShutdown = s.isShutdown := by
  obtain ⟨hsame, -⟩ | ⟨sub, publisher, -, -, hpushed⟩ := LeaseManager.deliver_cases now key cdr s
  · rw [hsame]
    exact ⟨rfl, rfl⟩
  · rw [hpushed]
    exact ⟨rfl, rfl⟩

theorem shutdown_cases (s : LeaseState) :
    (LeaseManager.shutdown s).isShutdown = true ∧
      (LeaseManager.shutdown s = s ∨ (LeaseManager.shutdown s).sessionLeases = ∅) := by
  unfold LeaseManager.shutdown
  split
  · exact ⟨‹_›, .inl rfl⟩
  · exact ⟨rfl, .inr rfl⟩

theorem sessions_of_trace (h : m.machine.Trace tr s) : Sessions tr s := by
  refine Machine.Trace.invariant (P := Sessions) ?_ ?_ h
  · rintro s rfl
    refine ⟨?_, fun what hm => by cases hm⟩
    intro id lease hl
    rw [LeaseState.initial, AList.lookup_empty] at hl
    cases hl
  · intro tr evs s t _ hs hstep
    cases hstep with
    | heartbeat fx now identity hb => exact hs.heartbeat fx now identity hb
    | prune now =>
      refine hs.quiet_step (fun id lease hl => lookup_of_pruneExpiredLeases hl) ?_
      intro e he
      rcases List.mem_append.mp he with he | he
      · obtain ⟨leases, _, rfl⟩ := pruneExpiredLeases_events now s e he
        trivial
      · obtain rfl := List.mem_singleton.mp he
        trivial
    | shutdown =>
      obtain ⟨_, hsh⟩ := shutdown_cases s
      refine hs.quiet_step ?_ (by simp [NoSession])
      intro id lease hl
      rcases hsh with hsh | hsh
      · rwa [hsh] at hl
      · rw [hsh, AList.lookup_empty] at hl
        cases hl
    | deliver now key cdr =>
      refine hs.quiet_step ?_ (by simp)
      intro id lease hl
      rwa [(deliver_sessions now key cdr s).1] at hl
    | echo sends kind name requester =>
      refine hs.quiet_step (fun _ _ hl => hl) ?_
      intro e he
      obtain ⟨topic, rosTopic, cdr, rfl⟩ := LeaseManager.dispatchEchoOnce_events he
      trivial

end Steps

/-! ### Bindings are safe -/

section Safety

variable {m : LeaseManager} {s : LeaseState} {id identity : Str} {lease : SessionLease}

/-- **A heartbeat leaves each session with its requester**, and renews it for the whole
duration or leaves its expiry as it is. -/
theorem handleHeartbeat_keeps (hl : s.sessionLeases.lookup id = some lease)
    (fx : Nat → DemandEffects) (now : Time) (identity : Str) (hb : Heartbeat) :
    (m.handleHeartbeat fx now identity hb s).1.sessionLeases.lookup id =
      some ⟨lease.requesterIdentity,
        if hb.sessionId = some id ∧ (resolveIdentity s identity hb.sessionId).isSome then
          now + m.heartbeatLeaseDuration
        else lease.expiry⟩ := by
  cases hres : resolveIdentity s identity hb.sessionId with
  | none =>
    rw [LeaseManager.handleHeartbeat_of_refused hres, if_neg (by simp)]
    exact hl
  | some requester =>
    rw [handleHeartbeat_sessions hres]
    by_cases hid : hb.sessionId = some id
    · rw [if_pos hid, if_pos ⟨hid, rfl⟩, resolveIdentity_bound hres hid hl]
    · rw [if_neg hid, if_neg fun hc => hid hc.1]
      exact hl

/-- No sweep drops a session before it expires. -/
theorem pruneExpiredLeases_keeps (hl : s.sessionLeases.lookup id = some lease) {now : Time}
    (hlt : now < lease.expiry) :
    (LeaseManager.pruneExpiredLeases now s).1.sessionLeases.lookup id = some lease := by
  cases hsd : s.isShutdown with
  | false => exact (pruneExpiredLeases_sessions hsd now id lease).mpr ⟨hl, hlt⟩
  | true =>
    rw [LeaseManager.pruneExpiredLeases, if_pos hsd]
    exact hl

theorem resolveIdentity_other (hl : s.sessionLeases.lookup id = some lease) (hne : identity ≠ [])
    (hother : identity ≠ lease.requesterIdentity) : resolveIdentity s identity (some id) = none := by
  cases hres : resolveIdentity s identity (some id) with
  | none => rfl
  | some requester =>
    rcases resolveIdentity_cases hres with ⟨_, rfl⟩ | ⟨hnil, _⟩
    · exact absurd (resolveIdentity_bound hres rfl hl).symm hother
    · exact absurd hnil hne

/-- An anonymous heartbeat is for the identity that bound its session last. -/
theorem Sessions.resolves_bound {tr : List LeaseEvent} (hs : Sessions tr s) {requester : Str}
    (hres : resolveIdentity s [] (some id) = some requester) :
    requester ≠ [] ∧ LatestIdentity id tr requester := by
  rcases resolveIdentity_cases hres with ⟨hne, _⟩ | ⟨_, id', lease, hid, hl, rfl⟩
  · exact absurd rfl hne
  · obtain rfl := Option.some.inj hid
    exact hs.bound id lease hl

end Safety

/-! ### Runs of heartbeats and sweeps -/

/-- A call of a run without a shutdown. -/
inductive LeaseCall
  | heartbeat (fx : Nat → DemandEffects) (now : Time) (identity : Str) (hb : Heartbeat)
  | prune (now : Time)

/-- One call, which is recorded if it is a sweep. -/
def LeaseManager.perform (m : LeaseManager) (s : LeaseState) :
    LeaseCall → LeaseState × List LeaseEvent
  | .heartbeat fx now identity hb => m.handleHeartbeat fx now identity hb s
  | .prune now => ((pruneExpiredLeases now s).1, (pruneExpiredLeases now s).2 ++ [.pruned now])

/-- A sequence of calls on a new manager: the state it ends in, and its events. -/
def LeaseManager.run (m : LeaseManager) (calls : List LeaseCall) : LeaseState × List LeaseEvent :=
  calls.foldl (fun out call =>
    ((m.perform out.1 call).1, out.2 ++ (m.perform out.1 call).2)) (.initial, [])

theorem LeaseManager.run_trace (m : LeaseManager) (calls : List LeaseCall) :
    m.machine.Trace (m.run calls).2 (m.run calls).1 ∧ (m.run calls).1.isShutdown = false := by
  induction calls using List.reverseRecOn with
  | nil => exact ⟨.start rfl, rfl⟩
  | append_singleton calls call ih =>
    rw [run, List.foldl_append]
    cases call with
    | heartbeat fx now identity hb =>
      refine ⟨.step ih.1 (.heartbeat fx now identity hb _), ?_⟩
      exact (handleHeartbeat_isShutdown _ _ _ _ _).trans ih.2
    | prune now =>
      refine ⟨.step ih.1 (.prune now _), ?_⟩
      show (pruneExpiredLeases now (m.run calls).1).1.isShutdown = false
      rw [pruneExpiredLeases, if_neg (by simp [ih.2])]
      exact ih.2

def LeaseCall.time : LeaseCall → Time
  | .heartbeat _ now _ _ => now
  | .prune now => now

/-- The clock does not go back from one call to a later one. -/
def ClockMonotone (calls : List LeaseCall) : Prop :=
  calls.Pairwise fun call later => call.time ≤ later.time

section Runs

variable {m : LeaseManager} {calls more : List LeaseCall} {id : Str} {lease : SessionLease}

theorem LeaseManager.run_concat (m : LeaseManager) (calls : List LeaseCall) (call : LeaseCall) :
    m.run (calls ++ [call]) = ((m.perform (m.run calls).1 call).1,
      (m.run calls).2 ++ (m.perform (m.run calls).1 call).2) := by
  rw [run, List.foldl_append]
  rfl

/-- A binding expires at the latest when the duration has passed since the last call. -/
theorem expiry_le_of_run {now : Time} (hcalls : ∀ call ∈ calls, call.time ≤ now)
    (hl : (m.run calls).1.sessionLeases.lookup id = some lease) :
    lease.expiry ≤ now + m.heartbeatLeaseDuration := by
  induction calls using List.reverseRecOn with
  | nil =>
    rw [LeaseManager.run, List.foldl_nil, LeaseState.initial, AList.lookup_empty] at hl
    cases hl
  | append_singleton calls call ih =>
    have hearlier := ih fun c hc => hcalls c (List.mem_append_left _ hc)
    rw [LeaseManager.run_concat] at hl
    cases call with
    | heartbeat fx time identity hb =>
      have htime : time ≤ now := hcalls _ (List.mem_append_right _ List.mem_cons_self)
      cases hres : resolveIdentity (m.run calls).1 identity hb.sessionId with
      | none =>
        rw [LeaseManager.perform, LeaseManager.handleHeartbeat_of_refused hres] at hl
        exact hearlier hl
      | some requester =>
        rw [LeaseManager.perform, handleHeartbeat_sessions hres] at hl
        split at hl
        · obtain rfl := Option.some.inj hl
          exact Nat.add_le_add_right htime _
        · exact hearlier hl
    | prune time => exact hearlier (lookup_of_pruneExpiredLeases hl)

theorem perform_keeps (hl : (m.run calls).1.sessionLeases.lookup id = some lease)
    {call : LeaseCall} (hcalls : ∀ earlier ∈ calls, earlier.time ≤ call.time)
    (hlt : call.time < lease.expiry) :
    ∃ expiry, lease.expiry ≤ expiry ∧
      (m.run (calls ++ [call])).1.sessionLeases.lookup id =
        some ⟨lease.requesterIdentity, expiry⟩ := by
  rw [LeaseManager.run_concat]
  cases call with
  | heartbeat fx now identity hb =>
    refine ⟨_, ?_, handleHeartbeat_keeps hl fx now identity hb⟩
    split
    · exact expiry_le_of_run hcalls hl
    · exact le_rfl
  | prune now => exact ⟨lease.expiry, le_rfl, pruneExpiredLeases_keeps hl hlt⟩

/-- **No run of calls before the expiry** removes a binding or changes its requester. -/
theorem run_keeps (hclock : ClockMonotone (calls ++ more))
    (hl : (m.run calls).1.sessionLeases.lookup id = some lease)
    (hmore : ∀ call ∈ more, call.time < lease.expiry) :
    ∃ expiry, lease.expiry ≤ expiry ∧
      (m.run (calls ++ more)).1.sessionLeases.lookup id =
        some ⟨lease.requesterIdentity, expiry⟩ := by
  induction more using List.reverseRecOn with
  | nil =>
    rw [List.append_nil]
    exact ⟨lease.expiry, le_rfl, hl⟩
  | append_singleton more call ih =>
    rw [← List.append_assoc] at hclock ⊢
    obtain ⟨hbefore, -, hlast⟩ := List.pairwise_append.mp hclock
    obtain ⟨expiry, hle, hkept⟩ := ih hbefore fun c hc => hmore c (List.mem_append_left _ hc)
    have hlt : call.time < expiry :=
      Nat.lt_of_lt_of_le (hmore call (List.mem_append_right _ List.mem_cons_self)) hle
    obtain ⟨expiry', hle', hkept'⟩ := perform_keeps hkept
      (fun earlier hearlier => hlast earlier hearlier call List.mem_cons_self) hlt
    exact ⟨expiry', hle.trans hle', hkept'⟩

end Runs

/-- **Session binding safety.**  In every run with a monotone clock, calls before the
expiry of a binding neither remove it nor change its requester nor bring its expiry
forward.  In every state a run reaches: a heartbeat leaves a binding with its requester,
renewed for the whole duration if it carries the session and is accepted, and no sweep
before its expiry drops it; a heartbeat of another identity changes nothing and is not
answered; an anonymous heartbeat acts for, and answers to, the identity that bound its
session last; and `renewSessionLease` has not thrown. -/
theorem session_binding_safety (m : LeaseManager) :
    (∀ calls more, ClockMonotone (calls ++ more) → ∀ id lease,
      (m.run calls).1.sessionLeases.lookup id = some lease →
      (∀ call ∈ more, call.time < lease.expiry) →
      ∃ expiry, lease.expiry ≤ expiry ∧
        (m.run (calls ++ more)).1.sessionLeases.lookup id =
          some ⟨lease.requesterIdentity, expiry⟩) ∧
    ∀ tr s, m.machine.Trace tr s →
      (∀ id lease, s.sessionLeases.lookup id = some lease →
        (∀ fx now identity hb,
          (m.handleHeartbeat fx now identity hb s).1.sessionLeases.lookup id =
            some ⟨lease.requesterIdentity,
              if hb.sessionId = some id ∧ (resolveIdentity s identity hb.sessionId).isSome then
                now + m.heartbeatLeaseDuration
              else lease.expiry⟩) ∧
        (∀ now, now < lease.expiry →
          (LeaseManager.pruneExpiredLeases now s).1.sessionLeases.lookup id = some lease)) ∧
      (∀ fx now identity hb id lease, identity ≠ [] → hb.sessionId = some id →
        s.sessionLeases.lookup id = some lease → identity ≠ lease.requesterIdentity →
        (m.handleHeartbeat fx now identity hb s).1 = s ∧
        ∀ destination report,
          .statusSent destination report ∉ (m.handleHeartbeat fx now identity hb s).2) ∧
      (∀ fx now hb id requester, hb.sessionId = some id →
        resolveIdentity s [] hb.sessionId = some requester →
        requester ≠ [] ∧ LatestIdentity id tr requester ∧
        (∀ key r, r ≠ requester →
          (m.handleHeartbeat fx now [] hb s).1.leaseAt key r = s.leaseAt key r) ∧
        (∀ key r lease, .ensured key r lease ∈ (m.handleHeartbeat fx now [] hb s).2 →
          r = requester) ∧
        (∀ destination report,
          .statusSent destination report ∈ (m.handleHeartbeat fx now [] hb s).2 →
          destination = requester)) ∧
      (∀ what, LeaseEvent.threw what ∉ tr) := by
  refine ⟨fun calls more hclock id lease => run_keeps hclock, ?_⟩
  intro tr s h
  have hs := sessions_of_trace h
  refine ⟨?_, ?_, ?_, hs.quiet⟩
  · intro id lease hl
    exact ⟨handleHeartbeat_keeps hl, fun now => pruneExpiredLeases_keeps hl⟩
  · intro fx now identity hb id lease hne hid hl hother
    have hres : resolveIdentity s identity hb.sessionId = none := by
      rw [hid]
      exact resolveIdentity_other hl hne hother
    rw [LeaseManager.handleHeartbeat_of_refused hres]
    exact ⟨rfl, fun destination report hm => by simp at hm⟩
  · intro fx now hb id requester hid hres
    have hbound : requester ≠ [] ∧ LatestIdentity id tr requester := by
      rw [hid] at hres
      exact hs.resolves_bound hres
    obtain ⟨evs, hev, hserved⟩ := handleHeartbeat_events (m := m) hres fx now
    refine ⟨hbound.1, hbound.2, (handleHeartbeat_frame hres fx now).1, ?_, ?_⟩
    · intro key r lease hm
      rw [hev] at hm
      rcases List.mem_cons.mp hm with hm | hm
      · cases hm
      · exact hserved _ hm
    · intro destination report hm
      rw [hev] at hm
      rcases List.mem_cons.mp hm with hm | hm
      · cases hm
      · exact hserved _ hm

/-- `alice` binds the session `tab`. -/
def aliceBinds : LeaseCall :=
  .heartbeat (fun _ => chatterEffects) 0 (lit "alice") (chatterHeartbeat (some (lit "tab")) 100)

/-- `mallory` carries it too. -/
def malloryTries : LeaseCall :=
  .heartbeat (fun _ => chatterEffects) 1 (lit "mallory") (chatterHeartbeat (some (lit "tab")) 100)

/-- `mallory` cannot take the session over, and it is bound until it expires. -/
theorem session_binding_safety_alice :
    (openManager.perform (openManager.run [aliceBinds]).1 malloryTries).1 =
      (openManager.run [aliceBinds]).1 ∧
    ∃ expiry, 45000000000 ≤ expiry ∧
      (openManager.run ([aliceBinds] ++ [malloryTries, .prune 44500000000])).1.sessionLeases.lookup
        (lit "tab") = some ⟨lit "alice", expiry⟩ := by
  have hl : (openManager.run [aliceBinds]).1.sessionLeases.lookup (lit "tab") =
      some ⟨lit "alice", 45000000000⟩ := rfl
  obtain ⟨hruns, hstates⟩ := session_binding_safety openManager
  constructor
  · exact ((hstates _ _ (openManager.run_trace [aliceBinds]).1).2.1 _ 1 _ _ (lit "tab") _
      (by decide) rfl hl (by decide)).1
  · refine hruns [aliceBinds] [malloryTries, .prune 44500000000] ?_ (lit "tab") _ hl ?_
    · simp [ClockMonotone, aliceBinds, malloryTries, LeaseCall.time]
    · simp [malloryTries, LeaseCall.time]

/-! ### Expiry between sweeps -/

/-- The binding that an accepted heartbeat carrying `id` makes. -/
def boundLease (m : LeaseManager) (id : Str) : LeaseEvent → Option SessionLease
  | .heartbeat now _ (some id') (some requester) =>
    if id' = id then some ⟨requester, now + m.heartbeatLeaseDuration⟩ else none
  | _ => none

/-- A sweep at or after the expiry drops a binding. -/
def EndsBinding (lease : SessionLease) : LeaseEvent → Prop
  | .pruned now => lease.expiry ≤ now
  | _ => False

/-- The latest accepted heartbeat that carried `id` made the binding `lease`, and
no sweep since has come at or after its expiry. -/
def Bound (m : LeaseManager) (id : Str) (tr : List LeaseEvent) (lease : SessionLease) : Prop :=
  Standing (boundLease m id) EndsBinding tr lease

section Bindings

variable {m : LeaseManager} {tr evs : List LeaseEvent} {s : LeaseState}

theorem bound_append {id : Str} {lease : SessionLease}
    (hev : ∀ e ∈ evs, boundLease m id e = none ∧ ¬ EndsBinding lease e) :
    Bound m id (tr ++ evs) lease ↔ Bound m id tr lease := standing_append_of_quiet hev

theorem ServedFor.quiet {requester id : Str} {e : LeaseEvent} (h : ServedFor requester e)
    (lease : SessionLease) : boundLease m id e = none ∧ ¬ EndsBinding lease e := by
  cases e <;> simp_all [ServedFor, boundLease, EndsBinding]

/-- **The sessions are the history's bindings**, until the manager is shut down. -/
theorem lookup_iff_bound (h : m.machine.Trace tr s) : s.isShutdown = false → ∀ id lease,
    s.sessionLeases.lookup id = some lease ↔ Bound m id tr lease := by
  refine Machine.Trace.invariant
    (P := fun tr s => s.isShutdown = false → ∀ id lease,
      s.sessionLeases.lookup id = some lease ↔ Bound m id tr lease) ?_ ?_ h
  · rintro s rfl _ id lease
    rw [LeaseState.initial, AList.lookup_empty]
    exact ⟨fun hc => by simp at hc, fun hc => absurd hc (not_standing_nil lease)⟩
  · intro tr evs s t _ ih hstep hopen id lease
    cases hstep with
    | heartbeat fx now identity hb =>
      rw [handleHeartbeat_isShutdown] at hopen
      cases hres : resolveIdentity s identity hb.sessionId with
      | none =>
        rw [LeaseManager.handleHeartbeat_of_refused hres, bound_append]
        · exact ih hopen id lease
        · intro e he
          obtain rfl := List.mem_singleton.mp he
          cases hb.sessionId <;> exact ⟨rfl, fun hc => hc⟩
      | some requester =>
        obtain ⟨evs, hev, hserved⟩ := handleHeartbeat_events (m := m) hres fx now
        rw [hev, handleHeartbeat_sessions hres,
          show ∀ a : LeaseEvent, tr ++ a :: evs = (tr ++ [a]) ++ evs by simp,
          bound_append fun e he => (hserved e he).quiet lease]
        by_cases hid : hb.sessionId = some id
        · rw [if_pos hid, hid, Bound, standing_concat_of_set
            (w := ⟨requester, now + m.heartbeatLeaseDuration⟩) (by simp [boundLease])]
          exact ⟨fun hc => (Option.some.inj hc).symm, fun hc => congrArg some hc.symm⟩
        · rw [if_neg hid, bound_append]
          · exact ih hopen id lease
          · intro e he
            obtain rfl := List.mem_singleton.mp he
            refine ⟨?_, fun hc => hc⟩
            cases hsid : hb.sessionId with
            | none => rfl
            | some id' =>
              have : id' ≠ id := fun hc => hid (by rw [hsid, hc])
              simp [boundLease, this]
    | prune now =>
      have hsd : s.isShutdown = false := by
        cases hsd : s.isShutdown with
        | false => rfl
        | true =>
          rw [LeaseManager.pruneExpiredLeases, if_pos hsd] at hopen
          exact hsd.symm.trans hopen
      rw [pruneExpiredLeases_sessions hsd, ← List.append_assoc, Bound,
        standing_concat_of_not_set rfl, ← Bound, bound_append, ih hsd id lease]
      · exact and_congr_right fun _ => Nat.not_le.symm
      · intro e he
        obtain ⟨leases, _, rfl⟩ := pruneExpiredLeases_events now s e he
        exact ⟨rfl, fun hc => hc⟩
    | shutdown =>
      rw [(shutdown_cases s).1] at hopen
      cases hopen
    | deliver now key cdr =>
      rw [(deliver_sessions now key cdr s).2] at hopen
      rw [(deliver_sessions now key cdr s).1, List.append_nil]
      exact ih hopen id lease
    | echo sends kind name requester =>
      rw [bound_append]
      · exact ih hopen id lease
      · intro e he
        obtain ⟨topic, rosTopic, cdr, rfl⟩ := LeaseManager.dispatchEchoOnce_events he
        exact ⟨rfl, fun hc => hc⟩

end Bindings

/-- The expiry of `id` is honoured when a heartbeat at `now` carries it: an
anonymous one is accepted, and one with another identity refused, only for a
binding that has not expired. -/
def HonoursExpiry (s : LeaseState) (now : Time) (identity id : Str) : Prop :=
  (identity = [] → resolveIdentity s identity (some id) ≠ none →
    ∃ lease, s.sessionLeases.lookup id = some lease ∧ now < lease.expiry) ∧
  (identity ≠ [] → resolveIdentity s identity (some id) = none →
    ∃ lease, s.sessionLeases.lookup id = some lease ∧ lease.requesterIdentity ≠ identity ∧
      now < lease.expiry)

/-- A run that honours the expiry of sessions at every heartbeat. -/
def ExpiryHonoured (m : LeaseManager) (calls : List LeaseCall) : Prop :=
  ∀ before fx now identity hb after id,
    calls = before ++ .heartbeat fx now identity hb :: after → hb.sessionId = some id →
    HonoursExpiry (m.run before).1 now identity id

/-- A run in which every heartbeat comes before the expiry of the binding its
session has, or after a sweep at or after that expiry, or from the identity that
the session is bound to. -/
def SweptInTime (m : LeaseManager) (calls : List LeaseCall) : Prop :=
  ∀ before fx now identity hb after id,
    calls = before ++ .heartbeat fx now identity hb :: after → hb.sessionId = some id →
    ∀ lease, Bound m id (m.run before).2 lease →
      lease.requesterIdentity = identity ∨ now < lease.expiry

/-- One heartbeat: the expiry is honoured unless an expired binding to somebody
else is still in the map. -/
theorem honoursExpiry_iff {s : LeaseState} (now : Time) (identity id : Str)
    (hbound : ∀ lease, s.sessionLeases.lookup id = some lease → lease.requesterIdentity ≠ []) :
    HonoursExpiry s now identity id ↔
      ∀ lease, s.sessionLeases.lookup id = some lease →
        lease.requesterIdentity = identity ∨ now < lease.expiry := by
  unfold HonoursExpiry resolveIdentity
  cases hl : (s.sessionLeases.lookup id : Option SessionLease) with
  | none =>
    by_cases hid : identity = []
    · simp [hid, hl]
    · simp [hid, hl]
  | some lease =>
    have hne := hbound lease hl
    by_cases hid : identity = []
    · simp [hid, hl, hne]
    · by_cases hr : lease.requesterIdentity = identity
      · simp [hid, hl, hr]
      · simp [hid, hl, hr]

/-- **When a run honours the expiry of sessions.**  The code enforces it by sweeps
alone, so it does exactly when no heartbeat of another sender falls between the
expiry of a binding and the next sweep. -/
theorem expiryHonoured_iff (m : LeaseManager) (calls : List LeaseCall) :
    ExpiryHonoured m calls ↔ SweptInTime m calls := by
  unfold ExpiryHonoured SweptInTime
  refine forall_congr' fun before => forall_congr' fun fx => forall_congr' fun now =>
    forall_congr' fun identity => forall_congr' fun hb => forall_congr' fun after =>
    forall_congr' fun id => forall_congr' fun _ => forall_congr' fun _ => ?_
  obtain ⟨htrace, hopen⟩ := m.run_trace before
  rw [honoursExpiry_iff now identity id fun lease hl =>
    ((sessions_of_trace htrace).bound id lease hl).1]
  exact forall_congr' fun lease => imp_congr_left (lookup_iff_bound htrace hopen id lease)

/-- `alice` binds the session `tab` at 0 for 45 s; at 45.2 s, before the sweep of
that second, a heartbeat without an identity carries it. -/
def lateAnonymous : List LeaseCall :=
  [.heartbeat (fun _ => chatterEffects) 0 (lit "alice") (chatterHeartbeat (some (lit "tab")) 100),
    .prune 44500000000,
    .heartbeat (fun _ => chatterEffects) 45200000000 [] (chatterHeartbeat (some (lit "tab")) 100)]

/-- **An expired binding still answers**: the late heartbeat is accepted. -/
theorem not_expiryHonoured_lateAnonymous : ¬ ExpiryHonoured openManager lateAnonymous := by
  intro h
  have := (h (lateAnonymous.take 2) _ _ _ _ [] (lit "tab") rfl rfl).1 rfl (by decide +kernel)
  obtain ⟨lease, hl, hlt⟩ := this
  have heval : (openManager.run (lateAnonymous.take 2)).1.sessionLeases.lookup (lit "tab") =
      some ⟨lit "alice", 45000000000⟩ := rfl
  rw [heval] at hl
  obtain rfl := Option.some.inj hl
  exact absurd hlt (by decide)

end LivekitBridge
