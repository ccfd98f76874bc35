import LivekitBridge.Services.Sections

/-!
# Slots and promises of service calls

Two books are kept.  `inflight_counts` counts the calls of each requester in
`inflight_calls` (`Counted`); and every promise that was made is in one place: with
a call that has not reached `state_mutex`, in `inflight_calls`, or settled once
(`Conserved`).  `Accounted` is the invariant: each section keeps it, by the section's
lemma, and `accounted_of_trace` carries it through every interleaving.
-/

namespace LivekitBridge

open Lib

/-! ### The books -/

/-- The event sets promise `p`. -/
def settlesPromise (p : Nat) : CallerEvent → Bool
  | .settled q _ => q == p
  | _ => false

/-- How many calls in progress own `p`. -/
def pendingOf (ops : AList fun _ : Nat => CallerOp) (p : Nat) : Nat :=
  ops.countVal fun op => op.promise? == some p

/-- How many entries of `inflight_calls` own `p`. -/
def inflightOf (calls : InflightCalls) (p : Nat) : Nat := calls.countVal fun call => call.promise == p

/-- Every promise that was made is in one place, or was set once. -/
def Conserved (tr : List CallerEvent) (s : CallerState) : Prop :=
  ∀ p, pendingOf s.ops p + inflightOf s.inflightCalls p + tr.countP (settlesPromise p) =
    if p < s.nextPromise then 1 else 0

/-- What holds of a trace and the state it reaches. -/
structure Accounted (tr : List CallerEvent) (s : CallerState) : Prop where
  counted : Counted s.inflightCounts s.inflightCalls
  bounded : ∀ r, callsOf s.inflightCalls r ≤ kMaxInflightPerRequester
  conserved : Conserved tr s
  registered : ∀ key call, s.inflightCalls.lookup key = some call →
    call.requester ≠ [] ∧ .registered key call.promise call.requester ∈ tr
  answered : ∀ p outcome key, .settled p outcome ∈ tr → outcome.key? = some key →
    ∃ r, CallerEvent.registered key p r ∈ tr
  named : ∀ op p r request t, s.ops.lookup op = some (.call p r request t) → r ≠ []
  returned : ∀ p, .returned p ∈ tr → pendingOf s.ops p = 0 ∧ p < s.nextPromise
  closing : ∀ op thread stage, s.ops.lookup op = some (.shutdown thread stage) →
    s.gate.isClosed = true
  finished : .shutDown ∈ tr → s.gate.isClosed = true ∧ s.inflightCalls = ∅

section Books

variable {tr evs : List CallerEvent} {s t : CallerState}

/-- The books do not read the waitable and the client cache. -/
theorem Accounted.congr (h : Accounted tr s) (hgate : t.gate = s.gate)
    (hcalls : t.inflightCalls = s.inflightCalls)
    (hcounts : ∀ r, t.inflightCounts.lookup r = s.inflightCounts.lookup r) (hops : t.ops = s.ops)
    (hnext : t.nextPromise = s.nextPromise) : Accounted tr t where
  counted r := by rw [hcounts, hcalls]; exact h.counted r
  bounded := by rw [hcalls]; exact h.bounded
  conserved p := by rw [hops, hcalls, hnext]; exact h.conserved p
  registered := by rw [hcalls]; exact h.registered
  answered := h.answered
  named := by rw [hops]; exact h.named
  returned := by rw [hops, hnext]; exact h.returned
  closing := by rw [hops, hgate]; exact h.closing
  finished := by rw [hgate, hcalls]; exact h.finished

theorem Accounted.reports (h : Accounted tr s) {e : CallerEvent}
    (hsettled : ∀ p outcome, e ≠ .settled p outcome)
    (hreturned : ∀ p, e = .returned p → pendingOf s.ops p = 0 ∧ p < s.nextPromise)
    (hfinished : e = .shutDown → s.gate.isClosed = true ∧ s.inflightCalls = ∅) :
    Accounted (tr ++ [e]) s where
  counted := h.counted
  bounded := h.bounded
  conserved p := by
    have hnone : [e].countP (settlesPromise p) = 0 := by
      rw [List.countP_singleton, if_neg]
      intro hsettles
      cases e with
      | settled q outcome => exact hsettled q outcome rfl
      | _ => cases hsettles
    rw [List.countP_append, hnone]
    exact h.conserved p
  registered key call hl :=
    ⟨(h.registered key call hl).1, List.mem_append_left _ (h.registered key call hl).2⟩
  answered p outcome key hm hk := by
    rcases List.mem_append.mp hm with hold | hnew
    · obtain ⟨r, hr⟩ := h.answered p outcome key hold hk
      exact ⟨r, List.mem_append_left _ hr⟩
    · exact absurd (List.mem_singleton.mp hnew).symm (hsettled p outcome)
  named := h.named
  returned p hm := by
    rcases List.mem_append.mp hm with hold | hnew
    · exact h.returned p hold
    · exact hreturned p (List.mem_singleton.mp hnew).symm
  closing := h.closing
  finished hm := by
    rcases List.mem_append.mp hm with hold | hnew
    · exact h.finished hold
    · exact hfinished (List.mem_singleton.mp hnew).symm

theorem Accounted.threw (h : Accounted tr s) (what : Str) : Accounted (tr ++ [.threw what]) s := by
  apply h.reports
  · intro p outcome heq
    cases heq
  · intro p heq
    cases heq
  · intro heq
    cases heq

theorem Accounted.returns (h : Accounted tr s) {p : Nat} (hp : pendingOf s.ops p = 0)
    (hlt : p < s.nextPromise) : Accounted (tr ++ [.returned p]) s := by
  apply h.reports
  · intro q outcome heq
    cases heq
  · intro q heq
    obtain rfl := CallerEvent.returned.inj heq
    exact ⟨hp, hlt⟩
  · intro heq
    cases heq

theorem Accounted.settle (h : Accounted tr s) {key : InflightKey} {call : InflightCall}
    {outcome : Settlement} (hkey : s.inflightCalls.lookup key = some call)
    (hout : ∀ k, outcome.key? = some k → k = key) :
    Accounted (tr ++ [.settled call.promise outcome]) (LivekitBridge.settle s key call outcome).1 := by
  obtain ⟨hcounted, hle⟩ := h.counted.settle hkey
  refine ⟨hcounted, fun r => (hle r).trans (h.bounded r), ?_, ?_, ?_, h.named, ?_, h.closing, ?_⟩
  · intro p
    have hp := h.conserved p
    have herase : inflightOf s.inflightCalls p = inflightOf (s.inflightCalls.erase key) p +
        if (call.promise == p) = true then 1 else 0 := AList.countVal_erase hkey
    show pendingOf s.ops p + inflightOf (s.inflightCalls.erase key) p +
      (tr ++ [CallerEvent.settled call.promise outcome]).countP (settlesPromise p) =
        if p < s.nextPromise then 1 else 0
    rw [List.countP_append, List.countP_singleton, settlesPromise]
    omega
  · intro k c hl
    have hl' : s.inflightCalls.lookup k = some c := by
      rw [LivekitBridge.settle, AList.lookup_erase_eq_if] at hl
      split at hl
      · cases hl
      · exact hl
    exact ⟨(h.registered k c hl').1, List.mem_append_left _ (h.registered k c hl').2⟩
  · intro p o k hm hk
    rcases List.mem_append.mp hm with hm | hm
    · obtain ⟨r, hr⟩ := h.answered p o k hm hk
      exact ⟨r, List.mem_append_left _ hr⟩
    · obtain ⟨rfl, rfl⟩ := CallerEvent.settled.inj (List.mem_singleton.mp hm)
      obtain rfl := hout k hk
      exact ⟨call.requester, List.mem_append_left _ (h.registered k call hkey).2⟩
  · intro p hm
    exact h.returned p (by simpa using hm)
  · intro hm
    have := (h.finished (by simpa using hm)).2
    rw [this, AList.lookup_empty] at hkey
    cases hkey

theorem Settles.keeps (h : Settles s evs t) :
    t.gate = s.gate ∧ t.ops = s.ops ∧ t.nextPromise = s.nextPromise := by
  induction h with
  | refl s => exact ⟨rfl, rfl, rfl⟩
  | settle _ _ _ ih => exact ih

/-- **Settlements keep the books.** -/
theorem Accounted.settles (h : Accounted tr s) (hs : Settles s evs t) : Accounted (tr ++ evs) t := by
  induction hs generalizing tr with
  | refl s =>
    rw [List.append_nil]
    exact h
  | settle hkey hout _ ih =>
    rw [List.append_cons]
    exact ih (h.settle hkey hout)

theorem Accounted.sync (h : Accounted tr s) (fx : SyncEffects) (wakes : Bool) :
    Accounted (tr ++ thrown (syncWaitableLocked fx wakes s).2) (syncWaitableLocked fx wakes s).1 := by
  obtain ⟨w, hw⟩ := syncWaitableLocked_keeps fx wakes s
  have hsame : Accounted tr (syncWaitableLocked fx wakes s).1 := by
    rw [hw]
    exact h.congr rfl rfl (fun _ => rfl) rfl rfl
  cases (syncWaitableLocked fx wakes s).2 with
  | none =>
    rw [thrown, List.append_nil]
    exact hsame
  | some what => exact hsame.threw what

theorem Accounted.cancel (h : Accounted tr s) (fx : SyncEffects) (requester : Str) :
    Accounted (tr ++ (cancelForRequester fx s requester).2) (cancelForRequester fx s requester).1 := by
  unfold cancelForRequester
  split
  · rw [List.append_nil]
    exact h
  · dsimp only
    rw [← List.append_assoc]
    exact (h.settles (failMatchingCalls_spec _ _ s).1).sync fx true

theorem syncWaitableLocked_ops (fx : SyncEffects) (wakes : Bool) (s : CallerState) :
    (syncWaitableLocked fx wakes s).1.ops = s.ops ∧
      (syncWaitableLocked fx wakes s).1.gate = s.gate := by
  obtain ⟨w, hw⟩ := syncWaitableLocked_keeps fx wakes s
  rw [hw]
  exact ⟨rfl, rfl⟩

theorem executeSection_keeps (fx : ExecuteEffects) (s : CallerState) :
    (executeSection fx s).1.ops = s.ops ∧ (executeSection fx s).1.gate = s.gate := by
  unfold executeSection
  split
  · exact ⟨rfl, rfl⟩
  · obtain ⟨hgate, hops, _⟩ := (drainResponses_settles fx.responses s).keeps
    dsimp only
    split
    · exact ⟨hops, hgate⟩
    · obtain ⟨hgate', hops', _⟩ := (failMatchingCalls_spec
        (fun call => decide (call.deadline ≤ fx.now)) (lit "Service call timed out.")
        (drainResponses s fx.responses).1).1.keeps
      obtain ⟨hops'', hgate''⟩ := syncWaitableLocked_ops fx.sync false (failMatchingCalls
        (fun call => decide (call.deadline ≤ fx.now)) (lit "Service call timed out.")
        (drainResponses s fx.responses).1).1
      exact ⟨hops''.trans (hops'.trans hops), hgate''.trans (hgate'.trans hgate)⟩

theorem Accounted.execute (h : Accounted tr s) (fx : ExecuteEffects) :
    Accounted (tr ++ (executeSection fx s).2) (executeSection fx s).1 := by
  unfold executeSection
  split
  · rw [List.append_nil]
    exact h
  · have hdrain := h.settles (drainResponses_settles fx.responses s)
    dsimp only
    split
    · rw [← List.append_assoc]
      exact hdrain.threw _
    · have htimeout := hdrain.settles (failMatchingCalls_spec
        (fun call => decide (call.deadline ≤ fx.now)) (lit "Service call timed out.") _).1
      have hsync := htimeout.sync fx.sync false
      simpa only [List.append_assoc] using hsync

/-- A call in progress leaves with its promise. -/
theorem pendingOf_erase {ops : AList fun _ : Nat => CallerOp} {op p : Nat} {r : Str}
    {request : ServiceCallRequest} {ty : Str} (h : ops.lookup op = some (.call p r request ty))
    (q : Nat) :
    pendingOf ops q = pendingOf (ops.erase op) q + if (p == q) = true then 1 else 0 := by
  rw [pendingOf, AList.countVal_erase h, ← pendingOf]
  simp [CallerOp.promise?]

theorem lookup_of_erase {κ ν : Type} [DecidableEq κ] {m : AList fun _ : κ => ν} {a b : κ} {x : ν}
    (h : (m.erase a).lookup b = some x) : m.lookup b = some x := by
  rw [AList.lookup_erase_eq_if] at h
  split at h
  · cases h
  · exact h

theorem Accounted.pending (h : Accounted tr s) {op p : Nat} {r : Str} {request : ServiceCallRequest}
    {ty : Str} (hop : s.ops.lookup op = some (.call p r request ty)) :
    p < s.nextPromise ∧ pendingOf (s.ops.erase op) p = 0 ∧ inflightOf s.inflightCalls p = 0 ∧
      tr.countP (settlesPromise p) = 0 := by
  have hp := h.conserved p
  have herase := pendingOf_erase hop p
  rw [if_pos (beq_self_eq_true p)] at herase
  by_cases hlt : p < s.nextPromise
  · rw [if_pos hlt] at hp
    exact ⟨hlt, by omega, by omega, by omega⟩
  · rw [if_neg hlt] at hp
    omega

/-- A call in progress fails: its promise is set. -/
theorem Accounted.reject (h : Accounted tr s) {op p : Nat} {r : Str} {request : ServiceCallRequest}
    {ty : Str} (hop : s.ops.lookup op = some (.call p r request ty)) (what : Str) :
    Accounted (tr ++ [.settled p (.failed what), .returned p]) { s with ops := s.ops.erase op } := by
  obtain ⟨hlt, hpend, _, _⟩ := h.pending hop
  have hsettled : Accounted (tr ++ [.settled p (.failed what)]) { s with ops := s.ops.erase op } := by
    refine ⟨h.counted, h.bounded, ?_, ?_, ?_, ?_, ?_, ?_, ?_⟩
    · intro q
      have hq := h.conserved q
      have herase := pendingOf_erase hop q
      show pendingOf (s.ops.erase op) q + inflightOf s.inflightCalls q +
        (tr ++ [CallerEvent.settled p (.failed what)]).countP (settlesPromise q) =
          if q < s.nextPromise then 1 else 0
      rw [List.countP_append, List.countP_singleton, settlesPromise]
      omega
    · intro key call hl
      exact ⟨(h.registered key call hl).1, List.mem_append_left _ (h.registered key call hl).2⟩
    · intro q o k hm hk
      rcases List.mem_append.mp hm with hm | hm
      · obtain ⟨r, hr⟩ := h.answered q o k hm hk
        exact ⟨r, List.mem_append_left _ hr⟩
      · obtain ⟨rfl, rfl⟩ := CallerEvent.settled.inj (List.mem_singleton.mp hm)
        cases hk
    · intro op' q r' request' t' hl
      exact h.named op' q r' request' t' (lookup_of_erase hl)
    · intro q hm
      obtain ⟨hz, hq⟩ := h.returned q (by simpa using hm)
      refine ⟨?_, hq⟩
      have := pendingOf_erase hop q
      show pendingOf (s.ops.erase op) q = 0
      omega
    · intro op' thread stage hl
      exact h.closing op' thread stage (lookup_of_erase hl)
    · intro hm
      exact h.finished (by simpa using hm)
  rw [List.append_cons]
  exact hsettled.returns hpend hlt

theorem Accounted.register (h : Accounted tr s) {op p : Nat} {r : Str} {request : ServiceCallRequest}
    {ty : Str} (hop : s.ops.lookup op = some (.call p r request ty))
    (hopen : s.gate.isClosed = false) {key : InflightKey} {call : InflightCall}
    {counts : InflightCounts} (hkey : s.inflightCalls.lookup key = none)
    (hreq : call.requester = r) (hpro : call.promise = p)
    (hres : reserveInflightSlot s.inflightCounts r = .ok counts) :
    Accounted (tr ++ [.registered key p r])
      { s with
        inflightCalls := s.inflightCalls.insert key call
        inflightCounts := counts
        ops := s.ops.erase op } := by
  obtain ⟨hcounted, hle⟩ := h.counted.register hres hreq hkey
  refine ⟨hcounted, ?_, ?_, ?_, ?_, ?_, ?_, ?_, ?_⟩
  · intro r'
    exact (hle r').trans (max_le (h.bounded r') le_rfl)
  · intro q
    have hq := h.conserved q
    have herase := pendingOf_erase hop q
    have hins : inflightOf (s.inflightCalls.insert key call) q = inflightOf s.inflightCalls q +
        if (call.promise == q) = true then 1 else 0 :=
      AList.countVal_insert_of_notMem (AList.lookup_eq_none.mp hkey)
    show pendingOf (s.ops.erase op) q + inflightOf (s.inflightCalls.insert key call) q +
      (tr ++ [CallerEvent.registered key p r]).countP (settlesPromise q) =
        if q < s.nextPromise then 1 else 0
    rw [hpro] at hins
    rw [List.countP_append, List.countP_singleton,
      show settlesPromise q (.registered key p r) = false from rfl, if_neg Bool.false_ne_true]
    omega
  · intro k c hl
    dsimp only at hl
    rw [AList.lookup_insert_eq_if] at hl
    split at hl
    · rename_i hk
      obtain rfl := Option.some.inj hl
      rw [hk, hreq, hpro]
      exact ⟨h.named op p r request ty hop, by simp⟩
    · exact ⟨(h.registered k c hl).1, List.mem_append_left _ (h.registered k c hl).2⟩
  · intro q o k hm hk
    obtain ⟨r', hr⟩ := h.answered q o k (by simpa using hm) hk
    exact ⟨r', List.mem_append_left _ hr⟩
  · intro op' q r' request' t' hl
    exact h.named op' q r' request' t' (lookup_of_erase hl)
  · intro q hm
    obtain ⟨hz, hq⟩ := h.returned q (by simpa using hm)
    refine ⟨?_, hq⟩
    have := pendingOf_erase hop q
    show pendingOf (s.ops.erase op) q = 0
    omega
  · intro op' thread stage hl
    exact h.closing op' thread stage (lookup_of_erase hl)
  · intro hm
    have := (h.finished (by simpa using hm)).1
    rw [hopen] at this
    cases this

/-- Steps that move between sections and hand no promise on. -/
theorem Accounted.move (h : Accounted tr s) (gate : Gate) {ops : AList fun _ : Nat => CallerOp}
    (hpend : ∀ p, pendingOf ops p = pendingOf s.ops p)
    (hcall : ∀ op p r request ty, ops.lookup op = some (.call p r request ty) →
      s.ops.lookup op = some (.call p r request ty))
    (hshut : ∀ op thread stage, ops.lookup op = some (.shutdown thread stage) →
      gate.isClosed = true)
    (hgate : s.gate.isClosed = true → gate.isClosed = true) :
    Accounted tr { s with gate := gate, ops := ops } where
  counted := h.counted
  bounded := h.bounded
  conserved p := by
    show pendingOf ops p + _ + _ = _
    rw [hpend]
    exact h.conserved p
  registered := h.registered
  answered := h.answered
  named op p r request ty hl := h.named op p r request ty (hcall op p r request ty hl)
  returned p hm := by
    show pendingOf ops p = 0 ∧ _
    rw [hpend]
    exact h.returned p hm
  closing := hshut
  finished hm := ⟨hgate (h.finished hm).1, (h.finished hm).2⟩

/-- A call that begins makes a promise. -/
theorem Accounted.start (h : Accounted tr s) {op : Nat} (hop : op ∉ s.ops) {r : Str} (hr : r ≠ [])
    (request : ServiceCallRequest) (ty : Str) :
    Accounted tr
      { s with
        nextPromise := s.nextPromise + 1
        ops := s.ops.insert op (.call s.nextPromise r request ty) } := by
  have hins : ∀ q, pendingOf (s.ops.insert op (.call s.nextPromise r request ty)) q =
      pendingOf s.ops q + if (s.nextPromise == q) = true then 1 else 0 := by
    intro q
    rw [pendingOf, AList.countVal_insert_of_notMem hop, ← pendingOf]
    simp [CallerOp.promise?]
  refine ⟨h.counted, h.bounded, ?_, h.registered, h.answered, ?_, ?_, ?_, h.finished⟩
  · intro q
    have hq := h.conserved q
    show pendingOf (s.ops.insert op _) q + inflightOf s.inflightCalls q + _ =
      if q < s.nextPromise + 1 then 1 else 0
    rw [hins]
    by_cases he : s.nextPromise = q
    · subst he
      rw [if_neg (Nat.lt_irrefl _)] at hq
      rw [if_pos (beq_self_eq_true _), if_pos (Nat.lt_succ_self _)]
      omega
    · rw [if_neg (by simpa using he)]
      have hiff : q < s.nextPromise + 1 ↔ q < s.nextPromise := by omega
      simp only [hiff]
      omega
  · intro op' q r' request' ty' hl
    dsimp only at hl
    rw [AList.lookup_insert_eq_if] at hl
    split at hl
    · obtain ⟨_, rfl, _⟩ := CallerOp.call.inj (Option.some.inj hl)
      exact hr
    · exact h.named op' q r' request' ty' hl
  · intro q hm
    obtain ⟨hz, hq⟩ := h.returned q hm
    refine ⟨?_, Nat.lt_succ_of_lt hq⟩
    show pendingOf (s.ops.insert op _) q = 0
    rw [hins, hz, if_neg (by simpa using (Nat.ne_of_lt hq).symm)]
  · intro op' thread stage hl
    dsimp only at hl
    rw [AList.lookup_insert_eq_if] at hl
    split at hl
    · cases hl
    · exact h.closing op' thread stage hl

/-- A call that is rejected before the lock makes a promise and sets it. -/
theorem Accounted.rejectEarly (h : Accounted tr s) (what : Str) :
    Accounted (tr ++ [.settled s.nextPromise (.failed what), .returned s.nextPromise])
      { s with nextPromise := s.nextPromise + 1 } := by
  have hnew := h.conserved s.nextPromise
  rw [if_neg (Nat.lt_irrefl _)] at hnew
  have hsettled : Accounted (tr ++ [.settled s.nextPromise (.failed what)])
      { s with nextPromise := s.nextPromise + 1 } := by
    refine ⟨h.counted, h.bounded, ?_, ?_, ?_, h.named, ?_, h.closing, ?_⟩
    · intro q
      have hq := h.conserved q
      show pendingOf s.ops q + inflightOf s.inflightCalls q +
        (tr ++ [CallerEvent.settled s.nextPromise (.failed what)]).countP (settlesPromise q) =
          if q < s.nextPromise + 1 then 1 else 0
      rw [List.countP_append, List.countP_singleton, settlesPromise]
      by_cases he : s.nextPromise = q
      · subst he
        rw [if_pos (beq_self_eq_true _), if_pos (Nat.lt_succ_self _)]
        omega
      · rw [if_neg (by simpa using he)]
        have hiff : q < s.nextPromise + 1 ↔ q < s.nextPromise := by omega
        simp only [hiff]
        omega
    · intro key call hl
      exact ⟨(h.registered key call hl).1, List.mem_append_left _ (h.registered key call hl).2⟩
    · intro q o k hm hk
      rcases List.mem_append.mp hm with hm | hm
      · obtain ⟨r, hr⟩ := h.answered q o k hm hk
        exact ⟨r, List.mem_append_left _ hr⟩
      · obtain ⟨rfl, rfl⟩ := CallerEvent.settled.inj (List.mem_singleton.mp hm)
        cases hk
    · intro q hm
      obtain ⟨hz, hq⟩ := h.returned q (by simpa using hm)
      exact ⟨hz, Nat.lt_succ_of_lt hq⟩
    · intro hm
      exact h.finished (by simpa using hm)
  rw [List.append_cons]
  exact hsettled.returns (by show pendingOf s.ops s.nextPromise = 0; omega) (Nat.lt_succ_self _)

theorem Accounted.finish (h : Accounted tr s) (hclosed : s.gate.isClosed = true)
    (hempty : s.inflightCalls = ∅) : Accounted (tr ++ [.shutDown]) s := by
  apply h.reports
  · intro p outcome heq
    cases heq
  · intro p heq
    cases heq
  · intro _
    exact ⟨hclosed, hempty⟩

theorem Accounted.call (h : Accounted tr s) (fx : CallEffects) {op p : Nat} {r : Str}
    {request : ServiceCallRequest} {ty : Str} (hop : s.ops.lookup op = some (.call p r request ty)) :
    Accounted (tr ++ (callLocked fx s p r request ty).2)
      { (callLocked fx s p r request ty).1 with ops := s.ops.erase op } := by
  obtain ⟨hlt, hpend, _, _⟩ := h.pending hop
  rcases callLocked_cases fx h.counted p r request ty with ⟨hrej, _⟩ | ⟨key, hstarts, hreg⟩
  · obtain ⟨what, hev⟩ := hrej.events
    rw [hev]
    exact (h.reject hop what).congr hrej.gate hrej.calls hrej.counts rfl hrej.next
  · obtain ⟨hopen, _, _, _, hkey⟩ := hstarts
    obtain ⟨call, hreq, hpro, hcalls⟩ := hreg.calls
    have hbook := (h.register hop hopen hkey hreq hpro hreg.counts).congr
      (t := { (callLocked fx s p r request ty).1 with ops := s.ops.erase op })
      hreg.gate hcalls (fun _ => rfl) rfl hreg.next
    by_cases hsync : SyncSucceeds fx.sync s
    · rw [hreg.returns hsync, List.append_cons]
      exact hbook.returns hpend (by rw [hreg.next]; exact hlt)
    · rw [hreg.throws hsync, List.append_cons]
      exact hbook.threw _

/-- `shutdown`'s last section leaves no call in flight. -/
theorem failAllCalls_empty (s : CallerState) : (failAllCalls s).1.inflightCalls = ∅ := by
  rw [AList.eq_empty_iff_lookup]
  intro key
  cases hl : (failAllCalls s).1.inflightCalls.lookup key with
  | none => rfl
  | some call =>
    have := ((failMatchingCalls_spec (fun _ => true) (lit "Service caller shut down.") s).2.1
      key call).mp hl
    exact absurd this.2 (by decide)

theorem Accounted.failAll (h : Accounted tr s) (hclosed : s.gate.isClosed = true) (op : Nat)
    {thread : Nat} (hop : s.ops.lookup op = some (.shutdown thread .failing)) :
    Accounted (tr ++ ((failAllCalls s).2 ++ [.shutDown]))
      { (failAllCalls s).1 with ops := s.ops.erase op } := by
  have hset := (failMatchingCalls_spec (fun _ => true) (lit "Service caller shut down.") s).1
  obtain ⟨hgate, hops, hnext⟩ := hset.keeps
  have hbook : Accounted (tr ++ (failAllCalls s).2) (failAllCalls s).1 :=
    (h.settles hset).congr rfl rfl (fun _ => rfl) rfl rfl
  have hmove : Accounted (tr ++ (failAllCalls s).2)
      { (failAllCalls s).1 with gate := (failAllCalls s).1.gate, ops := s.ops.erase op } := by
    refine hbook.move _ ?_ ?_ ?_ (fun hc => hc)
    · intro p
      rw [show (failAllCalls s).1.ops = s.ops from hops, pendingOf, pendingOf,
        AList.countVal_erase hop]
      simp [CallerOp.promise?]
    · intro op' p r request ty hl
      rw [show (failAllCalls s).1.ops = s.ops from hops]
      exact lookup_of_erase hl
    · intro _ _ _ _
      rw [show (failAllCalls s).1.gate = s.gate from hgate]
      exact hclosed
  rw [← List.append_assoc]
  refine hmove.finish ?_ (failAllCalls_empty s)
  show (failAllCalls s).1.gate.isClosed = true
  rw [show (failAllCalls s).1.gate = s.gate from hgate]
  exact hclosed

theorem lookup_call_of_insert {ops : AList fun _ : Nat => CallerOp} {op op' : Nat} {o : CallerOp}
    (ho : o.promise? = none) {p : Nat} {r : Str} {request : ServiceCallRequest} {ty : Str}
    (h : (ops.insert op o).lookup op' = some (.call p r request ty)) :
    ops.lookup op' = some (.call p r request ty) := by
  rw [AList.lookup_insert_eq_if] at h
  split at h
  · obtain rfl := Option.some.inj h
    cases ho
  · exact h

theorem lookup_shutdown_of_insert {ops : AList fun _ : Nat => CallerOp} {op op' thread : Nat}
    {isDone : Bool} {th : Nat} {stage : ShutdownStage}
    (h : (ops.insert op (.execute thread isDone)).lookup op' = some (.shutdown th stage)) :
    ops.lookup op' = some (.shutdown th stage) := by
  rw [AList.lookup_insert_eq_if] at h
  split at h
  · cases h
  · exact h

/-- Replacing an operation that owns no promise by another such. -/
theorem pendingOf_replace {ops : AList fun _ : Nat => CallerOp} {op : Nat} {o o' : CallerOp}
    (h : ops.lookup op = some o) (ho : o.promise? = none) (ho' : o'.promise? = none) (p : Nat) :
    pendingOf (ops.insert op o') p = pendingOf ops p :=
  AList.countVal_insert_of_lookup h (by rw [ho, ho'])

theorem pendingOf_insert {ops : AList fun _ : Nat => CallerOp} {op : Nat} {o : CallerOp}
    (h : op ∉ ops) (ho : o.promise? = none) (p : Nat) :
    pendingOf (ops.insert op o) p = pendingOf ops p := by
  rw [pendingOf, AList.countVal_insert_of_notMem h, ho]
  simp [pendingOf]

/-- **Every step keeps the books.** -/
theorem Accounted.step (h : Accounted tr s) (hstep : CallerStep s evs t) : Accounted (tr ++ evs) t := by
  cases hstep with
  | callRejected graph requester request what _ hpro => exact h.rejectEarly what
  | callStarted graph requester request ty op _ hop hpro =>
    rw [List.append_nil]
    refine h.start hop ?_ request ty
    rintro rfl
    unfold callPrologue at hpro
    split at hpro
    · cases hpro
    · rw [if_pos rfl] at hpro
      cases hpro
  | callLocked fx op promise requester request ty _ hop => exact h.call fx hop
  | cancel fx requester => exact h.cancel fx requester
  | executeEnter op thread _ hop hgate =>
    rw [List.append_nil]
    refine h.move _ (pendingOf_insert hop rfl) (fun _ _ _ _ _ => lookup_call_of_insert rfl) ?_ ?_
    · intro op' th stage hl
      have := h.closing op' th stage (lookup_shutdown_of_insert hl)
      rw [hgate] at this
      cases this
    · rw [hgate]
      exact fun hc => hc
  | executeSection fx op thread _ hop =>
    have hsec := h.execute fx
    have hsame : (executeSection fx s).1.ops = s.ops ∧ (executeSection fx s).1.gate = s.gate :=
      executeSection_keeps fx s
    refine hsec.move (executeSection fx s).1.gate ?_ ?_ ?_ (fun hc => hc)
    · rw [hsame.1]
      exact pendingOf_replace hop rfl rfl
    · rw [hsame.1]
      exact fun _ _ _ _ _ => lookup_call_of_insert rfl
    · intro op' th stage hl
      rw [hsame.2]
      exact h.closing op' th stage (lookup_shutdown_of_insert hl)
  | executeLeave op thread _ hop =>
    rw [List.append_nil]
    refine h.move _ ?_ (fun _ _ _ _ _ => lookup_of_erase) ?_ (fun hc => hc)
    · intro p
      rw [pendingOf, pendingOf, AList.countVal_erase hop]
      simp [CallerOp.promise?]
    · intro op' th stage hl
      exact h.closing op' th stage (lookup_of_erase hl)
  | shutdownClose op thread _ hop =>
    rw [List.append_nil]
    exact h.move _ (pendingOf_insert hop rfl) (fun _ _ _ _ _ => lookup_call_of_insert rfl)
      (fun _ _ _ _ => rfl) (fun _ => rfl)
  | shutdownWaited op thread _ hop _ =>
    rw [List.append_nil]
    exact h.move s.gate (pendingOf_replace hop rfl rfl)
      (fun _ _ _ _ _ => lookup_call_of_insert rfl)
      (fun _ _ _ _ => h.closing op thread _ hop) (fun hc => hc)
  | shutdownDetach op thread _ hop =>
    rw [List.append_nil]
    exact (h.move s.gate (pendingOf_replace hop rfl rfl)
      (fun _ _ _ _ _ => lookup_call_of_insert rfl)
      (fun _ _ _ _ => h.closing op thread _ hop) (fun hc => hc)).congr rfl rfl (fun _ => rfl) rfl rfl
  | shutdownFail op thread _ hop => exact h.failAll (h.closing op thread _ hop) op hop

theorem accounted_initial : Accounted [] .initial where
  counted r := by
    rw [CallerState.initial, AList.lookup_empty]
    rfl
  bounded r := Nat.zero_le _
  conserved p := rfl
  registered key call hl := by
    rw [CallerState.initial, AList.lookup_empty] at hl
    cases hl
  answered p outcome key hm := by cases hm
  named op p r request ty hl := by
    rw [CallerState.initial, AList.lookup_empty] at hl
    cases hl
  returned p hm := by cases hm
  closing op thread stage hl := by
    rw [CallerState.initial, AList.lookup_empty] at hl
    cases hl
  finished hm := by cases hm

/-- **Every run keeps the books.** -/
theorem accounted_of_trace (h : callerMachine.Trace tr s) : Accounted tr s := by
  refine Machine.Trace.invariant (P := Accounted) ?_ (fun _ ha hs => ha.step hs) h
  rintro s rfl
  exact accounted_initial

end Books

/-! ### Exactly once -/

theorem callsOf_pos_iff (calls : InflightCalls) (r : Str) :
    callsOf calls r ≠ 0 ↔ ∃ key call, calls.lookup key = some call ∧ call.requester = r := by
  rw [Ne, callsOf, AList.countVal_eq_zero]
  constructor
  · intro h
    by_contra hno
    refine h fun e he => ?_
    rw [beq_eq_false_iff_ne]
    intro hr
    exact hno ⟨e.1, e.2, AList.mem_lookup_iff.mpr he, hr⟩
  · rintro ⟨key, call, hl, hr⟩ h
    have := h ⟨key, call⟩ (AList.mem_lookup_iff.mp hl)
    rw [beq_eq_false_iff_ne] at this
    exact this hr

theorem inflightOf_eq_zero_iff (calls : InflightCalls) (p : Nat) :
    inflightOf calls p = 0 ↔ ¬ ∃ key call, calls.lookup key = some call ∧ call.promise = p := by
  rw [inflightOf, AList.countVal_eq_zero]
  constructor
  · rintro h ⟨key, call, hl, hp⟩
    have := h ⟨key, call⟩ (AList.mem_lookup_iff.mp hl)
    rw [beq_eq_false_iff_ne] at this
    exact this hp
  · intro h e he
    rw [beq_eq_false_iff_ne]
    intro hp
    exact h ⟨e.1, e.2, AList.mem_lookup_iff.mpr he, hp⟩

theorem cancelForRequester_spec {tr : List CallerEvent} {s : CallerState} (h : Accounted tr s)
    (fx : SyncEffects) (requester : Str) :
    (∀ p, (∃ outcome, .settled p outcome ∈ (cancelForRequester fx s requester).2) ↔
      ∃ key call, s.inflightCalls.lookup key = some call ∧ call.requester = requester ∧
        call.promise = p) ∧
    (∀ key call, (cancelForRequester fx s requester).1.inflightCalls.lookup key = some call ↔
      s.inflightCalls.lookup key = some call ∧ call.requester ≠ requester) := by
  unfold cancelForRequester
  split
  · rename_i hnil
    -- no call in flight has an empty requester
    subst hnil
    refine ⟨?_, ?_⟩
    · intro p
      constructor
      · rintro ⟨outcome, hm⟩
        cases hm
      · rintro ⟨key, call, hl, hr, _⟩
        exact absurd hr (h.registered key call hl).1
    · intro key call
      exact ⟨fun hl => ⟨hl, (h.registered key call hl).1⟩, fun hl => hl.1⟩
  · obtain ⟨_, hlookup, hevs⟩ := failMatchingCalls_spec (fun call => call.requester == requester)
      (lit "Requester identity disconnected.") s
    dsimp only
    obtain ⟨w, hw⟩ := syncWaitableLocked_keeps fx true (failMatchingCalls
      (fun call => call.requester == requester) (lit "Requester identity disconnected.") s).1
    refine ⟨?_, ?_⟩
    · intro p
      have hthrown : ∀ exc outcome, CallerEvent.settled p outcome ∉ thrown exc := by
        intro exc outcome
        cases exc <;> simp [thrown]
      simp only [List.mem_append, hthrown, or_false, hevs]
      constructor
      · rintro ⟨outcome, _, key, call, hl, hr, hp⟩
        exact ⟨key, call, hl, beq_iff_eq.mp hr, hp⟩
      · rintro ⟨key, call, hl, hr, hp⟩
        exact ⟨_, rfl, key, call, hl, beq_iff_eq.mpr hr, hp⟩
    · intro key call
      rw [hw]
      refine (hlookup key call).trans (and_congr_right fun _ => ?_)
      rw [beq_eq_false_iff_ne]

theorem drainResponses_settled {responses : List TakenResponse} {s : CallerState} {p : Nat}
    {outcome : Settlement} (h : .settled p outcome ∈ (drainResponses s responses).2) :
    ∃ response ∈ responses, ∃ call, s.inflightCalls.lookup response.key = some call ∧
      call.promise = p ∧
      outcome = match response.payload with
        | .ok payload => .value response.key call.service call.interfaceType payload
        | .error what =>
          .conversionFailed response.key (lit "Failed to convert service response: " ++ what) := by
  induction responses generalizing s with
  | nil => cases h
  | cons response responses ih =>
    unfold drainResponses at h
    split at h
    · obtain ⟨response', hmem, hrest⟩ := ih h
      exact ⟨response', List.mem_cons_of_mem _ hmem, hrest⟩
    · rename_i call hcall
      dsimp only at h
      rcases List.mem_append.mp h with hfirst | hrest
      · rw [settle_events, List.mem_singleton, CallerEvent.settled.injEq] at hfirst
        obtain ⟨hpromise, houtcome⟩ := hfirst
        exact ⟨response, List.mem_cons_self, call, hcall, hpromise.symm, houtcome⟩
      · obtain ⟨response', hmem, call', hcall', hrest⟩ := ih hrest
        unfold settle at hcall'
        dsimp only at hcall'
        rw [AList.lookup_erase_eq_if] at hcall'
        split at hcall'
        · cases hcall'
        · exact ⟨response', List.mem_cons_of_mem _ hmem, call', hcall', hrest⟩

/-- **Service calls are accounted for and settled exactly once.**  In every state a
run reaches: a requester has a count exactly when it has calls in flight, and it is
their number, at most four; the promise behind a future that was returned is set at
most once, and has been set exactly when its call is not in flight; a response sets
only the promise that was registered under its own key, and the responses that are taken
next only those of the calls in flight under their keys; `cancelForRequester` settles
exactly the requester's calls; and once a shutdown has returned nothing is in
flight. -/
theorem service_call_accounting {tr : List CallerEvent} {s : CallerState}
    (h : callerMachine.Trace tr s) :
    (∀ r, (∃ n, s.inflightCounts.lookup r = some n) ↔
      ∃ key call, s.inflightCalls.lookup key = some call ∧ call.requester = r) ∧
    (∀ r n, s.inflightCounts.lookup r = some n →
      n = callsOf s.inflightCalls r ∧ n ≤ kMaxInflightPerRequester) ∧
    (∀ p, .returned p ∈ tr →
      tr.countP (settlesPromise p) ≤ 1 ∧
      (tr.countP (settlesPromise p) = 1 ↔
        ¬ ∃ key call, s.inflightCalls.lookup key = some call ∧ call.promise = p)) ∧
    (∀ p outcome key, .settled p outcome ∈ tr → outcome.key? = some key →
      ∃ r, CallerEvent.registered key p r ∈ tr) ∧
    (∀ responses p outcome, .settled p outcome ∈ (drainResponses s responses).2 →
      ∃ response ∈ responses, ∃ call, s.inflightCalls.lookup response.key = some call ∧
        call.promise = p) ∧
    (∀ fx requester,
      (∀ p, (∃ outcome, .settled p outcome ∈ (cancelForRequester fx s requester).2) ↔
        ∃ key call, s.inflightCalls.lookup key = some call ∧ call.requester = requester ∧
          call.promise = p) ∧
      (∀ key call, (cancelForRequester fx s requester).1.inflightCalls.lookup key = some call ↔
        s.inflightCalls.lookup key = some call ∧ call.requester ≠ requester)) ∧
    (.shutDown ∈ tr → s.inflightCalls = ∅ ∧ s.inflightCounts = ∅) := by
  have ha := accounted_of_trace h
  refine ⟨?_, ?_, ?_, ha.answered, ?_, cancelForRequester_spec ha, ?_⟩
  · intro r
    rw [← callsOf_pos_iff, ha.counted r, tally]
    split
    · rename_i hz
      simp [hz]
    · rename_i hnz
      simp [hnz]
  · intro r n hn
    rw [ha.counted r, tally] at hn
    split at hn
    · cases hn
    · obtain rfl := Option.some.inj hn
      exact ⟨rfl, ha.bounded r⟩
  · intro p hm
    obtain ⟨hpend, hlt⟩ := ha.returned p hm
    have hone := ha.conserved p
    rw [hpend, if_pos hlt] at hone
    rw [← inflightOf_eq_zero_iff]
    exact ⟨by omega, by omega⟩
  · intro responses p outcome hm
    obtain ⟨response, hresponse, call, hcall, hpromise, -⟩ := drainResponses_settled hm
    exact ⟨response, hresponse, call, hcall, hpromise⟩
  · intro hm
    have hempty := (ha.finished hm).2
    refine ⟨hempty, AList.eq_empty_iff_lookup.mpr fun r => ?_⟩
    rw [ha.counted r, hempty]
    rfl

/-- A call of `alice`'s. -/
def pingRequest : ServiceCallRequest := ⟨lit "/ping", lit "std_srvs/srv/Trigger", [1], none⟩

/-- Nothing fails, and the request has number 7. -/
def smoothCall : CallEffects := ⟨.ok (), .ok (), .ok 7, 100, .none⟩

/-- `alice` calls; her call is past the first look at the gate. -/
def pingStarted : CallerState :=
  { CallerState.initial with
    nextPromise := 1
    ops := (∅ : AList fun _ : Nat => CallerOp).insert 0
      (.call 0 (lit "alice") pingRequest (lit "std_srvs/srv/Trigger")) }

/-- Her call is in flight. -/
def pingInFlight : CallerState × List CallerEvent :=
  let out := callLocked smoothCall pingStarted 0 (lit "alice") pingRequest (lit "std_srvs/srv/Trigger")
  ({ out.1 with ops := pingStarted.ops.erase 0 }, [] ++ [] ++ out.2)

/-- She disconnects. -/
def pingCancelled : CallerState × List CallerEvent :=
  let out := cancelForRequester .none pingInFlight.1 (lit "alice")
  (out.1, pingInFlight.2 ++ out.2)

theorem trace_pingInFlight : callerMachine.Trace pingInFlight.2 pingInFlight.1 :=
  .step (.step (.start rfl) (.callStarted ∅ (lit "alice") pingRequest (lit "std_srvs/srv/Trigger") 0 _
    (by decide) rfl)) (.callLocked smoothCall 0 0 (lit "alice") pingRequest
    (lit "std_srvs/srv/Trigger") pingStarted rfl)

/-- The future of a cancelled call is set once. -/
theorem service_call_accounting_ping : pingCancelled.2.countP (settlesPromise 0) = 1 := by
  have htrace : callerMachine.Trace pingCancelled.2 pingCancelled.1 :=
    .step trace_pingInFlight (.cancel .none (lit "alice") _)
  have hmem : CallerEvent.returned 0 ∈ pingCancelled.2 := by decide
  have hgone : pingCancelled.1.inflightCalls = ∅ := AList.ext rfl
  refine ((service_call_accounting htrace).2.2.1 0 hmem).2.mpr ?_
  rintro ⟨key, call, hl, _⟩
  rw [hgone, AList.lookup_empty] at hl
  cases hl

end LivekitBridge
