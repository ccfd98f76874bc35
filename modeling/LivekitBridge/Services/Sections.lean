import LivekitBridge.Services.Caller

/-!
# Sections of the service caller

What the code between a lock and an unlock of `state_mutex` can do to slots and
promises, one lemma for each.

The five ways a call ends are one: `Settles` is any sequence of single
settlements, and both `failMatchingCalls` and `drainResponses` are such
(`failCalls_spec`, `drainResponses_settles`).  `Counted` says that
`inflight_counts` counts the calls of each requester, and `callLocked_cases` what
`call` does with the slot and the promise it was given: when everything before the
insertion succeeds (`Starts`) the call is registered, and otherwise nothing has
changed.
-/

namespace LivekitBridge

open Lib

/-! ### Slots -/

/-- How many calls of `requester` are in flight. -/
def callsOf (calls : InflightCalls) (requester : Str) : Nat :=
  calls.countVal fun call => call.requester == requester

/-- The entry that a number of calls has: none for no call. -/
def tally (n : Nat) : Option Nat := if n = 0 then none else some n

/-- The counts are those of the calls. -/
def Counted (counts : InflightCounts) (calls : InflightCalls) : Prop :=
  ∀ requester, counts.lookup requester = tally (callsOf calls requester)

section Slots

variable {counts counts' : InflightCounts} {calls : InflightCalls} {requester : Str}

theorem lookup_release (counts : InflightCounts) (requester r : Str) :
    (releaseInflightSlot counts requester).lookup r =
      if r = requester then (counts.lookup requester : Option Nat).bind fun n => tally (n - 1)
      else counts.lookup r := by
  unfold releaseInflightSlot
  cases hl : (counts.lookup requester : Option Nat) with
  | none =>
    by_cases hr : r = requester
    · rw [if_pos hr, hr]
      exact hl
    · rw [if_neg hr]
  | some n =>
    dsimp only
    by_cases hn : n ≤ 1
    · rw [if_pos hn, AList.lookup_erase_eq_if]
      simp [tally, Nat.sub_eq_zero_of_le hn]
    · rw [if_neg hn, AList.lookup_insert_eq_if]
      simp [tally, show n - 1 ≠ 0 by omega]

theorem reserve_ok (h : reserveInflightSlot counts requester = .ok counts') :
    (counts.lookup requester : Option Nat).getD 0 < kMaxInflightPerRequester ∧
      counts' = counts.insert requester ((counts.lookup requester : Option Nat).getD 0 + 1) := by
  unfold reserveInflightSlot at h
  dsimp only at h
  split at h
  · cases h
  · rename_i hlt
    exact ⟨Nat.not_le.mp hlt, (Except.ok.inj h).symm⟩

theorem Counted.getD (h : Counted counts calls) (requester : Str) :
    (counts.lookup requester : Option Nat).getD 0 = callsOf calls requester := by
  rw [h requester, tally]
  split
  · rename_i h0
    exact h0.symm
  · rfl

theorem Counted.release_reserve (h : Counted counts calls)
    (hres : reserveInflightSlot counts requester = .ok counts') (r : Str) :
    (releaseInflightSlot counts' requester).lookup r = counts.lookup r := by
  obtain ⟨_, rfl⟩ := reserve_ok hres
  rw [lookup_release]
  by_cases hr : r = requester
  · rw [if_pos hr, AList.lookup_insert, hr, h.getD, h requester]
    rfl
  · rw [if_neg hr, AList.lookup_insert_ne hr]

theorem Counted.register (h : Counted counts calls)
    (hres : reserveInflightSlot counts requester = .ok counts') {key : InflightKey}
    {call : InflightCall} (hcall : call.requester = requester) (hkey : calls.lookup key = none) :
    Counted counts' (calls.insert key call) ∧
      ∀ r, callsOf (calls.insert key call) r ≤ max (callsOf calls r) kMaxInflightPerRequester := by
  obtain ⟨hlt, rfl⟩ := reserve_ok hres
  rw [h.getD] at hlt
  have hcount : ∀ r, callsOf (calls.insert key call) r =
      callsOf calls r + if requester = r then 1 else 0 := by
    intro r
    rw [callsOf, AList.countVal_insert_of_notMem (AList.lookup_eq_none.mp hkey), hcall]
    simp [callsOf]
  refine ⟨?_, ?_⟩
  · intro r
    rw [AList.lookup_insert_eq_if, hcount, h.getD]
    by_cases hr : r = requester
    · simp [hr, tally]
    · rw [if_neg hr, if_neg (Ne.symm hr), Nat.add_zero]
      exact h r
  · intro r
    rw [hcount]
    by_cases hr : requester = r
    · subst hr
      rw [if_pos rfl]
      exact (Nat.succ_le_of_lt hlt).trans (Nat.le_max_right _ _)
    · rw [if_neg hr]
      exact Nat.le_max_left _ _

theorem Counted.settle (h : Counted counts calls) {key : InflightKey} {call : InflightCall}
    (hkey : calls.lookup key = some call) :
    Counted (releaseInflightSlot counts call.requester) (calls.erase key) ∧
      ∀ r, callsOf (calls.erase key) r ≤ callsOf calls r := by
  have hcount : ∀ r, callsOf calls r =
      callsOf (calls.erase key) r + if call.requester = r then 1 else 0 := by
    intro r
    rw [callsOf, AList.countVal_erase hkey]
    simp [callsOf]
  refine ⟨?_, fun r => by rw [hcount r]; exact Nat.le_add_right _ _⟩
  intro r
  rw [lookup_release]
  by_cases hr : r = call.requester
  · subst hr
    rw [if_pos rfl, h, hcount, if_pos rfl]
    rfl
  · rw [if_neg hr, h, hcount r, if_neg (Ne.symm hr), Nat.add_zero]

end Slots

/-! ### Settlements -/

/-- The key of the response that a settlement answers. -/
def Settlement.key? : Settlement → Option InflightKey
  | .value key _ _ _ => some key
  | .conversionFailed key _ => some key
  | .failed _ => none

@[simp] theorem settle_events (s : CallerState) (key : InflightKey) (call : InflightCall)
    (outcome : Settlement) :
    (settle s key call outcome).2 = [.settled call.promise outcome] := rfl

/-- Calls in flight are settled, one after the other; a response settles the call
with its own key. -/
inductive Settles : CallerState → List CallerEvent → CallerState → Prop
  | refl (s : CallerState) : Settles s [] s
  | settle {s t : CallerState} {evs : List CallerEvent} {key : InflightKey} {call : InflightCall}
      {outcome : Settlement} : s.inflightCalls.lookup key = some call →
      (∀ k, outcome.key? = some k → k = key) →
      Settles (LivekitBridge.settle s key call outcome).1 evs t →
      Settles s (.settled call.promise outcome :: evs) t

theorem Settles.trans {s t u : CallerState} {evs evs' : List CallerEvent} (h : Settles s evs t)
    (h' : Settles t evs' u) : Settles s (evs ++ evs') u := by
  induction h with
  | refl s => exact h'
  | settle hkey hout _ ih => exact .settle hkey hout (ih h')

theorem drainResponses_settles (responses : List TakenResponse) :
    ∀ s : CallerState, Settles s (drainResponses s responses).2 (drainResponses s responses).1 := by
  induction responses with
  | nil => exact Settles.refl
  | cons response responses ih =>
    intro s
    unfold drainResponses
    split
    · exact ih s
    · rename_i call hcall
      refine .settle hcall ?_ (ih _)
      intro k hk
      cases hp : response.payload with
      | ok payload =>
        rw [hp] at hk
        exact (Option.some.inj hk).symm
      | error what =>
        rw [hp] at hk
        exact (Option.some.inj hk).symm

theorem failCalls_spec (shouldFail : InflightCall → Bool) (message : Str)
    (entries : List (Sigma fun _ : InflightKey => InflightCall)) :
    ∀ s : CallerState, entries.NodupKeys →
      (∀ e ∈ entries, s.inflightCalls.lookup e.1 = some e.2) →
      Settles s (failCalls shouldFail message s entries).2 (failCalls shouldFail message s entries).1 ∧
      (∀ key, (failCalls shouldFail message s entries).1.inflightCalls.lookup key =
        if (∃ e ∈ entries, e.1 = key ∧ shouldFail e.2 = true) then none
        else s.inflightCalls.lookup key) ∧
      (∀ p outcome, .settled p outcome ∈ (failCalls shouldFail message s entries).2 ↔
        outcome = .failed message ∧ ∃ e ∈ entries, shouldFail e.2 = true ∧ e.2.promise = p) := by
  induction entries with
  | nil =>
    intro s _ _
    refine ⟨.refl s, ?_, ?_⟩
    · intro key
      simp [failCalls]
    · intro p outcome
      simp [failCalls]
  | cons e entries ih =>
    obtain ⟨key, call⟩ := e
    intro s hnodup hmem
    obtain ⟨hfresh, hnodup⟩ := List.nodupKeys_cons.mp hnodup
    have hcall : s.inflightCalls.lookup key = some call := hmem ⟨key, call⟩ (by simp)
    unfold failCalls
    by_cases hfail : shouldFail call = true
    · rw [if_pos hfail]
      dsimp only
      obtain ⟨hsettles, hlookup, hevs⟩ := ih (settle s key call (.failed message)).1 hnodup (by
        intro e he
        have hne : e.1 ≠ key := by
          rintro rfl
          exact hfresh (show e.1 ∈ entries.keys from List.mem_keys_of_mem he)
        rw [settle, AList.lookup_erase_ne hne]
        exact hmem e (List.mem_cons_of_mem _ he))
      refine ⟨.settle hcall (fun k hk => by cases hk) hsettles, ?_, ?_⟩
      · intro k
        rw [hlookup k]
        by_cases hk : k = key
        · subst hk
          rw [if_pos (show ∃ e ∈ (⟨k, call⟩ : Sigma fun _ : InflightKey => InflightCall) :: entries,
            e.1 = k ∧ shouldFail e.2 = true from ⟨⟨k, call⟩, by simp, rfl, hfail⟩)]
          split
          · rfl
          · exact AList.lookup_erase _ _
        · rw [settle, AList.lookup_erase_ne hk]
          refine if_congr ?_ rfl rfl
          simp [Ne.symm hk]
      · intro p outcome
        rw [List.mem_append, hevs, settle_events, List.mem_singleton, CallerEvent.settled.injEq]
        simp only [List.mem_cons, exists_eq_or_imp, hfail, true_and]
        constructor
        · rintro (⟨rfl, rfl⟩ | ⟨rfl, he⟩)
          · exact ⟨rfl, .inl rfl⟩
          · exact ⟨rfl, .inr he⟩
        · rintro ⟨rfl, rfl | he⟩
          · exact .inl ⟨rfl, rfl⟩
          · exact .inr ⟨rfl, he⟩
    · rw [if_neg hfail]
      obtain ⟨hsettles, hlookup, hevs⟩ := ih s hnodup fun e he => hmem e (List.mem_cons_of_mem _ he)
      refine ⟨hsettles, ?_, ?_⟩
      · intro k
        rw [hlookup k]
        refine if_congr ?_ rfl rfl
        simp [hfail]
      · intro p outcome
        rw [hevs]
        simp [hfail]

/-- **`failMatchingCalls` settles exactly the matching calls.** -/
theorem failMatchingCalls_spec (shouldFail : InflightCall → Bool) (message : Str) (s : CallerState) :
    Settles s (failMatchingCalls shouldFail message s).2 (failMatchingCalls shouldFail message s).1 ∧
    (∀ key call, (failMatchingCalls shouldFail message s).1.inflightCalls.lookup key = some call ↔
      s.inflightCalls.lookup key = some call ∧ shouldFail call = false) ∧
    (∀ p outcome, .settled p outcome ∈ (failMatchingCalls shouldFail message s).2 ↔
      outcome = .failed message ∧
        ∃ key call, s.inflightCalls.lookup key = some call ∧ shouldFail call = true ∧
          call.promise = p) := by
  obtain ⟨hsettles, hlookup, hevs⟩ := failCalls_spec shouldFail message s.inflightCalls.entries s
    s.inflightCalls.nodupKeys fun e he => AList.mem_lookup_iff.mpr he
  refine ⟨hsettles, ?_, ?_⟩
  · intro key call
    rw [failMatchingCalls, hlookup key]
    split
    · rename_i hmatch
      obtain ⟨⟨k, c⟩, he, rfl, hc⟩ := hmatch
      constructor
      · intro h
        cases h
      · rintro ⟨hl, hno⟩
        obtain rfl := Option.some.inj (hl.symm.trans (AList.mem_lookup_iff.mpr he))
        exact absurd hc (by simp [hno])
    · rename_i hmatch
      constructor
      · intro hl
        refine ⟨hl, Bool.eq_false_iff.mpr fun hc => hmatch ?_⟩
        exact ⟨⟨key, call⟩, AList.mem_lookup_iff.mp hl, rfl, hc⟩
      · exact fun h => h.1
  · intro p outcome
    rw [failMatchingCalls, hevs]
    refine and_congr_right fun _ => ?_
    constructor
    · rintro ⟨⟨key, call⟩, he, hc, hp⟩
      exact ⟨key, call, AList.mem_lookup_iff.mpr he, hc, hp⟩
    · rintro ⟨key, call, hl, hc, hp⟩
      exact ⟨⟨key, call⟩, AList.mem_lookup_iff.mp hl, hc, hp⟩

/-! ### The waitable -/

/-- The waitable is detached or stopped, or no operation on it that `call` uses
throws. -/
def SyncSucceeds (fx : SyncEffects) (s : CallerState) : Prop :=
  s.waitable.isAttached = false ∨ s.waitable.isStopped = true ∨
    (fx.timerExchangePeriod = none ∧ fx.timerReset = none ∧ fx.guardTrigger = none ∧
      fx.onReady = none)

theorem syncWaitableLocked_keeps (fx : SyncEffects) (wakes : Bool) (s : CallerState) :
    ∃ w, (syncWaitableLocked fx wakes s).1 = { s with waitable := w } := by
  unfold syncWaitableLocked
  split
  · exact ⟨s.waitable, rfl⟩
  · dsimp only
    split
    · exact ⟨_, rfl⟩
    · split
      · exact ⟨_, rfl⟩
      · exact ⟨_, rfl⟩

/-- The loop of `syncWaitableLocked` finds the least deadline. -/
theorem earliestDeadline_eq_min? (calls : InflightCalls) :
    earliestDeadline calls = (calls.entries.map fun e => e.2.deadline).min? := by
  -- from the first entry on, the loop keeps the lesser of two deadlines
  have hloop : ∀ f : Option Int → (Sigma fun _ : InflightKey => InflightCall) → Option Int,
      (∀ d e, f (some d) e = if e.2.deadline < d then some e.2.deadline else some d) →
      ∀ entries d, List.foldl f (some d) entries =
        some ((entries.map fun e => e.2.deadline).foldl min d) := by
    intro f hf entries
    induction entries with
    | nil =>
      intro d
      rfl
    | cons e entries ih =>
      intro d
      rw [List.foldl_cons, List.map_cons, List.foldl_cons, hf]
      by_cases hless : e.2.deadline < d
      · rw [if_pos hless, ih, Int.min_eq_right (Int.le_of_lt hless)]
      · rw [if_neg hless, ih, Int.min_eq_left (Int.not_lt.mp hless)]
  rw [earliestDeadline]
  cases calls.entries with
  | nil => rfl
  | cons e entries =>
    rw [List.foldl_cons, List.map_cons, List.min?_cons']
    exact hloop _ (fun _ _ => rfl) entries e.2.deadline

/-- A deadline is set as soon as something is in flight. -/
theorem earliestDeadline_eq_none_iff {calls : InflightCalls} :
    earliestDeadline calls = none ↔ calls = ∅ := by
  rw [earliestDeadline_eq_min?, List.min?_eq_none_iff, List.map_eq_nil_iff]
  constructor
  · intro h
    exact AList.ext h
  · intro h
    rw [h]
    rfl

theorem syncWaitableLocked_none_iff (fx : SyncEffects) {s : CallerState}
    (hcalls : s.inflightCalls ≠ ∅) :
    (syncWaitableLocked fx true s).2 = none ↔ SyncSucceeds fx s := by
  obtain ⟨d, hd⟩ := Option.ne_none_iff_exists'.mp (mt earliestDeadline_eq_none_iff.mp hcalls)
  unfold syncWaitableLocked SyncSucceeds
  by_cases hw : s.waitable.isAttached = false ∨ s.waitable.isStopped = true
  · rw [if_pos hw]
    exact ⟨fun _ => hw.imp_right .inl, fun _ => rfl⟩
  · rw [if_neg hw, hd]
    obtain ⟨hatt, hstop⟩ := not_or.mp hw
    simp only [hatt, hstop, setDeadline, wake]
    cases fx.timerExchangePeriod with
    | some what => simp
    | none =>
      cases fx.timerReset with
      | some what => simp
      | none =>
        cases fx.guardTrigger with
        | some what => simp
        | none => simp

/-! ### `call` -/

theorem startRequest_keeps (fx : CallEffects) (s : CallerState) (request : ServiceCallRequest)
    (interfaceType : Str) :
    ∃ clients next, (startRequest fx s request interfaceType).2 =
      { s with cachedClients := clients, nextClient := next } := by
  have hget : ∃ clients next, (getClient fx s request.name interfaceType).2 =
      { s with cachedClients := clients, nextClient := next } := by
    unfold getClient
    dsimp only
    split
    · exact ⟨_, _, rfl⟩
    · split
      · exact ⟨_, _, rfl⟩
      · split
        · exact ⟨_, _, rfl⟩
        · exact ⟨_, _, rfl⟩
  unfold startRequest
  rcases hg : getClient fx s request.name interfaceType with ⟨res, s'⟩
  rw [hg] at hget
  cases res with
  | error what => exact hget
  | ok client =>
    dsimp only
    split
    · exact hget
    · split
      · exact hget
      · exact hget

/-- Everything that `call` does under the lock before it registers succeeds, and the
request has this key. -/
def Starts (fx : CallEffects) (s : CallerState) (requester : Str) (request : ServiceCallRequest)
    (interfaceType : Str) (key : InflightKey) : Prop :=
  s.gate.isClosed = false ∧ ∃ counts, reserveInflightSlot s.inflightCounts requester = .ok counts ∧
    (startRequest fx { s with inflightCounts := counts } request interfaceType).1 = .ok key ∧
    s.inflightCalls.lookup key = none

/-- A call that ends without being registered: the books are as they were. -/
structure Rejected (s : CallerState) (promise : Nat) (out : CallerState × List CallerEvent) :
    Prop where
  gate : out.1.gate = s.gate
  calls : out.1.inflightCalls = s.inflightCalls
  counts : ∀ r, out.1.inflightCounts.lookup r = s.inflightCounts.lookup r
  ops : out.1.ops = s.ops
  next : out.1.nextPromise = s.nextPromise
  events : ∃ what, out.2 = [.settled promise (.failed what), .returned promise]

/-- A call that is registered: `inflight_calls` has its promise and the reserved slot
is its own.  What follows in `call` is the waitable. -/
structure Registers (fx : SyncEffects) (s : CallerState) (promise : Nat) (requester : Str)
    (key : InflightKey) (out : CallerState × List CallerEvent) : Prop where
  gate : out.1.gate = s.gate
  ops : out.1.ops = s.ops
  next : out.1.nextPromise = s.nextPromise
  calls : ∃ call, call.requester = requester ∧ call.promise = promise ∧
    out.1.inflightCalls = s.inflightCalls.insert key call
  counts : reserveInflightSlot s.inflightCounts requester = .ok out.1.inflightCounts
  returns : SyncSucceeds fx s → out.2 = [.registered key promise requester, .returned promise]
  throws : ¬ SyncSucceeds fx s →
    out.2 = [.registered key promise requester, .threw kNoAssociatedState]

theorem registers_of_insert (fx : SyncEffects) {s t : CallerState} {counts : InflightCounts}
    {requester : Str} (hres : reserveInflightSlot s.inflightCounts requester = .ok counts)
    {promise : Nat} {key : InflightKey} {call : InflightCall} (hreq : call.requester = requester)
    (hpro : call.promise = promise) {clients : AList fun _ : Str => ClientId} {next : ClientId}
    (ht : t = { s with
      cachedClients := clients
      inflightCalls := s.inflightCalls.insert key call
      inflightCounts := counts
      nextClient := next }) :
    Registers fx s promise requester key
      (match syncWaitableLocked fx true t with
      | (s₃, none) => (s₃, [.registered key promise requester, .returned promise])
      | (s₃, some _) => (s₃, [.registered key promise requester, .threw kNoAssociatedState])) := by
  have hne : t.inflightCalls ≠ ∅ := by
    intro hc
    have hl := AList.lookup_insert (s := s.inflightCalls) (a := key) (b := call)
    rw [ht] at hc
    dsimp only at hc
    rw [hc, AList.lookup_empty] at hl
    cases hl
  have hnone := syncWaitableLocked_none_iff fx hne
  obtain ⟨w, hw⟩ := syncWaitableLocked_keeps fx true t
  rcases hsync : syncWaitableLocked fx true t with ⟨s₃, exc⟩
  rw [hsync] at hnone hw
  dsimp only at hnone hw
  subst hw ht
  cases exc with
  | none =>
    exact ⟨rfl, rfl, rfl, ⟨call, hreq, hpro, rfl⟩, hres, fun _ => rfl,
      fun hs => absurd (hnone.mp rfl) hs⟩
  | some what =>
    refine ⟨rfl, rfl, rfl, ⟨call, hreq, hpro, rfl⟩, hres, fun hs => ?_, fun _ => rfl⟩
    have := hnone.mpr hs
    cases this

theorem rejected_rejectCall (s : CallerState) (promise : Nat) (what : Str) :
    Rejected s promise (rejectCall s promise what) :=
  ⟨rfl, rfl, fun _ => rfl, rfl, rfl, _, rfl⟩

/-- **What `call` can do under the lock**: register the call when all that comes before
succeeds, and otherwise reject it and leave the books alone. -/
theorem callLocked_cases (fx : CallEffects) {s : CallerState}
    (hcounted : Counted s.inflightCounts s.inflightCalls) (promise : Nat) (requester : Str)
    (request : ServiceCallRequest) (interfaceType : Str) :
    (Rejected s promise (callLocked fx s promise requester request interfaceType) ∧
        ∀ key, ¬ Starts fx s requester request interfaceType key) ∨
      ∃ key, Starts fx s requester request interfaceType key ∧
        Registers fx.sync s promise requester key
          (callLocked fx s promise requester request interfaceType) := by
  unfold callLocked Starts
  by_cases hclosed : s.gate.isClosed = true
  · rw [if_pos hclosed]
    exact .inl ⟨rejected_rejectCall s promise _, fun key hs => by simp [hclosed] at hs⟩
  · rw [if_neg hclosed]
    cases hres : reserveInflightSlot s.inflightCounts requester with
    | error what =>
      exact .inl ⟨rejected_rejectCall s promise what, fun key hs => by simp at hs⟩
    | ok counts =>
      dsimp only
      obtain ⟨clients, next, hkeep⟩ :=
        startRequest_keeps fx { s with inflightCounts := counts } request interfaceType
      rcases hstart : startRequest fx { s with inflightCounts := counts } request interfaceType with
        ⟨res, s₁⟩
      rw [hstart] at hkeep
      dsimp only at hkeep
      subst hkeep
      cases res with
      | error what =>
        refine .inl ⟨⟨rfl, rfl, hcounted.release_reserve hres, rfl, rfl, _, rfl⟩, ?_⟩
        rintro key ⟨_, counts', hcounts, hkey, _⟩
        obtain rfl := Except.ok.inj hcounts
        rw [hstart] at hkey
        cases hkey
      | ok key =>
        dsimp only
        by_cases hdup : (s.inflightCalls.lookup key).isSome = true
        · rw [if_pos hdup]
          refine .inl ⟨⟨rfl, rfl, hcounted.release_reserve hres, rfl, rfl, _, rfl⟩, ?_⟩
          rintro key' ⟨_, counts', hcounts, hkey, hnone⟩
          obtain rfl := Except.ok.inj hcounts
          rw [hstart] at hkey
          obtain rfl := Except.ok.inj hkey
          rw [hnone] at hdup
          cases hdup
        · rw [if_neg hdup]
          rw [Option.not_isSome_iff_eq_none] at hdup
          refine .inr ⟨key, ⟨Bool.not_eq_true _ ▸ hclosed, counts, rfl, by rw [hstart], hdup⟩, ?_⟩
          exact registers_of_insert fx.sync hres rfl rfl rfl

end LivekitBridge
