import LivekitBridge.Lib.Machine
import LivekitBridge.Leases.DataTrack

/-!
# The throttle of a data track

`Publication::State::push` and `setIntervalMs` take `state_mutex_`, so that a publication is a
machine whose steps are whole calls.  Messages arrive at times that do not go back; the interval
may be set at any time, to zero and from zero.

`lastPushAt` is written by the messages that are admitted under an interval that is not zero, and
by no others.  So it is the time of the last of these (`Clocked`), across all the intervals that
were in force, and from this the spacing follows.
-/

namespace LivekitBridge

namespace Publication

/-- A call of a publication: a message that arrived, under which interval, and whether it was
admitted, or a new interval. -/
inductive Call
  | push (now : Time) (intervalMs : Int) (cdr : Str) (admitted : Bool)
  | setIntervalMs (intervalMs : Int)
deriving DecidableEq, Repr

/-- A publication and the time of the last arrival. -/
structure Clock where
  publication : Publication
  now : Time
deriving DecidableEq, Repr

inductive Throttle : Clock → List Call → Clock → Prop
  | push (p : Publication) (before now : Time) (cdr : Str) : before ≤ now →
      Throttle ⟨p, before⟩ [.push now p.intervalMs cdr (p.push now cdr).2]
        ⟨(p.push now cdr).1, now⟩
  | setIntervalMs (p : Publication) (now : Time) (intervalMs : Int) : 0 ≤ intervalMs →
      Throttle ⟨p, now⟩ [.setIntervalMs intervalMs] ⟨p.setIntervalMs intervalMs, now⟩

/-- A publication from its construction on. -/
def calls : Lib.Machine Clock Call where
  start s := ∃ node effects rosTopic intervalMs, 0 ≤ intervalMs ∧
    create node effects rosTopic intervalMs = some s.publication
  step := Throttle

/-- A publication that is constructed with an interval. -/
def callsFrom (intervalMs : Int) : Lib.Machine Clock Call where
  start s := 0 ≤ intervalMs ∧ ∃ node effects rosTopic,
    create node effects rosTopic intervalMs = some s.publication
  step := Throttle

/-- The interval that a call sets. -/
def Call.interval : Call → Option Int
  | .push _ _ _ _ => none
  | .setIntervalMs intervalMs => some intervalMs

/-- The interval in force: the last that was set, or the one of the construction. -/
def intervalInForce (constructed : Int) (tr : List Call) : Int :=
  (tr.reverse.findSome? Call.interval).getD constructed

/-- The time of a message that was admitted under an interval. -/
def Call.pacedAt : Call → Option Time
  | .push now intervalMs _ admitted => if intervalMs ≠ 0 ∧ admitted then some now else none
  | .setIntervalMs _ => none

/-- The bytes of a message. -/
def Call.bytes : Call → Option Str
  | .push _ _ cdr _ => some cdr
  | .setIntervalMs _ => none

/-- The bytes of the last message that arrived. -/
def lastBytes (tr : List Call) : Option Str := tr.reverse.findSome? Call.bytes

/-- If both are admitted under an interval, the second is that of its own interval after the
first. -/
def Spaced (first : Call) : Call → Prop
  | .push now intervalMs _ admitted =>
    intervalMs ≠ 0 → admitted = true →
      ∀ before, first.pacedAt = some before → intervalMs * 1000000 ≤ (now : Int) - before
  | .setIntervalMs _ => True

/-- A message is withheld because of one that was admitted under an interval, less than the
interval before. -/
def WithheldWhenClose (history : List Call) : Call → Prop
  | .push now intervalMs _ admitted =>
    admitted = false → intervalMs ≠ 0 ∧
      ∃ e ∈ history, ∃ before, e.pacedAt = some before ∧
        (now : Int) - before < intervalMs * 1000000
  | .setIntervalMs _ => True

/-! ### One call -/

/-- What a message does to the time of the last one. -/
inductive Pushed (p : Publication) (now : Time) : Option Time → Bool → Prop
  | unthrottled : p.intervalMs = 0 → Pushed p now p.lastPushAt true
  | admitted : p.intervalMs ≠ 0 →
      (∀ last, p.lastPushAt = some last → p.intervalMs * 1000000 ≤ (now : Int) - last) →
      Pushed p now (some now) true
  | withheld (last : Time) : p.intervalMs ≠ 0 → p.lastPushAt = some last →
      (now : Int) - last < p.intervalMs * 1000000 → Pushed p now p.lastPushAt false

theorem pushed (p : Publication) (now : Time) (cdr : Str) :
    Pushed p now (p.push now cdr).1.lastPushAt (p.push now cdr).2 := by
  rw [push]
  generalize hq : (if p.isTransientLocal = true then { p with cachedCdr := some cdr } else p) = q
  have hinterval : q.intervalMs = p.intervalMs := by
    rw [← hq]
    split <;> rfl
  have hlast : q.lastPushAt = p.lastPushAt := by
    rw [← hq]
    split <;> rfl
  rw [hinterval, hlast]
  split
  · rename_i hne
    split
    · rename_i hnone
      apply Pushed.admitted hne
      intro last hsome
      rw [hnone] at hsome
      cases hsome
    · rename_i last hsome
      split
      · rename_i hclose
        dsimp only
        rw [hlast]
        exact .withheld last hne hsome hclose
      · rename_i hfar
        apply Pushed.admitted hne
        intro last' hsome'
        rw [hsome, Option.some.injEq] at hsome'
        rw [← hsome']
        exact Int.not_lt.mp hfar
  · rename_i hzero
    dsimp only
    rw [hlast]
    exact .unthrottled (not_not.mp hzero)

/-! ### Runs -/

/-- **`lastPushAt` is the time of the last message that was admitted under an interval.** -/
structure Clocked (tr : List Call) (s : Clock) : Prop where
  interval : 0 ≤ s.publication.intervalMs
  latest : ∀ e ∈ tr, ∀ before, e.pacedAt = some before →
    ∃ last, s.publication.lastPushAt = some last ∧ before ≤ last
  attained : ∀ last, s.publication.lastPushAt = some last → ∃ e ∈ tr, e.pacedAt = some last
  past : ∀ last, s.publication.lastPushAt = some last → last ≤ s.now

theorem clocked_step {tr evs : List Call} {s t : Clock} (h : Clocked tr s)
    (hstep : Throttle s evs t) : Clocked (tr ++ evs) t := by
  cases hstep with
  | setIntervalMs p now intervalMs hi =>
    refine ⟨hi, ?_, ?_, h.past⟩
    · intro e he before hbefore
      rcases List.mem_append.mp he with he | he
      · exact h.latest e he before hbefore
      · rw [List.mem_singleton.mp he] at hbefore
        cases hbefore
    · intro last hlast
      obtain ⟨e, he, hpaced⟩ := h.attained last hlast
      exact ⟨e, List.mem_append_left _ he, hpaced⟩
  | push p before now cdr hle =>
    have hinterval := (p.push_fst now cdr).1
    have hpushed := p.pushed now cdr
    generalize hevent : Call.push now p.intervalMs cdr (p.push now cdr).2 = event
    generalize hlast : (p.push now cdr).1.lastPushAt = last' at hpushed
    generalize hadmitted : (p.push now cdr).2 = admitted at hpushed hevent
    -- either the time stays and the message is no paced one, or it is the time of the message
    have hcase : (last' = p.lastPushAt ∧ event.pacedAt = none) ∨
        (last' = some now ∧ event.pacedAt = some now) := by
      rw [← hevent]
      cases hpushed with
      | unthrottled hzero => exact .inl ⟨rfl, by simp [Call.pacedAt, hzero]⟩
      | admitted hne _ => exact .inr ⟨rfl, by simp [Call.pacedAt, hne]⟩
      | withheld last _ _ _ => exact .inl ⟨rfl, by simp [Call.pacedAt]⟩
    rcases hcase with ⟨hsame, hnone⟩ | ⟨hnow, hpaced⟩
    · refine ⟨by rw [hinterval]; exact h.interval, ?_, ?_, ?_⟩
      · intro e he t ht
        show ∃ last, (p.push now cdr).1.lastPushAt = some last ∧ t ≤ last
        rw [hlast, hsame]
        rcases List.mem_append.mp he with he | he
        · exact h.latest e he t ht
        · rw [List.mem_singleton.mp he, hnone] at ht
          cases ht
      · intro last hl
        rw [hlast, hsame] at hl
        obtain ⟨e, he, hpaced⟩ := h.attained last hl
        exact ⟨e, List.mem_append_left _ he, hpaced⟩
      · intro last hl
        rw [hlast, hsame] at hl
        exact (h.past last hl).trans hle
    · refine ⟨by rw [hinterval]; exact h.interval, ?_, ?_, ?_⟩
      · intro e he t ht
        refine ⟨now, hlast.trans hnow, ?_⟩
        rcases List.mem_append.mp he with he | he
        · obtain ⟨last, hl, hle'⟩ := h.latest e he t ht
          exact (hle'.trans (h.past last hl)).trans hle
        · rw [List.mem_singleton.mp he, hpaced, Option.some.injEq] at ht
          exact ht.ge
      · intro last hl
        rw [hlast, hnow] at hl
        exact ⟨event, List.mem_append_right _ (List.mem_singleton_self event), hpaced.trans hl⟩
      · intro last hl
        rw [hlast, hnow, Option.some.injEq] at hl
        exact hl.ge

theorem clocked {tr : List Call} {s : Clock} (h : calls.Trace tr s) : Clocked tr s := by
  apply h.invariant
  · intro s hstart
    obtain ⟨node, effects, rosTopic, intervalMs, hi, hcreate⟩ := hstart
    obtain ⟨hinterval, _⟩ := create_eq_some hcreate
    obtain ⟨hnone, _⟩ := create_fresh hcreate
    refine ⟨hinterval ▸ hi, ?_, ?_, ?_⟩
    · intro e he
      cases he
    · intro last hlast
      rw [hnone] at hlast
      cases hlast
    · intro last hlast
      rw [hnone] at hlast
      cases hlast
  · intro tr evs s t _ ih hstep
    exact clocked_step ih hstep

/-- A message is admitted at its distance from all those before. -/
theorem spaced_push {tr : List Call} {p : Publication} {before now : Time} {cdr : Str}
    (h : Clocked tr ⟨p, before⟩) :
    ∀ e ∈ tr, Spaced e (.push now p.intervalMs cdr (p.push now cdr).2) := by
  intro e he hne hadmitted t ht
  obtain ⟨last, hlast, hle⟩ := h.latest e he t ht
  have hpushed := p.pushed now cdr
  rw [hadmitted] at hpushed
  have hfar : p.intervalMs * 1000000 ≤ (now : Int) - last := by
    generalize (p.push now cdr).1.lastPushAt = last' at hpushed
    cases hpushed with
    | unthrottled hzero => exact absurd hzero hne
    | admitted _ hfar => exact hfar last hlast
  have hle' : (t : Int) ≤ last := Int.ofNat_le.mpr hle
  omega

theorem withheld_push {tr : List Call} {p : Publication} {before now : Time} {cdr : Str}
    (h : Clocked tr ⟨p, before⟩) :
    WithheldWhenClose tr (.push now p.intervalMs cdr (p.push now cdr).2) := by
  intro hwithheld
  have hpushed := p.pushed now cdr
  rw [hwithheld] at hpushed
  generalize (p.push now cdr).1.lastPushAt = last' at hpushed
  cases hpushed with
  | withheld last hne hlast hclose =>
    obtain ⟨e, he, hpaced⟩ := h.attained last hlast
    exact ⟨hne, e, he, last, hpaced, hclose⟩

theorem pairwise_spaced {tr : List Call} {s : Clock} (h : calls.Trace tr s) :
    tr.Pairwise Spaced := by
  induction h with
  | start _ => exact .nil
  | step prior hstep ih =>
    have hclocked := clocked prior
    rw [List.pairwise_append]
    cases hstep with
    | push p before now cdr _ =>
      refine ⟨ih, List.pairwise_singleton _ _, ?_⟩
      intro e he e' he'
      rw [List.mem_singleton.mp he']
      exact spaced_push hclocked e he
    | setIntervalMs p now intervalMs _ =>
      refine ⟨ih, List.pairwise_singleton _ _, ?_⟩
      intro e _ e' he'
      rw [List.mem_singleton.mp he']
      exact trivial

theorem withheldWhenClose {tr : List Call} {s : Clock} (h : calls.Trace tr s) :
    ∀ pre e post, tr = pre ++ e :: post → WithheldWhenClose pre e := by
  apply h.at_single_event (P := WithheldWhenClose)
  intro tr evs s t prior hstep
  have hclocked := clocked prior
  cases hstep with
  | push p before now cdr _ =>
    refine ⟨le_rfl, ?_⟩
    exact List.forall_mem_singleton.mpr (withheld_push hclocked)
  | setIntervalMs p now intervalMs _ =>
    refine ⟨le_rfl, ?_⟩
    exact List.forall_mem_singleton.mpr trivial

/-- Without an interval every message is admitted. -/
theorem admitted_of_unthrottled {tr : List Call} {s : Clock} (h : calls.Trace tr s) {now : Time}
    {cdr : Str} {admitted : Bool} (hmem : Call.push now 0 cdr admitted ∈ tr) :
    admitted = true := by
  obtain ⟨pre, post, heq⟩ := List.append_of_mem hmem
  have hwithheld := withheldWhenClose h pre _ post heq
  by_contra hnot
  exact (hwithheld (Bool.eq_false_iff.mpr hnot)).1 rfl

theorem cachedCdr_eq {tr : List Call} {s : Clock} (h : calls.Trace tr s)
    (hlocal : s.publication.isTransientLocal = true) :
    s.publication.cachedCdr = lastBytes tr := by
  induction h with
  | start hstart =>
    obtain ⟨node, effects, rosTopic, intervalMs, _, hcreate⟩ := hstart
    exact (create_fresh hcreate).2
  | step prior hstep ih =>
    cases hstep with
    | push p before now cdr _ =>
      obtain ⟨hsame, hcached⟩ := p.push_cachedCdr now cdr
      rw [hsame] at hlocal
      rw [lastBytes, List.reverse_append]
      show (p.push now cdr).1.cachedCdr = some cdr
      rw [hcached, if_pos hlocal]
    | setIntervalMs p now intervalMs _ =>
      rw [lastBytes, List.reverse_append]
      exact ih hlocal

/-- A run from a given interval is a run. -/
theorem trace_of_callsFrom {intervalMs : Int} {tr : List Call} {s : Clock}
    (h : (callsFrom intervalMs).Trace tr s) : calls.Trace tr s := by
  induction h with
  | start hstart =>
    obtain ⟨hnonneg, node, effects, rosTopic, hcreate⟩ := hstart
    exact .start ⟨node, effects, rosTopic, intervalMs, hnonneg, hcreate⟩
  | step _ hstep ih => exact ih.step hstep

theorem intervalInForce_concat (constructed : Int) (tr : List Call) (call : Call) :
    intervalInForce constructed (tr ++ [call]) =
      call.interval.getD (intervalInForce constructed tr) := by
  rw [intervalInForce, List.reverse_append, List.reverse_singleton, List.singleton_append,
    List.findSome?_cons]
  cases call.interval with
  | none => rfl
  | some intervalMs => rfl

/-- **The interval of the publication is the one in force.** -/
theorem intervalMs_eq {intervalMs : Int} {tr : List Call} {s : Clock}
    (h : (callsFrom intervalMs).Trace tr s) :
    s.publication.intervalMs = intervalInForce intervalMs tr := by
  induction h with
  | start hstart =>
    obtain ⟨-, node, effects, rosTopic, hcreate⟩ := hstart
    exact (create_eq_some hcreate).1
  | step _ hstep ih =>
    cases hstep with
    | push p before now cdr _ =>
      rw [intervalInForce_concat]
      exact (p.push_fst now cdr).1.trans ih
    | setIntervalMs p now set _ =>
      rw [intervalInForce_concat]
      rfl

/-- A message is judged by the interval in force. -/
def JudgedInForce (constructed : Int) (history : List Call) : Call → Prop
  | .push _ intervalMs _ _ => intervalMs = intervalInForce constructed history
  | .setIntervalMs _ => True

theorem judgedInForce {intervalMs : Int} {tr : List Call} {s : Clock}
    (h : (callsFrom intervalMs).Trace tr s) :
    ∀ pre e post, tr = pre ++ e :: post → JudgedInForce intervalMs pre e := by
  apply h.at_single_event (P := JudgedInForce intervalMs)
  intro tr evs s t prior hstep
  have hinterval := intervalMs_eq prior
  cases hstep with
  | push p before now cdr _ => exact ⟨le_rfl, List.forall_mem_singleton.mpr hinterval⟩
  | setIntervalMs p now set _ => exact ⟨le_rfl, List.forall_mem_singleton.mpr trivial⟩

/-- **The throttle of a data track, over every run.**  Each message is judged by the interval that
was set last, or the one of the construction.  Messages that are admitted under an interval are at
least the later one's interval apart; a message is withheld only for one that is closer than that;
without an interval every message is admitted; and a transient-local publication keeps the last
message that arrived, admitted or not. -/
theorem throttle_over_runs {intervalMs : Int} {tr : List Call} {s : Clock}
    (h : (callsFrom intervalMs).Trace tr s) :
    (∀ pre e post, tr = pre ++ e :: post → JudgedInForce intervalMs pre e) ∧
      tr.Pairwise Spaced ∧
      (∀ pre e post, tr = pre ++ e :: post → WithheldWhenClose pre e) ∧
      (∀ now cdr admitted, .push now 0 cdr admitted ∈ tr → admitted = true) ∧
      (s.publication.isTransientLocal = true → s.publication.cachedCdr = lastBytes tr) := by
  have hcalls := trace_of_callsFrom h
  refine ⟨judgedInForce h, pairwise_spaced hcalls, withheldWhenClose hcalls, ?_,
    cachedCdr_eq hcalls⟩
  intro now cdr admitted hmem
  exact admitted_of_unthrottled hcalls hmem

/-- A transient-local publication at 100 ms that is unthrottled for a while and then throttled at
20 ms. -/
def switching : List Call :=
  [.push 0 100 (lit "a") true, .push 50000000 100 (lit "b") false, .setIntervalMs 0,
    .push 60000000 0 (lit "c") true, .setIntervalMs 20, .push 70000000 20 (lit "d") true,
    .push 80000000 20 (lit "e") false]

/-- The publication after these calls. -/
def switched : Clock :=
  ⟨⟨lit "/scan", 20, some 70000000, true, some (lit "e")⟩, 80000000⟩

theorem switching_trace : (callsFrom 100).Trace switching switched := by
  have hcreate : create ⟨lit "bridge", lit "/", ros2Expand, id⟩ ⟨.track, true, true⟩ (lit "/scan")
      100 = some ⟨lit "/scan", 100, none, true, none⟩ := by decide
  have hstart : (callsFrom 100).Trace [] ⟨⟨lit "/scan", 100, none, true, none⟩, 0⟩ :=
    .start ⟨by decide, _, _, _, hcreate⟩
  have ha := hstart.step (.push _ _ 0 (lit "a") (by decide))
  have hb := ha.step (.push _ _ 50000000 (lit "b") (by decide))
  have hzero := hb.step (.setIntervalMs _ _ 0 (by decide))
  have hc := hzero.step (.push _ _ 60000000 (lit "c") (by decide))
  have htwenty := hc.step (.setIntervalMs _ _ 20 (by decide))
  have hd := htwenty.step (.push _ _ 70000000 (lit "d") (by decide))
  exact hd.step (.push _ _ 80000000 (lit "e") (by decide))

theorem throttle_over_runs_switching :
    switching.Pairwise Spaced ∧ switched.publication.cachedCdr = some (lit "e") := by
  obtain ⟨_, hspaced, _, _, hcached⟩ := throttle_over_runs switching_trace
  exact ⟨hspaced, hcached rfl⟩

end Publication

end LivekitBridge
