import Mathlib.Data.List.Induction

/-!
# Machines, traces and standing values

A `Machine` says where a system may start and which step it may take, each step
with the events it emits.  `Trace M tr s` says that `s` is reached by a run
whose events, in order, are `tr`; the induction on it is the invariant rule,
`Trace.invariant`, which every safety result uses; `Trace.invariant_atEach` is the
same under a condition on the order of the events.

`Standing` is the one temporal notion the histories need.  A register is
written by some events and cleared by others; `Standing sets clears tr v` says
that `v` was written by the latest writing event of `tr`, and that nothing
since has cleared it.  `standing_concat` is its one-event recursion.
-/

namespace LivekitBridge.Lib

universe u v w

/-- Where a system may start, and which step emits which events. -/
structure Machine (σ : Type u) (ε : Type v) where
  start : σ → Prop
  step : σ → List ε → σ → Prop

/-- Each event meets the condition, against the history before it. -/
def AtEach {ε : Type v} (C : List ε → ε → Prop) (tr : List ε) : Prop :=
  ∀ pre e post, tr = pre ++ e :: post → C pre e

section AtEach

variable {ε : Type v} {C : List ε → ε → Prop} {tr evs : List ε}

theorem AtEach.left (h : AtEach C (tr ++ evs)) : AtEach C tr := by
  intro pre e post heq
  apply h pre e (post ++ evs)
  rw [heq, List.append_assoc, List.cons_append]

theorem AtEach.last {e : ε} (h : AtEach C (tr ++ [e])) : C tr e := h tr e [] rfl

theorem atEach_nil : AtEach C [] := by
  intro pre e post heq
  simp at heq

theorem AtEach.concat {e : ε} (h : AtEach C tr) (he : C tr e) : AtEach C (tr ++ [e]) := by
  intro pre e' post heq
  rcases List.append_eq_append_iff.mp heq with ⟨mid, rfl, hmid⟩ | ⟨mid, rfl, hmid⟩
  · cases mid with
    | nil =>
      obtain ⟨rfl, -⟩ : e = e' ∧ post = [] := by simpa using hmid
      rwa [List.append_nil]
    | cons e'' mid => simp at hmid
  · cases mid with
    | nil =>
      obtain ⟨rfl, -⟩ : e' = e ∧ post = [] := by simpa using hmid
      rwa [List.append_nil] at he
    | cons e'' mid =>
      obtain ⟨rfl, -⟩ : e' = e'' ∧ post = mid ++ [e] := by simpa using hmid
      exact h pre e' mid rfl

theorem AtEach.append_of_length_le (h : AtEach C tr) (hlength : evs.length ≤ 1)
    (hevs : ∀ e ∈ evs, C tr e) : AtEach C (tr ++ evs) := by
  match evs with
  | [] => rwa [List.append_nil]
  | [e] => exact h.concat (hevs e List.mem_cons_self)

end AtEach

namespace Machine

variable {σ : Type u} {ε : Type v} {M : Machine σ ε}

/-- `Trace M tr s`: a run from a start state reaches `s` and emits `tr`. -/
inductive Trace (M : Machine σ ε) : List ε → σ → Prop
  | start {s : σ} : M.start s → Trace M [] s
  | step {tr evs : List ε} {s t : σ} : Trace M tr s → M.step s evs t → Trace M (tr ++ evs) t

/-- A state some run reaches. -/
def Reachable (M : Machine σ ε) (s : σ) : Prop := ∃ tr, M.Trace tr s

/-- **The invariant rule.**  What holds at the start and passes through every
step holds of every trace. -/
theorem Trace.invariant {P : List ε → σ → Prop} (hStart : ∀ s, M.start s → P [] s)
    (hStep : ∀ {tr evs s t}, M.Trace tr s → P tr s → M.step s evs t → P (tr ++ evs) t) :
    ∀ {tr s}, M.Trace tr s → P tr s := by
  intro tr s h
  induction h with
  | start hs => exact hStart _ hs
  | step prior hs ih => exact hStep prior ih hs

/-- **The rule of events.**  What holds of each event a step emits, against the history
before it, holds of each event of a run. -/
theorem Trace.at_event {P : List ε → ε → Prop}
    (hStep : ∀ {tr evs s t}, M.Trace tr s → M.step s evs t →
      ∀ pre e post, evs = pre ++ e :: post → P (tr ++ pre) e) :
    ∀ {tr s}, M.Trace tr s → AtEach P tr := by
  intro tr s h
  induction h with
  | start hs =>
    intro pre e post heq
    simp at heq
  | @step tr evs s t prior hs ih =>
    intro pre e post heq
    -- the event is one of the step's, or one of the run before
    rcases List.append_eq_append_iff.mp heq with ⟨mid, hpre, hevs⟩ | ⟨mid, htr, hpost⟩
    · rw [hpre]
      exact hStep prior hs mid e post hevs
    · cases mid with
      | nil =>
        rw [List.append_nil] at htr
        have hP := hStep prior hs [] e post (by simpa using hpost.symm)
        rwa [List.append_nil, htr] at hP
      | cons e' mid =>
        obtain ⟨rfl, -⟩ : e = e' ∧ post = mid ++ evs := by simpa using hpost
        exact ih pre e mid htr

/-- The rule of events for steps that emit one event at most. -/
theorem Trace.at_single_event {P : List ε → ε → Prop}
    (hStep : ∀ {tr evs s t}, M.Trace tr s → M.step s evs t →
      evs.length ≤ 1 ∧ ∀ e ∈ evs, P tr e) :
    ∀ {tr s}, M.Trace tr s → AtEach P tr := by
  intro tr s h
  induction h with
  | start _ => exact atEach_nil
  | step prior hs ih =>
    obtain ⟨hlength, hevs⟩ := hStep prior hs
    exact ih.append_of_length_le hlength hevs

/-- **The invariant rule under a condition on the history.**  The runs are those in which each
event meets the condition when it happens. -/
theorem Trace.invariant_atEach {C : List ε → ε → Prop} {P : List ε → σ → Prop}
    (hStart : ∀ s, M.start s → P [] s)
    (hStep : ∀ {tr evs s t}, M.Trace tr s → P tr s → M.step s evs t → AtEach C (tr ++ evs) →
      P (tr ++ evs) t) :
    ∀ {tr s}, M.Trace tr s → AtEach C tr → P tr s := by
  intro tr s h
  induction h with
  | start hs => exact fun _ => hStart _ hs
  | step prior hs ih => exact fun hC => hStep prior (ih hC.left) hs hC

/-- The machine of a function that performs one act at a time, if it can. -/
def driven (init : σ) (perform : σ → ε → Option σ) : Machine σ ε where
  start s := s = init
  step s evs t := ∃ act, perform s act = some t ∧ evs = [act]

theorem driven_trace {init : σ} {perform : σ → ε → Option σ} {acts : List ε} {s : σ}
    (h : acts.foldlM perform init = some s) : (driven init perform).Trace acts s := by
  induction acts using List.reverseRecOn generalizing s with
  | nil =>
    obtain rfl := Option.some.inj h
    exact .start rfl
  | append_singleton acts act ih =>
    rw [List.foldlM_append] at h
    obtain ⟨s', hs', hact⟩ := Option.bind_eq_some_iff.mp h
    refine .step (ih hs') ⟨act, ?_, rfl⟩
    simpa using hact

end Machine

/-! ### Registers -/

section Standing

variable {ε : Type u} {ν : Type v}

/-- `v` was written by the latest writing event, and nothing since cleared it. -/
def Standing (sets : ε → Option ν) (clears : ν → ε → Prop) (tr : List ε) (v : ν) : Prop :=
  ∃ pre e post, tr = pre ++ e :: post ∧ sets e = some v ∧
    ∀ e' ∈ post, sets e' = none ∧ ¬ clears v e'

variable {sets : ε → Option ν} {clears : ν → ε → Prop}

theorem not_standing_nil (v : ν) : ¬ Standing sets clears [] v := by
  rintro ⟨pre, e, post, h, _⟩
  cases pre <;> simp at h

/-- **One event of a register.**  A write decides the value; any other event
keeps what stood unless it clears it. -/
theorem standing_concat (tr : List ε) (e : ε) (v : ν) :
    Standing sets clears (tr ++ [e]) v ↔
      sets e = some v ∨ (sets e = none ∧ Standing sets clears tr v ∧ ¬ clears v e) := by
  constructor
  · rintro ⟨pre, e', post, h, hs, hpost⟩
    -- the writing event is either the last one or inside `tr`
    rcases List.eq_nil_or_concat post with rfl | ⟨post', e'', rfl⟩
    · left
      have hlast := congrArg List.getLast? h
      simp only [List.getLast?_append, List.getLast?_singleton, Option.some_or,
        Option.some.injEq] at hlast
      exact hlast ▸ hs
    · right
      rw [List.concat_eq_append] at h hpost
      have h' : tr ++ [e] = (pre ++ e' :: post') ++ [e''] := by
        rw [h, List.append_assoc, List.cons_append]
      obtain ⟨htr, he⟩ := List.append_inj' h' rfl
      have he : e = e'' := by simpa using he
      subst he
      obtain ⟨hn, hc⟩ := hpost e (by simp)
      exact ⟨hn, ⟨pre, e', post', htr, hs, fun x hx => hpost x (by simp [hx])⟩, hc⟩
  · rintro (hs | ⟨hn, ⟨pre, e', post, rfl, hs, hpost⟩, hc⟩)
    · exact ⟨tr, e, [], rfl, hs, by simp⟩
    · refine ⟨pre, e', post ++ [e], by simp, hs, ?_⟩
      intro x hx
      rcases List.mem_append.mp hx with hx | hx
      · exact hpost x hx
      · obtain rfl : x = e := by simpa using hx
        exact ⟨hn, hc⟩

theorem standing_concat_of_set {tr : List ε} {e : ε} {v w : ν} (h : sets e = some w) :
    Standing sets clears (tr ++ [e]) v ↔ v = w := by
  rw [standing_concat, h]
  simp [eq_comm]

theorem standing_concat_of_not_set {tr : List ε} {e : ε} {v : ν} (h : sets e = none) :
    Standing sets clears (tr ++ [e]) v ↔ Standing sets clears tr v ∧ ¬ clears v e := by
  rw [standing_concat, h]
  simp

/-- Events that neither write nor clear leave the register alone. -/
theorem standing_append_of_quiet {tr evs : List ε} {v : ν}
    (h : ∀ e ∈ evs, sets e = none ∧ ¬ clears v e) :
    Standing sets clears (tr ++ evs) v ↔ Standing sets clears tr v := by
  induction evs generalizing tr with
  | nil => rw [List.append_nil]
  | cons e evs ih =>
    rw [show tr ++ e :: evs = (tr ++ [e]) ++ evs by simp,
      ih (fun x hx => h x (List.mem_cons_of_mem _ hx)),
      standing_concat_of_not_set (h e (by simp)).1]
    exact ⟨fun hs => hs.1, fun hs => ⟨hs, (h e (by simp)).2⟩⟩

/-- What does not stand is not brought back by events that write nothing. -/
theorem not_standing_append {tr evs : List ε} {v : ν} (h : ¬ Standing sets clears tr v)
    (hevs : ∀ e ∈ evs, sets e = none) : ¬ Standing sets clears (tr ++ evs) v := by
  induction evs generalizing tr with
  | nil => rwa [List.append_nil]
  | cons e evs ih =>
    rw [show tr ++ e :: evs = (tr ++ [e]) ++ evs by simp]
    refine ih ?_ fun x hx => hevs x (List.mem_cons_of_mem _ hx)
    rw [standing_concat_of_not_set (hevs e List.mem_cons_self)]
    exact fun hs => h hs.1

/-- A clearing event among events that write nothing clears the register. -/
theorem not_standing_append_of_clears {tr evs : List ε} {v : ν} (hevs : ∀ e ∈ evs, sets e = none)
    (hclears : ∃ e ∈ evs, clears v e) : ¬ Standing sets clears (tr ++ evs) v := by
  obtain ⟨e, he, hc⟩ := hclears
  obtain ⟨before, after, rfl⟩ := List.append_of_mem he
  rw [show tr ++ (before ++ e :: after) = (tr ++ before ++ [e]) ++ after by simp]
  refine not_standing_append ?_ fun x hx => hevs x (by simp [hx])
  rw [standing_concat_of_not_set (hevs e he)]
  exact fun hs => hs.2 hc

end Standing

end LivekitBridge.Lib
