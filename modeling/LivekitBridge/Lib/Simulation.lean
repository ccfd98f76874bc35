import LivekitBridge.Lib.Machine

/-!
# Machines seen from outside

A machine with more detail than another one is read through two functions: `abs` says what
of its state the other machine has, and `obs` which of its events the other machine emits, and
as what.  `Projects` asks that a start is a start, and that a step is seen as some steps, or as
none; `Projects.trace` is the rule that a run is then a run, so that every result about runs of
the other machine can be used.  A component of a larger system is seen in the same way.
-/

namespace LivekitBridge.Lib.Machine

universe u v w x

variable {σ : Type u} {ε : Type v} {τ : Type w} {δ : Type x}

/-- Some steps of `M` lead from `s` to `t`, and emit `evs`. -/
inductive Runs (M : Machine σ ε) (s : σ) : List ε → σ → Prop
  | refl : Runs M s [] s
  | step {evs evs' : List ε} {t u : σ} :
      Runs M s evs t → M.step t evs' u → Runs M s (evs ++ evs') u

variable {M : Machine σ ε} {s t u : σ} {evs evs' : List ε}

theorem Runs.single (h : M.step s evs t) : Runs M s evs t := Runs.refl.step h

/-- A step that is not seen. -/
theorem Runs.stutter (hevs : evs = []) (ht : t = s) : Runs M s evs t := by
  rw [hevs, ht]
  exact .refl

theorem Trace.runs {tr : List ε} (h : M.Trace tr s) (hruns : Runs M s evs t) :
    M.Trace (tr ++ evs) t := by
  induction hruns with
  | refl =>
    rw [List.append_nil]
    exact h
  | step _ hs ih =>
    rw [← List.append_assoc]
    exact ih.step hs

/-- Seen through `abs` and `obs`, a step of `M` is some steps of `N`. -/
structure Projects (M : Machine σ ε) (N : Machine τ δ) (abs : σ → τ) (obs : ε → Option δ) :
    Prop where
  start : ∀ s, M.start s → N.start (abs s)
  step : ∀ {tr evs s t}, M.Trace tr s → M.step s evs t →
    Runs N (abs s) (evs.filterMap obs) (abs t)

variable {N : Machine τ δ} {abs : σ → τ} {obs : ε → Option δ}

/-- **The rule of projections.**  A run of `M` is seen as a run of `N`. -/
theorem Projects.trace (h : Projects M N abs obs) {tr : List ε} {s : σ} (htrace : M.Trace tr s) :
    N.Trace (tr.filterMap obs) (abs s) := by
  induction htrace with
  | start hs => exact .start (h.start _ hs)
  | @step tr evs s t prior hs ih =>
    rw [List.filterMap_append]
    exact ih.runs (h.step prior hs)

/-- Machines that emit the same events. -/
theorem Projects.trace_same {N : Machine τ ε} (h : Projects M N abs some) {tr : List ε} {s : σ}
    (htrace : M.Trace tr s) : N.Trace tr (abs s) := by
  have hseen := h.trace htrace
  rwa [List.filterMap_some] at hseen

end LivekitBridge.Lib.Machine
