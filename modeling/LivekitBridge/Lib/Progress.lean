import LivekitBridge.Lib.Locking
import Mathlib.Algebra.Ring.Nat

/-!
# Calls that go on

When the calls of a `LockSystem` come to their end.  Code has no loops, so a call has a bounded
number of steps left (`Code.steps`), and each step that is taken makes the number smaller
(`steps_advance`): calls that are left to themselves take no more than `LockSystem.steps` steps.

What can stop them is that all of them wait.  A call that is the innermost one of its thread goes on
unless it waits for a mutex that is owned or for a condition (`exists_advance`), and it is the
innermost one when it is a callback, or when no callbacks are in progress (`NestsCallbacks`).
-/

namespace LivekitBridge.Lib

universe u v

variable {σ : Type u} {ω : Type v}

/-- How many steps the code takes at most. -/
def Code.steps : Code σ ω → Nat
  | .ret => 1
  | .lock next => next.steps + 2
  | .unlock next => next.steps + 1
  | .enter next => next.steps + 1
  | .leave next => next.steps + 1
  | .access _ next => max (next false).steps (next true).steps + 1
  | .await _ next => next.steps + 1
  | .foreign next => max (next false).steps (next true).steps + 1
  | .outcome next => max (next false).steps (next true).steps + 1

theorem Code.steps_branch (next : Bool → Code σ ω) (b : Bool) :
    (next b).steps ≤ max (next false).steps (next true).steps := by
  cases b with
  | false => exact Nat.le_max_left _ _
  | true => exact Nat.le_max_right _ _

/-- How many steps the call takes at most; to come to the mutex is one of them. -/
def Frame.steps (f : Frame σ ω) : Nat := f.rest.steps + (!f.waiting).toNat

theorem Frame.steps_pos (f : Frame σ ω) : 0 < f.steps := by
  have hrest : 0 < f.rest.steps := by
    cases f.rest <;> simp [Code.steps]
  exact Nat.lt_of_lt_of_le hrest (Nat.le_add_right _ _)

theorem Calls.innermost_split {φ : Type u} {before after : Calls φ} {thread : ThreadId} {call : φ}
    (hbefore : ∀ other ∈ before, other.1 ≠ thread) :
    Calls.innermost (before ++ (thread, call) :: after) thread = some call := by
  have hnone : before.find? (fun call => call.1 == thread) = none :=
    List.find?_eq_none.mpr (by simpa using hbefore)
  simp [Calls.innermost, List.find?_append, hnone]

namespace LockSystem

variable {ready : ω → ThreadId → LockSystem σ ω → Bool} {s t : LockSystem σ ω}
  {thread : ThreadId} {choice : Bool} {f : Frame σ ω}

/-- How many steps the calls in progress take at most. -/
def steps (s : LockSystem σ ω) : Nat := (s.calls.map fun call => call.2.steps).sum

theorem steps_split {before after : Calls (Frame σ ω)}
    (hcalls : s.calls = before ++ (thread, f) :: after) :
    s.steps = (before.map fun call => call.2.steps).sum + f.steps +
      (after.map fun call => call.2.steps).sum := by
  rw [steps, hcalls, List.map_append, List.sum_append, List.map_cons, List.sum_cons, Nat.add_assoc]

/-- A call that moves has fewer steps left. -/
theorem Moves.steps_lt {shared : σ} {owner : Option ThreadId} {f' : Frame σ ω}
    (h : Moves ready s thread choice f shared owner f') : f'.steps < f.steps := by
  cases h with
  | arrives next hrest hwaiting => simp [Frame.steps, hwaiting]
  | takes next hrest hwaiting => simp [Frame.steps, hrest, hwaiting, Code.steps]
  | releases next hrest => simp [Frame.steps, hrest, Code.steps]
  | enters next hrest => simp [Frame.steps, hrest, Code.steps]
  | leaves next hrest => simp [Frame.steps, hrest, Code.steps]
  | accesses g next hrest =>
    have hbranch := Code.steps_branch next (g s.shared).1
    simp only [Frame.steps, hrest, Code.steps]
    omega
  | awaits condition next hrest => simp [Frame.steps, hrest, Code.steps]
  | foreign next hrest =>
    have hbranch := Code.steps_branch next choice
    simp only [Frame.steps, hrest, Code.steps]
    omega
  | outcome next hrest =>
    have hbranch := Code.steps_branch next choice
    simp only [Frame.steps, hrest, Code.steps]
    omega

/-- **Each step leaves fewer.** -/
theorem steps_advance (h : s.advance ready thread choice = some t) : t.steps < s.steps := by
  obtain ⟨f, before, after, -, hcalls, -, hcases⟩ := advance_moves h
  rcases hcases with ⟨-, rfl⟩ | ⟨shared, owner, f', hmoves, rfl⟩
  · have hpos := f.steps_pos
    rw [steps_split hcalls, steps, List.map_append, List.sum_append]
    omega
  · have hless := hmoves.steps_lt
    rw [steps_split hcalls, steps_split rfl]
    omega

/-- Calls go on, each of the threads with its choice. -/
def goOn (ready : ω → ThreadId → LockSystem σ ω → Bool) (s : LockSystem σ ω)
    (moves : List (ThreadId × Bool)) : Option (LockSystem σ ω) :=
  moves.foldlM (fun s move => s.advance ready move.1 move.2) s

/-- **Calls that are left to themselves** take no more steps than they have. -/
theorem steps_goOn {moves : List (ThreadId × Bool)} (h : s.goOn ready moves = some t) :
    moves.length + t.steps ≤ s.steps := by
  induction moves generalizing s with
  | nil =>
    obtain rfl := Option.some.inj h
    simp
  | cons move moves ih =>
    rw [goOn, List.foldlM_cons] at h
    obtain ⟨s', hmove, hmoves⟩ := Option.bind_eq_some_iff.mp h
    have hless := steps_advance hmove
    have hrest := ih hmoves
    rw [List.length_cons]
    omega

/-! ### Who can go on -/

/-- The innermost call of a thread goes on, unless it waits. -/
theorem exists_advance (hin : s.calls.innermost thread = some f)
    (hlock : ∀ next, f.rest = .lock next → s.owner = none)
    (hawait : ∀ condition next, f.rest = .await condition next → ready condition thread s = true) :
    ∃ t, s.advance ready thread true = some t := by
  unfold LockSystem.advance
  rw [hin]
  cases hrest : f.rest with
  | lock next =>
    cases hwaiting : f.waiting with
    | true => simp [hrest, hwaiting, hlock next hrest]
    | false => simp [hrest, hwaiting]
  | await condition next => simp [hrest, hawait condition next hrest]
  | _ => simp [hrest]

section Nests

theorem Disciplined.innermost_outside (h : Disciplined s) {call : ThreadId × Frame σ ω}
    (hcall : call ∈ s.calls) (hout : call.2.inside = false) :
    s.calls.innermost call.1 = some call.2 := by
  obtain ⟨before, after, hcalls⟩ := List.append_of_mem hcall
  have hnested := h.nested
  rw [hcalls, List.pairwise_append] at hnested
  rw [hcalls]
  refine Calls.innermost_split fun other hother hsame => ?_
  have hin := hnested.2.2 other hother call List.mem_cons_self hsame
  rw [hout] at hin
  cases hin

theorem NestsCallbacks.innermost (h : NestsCallbacks s)
    (hnone : ∀ call ∈ s.calls, call.2.isCallback = false) {call : ThreadId × Frame σ ω}
    (hcall : call ∈ s.calls) : s.calls.innermost call.1 = some call.2 := by
  obtain ⟨before, after, hcalls⟩ := List.append_of_mem hcall
  unfold NestsCallbacks at h
  rw [hcalls, List.pairwise_append] at h
  rw [hcalls]
  refine Calls.innermost_split fun other hother hsame => ?_
  have hcallback := h.2.2 other hother call List.mem_cons_self hsame
  rw [hnone other (hcalls ▸ List.mem_append_left _ hother)] at hcallback
  cases hcallback

end Nests

end LockSystem

end LivekitBridge.Lib
