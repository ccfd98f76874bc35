import LivekitBridge.Lib.Locking
import Mathlib.Data.List.Forall2

/-!
# Calls and their roles

What a call may do is decided by its role, and what it does may change the role.  `RoleRules` are
such rules: which role may lock, unlock, pass through the region, return, wait for a condition, and
how it may change the shared fields.  A role knows the marks of its call, which are whether it is a
callback, holds the mutex, and is in the region.

`Code.Plays` checks code against the rules, from the role that it starts in.  When all code does,
the calls in progress have roles at any time (`Cast`), and a step of the system is a step of one
role (`Cast.advance`).  An invariant of the roles and the shared fields is then shown step by step,
without a look at the code.
-/

namespace LivekitBridge.Lib

universe u v w

/-- What is seen of a call from outside. -/
structure Marks where
  isCallback : Bool
  holds : Bool
  inside : Bool
deriving DecidableEq

/-- What roles may do. -/
structure RoleRules (σ : Type u) (ω : Type v) (ρ : Type w) where
  marks : ρ → Marks
  returns : ρ → Prop
  lock : ρ → ρ → Prop
  unlock : ρ → ρ → Prop
  enter : ρ → ρ → Prop
  leave : ρ → ρ → Prop
  access : ρ → σ → σ → ρ → Prop
  await : ω → ρ → ρ → Prop
  marks_returns : ∀ {r}, returns r → (marks r).holds = false ∧ (marks r).inside = false
  marks_lock : ∀ {r r'}, lock r r' → (marks r).holds = false ∧ (marks r).inside = false ∧
    marks r' = { marks r with holds := true }
  marks_unlock : ∀ {r r'}, unlock r r' → (marks r).holds = true ∧ (marks r).inside = false ∧
    marks r' = { marks r with holds := false }
  marks_enter : ∀ {r r'}, enter r r' → (marks r).inside = false ∧
    marks r' = { marks r with inside := true }
  marks_leave : ∀ {r r'}, leave r r' → (marks r).inside = true ∧
    marks r' = { marks r with inside := false }
  marks_access : ∀ {r s t r'}, access r s t r' → marks r' = marks r
  marks_await : ∀ {c r r'}, await c r r' → marks r' = marks r

variable {σ : Type u} {ω : Type v} {ρ : Type w}

def Code.Plays (R : RoleRules σ ω ρ) : Code σ ω → ρ → Prop
  | .ret, r => R.returns r
  | .lock next, r => ∃ r', R.lock r r' ∧ next.Plays R r'
  | .unlock next, r => ∃ r', R.unlock r r' ∧ next.Plays R r'
  | .enter next, r => ∃ r', R.enter r r' ∧ next.Plays R r'
  | .leave next, r => ∃ r', R.leave r r' ∧ next.Plays R r'
  | .access f next, r => ∀ found, ∃ r',
      (∀ shared, (f shared).1 = found → R.access r shared (f shared).2 r') ∧
        R.marks r' = R.marks r ∧ (next found).Plays R r'
  | .await condition next, r => ∃ r', R.await condition r r' ∧ next.Plays R r'
  | .foreign next, r => (R.marks r).inside = true ∧ ∀ result, (next result).Plays R r
  | .outcome next, r => ∀ result, (next result).Plays R r

theorem Code.Plays.wellNested {R : RoleRules σ ω ρ} {code : Code σ ω} :
    ∀ {r : ρ}, code.Plays R r → code.WellNested (R.marks r).holds (R.marks r).inside := by
  induction code with
  | ret => exact fun h => R.marks_returns h
  | lock next ih =>
    intro r h
    obtain ⟨r', hlock, hnext⟩ := h
    obtain ⟨hfree, hout, hmarks⟩ := R.marks_lock hlock
    have hrest := ih hnext
    rw [hmarks, hout] at hrest
    exact ⟨hfree, hout, hrest⟩
  | unlock next ih =>
    intro r h
    obtain ⟨r', hunlock, hnext⟩ := h
    obtain ⟨hheld, hout, hmarks⟩ := R.marks_unlock hunlock
    have hrest := ih hnext
    rw [hmarks, hout] at hrest
    exact ⟨hheld, hout, hrest⟩
  | enter next ih =>
    intro r h
    obtain ⟨r', henter, hnext⟩ := h
    obtain ⟨hout, hmarks⟩ := R.marks_enter henter
    have hrest := ih hnext
    rw [hmarks] at hrest
    exact ⟨hout, hrest⟩
  | leave next ih =>
    intro r h
    obtain ⟨r', hleave, hnext⟩ := h
    obtain ⟨hin, hmarks⟩ := R.marks_leave hleave
    have hrest := ih hnext
    rw [hmarks] at hrest
    exact ⟨hin, hrest⟩
  | access f next ih =>
    intro r h found
    obtain ⟨r', _, hmarks, hnext⟩ := h found
    rw [← hmarks]
    exact ih found hnext
  | await condition next ih =>
    intro r h
    obtain ⟨r', hawait, hnext⟩ := h
    have hrest := ih hnext
    rw [R.marks_await hawait] at hrest
    exact hrest
  | foreign next ih => exact fun h => ⟨h.1, fun result => ih result (h.2 result)⟩
  | outcome next ih => exact fun h result => ih result (h result)

/-- The marks of a call. -/
def Frame.marks (f : Frame σ ω) : Marks := ⟨f.isCallback, f.holds, f.inside⟩

/-- The call has the role. -/
structure Frame.Has (R : RoleRules σ ω ρ) (f : Frame σ ω) (r : ρ) : Prop where
  marks : f.marks = R.marks r
  plays : f.rest.Plays R r

/-- The calls in progress have these roles. -/
def Cast (R : RoleRules σ ω ρ) (calls : Calls (Frame σ ω)) (roles : List ρ) : Prop :=
  List.Forall₂ (fun call r => call.2.Has R r) calls roles

/-- What one step can do to a role: the role after it and the shared fields after it. -/
inductive RoleStep (R : RoleRules σ ω ρ) (ready : ω → ThreadId → LockSystem σ ω → Bool)
    (s : LockSystem σ ω) (thread : ThreadId) (r : ρ) : ρ → σ → Prop
  | stays : RoleStep R ready s thread r r s.shared
  | locks {r' : ρ} : s.owner = none → R.lock r r' → RoleStep R ready s thread r r' s.shared
  | unlocks {r' : ρ} : R.unlock r r' → RoleStep R ready s thread r r' s.shared
  | enters {r' : ρ} : R.enter r r' → RoleStep R ready s thread r r' s.shared
  | leaves {r' : ρ} : R.leave r r' → RoleStep R ready s thread r r' s.shared
  | accesses {r' : ρ} {shared : σ} : R.access r s.shared shared r' →
      RoleStep R ready s thread r r' shared
  | awaits {r' : ρ} (condition : ω) : ready condition thread s = true → R.await condition r r' →
      RoleStep R ready s thread r r' s.shared

theorem Frame.Has.moves {R : RoleRules σ ω ρ} {ready : ω → ThreadId → LockSystem σ ω → Bool}
    {s : LockSystem σ ω} {thread : ThreadId} {choice : Bool} {f f' : Frame σ ω} {r : ρ}
    {shared : σ} {owner : Option ThreadId} (h : f.Has R r)
    (hmoves : s.Moves ready thread choice f shared owner f') :
    ∃ r', RoleStep R ready s thread r r' shared ∧ f'.Has R r' := by
  obtain ⟨hmarks, hplays⟩ := h
  cases hmoves with
  | arrives next hrest hwaiting => exact ⟨r, .stays, hmarks, hplays⟩
  | takes next hrest _ howner =>
    rw [hrest] at hplays
    obtain ⟨r', hlock, hnext⟩ := hplays
    refine ⟨r', .locks howner hlock, ?_, hnext⟩
    rw [(R.marks_lock hlock).2.2, ← hmarks]
    rfl
  | releases next hrest =>
    rw [hrest] at hplays
    obtain ⟨r', hunlock, hnext⟩ := hplays
    refine ⟨r', .unlocks hunlock, ?_, hnext⟩
    rw [(R.marks_unlock hunlock).2.2, ← hmarks]
    rfl
  | enters next hrest =>
    rw [hrest] at hplays
    obtain ⟨r', henter, hnext⟩ := hplays
    refine ⟨r', .enters henter, ?_, hnext⟩
    rw [(R.marks_enter henter).2, ← hmarks]
    rfl
  | leaves next hrest =>
    rw [hrest] at hplays
    obtain ⟨r', hleave, hnext⟩ := hplays
    refine ⟨r', .leaves hleave, ?_, hnext⟩
    rw [(R.marks_leave hleave).2, ← hmarks]
    rfl
  | accesses g next hrest =>
    rw [hrest] at hplays
    obtain ⟨r', haccess, _, hnext⟩ := hplays (g s.shared).1
    have hdone := haccess s.shared rfl
    refine ⟨r', .accesses hdone, ?_, hnext⟩
    rw [R.marks_access hdone, ← hmarks]
    rfl
  | awaits condition next hrest hready =>
    rw [hrest] at hplays
    obtain ⟨r', hawait, hnext⟩ := hplays
    refine ⟨r', .awaits condition hready hawait, ?_, hnext⟩
    rw [R.marks_await hawait, ← hmarks]
    rfl
  | foreign next hrest =>
    rw [hrest] at hplays
    exact ⟨r, .stays, hmarks, hplays.2 choice⟩
  | outcome next hrest =>
    rw [hrest] at hplays
    exact ⟨r, .stays, hmarks, hplays choice⟩

namespace Cast

variable {R : RoleRules σ ω ρ} {ready : ω → ThreadId → LockSystem σ ω → Bool}
  {s t : LockSystem σ ω} {thread : ThreadId} {choice : Bool} {f f' : Frame σ ω} {r r' : ρ}
  {before after calls : Calls (Frame σ ω)} {pre post roles : List ρ}

theorem append (hbefore : Cast R before pre) (hafter : Cast R after post) :
    Cast R (before ++ after) (pre ++ post) :=
  List.rel_append hbefore hafter

theorem split (h : Cast R (before ++ after) roles) :
    ∃ pre post, roles = pre ++ post ∧ Cast R before pre ∧ Cast R after post := by
  induction before generalizing roles with
  | nil => exact ⟨[], roles, rfl, .nil, h⟩
  | cons call before ih =>
    cases h with
    | cons hcall hrest =>
      obtain ⟨pre, post, rfl, hbefore, hafter⟩ := ih hrest
      exact ⟨_ :: pre, post, rfl, .cons hcall hbefore, hafter⟩

theorem exists_call (h : Cast R calls roles) (hr : r ∈ roles) :
    ∃ call ∈ calls, call.2.Has R r := by
  induction h with
  | nil => cases hr
  | cons hcall _ ih =>
    rcases List.mem_cons.mp hr with rfl | hr
    · exact ⟨_, List.mem_cons_self, hcall⟩
    · obtain ⟨call, hmem, hhas⟩ := ih hr
      exact ⟨call, List.mem_cons_of_mem _ hmem, hhas⟩

theorem exists_role (h : Cast R calls roles) {call : ThreadId × Frame σ ω} (hcall : call ∈ calls) :
    ∃ r ∈ roles, call.2.Has R r := by
  induction h with
  | nil => cases hcall
  | cons hhas _ ih =>
    rcases List.mem_cons.mp hcall with rfl | hcall
    · exact ⟨_, List.mem_cons_self, hhas⟩
    · obtain ⟨r, hr, hhas⟩ := ih hcall
      exact ⟨r, List.mem_cons_of_mem _ hr, hhas⟩

theorem countP_marks (h : Cast R calls roles) (p : Marks → Bool) :
    calls.countP (fun call => p call.2.marks) = roles.countP fun r => p (R.marks r) := by
  induction h with
  | nil => rfl
  | cons hcall _ ih => rw [List.countP_cons, List.countP_cons, ih, hcall.marks]

theorem length_threadsIn (h : Cast R calls roles) (p : Marks → Bool) :
    (calls.threadsIn fun f => p f.marks).length = roles.countP fun r => p (R.marks r) := by
  rw [Calls.threadsIn, List.length_map, ← List.countP_eq_length_filter]
  exact h.countP_marks p

/-- **One step of the role** of the innermost call of a thread: the call returns, or goes on in the
role after the step. -/
theorem advance (h : Cast R s.calls roles) (hstep : s.advance ready thread choice = some t) :
    ∃ pre r post before f after, roles = pre ++ r :: post ∧
      s.calls = before ++ (thread, f) :: after ∧ (∀ other ∈ before, other.1 ≠ thread) ∧
      f.Has R r ∧ Cast R before pre ∧ Cast R after post ∧
      (R.returns r ∧ t.shared = s.shared ∧ t.calls = before ++ after ∨
        ∃ r' f', RoleStep R ready s thread r r' t.shared ∧ f'.Has R r' ∧
          t.calls = before ++ (thread, f') :: after) := by
  obtain ⟨f, before, after, -, hcalls, hbefore, hcases⟩ := LockSystem.advance_moves hstep
  have hcast := h
  rw [hcalls] at hcast
  obtain ⟨pre, rest, rfl, hpre, hrest⟩ := hcast.split
  cases hrest with
  | @cons _ r _ post hhas hpost =>
    refine ⟨pre, r, post, before, f, after, rfl, hcalls, hbefore, hhas, hpre, hpost, ?_⟩
    rcases hcases with ⟨hret, rfl⟩ | ⟨shared, owner, f', hmoves, rfl⟩
    · have hplays := hhas.plays
      dsimp only at hplays
      rw [hret] at hplays
      exact .inl ⟨hplays, rfl, rfl⟩
    · obtain ⟨r', hrole, hhas'⟩ := hhas.moves hmoves
      exact .inr ⟨r', f', hrole, hhas', rfl⟩

/-- A call starts in a role. -/
theorem push (h : Cast R s.calls roles) {isCallback : Bool} {code : Code σ ω}
    (hmarks : R.marks r = ⟨isCallback, false, false⟩) (hplays : code.Plays R r) (shared : σ) :
    Cast R (({ s with shared := shared } : LockSystem σ ω).push thread
      (.starting isCallback code)).calls (r :: roles) :=
  .cons ⟨hmarks.symm, hplays⟩ h

end Cast

end LivekitBridge.Lib
