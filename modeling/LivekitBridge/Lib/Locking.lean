import LivekitBridge.Lib.Threads

/-!
# A mutex, a region and callbacks

Threads call the methods of an object that has one mutex.  `Code` is what is left of a call:
it locks and unlocks, reads and writes the shared fields, waits for a condition, and passes
through a region of code that belongs to a library.  Inside the region it may be in a foreign
function (`foreign`), and the library may call back then, on the same thread or on others; a
callback that locks the mutex can meet a thread that holds it and waits for the callback.

`Disciplined` holds in every run of code in which locks and regions are well nested.
What it does not exclude is the deadlock itself: that is the part of `Clear`, which an
`orderly` step keeps.
-/

namespace LivekitBridge.Lib

universe u v

/-- What is left of a call. -/
inductive Code (σ : Type u) (ω : Type v)
  | ret
  | lock (next : Code σ ω)
  | unlock (next : Code σ ω)
  /-- into the region -/
  | enter (next : Code σ ω)
  /-- out of the region -/
  | leave (next : Code σ ω)
  /-- one atomic access to the shared fields, with a branch on what it finds -/
  | access (f : σ → Bool × σ) (next : Bool → Code σ ω)
  | await (condition : ω) (next : Code σ ω)
  /-- a foreign function, which may call back on this thread -/
  | foreign (next : Bool → Code σ ω)
  /-- something that is decided outside -/
  | outcome (next : Bool → Code σ ω)

/-- A wait comes first, whatever is found and decided before it. -/
def Code.willAwait {σ : Type u} {ω : Type v} : Code σ ω → Bool
  | .await _ _ => true
  | .access _ next => (next false).willAwait && (next true).willAwait
  | .foreign next => (next false).willAwait && (next true).willAwait
  | .outcome next => (next false).willAwait && (next true).willAwait
  | _ => false

/-- The code does not go into the region. -/
def Code.StaysOut {σ : Type u} {ω : Type v} : Code σ ω → Prop
  | .ret => True
  | .lock next => next.StaysOut
  | .unlock next => next.StaysOut
  | .enter _ => False
  | .leave next => next.StaysOut
  | .access _ next => ∀ found, (next found).StaysOut
  | .await _ next => next.StaysOut
  | .foreign next => ∀ result, (next result).StaysOut
  | .outcome next => ∀ result, (next result).StaysOut

/-- Locks and regions are well nested: nothing is locked twice or inside the region, and what
runs foreign code is inside it. -/
def Code.WellNested {σ : Type u} {ω : Type v} : Code σ ω → Bool → Bool → Prop
  | .ret, holds, inside => holds = false ∧ inside = false
  | .lock next, holds, inside => holds = false ∧ inside = false ∧ next.WellNested true false
  | .unlock next, holds, inside => holds = true ∧ inside = false ∧ next.WellNested false false
  | .enter next, holds, inside => inside = false ∧ next.WellNested holds true
  | .leave next, holds, inside => inside = true ∧ next.WellNested holds false
  | .access _ next, holds, inside => ∀ found, (next found).WellNested holds inside
  | .await _ next, holds, inside => next.WellNested holds inside
  | .foreign next, holds, inside => inside = true ∧ ∀ result, (next result).WellNested holds inside
  | .outcome next, holds, inside => ∀ result, (next result).WellNested holds inside

/-- A call: whether it is a callback, whether its guard holds the mutex, whether it is in the
region, and whether it waits for the mutex. -/
structure Frame (σ : Type u) (ω : Type v) where
  isCallback : Bool
  holds : Bool
  inside : Bool
  waiting : Bool
  rest : Code σ ω

def Frame.starting {σ : Type u} {ω : Type v} (isCallback : Bool) (code : Code σ ω) : Frame σ ω :=
  ⟨isCallback, false, false, false, code⟩

/-- The call holds the mutex and is on its way to a wait in the region. -/
def Frame.goesToWait {σ : Type u} {ω : Type v} (f : Frame σ ω) : Bool :=
  f.holds && f.inside && f.rest.willAwait

/-- The call goes on, as far as the mutex is not concerned. -/
def Frame.goOn {σ : Type u} {ω : Type v} (shared : σ) (choice : Bool) (f : Frame σ ω) : Frame σ ω :=
  match f.rest with
  | .enter next => { f with inside := true, rest := next }
  | .leave next => { f with inside := false, rest := next }
  | .access g next => { f with rest := next (g shared).1 }
  | .await _ next => { f with rest := next }
  | .foreign next => { f with rest := next choice }
  | .outcome next => { f with rest := next choice }
  | _ => f

/-- The shared fields, the thread that owns the mutex, and the calls in progress. -/
structure LockSystem (σ : Type u) (ω : Type v) where
  shared : σ
  owner : Option ThreadId
  calls : Calls (Frame σ ω)

namespace LockSystem

variable {σ : Type u} {ω : Type v}

/-- A thread starts a call. -/
def push (s : LockSystem σ ω) (thread : ThreadId) (frame : Frame σ ω) : LockSystem σ ω :=
  { s with calls := (thread, frame) :: s.calls }

/-- The thread runs foreign code that may call back. -/
def inForeign (s : LockSystem σ ω) (thread : ThreadId) : Bool :=
  match s.calls.innermost thread with
  | some ⟨_, _, _, _, .foreign _⟩ => true
  | _ => false

/-- The innermost call of the thread takes its next step, if it is not blocked.  To lock is two
steps: the call comes to the mutex, and it is given the mutex. -/
def advance (ready : ω → ThreadId → LockSystem σ ω → Bool) (s : LockSystem σ ω)
    (thread : ThreadId) (choice : Bool) : Option (LockSystem σ ω) :=
  match s.calls.innermost thread with
  | none => none
  | some f =>
    match f.rest with
    | .ret => some { s with calls := s.calls.remove thread }
    | .lock next =>
      if f.waiting then
        if s.owner = none then
          some { s with
            owner := some thread
            calls := s.calls.replace thread
              { f with holds := true, waiting := false, rest := next } }
        else none
      else some { s with calls := s.calls.replace thread { f with waiting := true } }
    | .unlock next =>
      some { s with
        owner := none
        calls := s.calls.replace thread { f with holds := false, rest := next } }
    | .enter next =>
      some { s with calls := s.calls.replace thread { f with inside := true, rest := next } }
    | .leave next =>
      some { s with calls := s.calls.replace thread { f with inside := false, rest := next } }
    | .access g next =>
      some { s with
        shared := (g s.shared).2
        calls := s.calls.replace thread { f with rest := next (g s.shared).1 } }
    | .await condition next =>
      if ready condition thread s then
        some { s with calls := s.calls.replace thread { f with rest := next } }
      else none
    | .foreign next =>
      some { s with calls := s.calls.replace thread { f with rest := next choice } }
    | .outcome next =>
      some { s with calls := s.calls.replace thread { f with rest := next choice } }

/-- A call that holds the mutex is on its way to a wait in the region. -/
def waitHeld (s : LockSystem σ ω) : Bool := s.calls.any fun call => call.2.goesToWait

/-- A callback waits for the mutex. -/
def callbackWaits (s : LockSystem σ ω) : Bool :=
  s.calls.any fun call => call.2.isCallback && call.2.waiting

/-- The next step of the thread keeps callbacks that want the mutex and waits in the region apart:
no callback comes to the mutex while a call that holds it is on its way to such a wait, or on the
thread that owns it, and no call that holds it sets out for one while a callback waits. -/
def orderly (s : LockSystem σ ω) (thread : ThreadId) (choice : Bool) : Bool :=
  match s.calls.innermost thread with
  | none => true
  | some f =>
    match f.rest with
    | .lock _ => !(f.isCallback && !f.waiting && (s.waitHeld || s.owner == some thread))
    | _ => f.goesToWait || !((f.goOn s.shared choice).goesToWait && s.callbackWaits)

/-- A thread that owns the mutex waits in the region while a callback waits for the mutex. -/
def WaitCycle (s : LockSystem σ ω) : Prop :=
  ∃ thread f condition next, s.owner = some thread ∧ s.calls.innermost thread = some f ∧
    f.inside = true ∧ f.rest = .await condition next ∧
    ∃ other g, s.calls.innermost other = some g ∧ g.isCallback = true ∧ g.waiting = true

/-- A thread that owns the mutex waits for it in a callback. -/
def Relocks (s : LockSystem σ ω) : Prop :=
  ∃ thread f, s.owner = some thread ∧ s.calls.innermost thread = some f ∧
    f.isCallback = true ∧ f.waiting = true

/-- The two deadlocks. -/
def Deadlocked (s : LockSystem σ ω) : Prop := s.WaitCycle ∨ s.Relocks

variable {ready : ω → ThreadId → LockSystem σ ω → Bool} {s t : LockSystem σ ω}
  {thread : ThreadId} {choice : Bool}

/-- **What one step can do to a call** that does not return: the shared fields, the owner of the
mutex and the call after it. -/
inductive Moves (ready : ω → ThreadId → LockSystem σ ω → Bool) (s : LockSystem σ ω)
    (thread : ThreadId) (choice : Bool) (f : Frame σ ω) : σ → Option ThreadId → Frame σ ω → Prop
  | arrives (next : Code σ ω) : f.rest = .lock next → f.waiting = false →
      Moves ready s thread choice f s.shared s.owner { f with waiting := true }
  | takes (next : Code σ ω) : f.rest = .lock next → f.waiting = true → s.owner = none →
      Moves ready s thread choice f s.shared (some thread)
        { f with holds := true, waiting := false, rest := next }
  | releases (next : Code σ ω) : f.rest = .unlock next →
      Moves ready s thread choice f s.shared none { f with holds := false, rest := next }
  | enters (next : Code σ ω) : f.rest = .enter next →
      Moves ready s thread choice f s.shared s.owner { f with inside := true, rest := next }
  | leaves (next : Code σ ω) : f.rest = .leave next →
      Moves ready s thread choice f s.shared s.owner { f with inside := false, rest := next }
  | accesses (g : σ → Bool × σ) (next : Bool → Code σ ω) : f.rest = .access g next →
      Moves ready s thread choice f (g s.shared).2 s.owner { f with rest := next (g s.shared).1 }
  | awaits (condition : ω) (next : Code σ ω) : f.rest = .await condition next →
      ready condition thread s = true →
      Moves ready s thread choice f s.shared s.owner { f with rest := next }
  | foreign (next : Bool → Code σ ω) : f.rest = .foreign next →
      Moves ready s thread choice f s.shared s.owner { f with rest := next choice }
  | outcome (next : Bool → Code σ ω) : f.rest = .outcome next →
      Moves ready s thread choice f s.shared s.owner { f with rest := next choice }

/-- A step takes the innermost call of the thread, `f` between `before` and `after`, which returns
or moves. -/
theorem advance_moves (h : s.advance ready thread choice = some t) :
    ∃ f before after, s.calls.innermost thread = some f ∧
      s.calls = before ++ (thread, f) :: after ∧ (∀ other ∈ before, other.1 ≠ thread) ∧
      (f.rest = .ret ∧ t = ⟨s.shared, s.owner, before ++ after⟩ ∨
        ∃ shared owner f', Moves ready s thread choice f shared owner f' ∧
          t = ⟨shared, owner, before ++ (thread, f') :: after⟩) := by
  unfold advance at h
  cases hin : s.calls.innermost thread with
  | none =>
    rw [hin] at h
    cases h
  | some f =>
    obtain ⟨before, after, hcalls, hbefore, hreplace, hremove⟩ := Calls.exists_innermost hin
    refine ⟨f, before, after, rfl, hcalls, hbefore, ?_⟩
    rw [hin] at h
    dsimp only at h
    simp only [hreplace, hremove] at h
    cases hrest : f.rest with
    | ret =>
      rw [hrest] at h
      exact .inl ⟨rfl, (Option.some.inj h).symm⟩
    | lock next =>
      rw [hrest] at h
      dsimp only at h
      split at h
      · rename_i hwaiting
        split at h
        · rename_i howner
          exact .inr ⟨_, _, _, .takes next hrest hwaiting howner, (Option.some.inj h).symm⟩
        · cases h
      · rename_i hwaiting
        rw [← hrest] at h
        exact .inr ⟨_, _, _, .arrives next hrest (by simpa using hwaiting),
          (Option.some.inj h).symm⟩
    | unlock next =>
      rw [hrest] at h
      exact .inr ⟨_, _, _, .releases next hrest, (Option.some.inj h).symm⟩
    | enter next =>
      rw [hrest] at h
      exact .inr ⟨_, _, _, .enters next hrest, (Option.some.inj h).symm⟩
    | leave next =>
      rw [hrest] at h
      exact .inr ⟨_, _, _, .leaves next hrest, (Option.some.inj h).symm⟩
    | access g next =>
      rw [hrest] at h
      exact .inr ⟨_, _, _, .accesses g next hrest, (Option.some.inj h).symm⟩
    | await condition next =>
      rw [hrest] at h
      dsimp only at h
      split at h
      · rename_i hready
        exact .inr ⟨_, _, _, .awaits condition next hrest hready, (Option.some.inj h).symm⟩
      · cases h
    | foreign next =>
      rw [hrest] at h
      exact .inr ⟨_, _, _, .foreign next hrest, (Option.some.inj h).symm⟩
    | outcome next =>
      rw [hrest] at h
      exact .inr ⟨_, _, _, .outcome next hrest, (Option.some.inj h).symm⟩

/-- How a call goes on without the mutex: in or out of the region, or neither. -/
structure GoesOn (f : Frame σ ω) (inside : Bool) (rest : Code σ ω) : Prop where
  wellNested : ∀ holds, f.rest.WellNested holds f.inside → rest.WellNested holds inside
  notLock : ∀ next, f.rest ≠ .lock next
  enters : inside = true → f.inside = true ∨ ∃ next, f.rest = .enter next

theorem GoesOn.of_next {f : Frame σ ω} {rest : Code σ ω}
    (hwell : ∀ holds, f.rest.WellNested holds f.inside → rest.WellNested holds f.inside)
    (hnot : ∀ next, f.rest ≠ .lock next) : GoesOn f f.inside rest :=
  ⟨hwell, hnot, .inl⟩

/-- What one step can do to the mutex: return, come to it, take it, release it, or go on without
it.  `f` is the innermost call of the thread, and stands between `before` and `after`. -/
inductive StepOf (s : LockSystem σ ω) (thread : ThreadId) (f : Frame σ ω)
    (before after : Calls (Frame σ ω)) : LockSystem σ ω → Prop
  | returns : f.rest = .ret → StepOf s thread f before after ⟨s.shared, s.owner, before ++ after⟩
  | arrives (next : Code σ ω) : f.rest = .lock next → f.waiting = false →
      StepOf s thread f before after
        ⟨s.shared, s.owner, before ++ (thread, { f with waiting := true }) :: after⟩
  | takes (next : Code σ ω) : f.rest = .lock next → s.owner = none →
      StepOf s thread f before after
        ⟨s.shared, some thread,
          before ++ (thread, { f with holds := true, waiting := false, rest := next }) :: after⟩
  | releases (next : Code σ ω) : f.rest = .unlock next →
      StepOf s thread f before after
        ⟨s.shared, none, before ++ (thread, { f with holds := false, rest := next }) :: after⟩
  | goesOn (shared : σ) (inside : Bool) (rest : Code σ ω) : GoesOn f inside rest →
      StepOf s thread f before after
        ⟨shared, s.owner, before ++ (thread, { f with inside := inside, rest := rest }) :: after⟩

theorem advance_cases (h : s.advance ready thread choice = some t) :
    ∃ f before after, s.calls.innermost thread = some f ∧
      s.calls = before ++ (thread, f) :: after ∧ (∀ other ∈ before, other.1 ≠ thread) ∧
      StepOf s thread f before after t := by
  obtain ⟨f, before, after, hin, hcalls, hbefore, hcases⟩ := advance_moves h
  refine ⟨f, before, after, hin, hcalls, hbefore, ?_⟩
  rcases hcases with ⟨hret, rfl⟩ | ⟨shared, owner, f', hmoves, rfl⟩
  · exact .returns hret
  · cases hmoves with
    | arrives next hrest hwaiting => exact .arrives next hrest hwaiting
    | takes next hrest _ howner => exact .takes next hrest howner
    | releases next hrest => exact .releases next hrest
    | enters next hrest =>
      refine .goesOn s.shared true next ⟨?_, by simp [hrest], fun _ => .inr ⟨next, hrest⟩⟩
      rw [hrest]
      exact fun _ hwell => hwell.2
    | leaves next hrest =>
      refine .goesOn s.shared false next ⟨?_, by simp [hrest], by simp⟩
      rw [hrest]
      exact fun _ hwell => hwell.2
    | accesses g next hrest =>
      refine .goesOn _ f.inside _ (.of_next ?_ (by simp [hrest]))
      rw [hrest]
      exact fun _ hwell => hwell _
    | awaits condition next hrest _ =>
      refine .goesOn s.shared f.inside next (.of_next ?_ (by simp [hrest]))
      rw [hrest]
      exact fun _ hwell => hwell
    | foreign next hrest =>
      refine .goesOn s.shared f.inside (next choice) (.of_next ?_ (by simp [hrest]))
      rw [hrest]
      exact fun _ hwell => hwell.2 choice
    | outcome next hrest =>
      refine .goesOn s.shared f.inside (next choice) (.of_next ?_ (by simp [hrest]))
      rw [hrest]
      exact fun _ hwell => hwell choice

/-! ### What every run keeps -/

/-- The mutex is owned by the thread of the call that holds it, and a call made from inside
another one is made from inside its region. -/
structure Disciplined (s : LockSystem σ ω) : Prop where
  held : s.calls.threadsIn Frame.holds = s.owner.toList
  wellNested : ∀ call ∈ s.calls, call.2.rest.WellNested call.2.holds call.2.inside
  waits : ∀ call ∈ s.calls, call.2.waiting = true → ∃ next, call.2.rest = .lock next
  nested : s.calls.Pairwise fun above below => above.1 = below.1 → below.2.inside = true

section Step

variable {shared shared' : σ} {owner owner' : Option ThreadId} {f f' : Frame σ ω}
  {before after : Calls (Frame σ ω)}

/-- The innermost call of a thread goes on; who holds the mutex then is left to show. -/
theorem Disciplined.replace
    (h : Disciplined ⟨shared, owner, before ++ (thread, f) :: after⟩)
    (hbefore : ∀ other ∈ before, other.1 ≠ thread)
    (hwell : f'.rest.WellNested f'.holds f'.inside)
    (hwaits : f'.waiting = true → ∃ next, f'.rest = .lock next)
    (hheld : Calls.threadsIn Frame.holds (before ++ (thread, f') :: after) = owner'.toList) :
    Disciplined ⟨shared', owner', before ++ (thread, f') :: after⟩ := by
  have hmem : ∀ call ∈ before ++ (thread, f') :: after,
      call = (thread, f') ∨ call ∈ before ++ (thread, f) :: after := by
    intro call hcall
    simp only [List.mem_append, List.mem_cons] at hcall ⊢
    tauto
  refine ⟨hheld, ?_, ?_, ?_⟩
  · intro call hcall
    rcases hmem call hcall with rfl | hcall
    · exact hwell
    · exact h.wellNested call hcall
  · intro call hcall
    rcases hmem call hcall with rfl | hcall
    · exact hwaits
    · exact h.waits call hcall
  · have hnested := h.nested
    rw [List.pairwise_append, List.pairwise_cons] at hnested ⊢
    obtain ⟨hpre, ⟨hf, hpost⟩, hcross⟩ := hnested
    refine ⟨hpre, ⟨hf, hpost⟩, ?_⟩
    intro above habove below hbelow hsame
    rcases List.mem_cons.mp hbelow with rfl | hbelow
    · exact absurd hsame (hbefore above habove)
    · exact hcross above habove below (List.mem_cons_of_mem _ hbelow) hsame

/-- A call that neither takes nor releases the mutex. -/
theorem threadsIn_replace (f f' : Frame σ ω) (hholds : f'.holds = f.holds) :
    Calls.threadsIn Frame.holds (before ++ (thread, f') :: after) =
      Calls.threadsIn Frame.holds (before ++ (thread, f) :: after) := by
  rw [Calls.threadsIn_append, Calls.threadsIn_append, Calls.threadsIn_cons, Calls.threadsIn_cons,
    hholds]

/-- Of the calls in progress one at most holds the mutex. -/
theorem Disciplined.others_free
    (h : Disciplined ⟨shared, owner, before ++ (thread, f) :: after⟩)
    (hholds : f.holds = true ∨ owner = none) :
    Calls.threadsIn Frame.holds before = [] ∧ Calls.threadsIn Frame.holds after = [] := by
  have hheld := h.held
  dsimp only at hheld
  rw [Calls.threadsIn_append, Calls.threadsIn_cons] at hheld
  rcases hholds with hf | howner
  · have hlength := congrArg List.length hheld
    have hone : owner.toList.length ≤ 1 := by
      cases owner <;> simp
    rw [if_pos hf, List.length_append, List.length_cons] at hlength
    rw [← List.length_eq_zero_iff, ← List.length_eq_zero_iff]
    omega
  · rw [howner, Option.toList_none, List.append_eq_nil_iff] at hheld
    refine ⟨hheld.1, ?_⟩
    have hafter := hheld.2
    split at hafter
    · cases hafter
    · exact hafter

/-- **Every step keeps the discipline.** -/
theorem Disciplined.advance (h : Disciplined s) (hstep : s.advance ready thread choice = some t) :
    Disciplined t := by
  obtain ⟨f, before, after, -, hcalls, hbefore, hcases⟩ := advance_cases hstep
  obtain ⟨shared, owner, calls⟩ := s
  dsimp only at hcalls
  subst hcalls
  have hwell := h.wellNested (thread, f) (by simp)
  cases hcases with
  | returns hrest =>
    rw [hrest] at hwell
    have hsub : (before ++ after).Sublist (before ++ (thread, f) :: after) :=
      (List.sublist_cons_self _ _).append_left before
    refine ⟨?_, fun call hcall => h.wellNested call (hsub.subset hcall),
      fun call hcall => h.waits call (hsub.subset hcall), h.nested.sublist hsub⟩
    have hheld := h.held
    dsimp only at hheld ⊢
    rw [Calls.threadsIn_append, Calls.threadsIn_cons, hwell.1, if_neg Bool.false_ne_true] at hheld
    rw [Calls.threadsIn_append, hheld]
  | arrives next hrest _ =>
    refine h.replace hbefore hwell (fun _ => ⟨next, hrest⟩) ?_
    exact (threadsIn_replace f { f with waiting := true } rfl).trans h.held
  | takes next hrest howner =>
    obtain ⟨hpre, hpost⟩ := h.others_free (.inr howner)
    rw [hrest] at hwell
    have hout : f.inside = false := hwell.2.1
    refine h.replace hbefore ?_ (by simp) ?_
    · dsimp only
      rw [hout]
      exact hwell.2.2
    · rw [Calls.threadsIn_append, Calls.threadsIn_cons, hpre, hpost]
      rfl
  | releases next hrest =>
    rw [hrest] at hwell
    have hout : f.inside = false := hwell.2.1
    obtain ⟨hpre, hpost⟩ := h.others_free (.inl hwell.1)
    refine h.replace hbefore ?_ ?_ ?_
    · dsimp only
      rw [hout]
      exact hwell.2.2
    · intro hwaiting
      obtain ⟨next', hnext'⟩ := h.waits (thread, f) (by simp) hwaiting
      rw [hrest] at hnext'
      cases hnext'
    · rw [Calls.threadsIn_append, Calls.threadsIn_cons, hpre, hpost]
      rfl
  | goesOn shared' inside rest hgoes =>
    refine h.replace hbefore (hgoes.wellNested _ hwell) ?_ ?_
    · intro hwaiting
      obtain ⟨next', hnext'⟩ := h.waits (thread, f) (by simp) hwaiting
      exact absurd hnext' (hgoes.notLock next')
    · exact (threadsIn_replace f { f with inside := inside, rest := rest } rfl).trans h.held

theorem Disciplined.push (h : Disciplined s) {isCallback : Bool} {code : Code σ ω}
    (hcode : code.WellNested false false)
    (hfree : s.calls.innermost thread = none ∨ s.inForeign thread = true) (shared' : σ) :
    Disciplined (({ s with shared := shared' } : LockSystem σ ω).push thread
      (.starting isCallback code)) := by
  refine ⟨?_, ?_, ?_, ?_⟩
  · exact (Calls.threadsIn_cons thread _ s.calls).trans h.held
  · intro call hcall
    rcases List.mem_cons.mp hcall with rfl | hcall
    · exact hcode
    · exact h.wellNested call hcall
  · intro call hcall
    rcases List.mem_cons.mp hcall with rfl | hcall
    · intro hwaiting
      cases hwaiting
    · exact h.waits call hcall
  · refine List.pairwise_cons.mpr ⟨?_, h.nested⟩
    intro call hcall hsame
    rcases hfree with hnone | hforeign
    · rw [Calls.innermost, Option.map_eq_none_iff, List.find?_eq_none] at hnone
      exact absurd hsame.symm (by simpa using hnone call hcall)
    · unfold inForeign at hforeign
      split at hforeign
      · rename_i isCallback' holds inside waiting next hin
        obtain ⟨before, after, hcalls, hbefore, -⟩ := Calls.exists_innermost hin
        have hwell := h.wellNested (thread, _) (hcalls ▸ List.mem_append_right before
          List.mem_cons_self)
        have hnested := h.nested
        rw [hcalls, List.pairwise_append, List.pairwise_cons] at hnested
        rw [hcalls] at hcall
        rcases List.mem_append.mp hcall with hcall | hcall
        · exact absurd hsame.symm (hbefore call hcall)
        · rcases List.mem_cons.mp hcall with rfl | hcall
          · exact hwell.1
          · exact hnested.2.1.1 call hcall hsame
      · cases hforeign

end Step

/-! ### Callbacks are nested -/

section Nests

variable {f : Frame σ ω} {before after : Calls (Frame σ ω)}

/-- A call made from inside another one is a callback. -/
def NestsCallbacks (s : LockSystem σ ω) : Prop :=
  s.calls.Pairwise fun above below => above.1 = below.1 → above.2.isCallback = true

theorem NestsCallbacks.replace {shared shared' : σ} {owner owner' : Option ThreadId}
    {f' : Frame σ ω} (h : NestsCallbacks ⟨shared, owner, before ++ (thread, f) :: after⟩)
    (hsame : f'.isCallback = f.isCallback) :
    NestsCallbacks ⟨shared', owner', before ++ (thread, f') :: after⟩ := by
  unfold NestsCallbacks at h ⊢
  rw [List.pairwise_append, List.pairwise_cons] at h ⊢
  obtain ⟨hpre, ⟨hf, hpost⟩, hcross⟩ := h
  refine ⟨hpre, ⟨fun below hbelow hthread => ?_, hpost⟩, ?_⟩
  · exact hsame.trans (hf below hbelow hthread)
  · intro above habove below hbelow hthread
    rcases List.mem_cons.mp hbelow with rfl | hbelow
    · exact hcross above habove (thread, f) List.mem_cons_self hthread
    · exact hcross above habove below (List.mem_cons_of_mem _ hbelow) hthread

theorem NestsCallbacks.advance (h : NestsCallbacks s)
    (hstep : s.advance ready thread choice = some t) : NestsCallbacks t := by
  obtain ⟨f, before, after, -, hcalls, -, hcases⟩ := advance_cases hstep
  obtain ⟨shared, owner, calls⟩ := s
  dsimp only at hcalls
  subst hcalls
  cases hcases with
  | returns => exact List.Pairwise.sublist ((List.sublist_cons_self _ _).append_left before) h
  | arrives next => exact h.replace rfl
  | takes next => exact h.replace rfl
  | releases next => exact h.replace rfl
  | goesOn shared inside rest => exact h.replace rfl

theorem NestsCallbacks.push (h : NestsCallbacks s) {isCallback : Bool} {code : Code σ ω}
    (hfree : s.calls.innermost thread = none ∨ isCallback = true) (shared' : σ) :
    NestsCallbacks (({ s with shared := shared' } : LockSystem σ ω).push thread
      (.starting isCallback code)) := by
  refine List.pairwise_cons.mpr ⟨fun below hbelow hthread => ?_, h⟩
  rcases hfree with hnone | hcallback
  · rw [Calls.innermost, Option.map_eq_none_iff, List.find?_eq_none] at hnone
    exact absurd hthread.symm (by simpa using hnone below hbelow)
  · exact hcallback

end Nests

/-! ### What an orderly step keeps -/

section Orderly

variable {shared shared' : σ} {owner owner' : Option ThreadId} {f f' : Frame σ ω}
  {before after : Calls (Frame σ ω)}

theorem waitHeld_iff : s.waitHeld = true ↔ ∃ call ∈ s.calls, call.2.goesToWait = true := by
  simp only [waitHeld, List.any_eq_true]

theorem callbackWaits_iff :
    s.callbackWaits = true ↔ ∃ call ∈ s.calls, call.2.isCallback = true ∧ call.2.waiting = true := by
  simp only [callbackWaits, List.any_eq_true, Bool.and_eq_true]

/-- Callbacks stay out of the region; none waits for the mutex while a call that holds it is on its
way to a wait there, and none on the thread that owns it. -/
structure Clear (s : LockSystem σ ω) : Prop where
  nested : s.NestsCallbacks
  outside : ∀ call ∈ s.calls, call.2.isCallback = true →
    call.2.inside = false ∧ call.2.rest.StaysOut
  apart : s.waitHeld = true → s.callbackWaits = false
  elsewhere : ∀ call ∈ s.calls, call.2.isCallback = true → call.2.waiting = true →
    s.owner ≠ some call.1

/-- One call changes: what it had is all that can be new. -/
theorem exists_replace (f f' : Frame σ ω) {P : Frame σ ω → Prop} (hP : P f' → P f)
    (h : ∃ call ∈ before ++ (thread, f') :: after, P call.2) :
    ∃ call ∈ before ++ (thread, f) :: after, P call.2 := by
  obtain ⟨call, hcall, hcallP⟩ := h
  rcases List.mem_append.mp hcall with hcall | hcall
  · exact ⟨call, List.mem_append_left _ hcall, hcallP⟩
  · rcases List.mem_cons.mp hcall with rfl | hcall
    · exact ⟨(thread, f), List.mem_append_right _ List.mem_cons_self, hP hcallP⟩
    · exact ⟨call, List.mem_append_right _ (List.mem_cons_of_mem _ hcall), hcallP⟩

/-- If no call sets out for a wait, and no callback comes to the mutex, they stay apart. -/
theorem apart_mono (h : s.waitHeld = true → s.callbackWaits = false)
    (hwait : t.waitHeld = true → s.waitHeld = true)
    (hwaits : t.callbackWaits = true → s.callbackWaits = true) :
    t.waitHeld = true → t.callbackWaits = false := by
  intro hheld
  have hnone := h (hwait hheld)
  by_contra hsome
  rw [Bool.not_eq_false] at hsome
  rw [hwaits hsome] at hnone
  cases hnone

/-- How the mutex is passed by a step of the call `f`. -/
theorem Moves.cases_mutex (h : Moves ready s thread choice f shared owner f') :
    (f.waiting = false ∧ (∃ next, f.rest = .lock next) ∧ owner = s.owner ∧
      f' = { f with waiting := true }) ∨
    (∃ next, f.rest = .lock next ∧ owner = some thread ∧
      f' = { f with holds := true, waiting := false, rest := next }) ∨
    (∃ next, f.rest = .unlock next ∧ owner = none ∧ f' = { f with holds := false, rest := next }) ∨
    ((∀ next, f.rest ≠ .lock next) ∧ owner = s.owner ∧ f' = f.goOn s.shared choice) := by
  cases h with
  | arrives next hrest hwaiting => exact .inl ⟨hwaiting, ⟨next, hrest⟩, rfl, rfl⟩
  | takes next hrest _ _ => exact .inr (.inl ⟨next, hrest, rfl, rfl⟩)
  | releases next hrest => exact .inr (.inr (.inl ⟨next, hrest, rfl, rfl⟩))
  | enters next hrest =>
    exact .inr (.inr (.inr ⟨by simp [hrest], rfl, by simp [Frame.goOn, hrest]⟩))
  | leaves next hrest =>
    exact .inr (.inr (.inr ⟨by simp [hrest], rfl, by simp [Frame.goOn, hrest]⟩))
  | accesses g next hrest =>
    exact .inr (.inr (.inr ⟨by simp [hrest], rfl, by simp [Frame.goOn, hrest]⟩))
  | awaits condition next hrest _ =>
    exact .inr (.inr (.inr ⟨by simp [hrest], rfl, by simp [Frame.goOn, hrest]⟩))
  | foreign next hrest =>
    exact .inr (.inr (.inr ⟨by simp [hrest], rfl, by simp [Frame.goOn, hrest]⟩))
  | outcome next hrest =>
    exact .inr (.inr (.inr ⟨by simp [hrest], rfl, by simp [Frame.goOn, hrest]⟩))

/-- What a call keeps as it goes on. -/
theorem goOn_keeps (f : Frame σ ω) (shared : σ) (choice : Bool) :
    (f.goOn shared choice).isCallback = f.isCallback ∧
      (f.goOn shared choice).waiting = f.waiting ∧
      (f.rest.StaysOut → f.inside = false →
        (f.goOn shared choice).inside = false ∧ (f.goOn shared choice).rest.StaysOut) := by
  unfold Frame.goOn
  split
  · rename_i next hrest
    rw [hrest]
    exact ⟨rfl, rfl, fun h => h.elim⟩
  · rename_i next hrest
    rw [hrest]
    exact ⟨rfl, rfl, fun h _ => ⟨rfl, h⟩⟩
  · rename_i g next hrest
    rw [hrest]
    exact ⟨rfl, rfl, fun h hout => ⟨hout, h _⟩⟩
  · rename_i next hrest
    rw [hrest]
    exact ⟨rfl, rfl, fun h hout => ⟨hout, h⟩⟩
  · rename_i next hrest
    rw [hrest]
    exact ⟨rfl, rfl, fun h hout => ⟨hout, h choice⟩⟩
  · rename_i next hrest
    rw [hrest]
    exact ⟨rfl, rfl, fun h hout => ⟨hout, h choice⟩⟩
  · exact ⟨rfl, rfl, fun h hout => ⟨hout, h⟩⟩

/-- The innermost call of a thread goes on; whether it is apart from the others is left to show. -/
theorem Clear.replace (h : Clear ⟨shared, owner, before ++ (thread, f) :: after⟩)
    (hsame : f'.isCallback = f.isCallback)
    (houtside : f.isCallback = true → f'.inside = false ∧ f'.rest.StaysOut)
    (hapart : waitHeld (⟨shared', owner', before ++ (thread, f') :: after⟩ : LockSystem σ ω) = true →
      callbackWaits (⟨shared', owner', before ++ (thread, f') :: after⟩ : LockSystem σ ω) = false)
    (hown : f.isCallback = true → f'.waiting = true → owner' ≠ some thread)
    (hothers : ∀ call ∈ before ++ after, call.2.isCallback = true → call.2.waiting = true →
      owner' ≠ some call.1) :
    Clear (⟨shared', owner', before ++ (thread, f') :: after⟩ : LockSystem σ ω) := by
  have hmem : ∀ call ∈ before ++ (thread, f') :: after,
      call = (thread, f') ∨ call ∈ before ++ after := by
    intro call hcall
    simp only [List.mem_append, List.mem_cons] at hcall ⊢
    tauto
  have hkept : ∀ call ∈ before ++ after, call ∈ before ++ (thread, f) :: after := by
    intro call hcall
    simp only [List.mem_append, List.mem_cons] at hcall ⊢
    tauto
  refine ⟨h.nested.replace hsame, ?_, hapart, ?_⟩
  · intro call hcall hcallback
    rcases hmem call hcall with rfl | hcall
    · exact houtside (hsame.symm.trans hcallback)
    · exact h.outside call (hkept call hcall) hcallback
  · intro call hcall hcallback hwaiting
    rcases hmem call hcall with rfl | hcall
    · exact hown (hsame.symm.trans hcallback) hwaiting
    · exact hothers call hcall hcallback hwaiting

/-- **An orderly step keeps the mutex clear.** -/
theorem Clear.advance (h : Clear s) (hd : Disciplined s) (horderly : s.orderly thread choice = true)
    (hstep : s.advance ready thread choice = some t) : Clear t := by
  have hnested := h.nested.advance hstep
  obtain ⟨f, before, after, hin, hcalls, hbefore, hcases⟩ := advance_moves hstep
  unfold orderly at horderly
  rw [hin] at horderly
  dsimp only at horderly
  have hwell := hd.wellNested (thread, f) (by rw [hcalls]; simp)
  obtain ⟨oldShared, oldOwner, calls⟩ := s
  dsimp only at hcalls
  subst hcalls
  have hthread : (thread, f) ∈ before ++ (thread, f) :: after := by simp
  have hkept : ∀ call ∈ before ++ after, call ∈ before ++ (thread, f) :: after := by
    intro call hcall
    simp only [List.mem_append, List.mem_cons] at hcall ⊢
    tauto
  rcases hcases with ⟨-, rfl⟩ | ⟨shared, owner, f', hmoves, rfl⟩
  · -- the call returns
    refine ⟨hnested, fun call hcall => h.outside call (hkept call hcall), apart_mono h.apart ?_ ?_,
      fun call hcall => h.elsewhere call (hkept call hcall)⟩
    · rw [waitHeld_iff, waitHeld_iff]
      rintro ⟨call, hcall, hgoes⟩
      exact ⟨call, hkept call hcall, hgoes⟩
    · rw [callbackWaits_iff, callbackWaits_iff]
      rintro ⟨call, hcall, hboth⟩
      exact ⟨call, hkept call hcall, hboth⟩
  · have hwaitHeld : (f'.goesToWait = true → f.goesToWait = true) →
        waitHeld (⟨shared, owner, before ++ (thread, f') :: after⟩ : LockSystem σ ω) = true →
          waitHeld ⟨oldShared, oldOwner, before ++ (thread, f) :: after⟩ = true := by
      intro hgoes
      rw [waitHeld_iff, waitHeld_iff]
      exact exists_replace f f' (P := fun frame => frame.goesToWait = true) hgoes
    have hcallbackWaits :
        (f'.isCallback = true ∧ f'.waiting = true → f.isCallback = true ∧ f.waiting = true) →
        callbackWaits (⟨shared, owner, before ++ (thread, f') :: after⟩ : LockSystem σ ω) = true →
          callbackWaits ⟨oldShared, oldOwner, before ++ (thread, f) :: after⟩ = true := by
      intro hwaits
      rw [callbackWaits_iff, callbackWaits_iff]
      exact exists_replace f f' (P := fun frame => frame.isCallback = true ∧ frame.waiting = true)
        hwaits
    rcases hmoves.cases_mutex with ⟨hwaiting, ⟨next, hrest⟩, rfl, rfl⟩ | ⟨next, hrest, rfl, rfl⟩ |
      ⟨next, hrest, rfl, rfl⟩ | ⟨hnotLock, rfl, rfl⟩
    · -- a callback comes to the mutex, if nothing stands against it
      rw [hrest] at horderly
      have hfree : f.isCallback = true →
          waitHeld ⟨oldShared, owner, before ++ (thread, f) :: after⟩ = false ∧
            owner ≠ some thread := by
        intro hcallback
        simpa [hcallback, hwaiting] using horderly
      refine h.replace rfl (h.outside _ hthread) ?_ (fun hcallback _ => (hfree hcallback).2)
        fun call hcall => h.elsewhere call (hkept call hcall)
      intro hheld
      have hold := hwaitHeld id hheld
      by_contra hsome
      rw [Bool.not_eq_false] at hsome
      by_cases hcallback : f.isCallback = true
      · rw [(hfree hcallback).1] at hold
        cases hold
      · have hnone := h.apart hold
        rw [hcallbackWaits (fun hboth => absurd hboth.1 hcallback) hsome] at hnone
        cases hnone
    · -- the mutex is taken outside the region
      rw [hrest] at hwell
      have hout : f.inside = false := hwell.2.1
      refine h.replace rfl ?_ (apart_mono h.apart (hwaitHeld ?_) (hcallbackWaits fun hboth => ?_))
        (fun _ hwaiting => by cases hwaiting) ?_
      · intro hcallback
        have houtside := (h.outside _ hthread hcallback).2
        dsimp only at houtside
        rw [hrest] at houtside
        exact ⟨hout, houtside⟩
      · intro hgoes
        simp [Frame.goesToWait, hout] at hgoes
      · cases hboth.2
      · intro call hcall hcallback hwaiting hsame
        obtain hsame := Option.some.inj hsame
        rcases List.mem_append.mp hcall with hcall' | hcall'
        · exact hbefore call hcall' hsame.symm
        · -- a call further down is in foreign code
          have hpair := hd.nested
          rw [List.pairwise_append, List.pairwise_cons] at hpair
          have hinside := hpair.2.1.1 call hcall' hsame
          rw [(h.outside call (hkept call hcall) hcallback).1] at hinside
          cases hinside
    · -- the mutex is free
      refine h.replace rfl ?_ (apart_mono h.apart (hwaitHeld ?_) (hcallbackWaits id))
        (fun _ _ => by simp) (fun _ _ _ _ => by simp)
      · intro hcallback
        have houtside := h.outside _ hthread hcallback
        dsimp only at houtside
        rw [hrest] at houtside
        exact houtside
      · intro hgoes
        simp [Frame.goesToWait] at hgoes
    · obtain ⟨hcallback, hwaiting, hstays⟩ := goOn_keeps f oldShared choice
      have hwaits := hcallbackWaits fun hboth => by rwa [hcallback, hwaiting] at hboth
      refine h.replace hcallback ?_ ?_ ?_ fun call hcall => h.elsewhere call (hkept call hcall)
      · intro his
        obtain ⟨hout, hrest⟩ := h.outside _ hthread his
        exact hstays hrest hout
      · -- a call sets out for a wait only while no callback waits
        have hgoes : f.goesToWait = true ∨ (f.goOn oldShared choice).goesToWait = false ∨
            callbackWaits ⟨oldShared, owner, before ++ (thread, f) :: after⟩ = false := by
          split at horderly
          · rename_i next hrest
            exact absurd hrest (hnotLock next)
          · simpa [Bool.or_eq_true, Bool.and_eq_false_iff] using horderly
        rcases hgoes with hgoes | hgoes | hnone
        · exact apart_mono h.apart (hwaitHeld fun _ => hgoes) hwaits
        · exact apart_mono h.apart (hwaitHeld fun hnew => by rw [hgoes] at hnew; cases hnew) hwaits
        · intro _
          by_contra hsome
          rw [Bool.not_eq_false] at hsome
          rw [hwaits hsome] at hnone
          cases hnone
      · intro his hnew
        exact h.elsewhere _ hthread his (hwaiting.symm.trans hnew)

/-- A call that starts neither holds nor waits. -/
theorem Clear.push (h : Clear s) {isCallback : Bool} {code : Code σ ω}
    (hfree : s.calls.innermost thread = none ∨ isCallback = true)
    (hcode : isCallback = true → code.StaysOut) (shared' : σ) :
    Clear (({ s with shared := shared' } : LockSystem σ ω).push thread
      (.starting isCallback code)) := by
  refine ⟨h.nested.push hfree shared', ?_, apart_mono h.apart ?_ ?_, ?_⟩
  · intro call hcall hcallback
    rcases List.mem_cons.mp hcall with rfl | hcall
    · exact ⟨rfl, hcode hcallback⟩
    · exact h.outside call hcall hcallback
  · rw [waitHeld_iff, waitHeld_iff]
    rintro ⟨call, hcall, hgoes⟩
    rcases List.mem_cons.mp hcall with rfl | hcall
    · cases hgoes
    · exact ⟨call, hcall, hgoes⟩
  · rw [callbackWaits_iff, callbackWaits_iff]
    rintro ⟨call, hcall, hboth⟩
    rcases List.mem_cons.mp hcall with rfl | hcall
    · cases hboth.2
    · exact ⟨call, hcall, hboth⟩
  · intro call hcall hcallback hwaiting
    rcases List.mem_cons.mp hcall with rfl | hcall
    · cases hwaiting
    · exact h.elsewhere call hcall hcallback hwaiting

/-- The innermost call of the owner of the mutex holds it, or is a callback. -/
theorem Disciplined.holder (h : Disciplined s) (hnests : s.NestsCallbacks)
    (howner : s.owner = some thread) (hin : s.calls.innermost thread = some f) :
    f.holds = true ∨ f.isCallback = true := by
  have hthread : thread ∈ s.calls.threadsIn Frame.holds := by
    rw [h.held, howner]
    exact List.mem_singleton_self thread
  obtain ⟨call, hcall, hsame, hholds⟩ := Calls.mem_threadsIn.mp hthread
  obtain ⟨before, after, hcalls, hbefore, -⟩ := Calls.exists_innermost hin
  rw [hcalls] at hcall
  rcases List.mem_append.mp hcall with hcall | hcall
  · exact absurd hsame (hbefore call hcall)
  · rcases List.mem_cons.mp hcall with rfl | hcall
    · exact .inl hholds
    · unfold NestsCallbacks at hnests
      rw [hcalls, List.pairwise_append, List.pairwise_cons] at hnests
      exact .inr (hnests.2.1.1 call hcall hsame.symm)

theorem innermost_mem (h : s.calls.innermost thread = some f) : (thread, f) ∈ s.calls := by
  obtain ⟨before, after, hcalls, -⟩ := Calls.exists_innermost h
  rw [hcalls]
  exact List.mem_append_right _ List.mem_cons_self

/-- **A clear mutex is not in a deadlock.** -/
theorem Clear.not_deadlocked (h : Clear s) (hd : Disciplined s) : ¬ Deadlocked s := by
  rintro (⟨thread, f, condition, next, howner, hin, hinside, hrest, other, g, hother, hcallback,
    hwaiting⟩ | ⟨thread, f, howner, hin, hcallback, hwaiting⟩)
  · have hsome : s.callbackWaits = true :=
      callbackWaits_iff.mpr ⟨(other, g), innermost_mem hother, hcallback, hwaiting⟩
    have hheld : s.waitHeld = true := by
      rcases hd.holder h.nested howner hin with hholds | his
      · refine waitHeld_iff.mpr ⟨(thread, f), innermost_mem hin, ?_⟩
        simp [Frame.goesToWait, hholds, hinside, hrest, Code.willAwait]
      · rw [(h.outside _ (innermost_mem hin) his).1] at hinside
        cases hinside
    rw [h.apart hheld] at hsome
    cases hsome
  · exact h.elsewhere _ (innermost_mem hin) hcallback hwaiting howner

end Orderly

end LockSystem

end LivekitBridge.Lib
