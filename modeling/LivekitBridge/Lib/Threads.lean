import Mathlib.Data.List.Basic

/-!
# Calls in progress

A system whose methods are called from many threads is in a state of its own and in
the middle of some calls.  `Calls φ` are these calls, each where it is (`φ`) and on the
thread it runs on; a call made from inside another one of the same thread comes before
it, and `innermost` is the call of a thread that can go on.
-/

namespace LivekitBridge.Lib

universe u

/-- A `std::thread::id`. -/
abbrev ThreadId := Nat

/-- The calls in progress; of the calls of one thread the innermost comes first. -/
abbrev Calls (φ : Type u) := List (ThreadId × φ)

namespace Calls

variable {φ : Type u}

/-- The call of the thread that can go on. -/
def innermost (calls : Calls φ) (thread : ThreadId) : Option φ :=
  (calls.find? fun call => call.1 == thread).map Prod.snd

/-- The threads whose calls satisfy `p`, one for each such call. -/
def threadsIn (p : φ → Bool) (calls : Calls φ) : List ThreadId :=
  (calls.filter fun call => p call.2).map Prod.fst

/-- The innermost call of the thread goes on as `call`. -/
def replace (thread : ThreadId) (call : φ) : Calls φ → Calls φ
  | [] => []
  | (t, c) :: calls => if t = thread then (t, call) :: calls else (t, c) :: replace thread call calls

/-- The innermost call of the thread returns. -/
def remove (thread : ThreadId) : Calls φ → Calls φ
  | [] => []
  | (t, c) :: calls => if t = thread then calls else (t, c) :: remove thread calls

/-- Where the innermost call stands. -/
theorem exists_innermost {calls : Calls φ} {thread : ThreadId} {call : φ}
    (h : calls.innermost thread = some call) :
    ∃ before after, calls = before ++ (thread, call) :: after ∧
      (∀ other ∈ before, other.1 ≠ thread) ∧
      (∀ next, replace thread next calls = before ++ (thread, next) :: after) ∧
      remove thread calls = before ++ after := by
  induction calls with
  | nil => cases h
  | cons first calls ih =>
    obtain ⟨t, c⟩ := first
    by_cases ht : t = thread
    · subst ht
      have hc : c = call := by simpa [innermost] using h
      subst hc
      exact ⟨[], calls, rfl, by simp, by simp [replace], by simp [remove]⟩
    · have hrest : innermost calls thread = some call := by
        simpa [innermost, ht] using h
      obtain ⟨before, after, hcalls, hbefore, hreplace, hremove⟩ := ih hrest
      refine ⟨(t, c) :: before, after, by rw [hcalls]; rfl, ?_, ?_, ?_⟩
      · intro other hother
        rcases List.mem_cons.mp hother with rfl | hother
        · exact ht
        · exact hbefore other hother
      · intro next
        simp [replace, ht, hreplace]
      · simp [remove, ht, hremove]

variable {p : φ → Bool}

theorem mem_threadsIn {calls : Calls φ} {thread : ThreadId} :
    thread ∈ threadsIn p calls ↔ ∃ call ∈ calls, call.1 = thread ∧ p call.2 = true := by
  simp only [threadsIn, List.mem_map, List.mem_filter]
  constructor
  · rintro ⟨call, ⟨hc, hp⟩, rfl⟩
    exact ⟨call, hc, rfl, hp⟩
  · rintro ⟨call, hc, rfl, hp⟩
    exact ⟨call, ⟨hc, hp⟩, rfl⟩

@[simp] theorem threadsIn_nil : threadsIn p ([] : Calls φ) = [] := rfl

theorem threadsIn_cons (thread : ThreadId) (call : φ) (calls : Calls φ) :
    threadsIn p ((thread, call) :: calls) =
      if p call then thread :: threadsIn p calls else threadsIn p calls := by
  by_cases h : p call <;> simp [threadsIn, h]

theorem threadsIn_append (before after : Calls φ) :
    threadsIn p (before ++ after) = threadsIn p before ++ threadsIn p after := by
  simp [threadsIn]

/-- Taking one call out takes its thread out. -/
theorem length_threadsIn_append_cons (before after : Calls φ) (thread : ThreadId) (call : φ) :
    (threadsIn p (before ++ (thread, call) :: after)).length =
      (threadsIn p (before ++ after)).length + (p call).toNat := by
  rw [threadsIn_append, threadsIn_append, threadsIn_cons]
  cases p call <;> simp [Nat.add_assoc]

end Calls

end LivekitBridge.Lib
