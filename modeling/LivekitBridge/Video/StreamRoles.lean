import LivekitBridge.Lib.PackedCount
import LivekitBridge.Lib.Roles
import LivekitBridge.Video.StreamLocks

/-!
# The roles of a stream's calls

Who may touch the pipeline of a stream, and when.  A method works on it while it holds the mutex and
the stream is open (`working`).  The one call of `close` that finds the stream open shuts it down
under the mutex and releases it; from then on it works on the pipeline without it (`closing`), until
the pipeline is inactive (`closed`).  What GStreamer calls is a `callback`, from its
beginning to its end counted in `callback_state_`.

A call that stops the pipeline first detaches the handlers and then joins the streaming threads.
`Known` is what it knows after each: only then may the pipeline become inactive, or the gate of the
callbacks be opened again.

`StreamSafe` is what holds of the roles in every run (`StreamSafe.step`).  The rules have a switch
`locking`, since callbacks of a video stream lock the mutex and those of an audio stream do not.
-/

namespace LivekitBridge.Video

open Lib

/-- What a call that works on the pipeline knows of callbacks: nothing, that the handlers are not
set, or that besides none is in progress. -/
inductive Known
  | nothing
  | detached
  | quiet
deriving DecidableEq, Repr

/-- The role of a call. -/
inductive StreamRole
  /-- A method, or the recovery of the failure handler, without the mutex. -/
  | caller (recovering : Bool)
  /-- It holds the mutex, of a stream that may be shut down. -/
  | holder (recovering : Bool)
  /-- It holds the mutex, and the stream is open. -/
  | working (recovering inside : Bool) (known : Known)
  /-- It has shut the stream down and stops the pipeline. -/
  | closing (holds inside : Bool) (known : Known)
  /-- It has shut the stream down, and the pipeline is stopped. -/
  | closed (inside : Bool)
  | callback (begun holds : Bool)
deriving DecidableEq, Repr

namespace StreamRole

def marks : StreamRole → Marks
  | .caller _ => ⟨false, false, false⟩
  | .holder _ => ⟨false, true, false⟩
  | .working _ inside _ => ⟨false, true, inside⟩
  | .closing holds inside _ => ⟨false, holds, inside⟩
  | .closed inside => ⟨false, false, inside⟩
  | .callback _ holds => ⟨true, holds, false⟩

/-- It is the one that may work on the pipeline. -/
def inCharge : StreamRole → Bool
  | .working _ _ _ | .closing _ _ _ | .closed _ => true
  | _ => false

/-- It stops the pipeline before it returns. -/
def isClosing : StreamRole → Bool
  | .closing _ _ _ => true
  | _ => false

/-- It is counted in `callback_state_`. -/
def begun : StreamRole → Bool
  | .callback begun _ => begun
  | _ => false

/-- It runs for the failure handler. -/
def recovering : StreamRole → Bool
  | .caller recovering | .holder recovering | .working recovering _ _ => recovering
  | _ => false

end StreamRole

/-! ### The rules -/

/-- Nothing changes that another role depends on. -/
structure Untouched (s t : StreamFields) : Prop where
  isShutdown : t.isShutdown = s.isShutdown
  isActive : t.isActive = s.isActive
  attached : t.attached = s.attached
  callbackState : t.callbackState = s.callbackState
  callbackRunning : t.callbackRunning = s.callbackRunning

/-- How the pipeline is stopped, and its gate opened again. -/
inductive PipelineAccess (s : StreamFields) : Known → StreamFields → Known → Prop
  | inactive (known : Known) : s.isActive = false → PipelineAccess s known s .quiet
  | detach (known : Known) : PipelineAccess s known { s with attached := false } .detached
  | shutGate (known : Known) : PipelineAccess s known
      { s with callbackState := s.callbackState ||| kCallbacksStopped } known
  | deactivate : PipelineAccess s .quiet { s with isActive := false } .quiet
  | openGate : PipelineAccess s .quiet { s with callbackState := 0 } .quiet

inductive StreamAccess (s : StreamFields) : StreamRole → StreamFields → StreamRole → Prop
  | aside (r : StreamRole) {t : StreamFields} : Untouched s t → StreamAccess s r t r
  | finish : StreamAccess s (.caller true)
      { s with callbackRunning := false, pending := false } (.caller false)
  | isOpen (recovering : Bool) : s.isShutdown = false →
      StreamAccess s (.holder recovering) s (.working recovering false .nothing)
  | work (recovering : Bool) {known known' : Known} {t : StreamFields} :
      PipelineAccess s known t known' →
        StreamAccess s (.working recovering true known) t (.working recovering true known')
  | activate (recovering : Bool) : StreamAccess s (.working recovering true .quiet)
      { s with attached := true, isActive := true } (.working recovering true .nothing)
  | shutDown (known : Known) : StreamAccess s (.working false false known)
      { s with isShutdown := true } (.closing true false known)
  | close {known known' : Known} {t : StreamFields} : PipelineAccess s known t known' →
      StreamAccess s (.closing false true known) t (.closing false true known')
  | stopped {known : Known} {t : StreamFields} : PipelineAccess s known t .quiet →
      t.isActive = false → StreamAccess s (.closing false true known) t (.closed true)
  | begins : StreamAccess s (.callback false false)
      { s with callbackState := s.callbackState + 1 } (.callback true false)
  | ends : StreamAccess s (.callback true false)
      { s with callbackState := s.callbackState - 1 } (.callback false false)

/-- How a call in each role waits. -/
inductive StreamAwait : StreamWait → StreamRole → StreamRole → Prop
  | streamingThreads (recovering : Bool) : StreamAwait .streamingThreads
      (.working recovering true .detached) (.working recovering true .quiet)
  | closeStreamingThreads : StreamAwait .streamingThreads
      (.closing false true .detached) (.closing false true .quiet)
  | callbacks (recovering : Bool) : StreamAwait .callbacks
      (.working recovering true .quiet) (.working recovering true .quiet)
  | closeCallbacks : StreamAwait .callbacks
      (.closing false true .quiet) (.closing false true .quiet)
  | worker (known : Known) : StreamAwait .worker
      (.closing false false known) (.closing false false known)

inductive StreamLock (locking : Bool) : StreamRole → StreamRole → Prop
  | caller (recovering : Bool) : StreamLock locking (.caller recovering) (.holder recovering)
  | callback (begun : Bool) : locking = true →
      StreamLock locking (.callback begun false) (.callback begun true)

inductive StreamUnlock : StreamRole → StreamRole → Prop
  | holder (recovering : Bool) : StreamUnlock (.holder recovering) (.caller recovering)
  | working (recovering : Bool) (known : Known) :
      StreamUnlock (.working recovering false known) (.caller recovering)
  | closing (known : Known) : StreamUnlock (.closing true false known) (.closing false false known)
  | callback (begun : Bool) : StreamUnlock (.callback begun true) (.callback begun false)

inductive StreamEnter : StreamRole → StreamRole → Prop
  | working (recovering : Bool) (known : Known) :
      StreamEnter (.working recovering false known) (.working recovering true known)
  | closing (known : Known) : StreamEnter (.closing false false known) (.closing false true known)

inductive StreamLeave : StreamRole → StreamRole → Prop
  | working (recovering : Bool) (known : Known) :
      StreamLeave (.working recovering true known) (.working recovering false known)
  | closed : StreamLeave (.closed true) (.closed false)

inductive StreamReturns : StreamRole → Prop
  | caller : StreamReturns (.caller false)
  | closed : StreamReturns (.closed false)
  | callback : StreamReturns (.callback false false)

def streamRules (locking : Bool) : RoleRules StreamFields StreamWait StreamRole where
  marks := StreamRole.marks
  returns := StreamReturns
  lock := StreamLock locking
  unlock := StreamUnlock
  enter := StreamEnter
  leave := StreamLeave
  access r s t r' := StreamAccess s r t r'
  await := StreamAwait
  marks_returns h := by cases h <;> exact ⟨rfl, rfl⟩
  marks_lock h := by cases h <;> exact ⟨rfl, rfl, rfl⟩
  marks_unlock h := by cases h <;> exact ⟨rfl, rfl, rfl⟩
  marks_enter h := by cases h <;> exact ⟨rfl, rfl⟩
  marks_leave h := by cases h <;> exact ⟨rfl, rfl⟩
  marks_access h := by cases h <;> rfl
  marks_await h := by cases h <;> rfl

/-! ### What holds of the roles -/

/-- A callback is in progress. -/
def Calling (roles : List StreamRole) : Prop := ∃ r ∈ roles, r.marks.isCallback = true

def Known.Holds (f : StreamFields) (roles : List StreamRole) : Known → Prop
  | .nothing => True
  | .detached => f.attached = false
  | .quiet => f.attached = false ∧ ¬ Calling roles

/-- What a role stands for. -/
def StreamRole.Knows (f : StreamFields) (roles : List StreamRole) : StreamRole → Prop
  | .working _ _ known => f.isShutdown = false ∧ known.Holds f roles
  | .closing _ _ known => f.isShutdown = true ∧ known.Holds f roles
  | .closed _ => f.isShutdown = true ∧ f.isActive = false
  | _ => True

/-- **What holds of the roles in every run.**  The pipeline is active while handlers are set or
callbacks are in progress; one call at most is in charge of it; and when the stream is shut down and
its pipeline is active, a call will stop it. -/
structure StreamSafe (f : StreamFields) (roles : List StreamRole) : Prop where
  attached : f.attached = true → f.isActive = true
  calling : Calling roles → f.isActive = true
  knows : ∀ r ∈ roles, r.Knows f roles
  charge : roles.countP StreamRole.inCharge ≤ 1
  stops : f.isShutdown = true → f.isActive = true → ∃ r ∈ roles, r.isClosing = true
  gate : Counts f.callbackState.toBitVec (roles.countP StreamRole.begun)
  running : roles.countP StreamRole.recovering = f.callbackRunning.toNat

/-- What a call in charge leaves behind with one access. -/
structure PipelineKept (f f' : StreamFields) (roles : List StreamRole) (known' : Known) : Prop where
  isShutdown : f'.isShutdown = f.isShutdown
  callbackRunning : f'.callbackRunning = f.callbackRunning
  isActive : f'.isActive = true → f.isActive = true
  attached : f'.attached = true → f'.isActive = true
  calling : Calling roles → f'.isActive = true
  known : known'.Holds f' roles
  gate : Counts f'.callbackState.toBitVec (roles.countP StreamRole.begun)

theorem countP_begun_eq_zero {roles : List StreamRole} (h : ¬ Calling roles) :
    roles.countP StreamRole.begun = 0 := by
  rw [List.countP_eq_zero]
  intro r hr hbegun
  refine h ⟨r, hr, ?_⟩
  cases r with
  | callback begun holds => rfl
  | _ => cases hbegun

/-- **One access of a call in charge** to what stops the pipeline. -/
theorem PipelineAccess.kept {f f' : StreamFields} {roles : List StreamRole} {known known' : Known}
    (h : PipelineAccess f known f' known') (hattached : f.attached = true → f.isActive = true)
    (hcalling : Calling roles → f.isActive = true) (hknown : known.Holds f roles)
    (hgate : Counts f.callbackState.toBitVec (roles.countP StreamRole.begun)) :
    PipelineKept f f' roles known' := by
  cases h with
  | inactive _ hinactive =>
    have hnone : f.attached = false ∧ ¬ Calling roles := by
      simpa [hinactive] using And.intro hattached hcalling
    exact ⟨rfl, rfl, id, hattached, hcalling, hnone, hgate⟩
  | detach _ => exact ⟨rfl, rfl, id, by simp, hcalling, rfl, hgate⟩
  | shutGate _ =>
    have hstop : kCallbacksStopped.toBitVec = BitVec.intMin 64 := by decide
    refine ⟨rfl, rfl, id, hattached, hcalling, ?_, ?_⟩
    · cases known with
      | nothing => trivial
      | detached => exact hknown
      | quiet => exact hknown
    · rw [UInt64.toBitVec_or, hstop]
      exact hgate.or_top
  | deactivate =>
    refine ⟨rfl, rfl, by simp, ?_, fun hcall => absurd hcall hknown.2, hknown, hgate⟩
    intro htrue
    rw [hknown.1] at htrue
    cases htrue
  | openGate =>
    refine ⟨rfl, rfl, id, hattached, hcalling, hknown, ?_⟩
    rw [countP_begun_eq_zero hknown.2]
    exact counts_zero

section Replace

variable {f f' : StreamFields} {r r' x : StreamRole} {pre post roles roles' : List StreamRole}

theorem calling_congr (r r' : StreamRole) (h : r'.marks.isCallback = r.marks.isCallback) :
    Calling (pre ++ r' :: post) ↔ Calling (pre ++ r :: post) := by
  simp [Calling, or_and_right, exists_or, h]

theorem countP_begun_congr (r r' : StreamRole) (h : r'.begun = r.begun) :
    (pre ++ r' :: post).countP StreamRole.begun = (pre ++ r :: post).countP StreamRole.begun := by
  rw [List.countP_append, List.countP_append, List.countP_cons, List.countP_cons, h]

theorem countP_recovering_congr (r r' : StreamRole) (h : r'.recovering = r.recovering) :
    (pre ++ r' :: post).countP StreamRole.recovering =
      (pre ++ r :: post).countP StreamRole.recovering := by
  rw [List.countP_append, List.countP_append, List.countP_cons, List.countP_cons, h]

/-- What is known depends on the handlers and the callbacks. -/
theorem Known.Holds.congr {known : Known} (h : known.Holds f roles)
    (hattached : f'.attached = f.attached) (hcalling : Calling roles' → Calling roles) :
    known.Holds f' roles' := by
  cases known with
  | nothing => trivial
  | detached => exact hattached.trans h
  | quiet => exact ⟨hattached.trans h.1, mt hcalling h.2⟩

/-- What a role stands for does not change with fields that it does not speak of. -/
theorem StreamRole.Knows.congr (h : x.Knows f roles) (hshutdown : f'.isShutdown = f.isShutdown)
    (hactive : f'.isActive = f.isActive) (hattached : f'.attached = f.attached)
    (hcalling : Calling roles' → Calling roles) : x.Knows f' roles' := by
  cases x with
  | working _ _ known => exact ⟨hshutdown.trans h.1, h.2.congr hattached hcalling⟩
  | closing _ _ known => exact ⟨hshutdown.trans h.1, h.2.congr hattached hcalling⟩
  | closed _ => exact ⟨hshutdown.trans h.1, hactive.trans h.2⟩
  | _ => trivial

/-- Only a call in charge stands for anything. -/
theorem StreamRole.knows_of_not_inCharge (hx : x.inCharge = false) : x.Knows f roles := by
  cases x with
  | working => cases hx
  | closing => cases hx
  | closed => cases hx
  | _ => trivial

/-- One role changes, and the fields with it. -/
theorem StreamSafe.replace (h : StreamSafe f (pre ++ r :: post))
    (hattached : f'.attached = true → f'.isActive = true)
    (hcalling : Calling (pre ++ r' :: post) → f'.isActive = true)
    (hknows : r'.Knows f' (pre ++ r' :: post))
    (hothers : ∀ x ∈ pre ++ post, x.Knows f' (pre ++ r' :: post))
    (hcharge : r'.inCharge = true → r.inCharge = true ∨ ∀ x ∈ pre ++ post, x.inCharge = false)
    (hstops : f'.isShutdown = true → f'.isActive = true → r'.isClosing = true ∨
      f.isShutdown = true ∧ f.isActive = true ∧ r.isClosing = false)
    (hgate : Counts f'.callbackState.toBitVec ((pre ++ r' :: post).countP StreamRole.begun))
    (hrunning : (pre ++ r' :: post).countP StreamRole.recovering = f'.callbackRunning.toNat) :
    StreamSafe f' (pre ++ r' :: post) := by
  refine ⟨hattached, hcalling, ?_, ?_, ?_, hgate, hrunning⟩
  · intro x hx
    rw [List.mem_append, List.mem_cons] at hx
    rcases hx with hx | rfl | hx
    · exact hothers x (List.mem_append_left post hx)
    · exact hknows
    · exact hothers x (List.mem_append_right pre hx)
  · have hbefore := h.charge
    rw [List.countP_append, List.countP_cons] at hbefore ⊢
    by_cases hr' : r'.inCharge = true
    · rcases hcharge hr' with hr | hnone
      · rw [if_pos hr] at hbefore
        rw [if_pos hr']
        exact hbefore
      · have hzero : (pre ++ post).countP StreamRole.inCharge = 0 :=
          List.countP_eq_zero.mpr (by simpa using hnone)
        rw [List.countP_append] at hzero
        rw [if_pos hr']
        omega
    · rw [if_neg hr']
      omega
  · intro hshut hactive
    rcases hstops hshut hactive with hr' | ⟨hshut, hactive, hr⟩
    · exact ⟨r', by simp, hr'⟩
    · obtain ⟨x, hx, hclosing⟩ := h.stops hshut hactive
      refine ⟨x, ?_, hclosing⟩
      rw [List.mem_append, List.mem_cons] at hx ⊢
      rcases hx with hx | rfl | hx
      · exact .inl hx
      · rw [hr] at hclosing
        cases hclosing
      · exact .inr (.inr hx)

/-- A role changes that does not matter to the others. -/
structure Alike (r r' : StreamRole) : Prop where
  isCallback : r'.marks.isCallback = r.marks.isCallback
  inCharge : r'.inCharge = true → r.inCharge = true
  isClosing : r'.isClosing = r.isClosing
  begun : r'.begun = r.begun
  recovering : r'.recovering = r.recovering

theorem Alike.refl (r : StreamRole) : Alike r r := ⟨rfl, id, rfl, rfl, rfl⟩

/-- **A step aside**: nothing changes that the others depend on. -/
theorem StreamSafe.aside (h : StreamSafe f (pre ++ r :: post)) (hsame : Untouched f f')
    (halike : Alike r r')
    (hknows : r.Knows f (pre ++ r :: post) → r'.Knows f (pre ++ r :: post)) :
    StreamSafe f' (pre ++ r' :: post) := by
  have hcongr : ∀ {x : StreamRole}, x.Knows f (pre ++ r :: post) → x.Knows f' (pre ++ r' :: post) :=
    fun hx => hx.congr hsame.isShutdown hsame.isActive hsame.attached
      (calling_congr r r' halike.isCallback).mp
  refine h.replace ?_ ?_ ?_ ?_ (fun hr' => .inl (halike.inCharge hr')) ?_ ?_ ?_
  · rw [hsame.attached, hsame.isActive]
    exact h.attached
  · rw [hsame.isActive]
    exact fun hcall => h.calling ((calling_congr r r' halike.isCallback).mp hcall)
  · exact hcongr (hknows (h.knows r (by simp)))
  · intro x hx
    refine hcongr (h.knows x ?_)
    rw [List.mem_append] at hx
    simp only [List.mem_append, List.mem_cons]
    exact hx.elim .inl fun hx => .inr (.inr hx)
  · intro hshut hactive
    rw [hsame.isShutdown] at hshut
    rw [hsame.isActive] at hactive
    cases hclosing : r.isClosing with
    | true => exact .inl (halike.isClosing.trans hclosing)
    | false => exact .inr ⟨hshut, hactive, rfl⟩
  · rw [hsame.callbackState, countP_begun_congr r r' halike.begun]
    exact h.gate
  · rw [hsame.callbackRunning, countP_recovering_congr r r' halike.recovering]
    exact h.running

/-- While one call is in charge no other one is. -/
theorem StreamSafe.others (h : StreamSafe f (pre ++ r :: post)) (hr : r.inCharge = true)
    (hx : x ∈ pre ++ post) : x.inCharge = false := by
  have hcharge := h.charge
  rw [List.countP_append, List.countP_cons_of_pos hr] at hcharge
  have hnone : (pre ++ post).countP StreamRole.inCharge = 0 := by
    rw [List.countP_append]
    omega
  simpa using List.countP_eq_zero.mp hnone x hx

theorem StreamSafe.mem_others (hx : x ∈ pre ++ post) : x ∈ pre ++ r :: post := by
  rw [List.mem_append] at hx
  simp only [List.mem_append, List.mem_cons]
  exact hx.elim .inl fun hx => .inr (.inr hx)

/-- **A call in charge goes on** to stop the pipeline. -/
theorem StreamSafe.kept {known' : Known} (h : StreamSafe f (pre ++ r :: post))
    (hr : r.inCharge = true) (hkept : PipelineKept f f' (pre ++ r :: post) known')
    (halike : Alike r r') (hknows : known'.Holds f' (pre ++ r' :: post) →
      r'.Knows f' (pre ++ r' :: post)) : StreamSafe f' (pre ++ r' :: post) := by
  have hholds : known'.Holds f' (pre ++ r' :: post) :=
    hkept.known.congr rfl (calling_congr r r' halike.isCallback).mp
  refine h.replace hkept.attached
    (fun hcall => hkept.calling ((calling_congr r r' halike.isCallback).mp hcall)) (hknows hholds)
    (fun x hx => StreamRole.knows_of_not_inCharge (h.others hr hx)) (fun _ => .inl hr) ?_ ?_ ?_
  · intro hshut hactive
    rw [hkept.isShutdown] at hshut
    cases hclosing : r.isClosing with
    | true => exact .inl (halike.isClosing.trans hclosing)
    | false => exact .inr ⟨hshut, hkept.isActive hactive, rfl⟩
  · rw [countP_begun_congr r r' halike.begun]
    exact hkept.gate
  · rw [hkept.callbackRunning, countP_recovering_congr r r' halike.recovering]
    exact h.running

/-- **One access of a call** keeps what holds of the roles. -/
theorem StreamSafe.access (h : StreamSafe f (pre ++ r :: post))
    (hholds : (pre ++ r :: post).countP (fun r => r.marks.holds) ≤ 1)
    (haccess : StreamAccess f r f' r') : StreamSafe f' (pre ++ r' :: post) := by
  have hself := h.knows r (by simp)
  have hcalling : Calling (pre ++ r' :: post) ↔ Calling (pre ++ r :: post) :=
    calling_congr r r' (by cases haccess <;> rfl)
  have hgate : r'.begun = r.begun →
      Counts f.callbackState.toBitVec ((pre ++ r' :: post).countP StreamRole.begun) := by
    intro hbegun
    rw [countP_begun_congr r r' hbegun]
    exact h.gate
  have hrunning : r'.recovering = r.recovering →
      (pre ++ r' :: post).countP StreamRole.recovering = f.callbackRunning.toNat :=
    fun hrecovering => (countP_recovering_congr r r' hrecovering).trans h.running
  cases haccess with
  | aside _ hsame => exact h.aside hsame (.refl r) id
  | finish =>
    have hone : (pre ++ StreamRole.caller true :: post).countP StreamRole.recovering ≤ 1 := by
      rw [h.running]
      exact Bool.toNat_le _
    rw [List.countP_append, List.countP_cons_of_pos rfl] at hone
    refine h.replace h.attached (fun hcall => h.calling (hcalling.mp hcall)) trivial
      (fun x hx => (h.knows x (mem_others hx)).congr rfl rfl rfl hcalling.mp)
      (fun hcharge => by cases hcharge) (fun hshut hactive => .inr ⟨hshut, hactive, rfl⟩)
      (hgate rfl) ?_
    rw [List.countP_append, List.countP_cons_of_neg (by decide), Bool.toNat_false]
    omega
  | isOpen recovering hopen =>
    refine h.replace h.attached (fun hcall => h.calling (hcalling.mp hcall)) ⟨hopen, trivial⟩
      (fun x hx => (h.knows x (mem_others hx)).congr rfl rfl rfl hcalling.mp)
      (fun _ => .inr fun x hx => ?_) (fun hshut _ => by rw [hopen] at hshut; cases hshut)
      (hgate rfl) (hrunning rfl)
    -- another one in charge would hold the mutex too, or have shut the stream down
    rw [List.countP_append, List.countP_cons_of_pos rfl] at hholds
    have hnone : (pre ++ post).countP (fun r : StreamRole => r.marks.holds) = 0 := by
      rw [List.countP_append]
      omega
    have hfree : x.marks.holds = false := by simpa using List.countP_eq_zero.mp hnone x hx
    have hx := h.knows x (mem_others hx)
    cases x with
    | working => cases hfree
    | closing =>
      rw [hx.1] at hopen
      cases hopen
    | closed =>
      rw [hx.1] at hopen
      cases hopen
    | _ => rfl
  | @work recovering known known' _ hwork =>
    have hkept := hwork.kept h.attached h.calling hself.2 h.gate
    exact h.kept rfl hkept ⟨rfl, id, rfl, rfl, rfl⟩ fun hknown =>
      ⟨hkept.isShutdown.trans hself.1, hknown⟩
  | activate recovering =>
    have hopen : f.isShutdown ≠ true := by simp [hself.1]
    exact h.replace (fun _ => rfl) (fun _ => rfl) ⟨hself.1, trivial⟩
      (fun x hx => StreamRole.knows_of_not_inCharge (h.others rfl hx)) (fun _ => .inl rfl)
      (fun hshut _ => absurd hshut hopen) (hgate rfl) (hrunning rfl)
  | shutDown known =>
    have hknown : known.Holds { f with isShutdown := true }
        (pre ++ StreamRole.closing true false known :: post) := hself.2.congr rfl hcalling.mp
    exact h.replace h.attached (fun hcall => h.calling (hcalling.mp hcall)) ⟨rfl, hknown⟩
      (fun x hx => StreamRole.knows_of_not_inCharge (h.others rfl hx)) (fun _ => .inl rfl)
      (fun _ _ => .inl rfl) (hgate rfl) (hrunning rfl)
  | @close known known' _ hclose =>
    have hkept := hclose.kept h.attached h.calling hself.2 h.gate
    exact h.kept rfl hkept ⟨rfl, id, rfl, rfl, rfl⟩ fun hknown =>
      ⟨hkept.isShutdown.trans hself.1, hknown⟩
  | @stopped known _ hclose hactive =>
    have hkept := hclose.kept h.attached h.calling hself.2 h.gate
    refine h.replace hkept.attached (fun hcall => hkept.calling (hcalling.mp hcall))
      ⟨hkept.isShutdown.trans hself.1, hactive⟩
      (fun x hx => StreamRole.knows_of_not_inCharge (h.others rfl hx)) (fun _ => .inl rfl)
      (fun _ hstill => by rw [hactive] at hstill; cases hstill) ?_ ?_
    · rw [countP_begun_congr (.closing false true known) (.closed true) rfl]
      exact hkept.gate
    · rw [hkept.callbackRunning]
      exact hrunning rfl
  | begins =>
    refine h.replace h.attached (fun hcall => h.calling (hcalling.mp hcall)) trivial
      (fun x hx => (h.knows x (mem_others hx)).congr rfl rfl rfl hcalling.mp)
      (fun hcharge => by cases hcharge) (fun hshut hactive => .inr ⟨hshut, hactive, rfl⟩) ?_
      (hrunning rfl)
    have hbefore := h.gate
    rw [List.countP_append, List.countP_cons_of_neg (by decide)] at hbefore
    rw [List.countP_append, List.countP_cons_of_pos rfl]
    exact hbefore.succ
  | ends =>
    refine h.replace h.attached (fun hcall => h.calling (hcalling.mp hcall)) trivial
      (fun x hx => (h.knows x (mem_others hx)).congr rfl rfl rfl hcalling.mp)
      (fun hcharge => by cases hcharge) (fun hshut hactive => .inr ⟨hshut, hactive, rfl⟩) ?_
      (hrunning rfl)
    have hbefore := h.gate
    rw [List.countP_append, List.countP_cons_of_pos rfl] at hbefore
    rw [List.countP_append, List.countP_cons_of_neg (by decide)]
    exact hbefore.pred

theorem StreamSafe.returned (h : StreamSafe f (pre ++ r :: post)) (hreturns : StreamReturns r) :
    StreamSafe f (pre ++ post) := by
  have hplain : r.isClosing = false ∧ r.begun = false ∧ r.recovering = false := by
    cases hreturns <;> exact ⟨rfl, rfl, rfl⟩
  obtain ⟨hclosing, hbegun, hrecovering⟩ := hplain
  have hsub : (pre ++ post).Sublist (pre ++ r :: post) :=
    (List.sublist_cons_self r post).append_left pre
  have hcalling : Calling (pre ++ post) → Calling (pre ++ r :: post) := by
    intro hcall
    obtain ⟨x, hx, hcallback⟩ := hcall
    exact ⟨x, hsub.subset hx, hcallback⟩
  have hcount : ∀ p : StreamRole → Bool, p r = false →
      (pre ++ post).countP p = (pre ++ r :: post).countP p := by
    intro p hp
    rw [List.countP_append, List.countP_append, List.countP_cons_of_neg (by simp [hp])]
  refine ⟨h.attached, fun hcall => h.calling (hcalling hcall), ?_,
    (hsub.countP_le).trans h.charge, ?_, ?_, (hcount _ hrecovering).trans h.running⟩
  · exact fun x hx => (h.knows x (hsub.subset hx)).congr rfl rfl rfl hcalling
  · intro hshut hactive
    obtain ⟨x, hx, hstill⟩ := h.stops hshut hactive
    refine ⟨x, ?_, hstill⟩
    rw [List.mem_append, List.mem_cons] at hx
    rcases hx with hx | rfl | hx
    · exact List.mem_append_left post hx
    · rw [hclosing] at hstill
      cases hstill
    · exact List.mem_append_right pre hx
  · rw [hcount _ hbegun]
    exact h.gate

/-- **A call begins**: a callback only while handlers are set. -/
theorem StreamSafe.pushed (h : StreamSafe f roles) (hshutdown : f'.isShutdown = f.isShutdown)
    (hactive : f'.isActive = f.isActive) (hattached : f'.attached = f.attached)
    (hstate : f'.callbackState = f.callbackState) (hr : r.inCharge = false)
    (hbegun : r.begun = false)
    (hcallback : r.marks.isCallback = true → f.attached = true)
    (hrunning : (r :: roles).countP StreamRole.recovering = f'.callbackRunning.toNat) :
    StreamSafe f' (r :: roles) := by
  have hcalling : Calling (r :: roles) → f.attached = true ∨ Calling roles := by
    intro hcall
    obtain ⟨x, hx, hisCallback⟩ := hcall
    rcases List.mem_cons.mp hx with rfl | hx
    · exact .inl (hcallback hisCallback)
    · exact .inr ⟨x, hx, hisCallback⟩
  -- who knows that no handlers are set knows that this is no callback
  have hholds : ∀ {known : Known}, known.Holds f roles → known.Holds f' (r :: roles) := by
    intro known hknown
    cases known with
    | nothing => trivial
    | detached => exact hattached.trans hknown
    | quiet =>
      refine ⟨hattached.trans hknown.1, fun hcall => ?_⟩
      rcases hcalling hcall with hset | hcall
      · rw [hknown.1] at hset
        cases hset
      · exact hknown.2 hcall
  refine ⟨?_, ?_, ?_, ?_, ?_, ?_, hrunning⟩
  · rw [hattached, hactive]
    exact h.attached
  · intro hcall
    rw [hactive]
    exact (hcalling hcall).elim h.attached h.calling
  · intro x hx
    rcases List.mem_cons.mp hx with rfl | hx
    · exact StreamRole.knows_of_not_inCharge hr
    · have hknows := h.knows x hx
      cases x with
      | working => exact ⟨hshutdown.trans hknows.1, hholds hknows.2⟩
      | closing => exact ⟨hshutdown.trans hknows.1, hholds hknows.2⟩
      | closed => exact ⟨hshutdown.trans hknows.1, hactive.trans hknows.2⟩
      | _ => trivial
  · rw [List.countP_cons_of_neg (by simp [hr])]
    exact h.charge
  · rw [hshutdown, hactive]
    intro hshut hstill
    obtain ⟨x, hx, hclosing⟩ := h.stops hshut hstill
    exact ⟨x, List.mem_cons_of_mem _ hx, hclosing⟩
  · rw [hstate, List.countP_cons_of_neg (by simp [hbegun])]
    exact h.gate

end Replace

/-- **One step of a call** keeps what holds of the roles. -/
theorem StreamSafe.step {locking : Bool} {s : StreamSystem} {thread : ThreadId} {f' : StreamFields}
    {r r' : StreamRole} {pre post : List StreamRole} (h : StreamSafe s.shared (pre ++ r :: post))
    (hholds : (pre ++ r :: post).countP (fun r => r.marks.holds) ≤ 1)
    (hready : streamReady .streamingThreads thread s = true → r.marks.isCallback = false →
      ¬ Calling (pre ++ r :: post))
    (hstep : RoleStep (streamRules locking) streamReady s thread r r' f') :
    StreamSafe f' (pre ++ r' :: post) := by
  have hnone : Untouched s.shared s.shared := ⟨rfl, rfl, rfl, rfl, rfl⟩
  cases hstep with
  | stays => exact h.aside hnone (.refl r) id
  | locks _ hlock =>
    cases hlock with
    | caller _ => exact h.aside hnone ⟨rfl, id, rfl, rfl, rfl⟩ id
    | callback _ _ => exact h.aside hnone ⟨rfl, id, rfl, rfl, rfl⟩ id
  | unlocks hunlock =>
    cases hunlock with
    | holder _ => exact h.aside hnone ⟨rfl, id, rfl, rfl, rfl⟩ id
    | working _ _ =>
      exact h.aside hnone ⟨rfl, (fun hcharge => by cases hcharge), rfl, rfl, rfl⟩ fun _ => trivial
    | closing _ => exact h.aside hnone ⟨rfl, id, rfl, rfl, rfl⟩ id
    | callback _ => exact h.aside hnone ⟨rfl, id, rfl, rfl, rfl⟩ id
  | enters henter =>
    cases henter with
    | working _ _ => exact h.aside hnone ⟨rfl, id, rfl, rfl, rfl⟩ id
    | closing _ => exact h.aside hnone ⟨rfl, id, rfl, rfl, rfl⟩ id
  | leaves hleave =>
    cases hleave with
    | working _ _ => exact h.aside hnone ⟨rfl, id, rfl, rfl, rfl⟩ id
    | closed => exact h.aside hnone ⟨rfl, id, rfl, rfl, rfl⟩ id
  | accesses haccess => exact h.access hholds haccess
  | awaits condition hwait hawait =>
    cases hawait with
    | streamingThreads _ =>
      exact h.aside hnone ⟨rfl, id, rfl, rfl, rfl⟩ fun hknows =>
        ⟨hknows.1, hknows.2, hready hwait rfl⟩
    | closeStreamingThreads =>
      exact h.aside hnone ⟨rfl, id, rfl, rfl, rfl⟩ fun hknows =>
        ⟨hknows.1, hknows.2, hready hwait rfl⟩
    | callbacks _ => exact h.aside hnone (.refl _) id
    | closeCallbacks => exact h.aside hnone (.refl _) id
    | worker _ => exact h.aside hnone (.refl _) id

end LivekitBridge.Video
