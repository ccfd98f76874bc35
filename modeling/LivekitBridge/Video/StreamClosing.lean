import LivekitBridge.Lib.Progress
import LivekitBridge.Video.StreamPrograms

/-!
# The pipeline of a stream that is closed

What follows for each stream from the roles of its calls, in every run.  One call at most is in
`start` or `stop` of the pipeline, although `close` stops it without the mutex; what GStreamer calls
finds a pipeline; and when the stream is shut down its pipeline is active only while some call is on
its way to stop it, and stays inactive after that (`closed_stream_stays_stopped`).

The callbacks of an audio stream lock nothing, and so its calls never wait for each other in a
circle: left to themselves they all return (`audio_calls_return`).  A video stream can get stuck
(`not_deadlockFree`).
-/

namespace LivekitBridge

open Lib

namespace Video

/-- What the calls of a stream keep in every run. -/
structure StreamBooks (locking : Bool) (s : StreamSystem) : Prop where
  disciplined : s.Disciplined
  nested : s.NestsCallbacks
  roles : ∃ roles, Cast (streamRules locking) s.calls roles ∧ StreamSafe s.shared roles

section Books

variable {program : StreamProgram} {locking : Bool} {s t : StreamSystem} {act : StreamAct}
  {thread : ThreadId} {roles : List StreamRole}

theorem StreamRole.inside_eq_false {r : StreamRole} (h : r.marks.isCallback = true) :
    r.marks.inside = false := by
  cases r with
  | callback => rfl
  | _ => cases h

theorem calling_iff (h : Cast (streamRules locking) s.calls roles) :
    Calling roles ↔ ∃ call ∈ s.calls, call.2.isCallback = true := by
  constructor
  · intro hcalling
    obtain ⟨r, hr, hcallback⟩ := hcalling
    obtain ⟨call, hcall, hhas⟩ := h.exists_call hr
    exact ⟨call, hcall, (congrArg Marks.isCallback hhas.marks).trans hcallback⟩
  · intro hcalling
    obtain ⟨call, hcall, hcallback⟩ := hcalling
    obtain ⟨r, hr, hhas⟩ := h.exists_role hcall
    exact ⟨r, hr, (congrArg Marks.isCallback hhas.marks).symm.trans hcallback⟩

/-- One role at most holds the mutex. -/
theorem countP_holds_le (hd : s.Disciplined) (h : Cast (streamRules locking) s.calls roles) :
    roles.countP (fun r => r.marks.holds) ≤ 1 := by
  have hcount : (s.calls.threadsIn Lib.Frame.holds).length = roles.countP fun r => r.marks.holds :=
    h.length_threadsIn Marks.holds
  rw [← hcount, hd.held]
  cases s.owner <;> simp

/-- When the streaming threads are joined no callback is in progress, seen from a call of the
stream: one on its own thread would be above it. -/
theorem not_calling_of_ready {f : Lib.Frame StreamFields StreamWait}
    {before after : Calls (Lib.Frame StreamFields StreamWait)} (hd : s.Disciplined)
    (hcast : Cast (streamRules locking) s.calls roles)
    (hcalls : s.calls = before ++ (thread, f) :: after)
    (hbefore : ∀ other ∈ before, other.1 ≠ thread) (hf : f.isCallback = false)
    (hready : streamReady .streamingThreads thread s = true) : ¬ Calling roles := by
  intro hcalling
  obtain ⟨r, hr, hcallback⟩ := hcalling
  obtain ⟨call, hcall, hhas⟩ := hcast.exists_call hr
  have hisCallback : call.2.isCallback = true :=
    (congrArg Marks.isCallback hhas.marks).trans hcallback
  have hout : call.2.inside = false :=
    (congrArg Marks.inside hhas.marks).trans (StreamRole.inside_eq_false hcallback)
  have hsame : call.1 = thread := by
    have hall := List.all_eq_true.mp hready call hcall
    simpa [hisCallback] using hall
  -- so it is the innermost call of the thread, which is `f`
  have hinnermost := hd.innermost_outside hcall hout
  rw [hsame, hcalls, Calls.innermost_split hbefore] at hinnermost
  rw [← Option.some.inj hinnermost, hf] at hisCallback
  cases hisCallback

inductive StreamBegins (f : StreamFields) : StreamRole → StreamFields → Prop
  | method : StreamBegins f (.caller false) f
  | recovery : f.callbackRunning = false →
      StreamBegins f (.caller true) { f with callbackRunning := true }
  | callback : f.attached = true → StreamBegins f (.callback false false) f

/-- **What one step can do**: begin a call, or let one go on. -/
theorem StreamProgram.perform_cases (hkeeps : program.Keeps)
    (h : program.perform s act = some t) :
    (∃ thread r shared code, StreamBegins s.shared r shared ∧
      code.Plays (streamRules program.locking) r ∧
      (s.calls.innermost thread = none ∨ s.inForeign thread = true) ∧
      (s.calls.innermost thread = none ∨ r.marks.isCallback = true) ∧
      t = ({ s with shared := shared } : StreamSystem).push thread
        (.starting r.marks.isCallback code)) ∨
    ∃ thread choice, s.advance streamReady thread choice = some t := by
  cases act with
  | call thread call =>
    rw [StreamProgram.perform] at h
    split at h
    · cases h
    · rename_i hidle
      obtain ⟨code, hcode, rfl⟩ := Option.map_eq_some_iff.mp h
      exact .inl ⟨thread, _, _, code, .method, hkeeps.code hcode, .inl hidle, .inl hidle, rfl⟩
  | recover thread =>
    rw [StreamProgram.perform] at h
    split at h
    · cases h
    · rename_i hidle
      split at h
      · rename_i hmay
        simp only [Bool.and_eq_true, Bool.not_eq_true'] at hmay
        obtain rfl := Option.some.inj h
        exact .inl ⟨thread, _, _, program.recovery, .recovery hmay.2, hkeeps.recovery, .inl hidle,
          .inl hidle, rfl⟩
      · cases h
  | callback thread callback =>
    rw [StreamProgram.perform] at h
    split at h
    · rename_i hmay
      rw [Bool.and_eq_true, Bool.or_eq_true, Option.isNone_iff_eq_none] at hmay
      obtain rfl := Option.some.inj h
      exact .inl ⟨thread, _, _, _, .callback hmay.1, hkeeps.callback callback, hmay.2, .inr rfl,
        rfl⟩
    · cases h
  | advance thread choice => exact .inr ⟨thread, choice, h⟩

theorem StreamSafe.begins {f f' : StreamFields} {r : StreamRole} (h : StreamSafe f roles)
    (hbegins : StreamBegins f r f') : StreamSafe f' (r :: roles) := by
  cases hbegins with
  | method =>
    refine h.pushed rfl rfl rfl rfl rfl rfl (fun hcallback => by cases hcallback) ?_
    rw [List.countP_cons_of_neg (by decide)]
    exact h.running
  | recovery hnone =>
    refine h.pushed rfl rfl rfl rfl rfl rfl (fun hcallback => by cases hcallback) ?_
    rw [List.countP_cons_of_pos rfl, h.running, hnone]
    rfl
  | callback hattached =>
    refine h.pushed rfl rfl rfl rfl rfl rfl (fun _ => hattached) ?_
    rw [List.countP_cons_of_neg (by decide)]
    exact h.running

/-- **Every step keeps the books.** -/
theorem StreamBooks.step (hkeeps : program.Keeps) (h : StreamBooks program.locking s)
    (hstep : program.perform s act = some t) : StreamBooks program.locking t := by
  obtain ⟨roles, hcast, hsafe⟩ := h.roles
  rcases StreamProgram.perform_cases hkeeps hstep with
    ⟨thread, r, shared, code, hbegins, hplays, hfree, hnests, rfl⟩ | ⟨thread, choice, hstep⟩
  · have hmarks : r.marks = ⟨r.marks.isCallback, false, false⟩ := by
      cases hbegins <;> rfl
    have hwell : code.WellNested r.marks.holds r.marks.inside := hplays.wellNested
    rw [hmarks] at hwell
    exact ⟨h.disciplined.push hwell hfree shared, h.nested.push hnests shared, r :: roles,
      hcast.push hmarks hplays shared, hsafe.begins hbegins⟩
  · obtain ⟨pre, r, post, before, f, after, rfl, hcalls, hbefore, hhas, hpre, hpost, hcases⟩ :=
      hcast.advance hstep
    refine ⟨h.disciplined.advance hstep, h.nested.advance hstep, ?_⟩
    rcases hcases with ⟨hreturns, hshared, hnew⟩ | ⟨r', f', hrole, hhas', hnew⟩
    · refine ⟨pre ++ post, ?_, ?_⟩
      · rw [hnew]
        exact hpre.append hpost
      · rw [hshared]
        exact hsafe.returned hreturns
    · refine ⟨pre ++ r' :: post, ?_, ?_⟩
      · rw [hnew]
        exact hpre.append (.cons hhas' hpost)
      · refine hsafe.step (countP_holds_le h.disciplined hcast) (fun hready hmark => ?_) hrole
        have hf : f.isCallback = false := (congrArg Marks.isCallback hhas.marks).trans hmark
        exact not_calling_of_ready h.disciplined hcast hcalls hbefore hf hready

theorem streamBooks_initial : StreamBooks locking .initial := by
  refine ⟨⟨rfl, by simp [StreamSystem.initial], by simp [StreamSystem.initial], List.Pairwise.nil⟩,
    List.Pairwise.nil, [], .nil, ?_⟩
  refine ⟨by simp [StreamSystem.initial], ?_, by simp, by simp, by simp [StreamSystem.initial],
    counts_zero, rfl⟩
  rintro ⟨r, hr, -⟩
  cases hr

theorem streamBooks_of_trace (hkeeps : program.Keeps) {tr : List StreamAct}
    (h : program.machine.Trace tr s) : StreamBooks program.locking s := by
  refine Machine.Trace.invariant (P := fun _ s => StreamBooks program.locking s) ?_ ?_ h
  · rintro s rfl
    exact streamBooks_initial
  · rintro tr evs s t - hbooks ⟨act, hact, -⟩
    exact hbooks.step hkeeps hact

end Books

/-! ### A stream that is closed -/

inductive BridgeStream
  | video (kind : StreamKind)
  | audio
deriving DecidableEq, Repr

def BridgeStream.program : BridgeStream → StreamProgram
  | .video kind => kind.program
  | .audio => audioProgram

def BridgeStream.machine : BridgeStream → Machine StreamSystem StreamAct
  | .video kind => streamMachine kind
  | .audio => audioProgram.machine

theorem BridgeStream.machine_eq (stream : BridgeStream) :
    stream.machine = stream.program.machine := by
  cases stream with
  | video kind => exact kind.machine_program.symm
  | audio => rfl

theorem BridgeStream.keeps (stream : BridgeStream) : stream.program.Keeps := by
  cases stream with
  | video kind => exact kind.keeps
  | audio => exact audioProgram.keeps

/-- The code stops the pipeline: whatever it finds, it comes to an access that leaves the pipeline
inactive. -/
def StopsPipeline : Code StreamFields StreamWait → Prop
  | .ret => False
  | .lock next => StopsPipeline next
  | .unlock next => StopsPipeline next
  | .enter next => StopsPipeline next
  | .leave next => StopsPipeline next
  | .access f next => ∀ found,
      (∀ shared, (f shared).1 = found → (f shared).2.isActive = false) ∨ StopsPipeline (next found)
  | .await _ next => StopsPipeline next
  | .foreign next => ∀ result, StopsPipeline (next result)
  | .outcome next => ∀ result, StopsPipeline (next result)

/-- **The call that closes the stream** stops the pipeline. -/
theorem stopsPipeline_of_plays {locking : Bool} {code : StreamCode} :
    ∀ {r : StreamRole}, code.Plays (streamRules locking) r → r.isClosing = true →
      StopsPipeline code := by
  induction code with
  | ret =>
    intro r h hclosing
    cases h <;> cases hclosing
  | lock next ih =>
    intro r ⟨r', hlock, _⟩ hclosing
    cases hlock <;> cases hclosing
  | unlock next ih =>
    intro r ⟨r', hunlock, hnext⟩ hclosing
    cases hunlock with
    | closing known => exact ih hnext rfl
    | _ => cases hclosing
  | enter next ih =>
    intro r ⟨r', henter, hnext⟩ hclosing
    cases henter with
    | closing known => exact ih hnext rfl
    | working => cases hclosing
  | leave next ih =>
    intro r ⟨r', hleave, _⟩ hclosing
    cases hleave <;> cases hclosing
  | access f next ih =>
    intro r h hclosing found
    obtain ⟨r', haccess, _, hnext⟩ := h found
    cases hr' : r'.isClosing with
    | true => exact .inr (ih found hnext hr')
    | false =>
      -- closing ends only with the access that leaves the pipeline inactive
      refine .inl fun shared hfound => ?_
      have hdone : StreamAccess shared r (f shared).2 r' := haccess shared hfound
      generalize (f shared).2 = after at hdone ⊢
      cases hdone with
      | stopped _ hinactive => exact hinactive
      | aside => rw [hclosing] at hr'; cases hr'
      | close => cases hr'
      | _ => cases hclosing
  | await condition next ih =>
    intro r ⟨r', hawait, hnext⟩ hclosing
    cases hawait with
    | closeStreamingThreads => exact ih hnext rfl
    | closeCallbacks => exact ih hnext rfl
    | worker known => exact ih hnext rfl
    | _ => cases hclosing
  | foreign next ih => exact fun h hclosing result => ih result (h.2 result) hclosing
  | outcome next ih => exact fun h hclosing result => ih result (h result) hclosing

/-- What the pipeline of a stream can rely on. -/
structure PipelineGuarded (s : StreamSystem) : Prop where
  /-- One call at most is in `start` or `stop`. -/
  alone : (s.calls.threadsIn Lib.Frame.inside).length ≤ 1
  attached : s.shared.attached = true → s.shared.isActive = true
  calling : ∀ call ∈ s.calls, call.2.isCallback = true → s.shared.isActive = true
  stops : s.shared.isShutdown = true → s.shared.isActive = true →
    ∃ call ∈ s.calls, call.2.isCallback = false ∧ StopsPipeline call.2.rest

section Closed

variable {program : StreamProgram} {locking : Bool} {s t : StreamSystem} {act : StreamAct}
  {thread : ThreadId} {roles : List StreamRole} {r r' : StreamRole} {f f' : StreamFields}

theorem StreamBooks.guarded (h : StreamBooks locking s) : PipelineGuarded s := by
  obtain ⟨roles, hcast, hsafe⟩ := h.roles
  refine ⟨?_, hsafe.attached, ?_, ?_⟩
  · have hcount : (s.calls.threadsIn Lib.Frame.inside).length =
        roles.countP fun r => r.marks.inside :=
      hcast.length_threadsIn Marks.inside
    rw [hcount]
    refine (List.countP_mono_left fun r _ hinside => ?_).trans hsafe.charge
    cases r with
    | caller => cases hinside
    | holder => cases hinside
    | callback => cases hinside
    | _ => rfl
  · intro call hcall hcallback
    exact hsafe.calling ((calling_iff hcast).mpr ⟨call, hcall, hcallback⟩)
  · intro hshut hactive
    obtain ⟨r, hr, hclosing⟩ := hsafe.stops hshut hactive
    obtain ⟨call, hcall, hhas⟩ := hcast.exists_call hr
    refine ⟨call, hcall, ?_, stopsPipeline_of_plays hhas.plays hclosing⟩
    refine (congrArg Marks.isCallback hhas.marks).trans ?_
    cases r with
    | closing => rfl
    | _ => cases hclosing

/-- Only a call of an open stream starts the pipeline. -/
theorem StreamAccess.stays_stopped (h : StreamAccess f r f' r') (hknows : r.Knows f roles)
    (hshut : f.isShutdown = true) (hstopped : f.isActive = false) :
    f'.isShutdown = true ∧ f'.isActive = false := by
  have hworks : f.isShutdown ≠ false := by simp [hshut]
  have hcloses : ∀ {known known' : Known} {f' : StreamFields}, PipelineAccess f known f' known' →
      f'.isShutdown = true ∧ f'.isActive = false := by
    intro known known' f' hclose
    cases hclose <;> first | exact ⟨hshut, hstopped⟩ | exact ⟨hshut, rfl⟩
  cases h with
  | aside _ hsame => exact ⟨hsame.isShutdown.trans hshut, hsame.isActive.trans hstopped⟩
  | work => exact absurd hknows.1 hworks
  | activate => exact absurd hknows.1 hworks
  | shutDown => exact ⟨rfl, hstopped⟩
  | close hclose => exact hcloses hclose
  | stopped hclose _ => exact hcloses hclose
  | _ => exact ⟨hshut, hstopped⟩

/-- **A step of a stream** that is closed and stopped leaves it so. -/
theorem StreamBooks.stays_stopped (hkeeps : program.Keeps) (h : StreamBooks program.locking s)
    (hstep : program.perform s act = some t) (hshut : s.shared.isShutdown = true)
    (hstopped : s.shared.isActive = false) :
    t.shared.isShutdown = true ∧ t.shared.isActive = false := by
  rcases StreamProgram.perform_cases hkeeps hstep with
    ⟨thread, r, shared, code, hbegins, -, -, -, rfl⟩ | ⟨thread, choice, hstep⟩
  · cases hbegins <;> exact ⟨hshut, hstopped⟩
  · obtain ⟨roles, hcast, hsafe⟩ := h.roles
    obtain ⟨pre, r, post, before, f, after, rfl, -, -, -, -, -, hcases⟩ := hcast.advance hstep
    rcases hcases with ⟨-, hshared, -⟩ | ⟨r', f', hrole, -, -⟩
    · rw [hshared]
      exact ⟨hshut, hstopped⟩
    · generalize t.shared = shared at hrole ⊢
      cases hrole with
      | accesses haccess =>
        exact StreamAccess.stays_stopped haccess (hsafe.knows r (by simp)) hshut hstopped
      | _ => exact ⟨hshut, hstopped⟩

/-- What holds of a stream that is closed and stopped holds after any steps. -/
theorem StreamBooks.run_stopped (hkeeps : program.Keeps) {acts : List StreamAct}
    (h : StreamBooks program.locking s) (hrun : program.run s acts = some t)
    (hshut : s.shared.isShutdown = true) (hstopped : s.shared.isActive = false) :
    StreamBooks program.locking t ∧ t.shared.isShutdown = true ∧ t.shared.isActive = false := by
  induction acts generalizing s with
  | nil =>
    obtain rfl := Option.some.inj hrun
    exact ⟨h, hshut, hstopped⟩
  | cons act acts ih =>
    rw [StreamProgram.run, List.foldlM_cons] at hrun
    obtain ⟨s', hact, hacts⟩ := Option.bind_eq_some_iff.mp hrun
    obtain ⟨hshut', hstopped'⟩ := h.stays_stopped hkeeps hact hshut hstopped
    exact ih (h.step hkeeps hact) hacts hshut' hstopped'

end Closed

/-- **A closed stream stays stopped.**  In every run of each stream the pipeline is guarded: when
the stream is shut down and has an active pipeline, some call is about to stop it.  And once it is
shut down and inactive, no step starts it again, and no callback is in progress any more. -/
theorem closed_stream_stays_stopped (stream : BridgeStream) {tr : List StreamAct} {s : StreamSystem}
    (h : stream.machine.Trace tr s) :
    PipelineGuarded s ∧
      (s.shared.isShutdown = true → s.shared.isActive = false →
        ∀ acts t, stream.program.run s acts = some t →
          t.shared.isShutdown = true ∧ t.shared.isActive = false ∧
            ∀ call ∈ t.calls, call.2.isCallback = false) := by
  rw [stream.machine_eq] at h
  have hbooks := streamBooks_of_trace stream.keeps h
  refine ⟨hbooks.guarded, ?_⟩
  intro hshut hstopped acts t hrun
  obtain ⟨hafter, hshut', hstopped'⟩ := hbooks.run_stopped stream.keeps hrun hshut hstopped
  refine ⟨hshut', hstopped', fun call hcall => ?_⟩
  cases hcallback : call.2.isCallback with
  | false => rfl
  | true =>
    have hactive := hafter.guarded.calling call hcall hcallback
    rw [hstopped'] at hactive
    cases hactive

/-- The stream is closed while it plays, and its pipeline is still active. -/
def closingStream : List StreamAct := started ++ .call 2 .close :: advances 2 6

def closedStream : List StreamAct := closingStream ++ advances 2 9

/-- A video stream that is being closed has a call that will stop its pipeline, and an audio stream
that has been closed stays stopped. -/
theorem closed_stream_stays_stopped_closing :
    (∃ s, (streamMachine .gstreamer).Trace closingStream s ∧
      ∃ call ∈ s.calls, call.2.isCallback = false ∧ StopsPipeline call.2.rest) ∧
    ∃ s, audioProgram.machine.Trace closedStream s ∧
      ∀ acts t, audioProgram.run s acts = some t → t.shared.isActive = false := by
  constructor
  · have htrace : ∃ s, (streamMachine .gstreamer).Trace closingStream s ∧
        s.shared.isShutdown = true ∧ s.shared.isActive = true :=
      ⟨_, Machine.driven_trace rfl, rfl, rfl⟩
    obtain ⟨s, hs, hshut, hactive⟩ := htrace
    exact ⟨s, hs, (closed_stream_stays_stopped (.video .gstreamer) hs).1.stops hshut hactive⟩
  · have htrace : ∃ s, audioProgram.machine.Trace closedStream s ∧ s.shared.isShutdown = true ∧
        s.shared.isActive = false := ⟨_, Machine.driven_trace rfl, rfl, rfl⟩
    obtain ⟨s, hs, hshut, hstopped⟩ := htrace
    exact ⟨s, hs, fun acts t hrun =>
      ((closed_stream_stays_stopped .audio hs).2 hshut hstopped acts t hrun).2.1⟩

/-! ### Calls of an audio stream return -/

section Audio

variable {s t : StreamSystem} {roles : List StreamRole}
  {call : ThreadId × Lib.Frame StreamFields StreamWait}

theorem callback_goes_on (hcast : Cast (streamRules false) s.calls roles) (hcall : call ∈ s.calls)
    (hcallback : call.2.isCallback = true) :
    (∀ next, call.2.rest ≠ .lock next) ∧ ∀ condition next, call.2.rest ≠ .await condition next := by
  obtain ⟨r, -, hhas⟩ := hcast.exists_role hcall
  have hmark : r.marks.isCallback = true :=
    (congrArg Marks.isCallback hhas.marks).symm.trans hcallback
  have hplays := hhas.plays
  constructor
  · intro next hrest
    rw [hrest] at hplays
    obtain ⟨r', hlock, -⟩ := hplays
    cases hlock with
    | caller => cases hmark
    | callback _ hlocking => cases hlocking
  · intro condition next hrest
    rw [hrest] at hplays
    obtain ⟨r', hawait, -⟩ := hplays
    cases hawait <;> cases hmark

/-- When no callbacks are in progress the streaming threads can be joined, and the gate of the
callbacks has none to wait for. -/
theorem ready_of_not_calling (hcast : Cast (streamRules false) s.calls roles)
    (hsafe : StreamSafe s.shared roles) (hnone : ¬ Calling roles) (thread : ThreadId) :
    streamReady .streamingThreads thread s = true ∧ streamReady .callbacks thread s = true := by
  constructor
  · refine List.all_eq_true.mpr fun call hcall => ?_
    have hplain : call.2.isCallback = false := by
      cases hcallback : call.2.isCallback with
      | false => rfl
      | true => exact absurd ((calling_iff hcast).mpr ⟨call, hcall, hcallback⟩) hnone
    simp [hplain]
  · have hgate := hsafe.gate
    rw [countP_begun_eq_zero hnone] at hgate
    have hmask : kCallbackCountMask.toBitVec = ~~~BitVec.intMin 64 := by decide
    refine decide_eq_true (UInt64.toBitVec_inj.mp ?_)
    rw [UInt64.toBitVec_and, hmask]
    exact hgate.and_below

/-- When no callbacks are in progress a call waits for nothing but the mutex and the worker. -/
theorem StreamBooks.advance_of_not_calling (h : StreamBooks false s)
    (hcast : Cast (streamRules false) s.calls roles) (hsafe : StreamSafe s.shared roles)
    (hnone : ¬ Calling roles) (hcall : call ∈ s.calls)
    (hlock : ∀ next, call.2.rest = .lock next → s.owner = none)
    (hworker : ∀ next, call.2.rest = .await .worker next → s.shared.callbackRunning = false) :
    ∃ thread t, s.advance streamReady thread true = some t := by
  have hinnermost : s.calls.innermost call.1 = some call.2 := by
    refine h.nested.innermost (fun other hother => ?_) hcall
    cases hcallback : other.2.isCallback with
    | false => rfl
    | true => exact absurd ((calling_iff hcast).mpr ⟨other, hother, hcallback⟩) hnone
  obtain ⟨hthreads, hgate⟩ := ready_of_not_calling hcast hsafe hnone call.1
  refine ⟨call.1, LockSystem.exists_advance hinnermost hlock ?_⟩
  intro condition next hrest
  cases condition with
  | streamingThreads => exact hthreads
  | callbacks => exact hgate
  | worker => simp [streamReady, hworker next hrest]

/-- **Some call goes on.**  A callback does; when there is none, the call that holds the mutex does;
when none holds it, the recovery does, if it runs; and when it does not, any call does. -/
theorem StreamBooks.exists_advance (h : StreamBooks false s) (hcalls : s.calls ≠ []) :
    ∃ thread t, s.advance streamReady thread true = some t := by
  obtain ⟨roles, hcast, hsafe⟩ := h.roles
  by_cases hcalling : Calling roles
  · obtain ⟨r, hr, hmark⟩ := hcalling
    obtain ⟨call, hcall, hhas⟩ := hcast.exists_call hr
    have hcallback : call.2.isCallback = true := (congrArg Marks.isCallback hhas.marks).trans hmark
    have hout : call.2.inside = false :=
      (congrArg Marks.inside hhas.marks).trans (StreamRole.inside_eq_false hmark)
    obtain ⟨hlock, hawait⟩ := callback_goes_on hcast hcall hcallback
    exact ⟨call.1, LockSystem.exists_advance (h.disciplined.innermost_outside hcall hout)
      (fun next hrest => absurd hrest (hlock next))
      fun condition next hrest => absurd hrest (hawait condition next)⟩
  · cases howner : s.owner with
    | some thread =>
      have hheld : thread ∈ s.calls.threadsIn Lib.Frame.holds := by
        rw [h.disciplined.held, howner]
        exact List.mem_singleton_self thread
      obtain ⟨call, hcall, -, hholds⟩ := Calls.mem_threadsIn.mp hheld
      obtain ⟨r, -, hhas⟩ := hcast.exists_role hcall
      have hmark : r.marks.holds = true := (congrArg Marks.holds hhas.marks).symm.trans hholds
      have hplays := hhas.plays
      refine h.advance_of_not_calling hcast hsafe hcalling hcall ?_ ?_
      · intro next hrest
        rw [hrest] at hplays
        obtain ⟨r', hlock, -⟩ := hplays
        have hfree : r.marks.holds = false := ((streamRules false).marks_lock hlock).1
        rw [hmark] at hfree
        cases hfree
      · intro next hrest
        rw [hrest] at hplays
        obtain ⟨r', hawait, -⟩ := hplays
        cases hawait with
        | worker => cases hmark
    | none =>
      cases hrunning : s.shared.callbackRunning with
      | true =>
        -- the recovery waits at most for callbacks
        have hone : 0 < roles.countP StreamRole.recovering := by
          rw [hsafe.running, hrunning]
          decide
        obtain ⟨r, hr, hrecovering⟩ := List.countP_pos_iff.mp hone
        obtain ⟨call, hcall, hhas⟩ := hcast.exists_call hr
        have hplays := hhas.plays
        refine h.advance_of_not_calling hcast hsafe hcalling hcall (fun _ _ => howner) ?_
        intro next hrest
        rw [hrest] at hplays
        obtain ⟨r', hawait, -⟩ := hplays
        cases hawait with
        | worker => cases hrecovering
      | false =>
        obtain ⟨call, hcall⟩ := List.exists_mem_of_ne_nil _ hcalls
        exact h.advance_of_not_calling hcast hsafe hcalling hcall (fun _ _ => howner)
          fun _ _ => hrunning

/-- No call of an audio stream waits for a callback that waits for it. -/
theorem StreamBooks.not_deadlocked (h : StreamBooks false s) : ¬ s.Deadlocked := by
  obtain ⟨roles, hcast, -⟩ := h.roles
  have hnone : ∀ {thread : ThreadId} {f : Lib.Frame StreamFields StreamWait},
      s.calls.innermost thread = some f → f.isCallback = true → f.waiting = true → False := by
    intro thread f hin hcallback hwaiting
    have hmem : (thread, f) ∈ s.calls := LockSystem.innermost_mem hin
    obtain ⟨next, hrest⟩ := h.disciplined.waits (thread, f) hmem hwaiting
    exact (callback_goes_on hcast hmem hcallback).1 next hrest
  rintro (⟨-, -, -, -, -, -, -, -, other, g, hother, hcallback, hwaiting⟩ |
    ⟨thread, f, -, hin, hcallback, hwaiting⟩)
  · exact hnone hother hcallback hwaiting
  · exact hnone hin hcallback hwaiting

theorem StreamBooks.goOn {program : StreamProgram} (hkeeps : program.Keeps)
    {moves : List (ThreadId × Bool)} (h : StreamBooks program.locking s)
    (hrun : s.goOn streamReady moves = some t) : StreamBooks program.locking t := by
  induction moves generalizing s with
  | nil =>
    obtain rfl := Option.some.inj hrun
    exact h
  | cons move moves ih =>
    rw [LockSystem.goOn, List.foldlM_cons] at hrun
    obtain ⟨s', hmove, hmoves⟩ := Option.bind_eq_some_iff.mp hrun
    have hstep : program.perform s (.advance move.1 move.2) = some s' := hmove
    exact ih (h.step hkeeps hstep) hmoves

end Audio

/-- **The calls of an audio stream return.**  No call that holds the mutex waits for one that waits
for it; and from every state that a run reaches, if nothing new is called, the calls in progress
take no more than a bounded number of steps, in any order, and until all have returned one of them
can take its next step. -/
theorem audio_calls_return {tr : List StreamAct} {s : StreamSystem}
    (h : audioProgram.machine.Trace tr s) :
    ¬ s.Deadlocked ∧ ∀ moves t, s.goOn streamReady moves = some t →
      moves.length ≤ s.steps ∧
        (t.calls = [] ∨ ∃ thread u, t.advance streamReady thread true = some u) := by
  have hbooks := streamBooks_of_trace audioProgram.keeps h
  refine ⟨hbooks.not_deadlocked, ?_⟩
  intro moves t hrun
  refine ⟨Nat.le_of_add_right_le (LockSystem.steps_goOn hrun), ?_⟩
  by_cases hcalls : t.calls = []
  · exact .inl hcalls
  · exact .inr ((hbooks.goOn audioProgram.keeps hrun).exists_advance hcalls)

/-- An end of stream is reported on the thread that starts the pipeline, with the mutex held. -/
def failureDuringStart : List StreamAct :=
  .call 1 .start :: advances 1 8 ++ [.callback 1 (.bus true)]

/-- Where a video stream would wait for itself the callback of an audio stream goes on, and the call
that it came from after it. -/
theorem audio_calls_return_failure :
    ∃ s, audioProgram.machine.Trace failureDuringStart s ∧ s.owner = some 1 ∧
      (∃ f, s.calls.innermost 1 = some f ∧ f.isCallback = true) ∧
      ∃ thread u, s.advance streamReady thread true = some u := by
  have htrace : ∃ s, audioProgram.machine.Trace failureDuringStart s ∧ s.owner = some 1 ∧
      ∃ f, s.calls.innermost 1 = some f ∧ f.isCallback = true :=
    ⟨_, Machine.driven_trace rfl, rfl, _, rfl, rfl⟩
  obtain ⟨s, hs, howner, f, hin, hcallback⟩ := htrace
  obtain ⟨-, hnext⟩ := (audio_calls_return hs).2 [] s rfl
  refine ⟨s, hs, howner, ⟨f, hin, hcallback⟩, hnext.resolve_left fun hnil => ?_⟩
  rw [hnil] at hin
  cases hin

end Video

end LivekitBridge
