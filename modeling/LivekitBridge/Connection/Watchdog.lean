import LivekitBridge.Lib.Machine
import LivekitBridge.Utils.Chrono

/-!
# The connection watchdog

`connection_watchdog.cpp`.  The watchdog ends the process when the room has been
unhealthy for `recovery_timeout`.  An outage opens with the construction or with a state
other than Connected, and carries the deadline it was given; a later such state finds it
open and leaves it alone.

Three parties take the lock.  The constructor and the deliverer of states read the clock
first, and then enter their section; each call is over before the next begins.  `stop` may
come at any time.  The watchdog's own thread goes from one wait to the next in one section,
and its waits may end at any time, with or without a notification.

The thread waits for the deadline it saw and then looks at the outage it finds, which may
be another one.  What makes this safe is that it compares with the deadline of the outage
it finds: `Uninterrupted` says that the outage now open has been open since it began, so an
exit at `now` comes after that outage's full timeout, as far as the deadline is the time it was
meant to be.  Time points are nanoseconds in 64 bits, and the deadline is computed unchecked: a
timeout that is too long for them gives a deadline that is over at once
(`not_exit_after_full_outage`).
-/

namespace LivekitBridge

open Lib

inductive ConnectionState
  | disconnected
  | connected
  | reconnecting
deriving DecidableEq, Repr

/-- `RuntimeConfig::Watchdog`; the timeout is in milliseconds. -/
structure WatchdogConfig where
  enabled : Bool
  recoveryTimeout : Int
deriving DecidableEq, Repr

structure Outage where
  since : Int
  deadline : Int
deriving DecidableEq, Repr

/-- What the mutex of `ConnectionWatchdog` guards, with `config_`. -/
structure Watchdog where
  config : WatchdogConfig
  stopRequested : Bool
  outage : Option Outage
deriving DecidableEq, Repr

/-- Why an outage may begin or end: the constructor's `startup_connect_pending`, or a
state. -/
inductive Report
  | startupConnectPending
  | stateChanged (state : ConnectionState)
deriving DecidableEq, Repr

/-- The report ends an outage. -/
def Report.isConnected (report : Report) : Bool := report == .stateChanged .connected

/-- Where the watchdog's thread is. -/
inductive WatchdogThread
  /-- There is none: the watchdog is disabled. -/
  | absent
  /-- before the lock of `run` -/
  | starting
  /-- in the wait for an outage -/
  | waiting
  /-- in the `wait_until` of an outage's deadline -/
  | waitingUntil (deadline : Int)
  /-- `run` returned. -/
  | ended
  /-- on its way to `std::_Exit` -/
  | exiting
deriving DecidableEq, Repr

/-- What a step did. -/
inductive WatchdogEvent
  /-- The constructor or `onStateChanged` read the clock. -/
  | arrived (report : Report) (now : Int)
  /-- The section set `outage_`. -/
  | began (since : Int)
  /-- The section left `outage_` alone. -/
  | kept
  /-- The section of a Connected state is over. -/
  | cleared
  /-- The section of `stop` is over. -/
  | stopped
  /-- The thread decided to exit, at the time it read. -/
  | decided (now : Int)
deriving DecidableEq, Repr

namespace Watchdog

/-- The section of `stop`. -/
def stop (w : Watchdog) : Watchdog := { w with stopRequested := true, outage := none }

/-- The section of `clearOutage`. -/
def clearOutage (w : Watchdog) : Watchdog :=
  if !w.config.enabled then w else { w with outage := none }

/-- The section of `startOutageTimer`, with its result. -/
def startOutageTimer (w : Watchdog) (now : Int) : Watchdog × Bool :=
  if !w.config.enabled then (w, false)
  else if w.outage.isSome then (w, false)
  else ({ w with outage := some ⟨now, timeAfter now w.config.recoveryTimeout⟩ }, true)

/-- The section of `onStateChanged`, and of the constructor's `startOutage`. -/
def report (w : Watchdog) (report : Report) (now : Int) : Watchdog × List WatchdogEvent :=
  if report.isConnected then (w.clearOutage, [.cleared])
  else ((w.startOutageTimer now).1,
    if (w.startOutageTimer now).2 then [.began now] else [.kept])

/-- `run`, from the top of its loop to its next wait. -/
def loopTop (w : Watchdog) : WatchdogThread :=
  if w.stopRequested then .ended
  else match w.outage with
    | none => .waiting
    | some outage => .waitingUntil outage.deadline

/-- `run`, from the end of a wait to the next. -/
def resume (w : Watchdog) (now : Int) :
    WatchdogThread → Watchdog × WatchdogThread × List WatchdogEvent
  | .starting => (w, w.loopTop, [])
  | .waiting =>
    if w.stopRequested || w.outage.isSome then (w, w.loopTop, []) else (w, .waiting, [])
  | .waitingUntil _ =>
    if w.stopRequested || w.outage.all (fun outage => now < outage.deadline) then
      (w, w.loopTop, [])
    else ({ w with outage := none }, .exiting, [.decided now])
  | thread => (w, thread, [])

end Watchdog

/-! ### Runs of the watchdog -/

/-- Where the constructor or the deliverer of states is. -/
inductive Deliverer
  /-- in the constructor, which has started the thread -/
  | constructing
  /-- between two calls -/
  | idle
  /-- in a call that has read the clock and has not entered its section -/
  | sampled (report : Report) (now : Int)
deriving DecidableEq, Repr

/-- The watchdog, its thread, the deliverer and the clock. -/
structure WatchdogState where
  watchdog : Watchdog
  thread : WatchdogThread
  deliverer : Deliverer
  clock : Int
deriving DecidableEq, Repr

/-- One section of one party, or the passing of time. -/
inductive WatchdogStep : WatchdogState → List WatchdogEvent → WatchdogState → Prop
  | tick (later : Int) (s : WatchdogState) : s.clock ≤ later →
      WatchdogStep s [] { s with clock := later }
  | startOutage (s : WatchdogState) : s.deliverer = .constructing →
      WatchdogStep s [.arrived .startupConnectPending s.clock]
        { s with deliverer := .sampled .startupConnectPending s.clock }
  | onStateChanged (state : ConnectionState) (s : WatchdogState) : s.deliverer = .idle →
      WatchdogStep s [.arrived (.stateChanged state) s.clock]
        { s with deliverer := .sampled (.stateChanged state) s.clock }
  | report (report : Report) (now : Int) (s : WatchdogState) :
      s.deliverer = .sampled report now →
      WatchdogStep s (s.watchdog.report report now).2
        { s with watchdog := (s.watchdog.report report now).1, deliverer := .idle }
  | stop (s : WatchdogState) : WatchdogStep s [.stopped] { s with watchdog := s.watchdog.stop }
  | resume (s : WatchdogState) :
      WatchdogStep s (s.watchdog.resume s.clock s.thread).2.2
        { s with
          watchdog := (s.watchdog.resume s.clock s.thread).1
          thread := (s.watchdog.resume s.clock s.thread).2.1 }

/-- A watchdog whose constructor has started the thread, or has nothing to do. -/
def WatchdogState.initial (config : WatchdogConfig) (clock : Int) : WatchdogState :=
  if config.enabled then ⟨⟨config, false, none⟩, .starting, .constructing, clock⟩
  else ⟨⟨config, false, none⟩, .absent, .idle, clock⟩

def watchdogMachine (config : WatchdogConfig) : Machine WatchdogState WatchdogEvent where
  start s := ∃ clock, s = .initial config clock
  step := WatchdogStep

/-! ### The outage that is open -/

/-- A Connected state or a stop was processed. -/
def WatchdogEvent.interrupts : WatchdogEvent → Bool
  | .cleared => true
  | .stopped => true
  | _ => false

/-- The call that read `now` came in, and nothing interrupted since. -/
def Pending (tr : List WatchdogEvent) (report : Report) (now : Int) : Prop :=
  ∃ pre post, tr = pre ++ .arrived report now :: post ∧ ∀ e ∈ post, e.interrupts = false

/-- An outage began at `since`, with the construction or with a state other than
Connected, and nothing interrupted since. -/
def Uninterrupted (tr : List WatchdogEvent) (since : Int) : Prop :=
  ∃ report pre mid post, Report.isConnected report = false ∧
    tr = pre ++ .arrived report since :: (mid ++ .began since :: post) ∧
    ∀ e ∈ mid ++ post, e.interrupts = false

theorem Pending.append {tr evs : List WatchdogEvent} {report : Report} {now : Int}
    (h : Pending tr report now) (hevs : ∀ e ∈ evs, e.interrupts = false) :
    Pending (tr ++ evs) report now := by
  obtain ⟨pre, post, rfl, hpost⟩ := h
  refine ⟨pre, post ++ evs, by simp, ?_⟩
  intro e he
  rcases List.mem_append.mp he with he | he
  · exact hpost e he
  · exact hevs e he

theorem Uninterrupted.append {tr evs : List WatchdogEvent} {since : Int}
    (h : Uninterrupted tr since) (hevs : ∀ e ∈ evs, e.interrupts = false) :
    Uninterrupted (tr ++ evs) since := by
  obtain ⟨report, pre, mid, post, hreport, rfl, hquiet⟩ := h
  refine ⟨report, pre, mid, post ++ evs, hreport, by simp, ?_⟩
  intro e he
  rw [← List.append_assoc] at he
  rcases List.mem_append.mp he with he | he
  · exact hquiet e he
  · exact hevs e he

/-- The call that finds no outage opens one, which began when the call came in. -/
theorem Pending.began {tr : List WatchdogEvent} {report : Report} {now : Int}
    (h : Pending tr report now) (hreport : report.isConnected = false) :
    Uninterrupted (tr ++ [.began now]) now := by
  obtain ⟨pre, post, rfl, hpost⟩ := h
  exact ⟨report, pre, post, [], hreport, by simp, by simpa using hpost⟩

/-- While no stop is requested, the outage that is open was not interrupted, and neither
was the call under way. -/
structure WatchdogBooks (config : WatchdogConfig) (tr : List WatchdogEvent) (s : WatchdogState) :
    Prop where
  config_eq : s.watchdog.config = config
  enabled : s.watchdog.config.enabled = false → s.watchdog.outage = none
  opened : s.watchdog.stopRequested = false → ∀ outage, s.watchdog.outage = some outage →
    outage.deadline = timeAfter outage.since config.recoveryTimeout ∧
      Uninterrupted tr outage.since
  pending : s.watchdog.stopRequested = false → ∀ report now,
    s.deliverer = .sampled report now → Pending tr report now

namespace Watchdog

variable (w : Watchdog)

/-- What a report does: it ends an outage, opens one, or changes nothing. -/
theorem report_cases (r : Report) (now : Int) :
    (r.isConnected = true ∧ w.report r now = (w.clearOutage, [.cleared])) ∨
    (r.isConnected = false ∧ w.config.enabled = true ∧ w.outage = none ∧
      w.report r now =
        ({ w with outage := some ⟨now, timeAfter now w.config.recoveryTimeout⟩ }, [.began now])) ∨
    (r.isConnected = false ∧ w.report r now = (w, [.kept])) := by
  unfold report startOutageTimer
  cases hr : r.isConnected with
  | true => exact .inl ⟨rfl, rfl⟩
  | false =>
    cases hw : w.config.enabled with
    | false => exact .inr (.inr ⟨rfl, rfl⟩)
    | true =>
      cases ho : w.outage with
      | none => exact .inr (.inl ⟨rfl, rfl, rfl, rfl⟩)
      | some outage => exact .inr (.inr ⟨rfl, rfl⟩)

theorem clearOutage_eq (h : w.config.enabled = false → w.outage = none) :
    w.clearOutage = { w with outage := none } := by
  unfold clearOutage
  cases hw : w.config.enabled with
  | false => simp [← h hw]
  | true => simp

@[simp] theorem report_stopRequested (r : Report) (now : Int) :
    (w.report r now).1.stopRequested = w.stopRequested := by
  rcases w.report_cases r now with ⟨-, heq⟩ | ⟨-, -, -, heq⟩ | ⟨-, heq⟩
  · rw [heq]
    unfold clearOutage
    split <;> rfl
  · rw [heq]
  · rw [heq]

@[simp] theorem report_config (r : Report) (now : Int) : (w.report r now).1.config = w.config := by
  rcases w.report_cases r now with ⟨-, heq⟩ | ⟨-, -, -, heq⟩ | ⟨-, heq⟩
  · rw [heq]
    unfold clearOutage
    split <;> rfl
  · rw [heq]
  · rw [heq]

theorem report_outage (h : w.config.enabled = true) (r : Report) (now : Int) :
    (w.report r now).1.outage.isSome = !r.isConnected := by
  unfold report clearOutage startOutageTimer
  cases r.isConnected with
  | true => simp [h]
  | false => cases ho : w.outage <;> simp [h, ho]

/-- What the end of a wait does: it decides to exit, or changes nothing but where the
thread is. -/
theorem resume_cases (now : Int) (thread : WatchdogThread) :
    (∃ outage, w.stopRequested = false ∧ w.outage = some outage ∧ outage.deadline ≤ now ∧
      w.resume now thread = ({ w with outage := none }, .exiting, [.decided now])) ∨
    ∃ next, w.resume now thread = (w, next, []) := by
  cases thread with
  | starting => exact .inr ⟨_, rfl⟩
  | waiting =>
    right
    simp only [resume]
    split
    · exact ⟨_, rfl⟩
    · exact ⟨_, rfl⟩
  | waitingUntil deadline =>
    simp only [resume]
    split
    · exact .inr ⟨_, rfl⟩
    · rename_i hgo
      left
      cases hstop : w.stopRequested with
      | true => simp [hstop] at hgo
      | false =>
        cases ho : w.outage with
        | none => simp [ho] at hgo
        | some outage => exact ⟨outage, rfl, rfl, by simpa [hstop, ho] using hgo, rfl⟩
  | _ => exact .inr ⟨_, rfl⟩

end Watchdog

namespace WatchdogBooks

variable {config : WatchdogConfig} {tr : List WatchdogEvent} {s : WatchdogState}

theorem initial (config : WatchdogConfig) (clock : Int) :
    WatchdogBooks config [] (.initial config clock) := by
  unfold WatchdogState.initial
  split
  · exact ⟨rfl, by simp, by simp, by simp⟩
  · exact ⟨rfl, by simp, by simp, by simp⟩

/-- A step that leaves the watchdog and the call under way alone. -/
theorem quiet (h : WatchdogBooks config tr s) {evs : List WatchdogEvent} {t : WatchdogState}
    (hevs : ∀ e ∈ evs, e.interrupts = false) (hwatchdog : t.watchdog = s.watchdog)
    (hdeliverer : ∀ report now, t.deliverer = .sampled report now →
      s.deliverer = .sampled report now ∨ Pending (tr ++ evs) report now) :
    WatchdogBooks config (tr ++ evs) t := by
  refine ⟨hwatchdog ▸ h.config_eq, hwatchdog ▸ h.enabled, ?_, ?_⟩
  · intro hstop outage ho
    rw [hwatchdog] at hstop ho
    obtain ⟨hdeadline, hopen⟩ := h.opened hstop outage ho
    exact ⟨hdeadline, hopen.append hevs⟩
  · intro hstop report now hcall
    rw [hwatchdog] at hstop
    rcases hdeliverer report now hcall with hcall | hcall
    · exact (h.pending hstop report now hcall).append hevs
    · exact hcall

/-- A call that comes in reads the clock. -/
theorem arrive (h : WatchdogBooks config tr s) (report : Report) :
    WatchdogBooks config (tr ++ [.arrived report s.clock])
      { s with deliverer := .sampled report s.clock } := by
  refine h.quiet (by simp [WatchdogEvent.interrupts]) rfl ?_
  intro r now hr
  obtain ⟨rfl, rfl⟩ : report = r ∧ s.clock = now := by simpa using hr
  exact .inr ⟨tr, [], rfl, by simp⟩

theorem report (h : WatchdogBooks config tr s) {report : Report} {now : Int}
    (hcall : s.deliverer = .sampled report now) :
    WatchdogBooks config (tr ++ (s.watchdog.report report now).2)
      { s with watchdog := (s.watchdog.report report now).1, deliverer := .idle } := by
  rcases s.watchdog.report_cases report now with
    ⟨hr, heq⟩ | ⟨hr, henabled, hnone, heq⟩ | ⟨hr, heq⟩
  · rw [heq, s.watchdog.clearOutage_eq h.enabled]
    exact ⟨h.config_eq, fun _ => rfl, by simp, by simp⟩
  · rw [heq]
    refine ⟨h.config_eq, ?_, ?_, by simp⟩
    · intro hdisabled
      rw [show s.watchdog.config.enabled = false from hdisabled] at henabled
      cases henabled
    · intro hstop outage ho
      obtain rfl := Option.some.inj ho
      exact ⟨by rw [h.config_eq], (h.pending hstop report now hcall).began hr⟩
  · rw [heq]
    exact h.quiet (by simp [WatchdogEvent.interrupts]) rfl (by simp)

theorem step {evs : List WatchdogEvent} {t : WatchdogState} (h : WatchdogBooks config tr s)
    (hs : WatchdogStep s evs t) : WatchdogBooks config (tr ++ evs) t := by
  cases hs with
  | tick later _ hlater => exact h.quiet (by simp) rfl fun _ _ hcall => .inl hcall
  | startOutage _ hcall => exact h.arrive _
  | onStateChanged state _ hcall => exact h.arrive _
  | report r now _ hcall => exact h.report hcall
  | stop => exact ⟨h.config_eq, fun _ => rfl, by simp [Watchdog.stop], by simp [Watchdog.stop]⟩
  | resume =>
    rcases s.watchdog.resume_cases s.clock s.thread with ⟨outage, hstop, ho, hdue, heq⟩ | ⟨next, heq⟩
    · rw [heq]
      refine ⟨h.config_eq, fun _ => rfl, by simp, ?_⟩
      intro _ report now hcall
      exact (h.pending hstop report now hcall).append (by simp [WatchdogEvent.interrupts])
    · rw [heq]
      exact h.quiet (by simp) rfl fun _ _ hcall => .inl hcall

end WatchdogBooks

theorem watchdogBooks_of_trace {config : WatchdogConfig} {tr : List WatchdogEvent}
    {s : WatchdogState} (h : (watchdogMachine config).Trace tr s) : WatchdogBooks config tr s := by
  refine Machine.Trace.invariant ?_ ?_ h
  · rintro _ ⟨clock, rfl⟩
    exact WatchdogBooks.initial config clock
  · intro tr evs s t _ hbooks hs
    exact hbooks.step hs

/-! ### The exit -/

variable {config : WatchdogConfig} {tr evs : List WatchdogEvent} {s t : WatchdogState}

/-- A step that decides finds the outage it decides on open and due. -/
theorem WatchdogBooks.decided (h : WatchdogBooks config tr s) (hs : WatchdogStep s evs t)
    {now : Int} (he : .decided now ∈ evs) :
    evs = [.decided now] ∧
      ∃ since, Uninterrupted tr since ∧ timeAfter since config.recoveryTimeout ≤ now := by
  cases hs with
  | resume =>
    rcases s.watchdog.resume_cases s.clock s.thread with ⟨outage, hstop, ho, hdue, heq⟩ | ⟨next, heq⟩
    · rw [heq] at he ⊢
      obtain rfl : now = s.clock := by simpa using he
      obtain ⟨hdeadline, hopen⟩ := h.opened hstop outage ho
      exact ⟨rfl, outage.since, hopen, hdeadline ▸ hdue⟩
    · rw [heq] at he
      cases he
  | report r now' _ hcall =>
    rcases s.watchdog.report_cases r now' with ⟨-, heq⟩ | ⟨-, -, -, heq⟩ | ⟨-, heq⟩
    · rw [heq] at he
      simp at he
    · rw [heq] at he
      simp at he
    · rw [heq] at he
      simp at he
  | _ => simp at he

/-- Only a Connected state, a stop and an exit close an outage. -/
theorem WatchdogStep.outage_eq (hs : WatchdogStep s evs t) {outage : Outage}
    (ho : s.watchdog.outage = some outage)
    (hevs : ∀ e ∈ evs, e.interrupts = false ∧ ∀ now, e ≠ .decided now) :
    t.watchdog.outage = some outage := by
  cases hs with
  | report r now _ hcall =>
    rcases s.watchdog.report_cases r now with ⟨-, heq⟩ | ⟨-, -, hnone, heq⟩ | ⟨-, heq⟩
    · rw [heq] at hevs
      simp [WatchdogEvent.interrupts] at hevs
    · rw [hnone] at ho
      cases ho
    · rw [heq]
      exact ho
  | stop => simp [WatchdogEvent.interrupts] at hevs
  | resume =>
    rcases s.watchdog.resume_cases s.clock s.thread with ⟨_, -, -, -, heq⟩ | ⟨next, heq⟩
    · rw [heq] at hevs
      simp at hevs
    · rw [heq]
      exact ho
  | _ => exact ho

/-- Every outage that begins in the run has a deadline that is a time point. -/
def DeadlinesFit (config : WatchdogConfig) (tr : List WatchdogEvent) : Prop :=
  ∀ since, .began since ∈ tr → TimeFits since config.recoveryTimeout

theorem Uninterrupted.fits {since : Int} (h : Uninterrupted tr since)
    (hfits : DeadlinesFit config tr) : TimeFits since config.recoveryTimeout := by
  obtain ⟨report, pre, mid, post, -, rfl, -⟩ := h
  exact hfits since (by simp)

/-- A decision comes when the deadline of an outage is over that was not interrupted. -/
theorem decided_of_trace (h : (watchdogMachine config).Trace tr s) {earlier later} {now : Int}
    (htr : tr = earlier ++ .decided now :: later) :
    ∃ since, Uninterrupted earlier since ∧ timeAfter since config.recoveryTimeout ≤ now := by
  refine h.at_event (P := fun pre e => ∀ now, e = .decided now →
    ∃ since, Uninterrupted pre since ∧ timeAfter since config.recoveryTimeout ≤ now) ?_
    earlier _ later htr now rfl
  rintro tr evs s t htrace hs pre e post hevs now rfl
  have he : .decided now ∈ evs := by rw [hevs]; simp
  obtain ⟨hone, since, hopen, hdue⟩ := (watchdogBooks_of_trace htrace).decided hs he
  have hpre : pre = [] := by
    rw [hone] at hevs
    cases pre with
    | nil => rfl
    | cons e pre => simp at hevs
  rw [hpre, List.append_nil]
  exact ⟨since, hopen, hdue⟩

/-- **The exit comes after a full outage**, in a run whose deadlines fit.  A decision to exit at
`now` follows an outage that began at some `since`, at least `recovery_timeout` earlier, with no
Connected state and no stop processed in between.  While an outage is open, a further state other
than Connected leaves it as it is, and so does every step but a Connected state, a stop and the
exit. -/
theorem exit_after_full_outage (h : (watchdogMachine config).Trace tr s)
    (hfits : DeadlinesFit config tr) :
    (∀ earlier now later, tr = earlier ++ .decided now :: later →
      ∃ since, Uninterrupted earlier since ∧ config.recoveryTimeout * 1000000 ≤ now - since) ∧
    (∀ outage, s.watchdog.outage = some outage → ∀ report now, Report.isConnected report = false →
      (s.watchdog.report report now).1.outage = some outage) ∧
    ∀ outage, s.watchdog.outage = some outage → ∀ evs t, (watchdogMachine config).step s evs t →
      (∀ e ∈ evs, e.interrupts = false ∧ ∀ now, e ≠ .decided now) →
        t.watchdog.outage = some outage := by
  refine ⟨?_, ?_, ?_⟩
  · intro earlier now later htr
    obtain ⟨since, hopen, hdue⟩ := decided_of_trace h htr
    have hearlier : DeadlinesFit config earlier := by
      intro since hmem
      exact hfits since (by rw [htr]; exact List.mem_append_left _ hmem)
    rw [timeAfter_eq (hopen.fits hearlier)] at hdue
    exact ⟨since, hopen, by omega⟩
  · intro outage ho report now hreport
    rcases s.watchdog.report_cases report now with ⟨hr, -⟩ | ⟨-, -, hnone, -⟩ | ⟨-, heq⟩
    · rw [hreport] at hr
      cases hr
    · rw [ho] at hnone
      cases hnone
    · rw [heq]
      exact ho
  · intro outage ho evs t hs hevs
    exact WatchdogStep.outage_eq hs ho hevs

/-- A watchdog that never heard of the room, 80 ms after its construction. -/
def neverConnected : WatchdogState := ⟨⟨⟨true, 75⟩, false, none⟩, .exiting, .idle, 80000000⟩

/-- It exits, and its outage began with the construction. -/
theorem exit_after_full_outage_startup :
    ∃ since, Uninterrupted [.arrived .startupConnectPending 0, .began 0] since ∧
      (75 : Int) * 1000000 ≤ 80000000 - since := by
  have h0 : (watchdogMachine ⟨true, 75⟩).Trace [] (.initial ⟨true, 75⟩ 0) := .start ⟨0, rfl⟩
  have h1 := h0.step (WatchdogStep.startOutage _ rfl)
  have h2 := h1.step (WatchdogStep.report .startupConnectPending 0 _ rfl)
  have h3 := h2.step (WatchdogStep.resume _)
  have h4 := h3.step (WatchdogStep.tick 80000000 _ (by decide))
  have h5 : (watchdogMachine ⟨true, 75⟩).Trace
      [.arrived .startupConnectPending 0, .began 0, .decided 80000000] neverConnected :=
    h4.step (WatchdogStep.resume _)
  have hfits : DeadlinesFit ⟨true, 75⟩
      [.arrived .startupConnectPending 0, .began 0, .decided 80000000] := by
    intro since hmem
    obtain rfl : since = 0 := by simpa using hmem
    exact ⟨by decide, by decide⟩
  exact (exit_after_full_outage h5 hfits).1 _ 80000000 [] rfl

/-- A timeout of 10000000000 s. -/
def longTimeout : WatchdogConfig := ⟨true, 10000000000000⟩

/-- **A timeout that does not fit**: a minute after the start of the clock the watchdog exits as
soon as it is constructed. -/
theorem not_exit_after_full_outage :
    ¬ ∀ (config : WatchdogConfig) (tr : List WatchdogEvent) (s : WatchdogState),
      (watchdogMachine config).Trace tr s →
      ∀ earlier now later, tr = earlier ++ .decided now :: later →
        ∃ since, Uninterrupted earlier since ∧
          config.recoveryTimeout * 1000000 ≤ now - since := by
  intro hclaim
  have h0 : (watchdogMachine longTimeout).Trace [] (.initial longTimeout 60000000000) :=
    .start ⟨_, rfl⟩
  have h1 := h0.step (WatchdogStep.startOutage _ rfl)
  have h2 := h1.step (WatchdogStep.report .startupConnectPending 60000000000 _ rfl)
  have h3 := h2.step (WatchdogStep.resume _)
  have h4 : (watchdogMachine longTimeout).Trace
      [.arrived .startupConnectPending 60000000000, .began 60000000000, .decided 60000000000]
      ⟨⟨longTimeout, false, none⟩, .exiting, .idle, 60000000000⟩ :=
    h3.step (WatchdogStep.resume _)
  obtain ⟨since, hopen, hle⟩ := hclaim _ _ _ h4
    [.arrived .startupConnectPending 60000000000, .began 60000000000] 60000000000 [] rfl
  -- the outage began just now
  obtain ⟨report, pre, mid, post, -, htr, -⟩ := hopen
  have hmem : WatchdogEvent.arrived report since ∈
      [.arrived .startupConnectPending 60000000000, .began 60000000000] := by
    rw [htr]
    simp
  obtain ⟨-, rfl⟩ : report = .startupConnectPending ∧ since = 60000000000 := by simpa using hmem
  exact absurd hle (by decide)

end LivekitBridge
