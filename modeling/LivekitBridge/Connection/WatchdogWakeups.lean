import LivekitBridge.Connection.Watchdog
import LivekitBridge.Lib.Simulation

/-!
# The watchdog's condition variable

`connection_watchdog.cpp`, with `wake_`.  `Connection.Watchdog` lets a wait end at any time,
which is enough for what the watchdog must not do.  Here a wait ends when it is notified or
when its time is over, and may end without either; the question is whether the thread can
sleep while it has something to do.

A section that changes `outage_`, and that of `stop`, is followed by a `notify_all` outside the
lock.  A notification reaches the thread only if it is in a wait.  So between the section and
the notification the thread may be asleep although there is something to do, and that is the
only time (`Attentive`).  The wait for a deadline has no predicate and may be the wait for an
outage that is over: it ends soon enough, because the end of that outage is notified too,
whatever the deadline of the next one is.
-/

namespace LivekitBridge

open Lib

/-- The thread is in a wait on `wake_`. -/
def WatchdogThread.isWaiting : WatchdogThread → Bool
  | .waiting => true
  | .waitingUntil _ => true
  | _ => false

/-- Whether `clearOutage` or `startOutageTimer` goes on to `notify_all`. -/
def Watchdog.notifies (w : Watchdog) (report : Report) (now : Int) : Bool :=
  if report.isConnected then w.config.enabled && w.outage.isSome else (w.startOutageTimer now).2

/-- The watchdog with its condition variable. -/
structure WakingWatchdog where
  base : WatchdogState
  /-- The constructor or the deliverer is past its section and before its `notify_all`. -/
  notifying : Bool
  /-- The calls of `stop` past their section and before their `notify_all`. -/
  stopping : Nat
  /-- The thread is in a wait that was notified. -/
  notified : Bool
deriving DecidableEq, Repr

namespace WakingWatchdog

def notifyAll (s : WakingWatchdog) : WakingWatchdog :=
  { s with notified := s.notified || s.base.thread.isWaiting }

/-- The thread takes the lock and goes on to its next wait. -/
def turn (s : WakingWatchdog) : WakingWatchdog :=
  { s with
    base := { s.base with
      watchdog := (s.base.watchdog.resume s.base.clock s.base.thread).1
      thread := (s.base.watchdog.resume s.base.clock s.base.thread).2.1 }
    notified := false }

/-- Nothing but a spurious wakeup ends the thread's wait now. -/
def Asleep (s : WakingWatchdog) : Prop :=
  s.notified = false ∧
    (s.base.thread = .waiting ∨ ∃ d, s.base.thread = .waitingUntil d ∧ s.base.clock < d)

/-- No `notify_all` is still to come. -/
def Settled (s : WakingWatchdog) : Prop := s.notifying = false ∧ s.stopping = 0

end WakingWatchdog

/-- One section, one notification, or the passing of time. -/
inductive WakingStep : WakingWatchdog → List WatchdogEvent → WakingWatchdog → Prop
  | tick (later : Int) (s : WakingWatchdog) : s.base.clock ≤ later →
      WakingStep s [] { s with base := { s.base with clock := later } }
  | startOutage (s : WakingWatchdog) : s.base.deliverer = .constructing →
      WakingStep s [.arrived .startupConnectPending s.base.clock]
        { s with
          base := { s.base with deliverer := .sampled .startupConnectPending s.base.clock } }
  | onStateChanged (state : ConnectionState) (s : WakingWatchdog) :
      s.base.deliverer = .idle → s.notifying = false →
      WakingStep s [.arrived (.stateChanged state) s.base.clock]
        { s with
          base := { s.base with deliverer := .sampled (.stateChanged state) s.base.clock } }
  | report (report : Report) (now : Int) (s : WakingWatchdog) :
      s.base.deliverer = .sampled report now →
      WakingStep s (s.base.watchdog.report report now).2
        { s with
          base := { s.base with
            watchdog := (s.base.watchdog.report report now).1, deliverer := .idle }
          notifying := s.base.watchdog.notifies report now }
  | notify (s : WakingWatchdog) : s.notifying = true →
      WakingStep s [] { s.notifyAll with notifying := false }
  | stop (s : WakingWatchdog) :
      WakingStep s [.stopped]
        { s with
          base := { s.base with watchdog := s.base.watchdog.stop }
          stopping := s.stopping + 1 }
  | notifyStop (s : WakingWatchdog) : 0 < s.stopping →
      WakingStep s [] { s.notifyAll with stopping := s.stopping - 1 }
  | turn (s : WakingWatchdog) :
      WakingStep s (s.base.watchdog.resume s.base.clock s.base.thread).2.2 s.turn

/-- The watchdog with its condition variable as a machine. -/
def wakingMachine (config : WatchdogConfig) : Machine WakingWatchdog WatchdogEvent where
  start s := ∃ clock, s = ⟨.initial config clock, false, 0, false⟩
  step := WakingStep

/-- Without the notifications it is the watchdog. -/
theorem projects_waking (config : WatchdogConfig) :
    Machine.Projects (wakingMachine config) (watchdogMachine config) WakingWatchdog.base some where
  start := by
    rintro _ ⟨clock, rfl⟩
    exact ⟨clock, rfl⟩
  step := by
    intro tr evs s t _ hs
    rw [List.filterMap_some]
    cases hs with
    | tick later _ hlater => exact .single (.tick later _ hlater)
    | startOutage _ hcall => exact .single (.startOutage _ hcall)
    | onStateChanged state _ hcall _ => exact .single (.onStateChanged state _ hcall)
    | report r now _ hcall => exact .single (.report r now _ hcall)
    | notify _ _ => exact .refl
    | stop => exact .single (.stop _)
    | notifyStop _ _ => exact .refl
    | turn => exact .single (.resume _)

/-! ### What the thread has to be told -/

/-- A thread in a wait that has something to do was notified or is about to be; in the wait for a
deadline, that is whenever it is no longer the open outage's. -/
structure Attentive (config : WatchdogConfig) (s : WakingWatchdog) : Prop where
  config_eq : s.base.watchdog.config = config
  quiet : s.base.deliverer ≠ .idle → s.notifying = false
  waits : ∀ d, s.base.thread = .waitingUntil d →
    (∃ o, s.base.watchdog.outage = some o ∧ o.deadline = d) ∨
      s.base.watchdog.stopRequested = true ∨ s.notified = true ∨ s.notifying = true
  told : s.base.thread = .waiting → s.base.watchdog.outage.isSome = true →
    s.notified = true ∨ s.notifying = true
  stopTold : s.base.thread.isWaiting = true → s.base.watchdog.stopRequested = true →
    s.notified = true ∨ 0 < s.stopping

namespace Watchdog

variable (w : Watchdog)

/-- A section that changes the outage goes on to notify. -/
theorem report_notifies (r : Report) (now : Int) :
    (w.report r now).1.outage = w.outage ∨ w.notifies r now = true := by
  unfold notifies
  rcases w.report_cases r now with ⟨hr, heq⟩ | ⟨hr, henabled, hnone, heq⟩ | ⟨hr, heq⟩
  · rw [heq, if_pos hr]
    unfold clearOutage
    cases henabled : w.config.enabled with
    | false => exact .inl rfl
    | true =>
      cases ho : w.outage with
      | none => exact .inl rfl
      | some o => exact .inr rfl
  · right
    simp [hr, startOutageTimer, henabled, hnone]
  · exact .inl (by rw [heq])

/-- A thread that goes on comes to a wait only if no stop is requested, and then for the outage
it finds. -/
theorem loopTop_cases :
    (w.stopRequested = true ∧ w.loopTop = .ended) ∨
    (w.stopRequested = false ∧ w.outage = none ∧ w.loopTop = .waiting) ∨
    ∃ o, w.stopRequested = false ∧ w.outage = some o ∧ w.loopTop = .waitingUntil o.deadline := by
  unfold loopTop
  cases hs : w.stopRequested with
  | true => exact .inl ⟨rfl, rfl⟩
  | false =>
    cases ho : w.outage with
    | none => exact .inr (.inl ⟨rfl, rfl, rfl⟩)
    | some o => exact .inr (.inr ⟨o, rfl, rfl, rfl⟩)

/-- Where a turn of the thread ends, if it ends in a wait. -/
theorem resume_waits (now : Int) (thread : WatchdogThread)
    (h : (w.resume now thread).2.1.isWaiting = true) :
    (w.resume now thread).1 = w ∧ w.stopRequested = false ∧
      ((w.outage = none ∧ (w.resume now thread).2.1 = .waiting) ∨
        ∃ o, w.outage = some o ∧ (w.resume now thread).2.1 = .waitingUntil o.deadline) := by
  have htop : w.loopTop.isWaiting = true → w.stopRequested = false ∧
      ((w.outage = none ∧ w.loopTop = .waiting) ∨
        ∃ o, w.outage = some o ∧ w.loopTop = .waitingUntil o.deadline) := by
    intro hwait
    rcases w.loopTop_cases with ⟨-, heq⟩ | ⟨hs, ho, heq⟩ | ⟨o, hs, ho, heq⟩
    · rw [heq] at hwait
      cases hwait
    · exact ⟨hs, .inl ⟨ho, heq⟩⟩
    · exact ⟨hs, .inr ⟨o, ho, heq⟩⟩
  cases thread with
  | starting => exact ⟨rfl, htop h⟩
  | waiting =>
    simp only [resume] at h ⊢
    split at h
    · rename_i hgo
      rw [if_pos hgo]
      exact ⟨rfl, htop h⟩
    · rename_i hstay
      rw [if_neg hstay]
      simp only [Bool.or_eq_true, not_or, Bool.not_eq_true] at hstay
      exact ⟨rfl, hstay.1, .inl ⟨Option.isNone_iff_eq_none.mp (by simpa using hstay.2), rfl⟩⟩
  | waitingUntil d =>
    simp only [resume] at h ⊢
    split at h
    · rename_i hgo
      rw [if_pos hgo]
      exact ⟨rfl, htop h⟩
    · cases h
  | absent => cases h
  | ended => cases h
  | exiting => cases h

end Watchdog

namespace Attentive

variable {config : WatchdogConfig} {s : WakingWatchdog}

theorem initial (config : WatchdogConfig) (clock : Int) :
    Attentive config ⟨.initial config clock, false, 0, false⟩ := by
  unfold WatchdogState.initial
  split
  · exact ⟨rfl, fun _ => rfl, by simp, by simp, by simp⟩
  · exact ⟨rfl, fun _ => rfl, by simp, by simp, by simp⟩

/-- A step of the clock or the deliverer changes nothing that the thread waits for. -/
theorem aside (h : Attentive config s) {deliverer : Deliverer} (clock : Int)
    (hquiet : deliverer ≠ .idle → s.notifying = false) :
    Attentive config { s with
      base := { s.base with deliverer := deliverer, clock := clock } } :=
  ⟨h.config_eq, hquiet, h.waits, h.told, h.stopTold⟩

theorem report (h : Attentive config s) {report : Report} {now : Int}
    (hcall : s.base.deliverer = .sampled report now) :
    Attentive config { s with
      base := { s.base with
        watchdog := (s.base.watchdog.report report now).1, deliverer := .idle }
      notifying := s.base.watchdog.notifies report now } := by
  have hnot : s.notifying = false := h.quiet (by rw [hcall]; exact Deliverer.noConfusion)
  have hstops : (s.base.watchdog.report report now).1.stopRequested =
      s.base.watchdog.stopRequested := s.base.watchdog.report_stopRequested report now
  -- the outage is as it was, or the change is about to be notified
  have hchange : (s.base.watchdog.report report now).1.outage = s.base.watchdog.outage ∨
      s.base.watchdog.notifies report now = true := s.base.watchdog.report_notifies report now
  refine ⟨?_, by simp, ?_, ?_, ?_⟩
  · rw [Watchdog.report_config]
    exact h.config_eq
  · intro d hd
    rcases hchange with hsame | hnotifies
    · rcases h.waits d hd with ⟨o, ho, hdeadline⟩ | hstop | hnotified | hnotifying
      · exact .inl ⟨o, hsame.trans ho, hdeadline⟩
      · exact .inr (.inl (hstops.trans hstop))
      · exact .inr (.inr (.inl hnotified))
      · rw [hnot] at hnotifying
        cases hnotifying
    · exact .inr (.inr (.inr hnotifies))
  · intro hwait ho
    rcases hchange with hsame | hnotifies
    · rw [hsame] at ho
      rcases h.told hwait ho with htold | htold
      · exact .inl htold
      · rw [hnot] at htold
        cases htold
    · exact .inr hnotifies
  · intro hwait hstop
    exact h.stopTold hwait (hstops.symm.trans hstop)

/-- A notification reaches a thread that waits, so what was said to come has come. -/
theorem notifyAll (h : Attentive config s) (notifying : Bool) (stopping : Nat)
    (hnotifying : notifying = true → s.notifying = true) :
    Attentive config { s.notifyAll with notifying := notifying, stopping := stopping } := by
  refine ⟨h.config_eq, ?_, ?_, ?_, ?_⟩
  · intro hidle
    rw [Bool.eq_false_iff]
    intro hn
    have hquiet := h.quiet hidle
    rw [hnotifying hn] at hquiet
    cases hquiet
  · intro d hwait
    right; right; left
    simp only [WakingWatchdog.notifyAll] at hwait ⊢
    rw [hwait]
    simp [WatchdogThread.isWaiting]
  · intro hwait _
    left
    simp only [WakingWatchdog.notifyAll] at hwait ⊢
    rw [hwait]
    simp [WatchdogThread.isWaiting]
  · intro hwait _
    left
    simp only [WakingWatchdog.notifyAll] at hwait ⊢
    rw [hwait]
    simp

theorem stop (h : Attentive config s) :
    Attentive config { s with
      base := { s.base with watchdog := s.base.watchdog.stop }
      stopping := s.stopping + 1 } := by
  exact ⟨h.config_eq, h.quiet, fun _ _ => .inr (.inl rfl), by simp [Watchdog.stop],
    fun _ _ => .inr (Nat.succ_pos _)⟩

theorem turn (h : Attentive config s) : Attentive config s.turn := by
  have hconfig : (s.base.watchdog.resume s.base.clock s.base.thread).1.config = config := by
    rcases s.base.watchdog.resume_cases s.base.clock s.base.thread with ⟨o, -, -, -, heq⟩ | ⟨_, heq⟩
    · rw [heq]
      exact h.config_eq
    · rw [heq]
      exact h.config_eq
  have hwaits := s.base.watchdog.resume_waits s.base.clock s.base.thread
  refine ⟨hconfig, h.quiet, ?_, ?_, ?_⟩
  · intro d hd
    have hd' : (s.base.watchdog.resume s.base.clock s.base.thread).2.1 = .waitingUntil d := hd
    rw [hd'] at hwaits
    obtain ⟨hsame, -, ⟨-, hnext⟩ | ⟨o, ho, hnext⟩⟩ := hwaits rfl
    · cases hnext
    · -- the thread waits for the deadline of the outage that it found
      obtain rfl : d = o.deadline := WatchdogThread.waitingUntil.inj hnext
      left
      rw [show s.turn.base.watchdog = s.base.watchdog from hsame]
      exact ⟨o, ho, rfl⟩
  · intro hwait ho
    have hwait' : (s.base.watchdog.resume s.base.clock s.base.thread).2.1 = .waiting := hwait
    rw [hwait'] at hwaits
    obtain ⟨hsame, -, ⟨hnone, -⟩ | ⟨o, -, hnext⟩⟩ := hwaits rfl
    · rw [show s.turn.base.watchdog = s.base.watchdog from hsame, hnone] at ho
      cases ho
    · cases hnext
  · intro hwait hstop
    obtain ⟨hsame, hgo, -⟩ := hwaits hwait
    rw [show s.turn.base.watchdog = s.base.watchdog from hsame, hgo] at hstop
    cases hstop

theorem step (h : Attentive config s) {evs : List WatchdogEvent} {t : WakingWatchdog}
    (hs : WakingStep s evs t) : Attentive config t := by
  cases hs with
  | tick later _ _ => exact h.aside later h.quiet
  | startOutage _ hcall =>
    exact h.aside s.base.clock fun _ => h.quiet (by rw [hcall]; exact Deliverer.noConfusion)
  | onStateChanged state _ _ hquiet => exact h.aside s.base.clock fun _ => hquiet
  | report r now _ hcall => exact h.report hcall
  | notify _ hn => exact h.notifyAll false s.stopping (by simp)
  | stop => exact h.stop
  | notifyStop _ hpos => exact h.notifyAll s.notifying (s.stopping - 1) id
  | turn => exact h.turn

end Attentive

theorem attentive_of_trace {config : WatchdogConfig} {tr : List WatchdogEvent} {s : WakingWatchdog}
    (h : (wakingMachine config).Trace tr s) : Attentive config s := by
  refine Machine.Trace.invariant (P := fun _ s => Attentive config s) ?_ ?_ h
  · rintro _ ⟨clock, rfl⟩
    exact Attentive.initial config clock
  · intro tr evs s t _ hattentive hs
    exact hattentive.step hs

/-! ### Nothing is slept through -/

/-- A thread that ended was asked to, and only a disabled watchdog has none. -/
theorem watchdogThread_of_trace {config : WatchdogConfig} {tr : List WatchdogEvent}
    {s : WatchdogState} (h : (watchdogMachine config).Trace tr s) :
    (s.thread = .ended → s.watchdog.stopRequested = true) ∧
      (s.thread = .absent → s.watchdog.config.enabled = false) := by
  refine Machine.Trace.invariant (P := fun _ s =>
    (s.thread = .ended → s.watchdog.stopRequested = true) ∧
      (s.thread = .absent → s.watchdog.config.enabled = false)) ?_ ?_ h
  · rintro _ ⟨clock, rfl⟩
    unfold WatchdogState.initial
    cases he : config.enabled with
    | true => exact ⟨by simp, by simp⟩
    | false => exact ⟨by simp, fun _ => he⟩
  · rintro tr evs s t - ⟨hended, habsent⟩ hs
    cases hs with
    | report r now _ hcall =>
      refine ⟨fun h => ?_, fun h => ?_⟩
      · rcases s.watchdog.report_cases r now with ⟨-, heq⟩ | ⟨-, -, -, heq⟩ | ⟨-, heq⟩
        · rw [heq]
          unfold Watchdog.clearOutage
          dsimp only
          split
          · exact hended h
          · exact hended h
        · rw [heq]
          exact hended h
        · rw [heq]
          exact hended h
      · rw [Watchdog.report_config]
        exact habsent h
    | stop => exact ⟨fun _ => rfl, habsent⟩
    | resume =>
      cases hthread : s.thread with
      | absent => exact ⟨by simp [Watchdog.resume], fun _ => habsent hthread⟩
      | ended => exact ⟨fun _ => hended hthread, by simp [Watchdog.resume]⟩
      | exiting => exact ⟨by simp [Watchdog.resume], by simp [Watchdog.resume]⟩
      | starting =>
        simp only [Watchdog.resume]
        rcases s.watchdog.loopTop_cases with ⟨hs, heq⟩ | ⟨-, -, heq⟩ | ⟨o, -, -, heq⟩
        · exact ⟨fun _ => hs, by simp [heq]⟩
        · exact ⟨by simp [heq], by simp [heq]⟩
        · exact ⟨by simp [heq], by simp [heq]⟩
      | waiting =>
        simp only [Watchdog.resume]
        split
        · rcases s.watchdog.loopTop_cases with ⟨hs, heq⟩ | ⟨-, -, heq⟩ | ⟨o, -, -, heq⟩
          · exact ⟨fun _ => hs, by simp [heq]⟩
          · exact ⟨by simp [heq], by simp [heq]⟩
          · exact ⟨by simp [heq], by simp [heq]⟩
        · exact ⟨by simp, by simp⟩
      | waitingUntil d =>
        simp only [Watchdog.resume]
        split
        · rcases s.watchdog.loopTop_cases with ⟨hs, heq⟩ | ⟨-, -, heq⟩ | ⟨o, -, -, heq⟩
          · exact ⟨fun _ => hs, by simp [heq]⟩
          · exact ⟨by simp [heq], by simp [heq]⟩
          · exact ⟨by simp [heq], by simp [heq]⟩
        · exact ⟨by simp, by simp⟩
    | _ => exact ⟨hended, habsent⟩

variable {config : WatchdogConfig} {tr : List WatchdogEvent} {s : WakingWatchdog}

/-- A thread that sleeps with no notification to come was not asked to stop, and waits for no
later time than the open outage's deadline. -/
theorem Attentive.of_asleep (h : Attentive config s) (hasleep : s.Asleep) (hsettled : s.Settled) :
    s.base.watchdog.stopRequested = false ∧
      ∀ o, s.base.watchdog.outage = some o →
        ∃ d, s.base.thread = .waitingUntil d ∧ s.base.clock < d ∧ d ≤ o.deadline := by
  obtain ⟨hquiet, hwait⟩ := hasleep
  obtain ⟨hnotifying, hstopping⟩ := hsettled
  have hwaiting : s.base.thread.isWaiting = true := by
    rcases hwait with hwait | ⟨d, hwait, -⟩
    · rw [hwait]
      rfl
    · rw [hwait]
      rfl
  have hrunning : s.base.watchdog.stopRequested = false := by
    rw [Bool.eq_false_iff]
    intro hstop
    rcases h.stopTold hwaiting hstop with htold | htold
    · rw [hquiet] at htold
      cases htold
    · omega
  refine ⟨hrunning, fun o ho => ?_⟩
  rcases hwait with hwait | ⟨d, hwait, hlater⟩
  · rcases h.told hwait (by rw [ho]; rfl) with htold | htold
    · rw [hquiet] at htold
      cases htold
    · rw [hnotifying] at htold
      cases htold
  · refine ⟨d, hwait, hlater, ?_⟩
    rcases h.waits d hwait with ⟨o', ho', rfl⟩ | hstop | htold | htold
    · obtain rfl := Option.some.inj (ho.symm.trans ho')
      exact Int.le_refl _
    · rw [hrunning] at hstop
      cases hstop
    · rw [hquiet] at htold
      cases htold
    · rw [hnotifying] at htold
      cases htold

/-- A thread that waits for the deadline of an outage, or of one before it, decides once that
outage is due. -/
theorem Watchdog.resume_due {w : Watchdog} {o : Outage} {now : Int} (ho : w.outage = some o)
    (hdue : o.deadline ≤ now) (hstop : w.stopRequested = false) (d : Int) :
    (w.resume now (.waitingUntil d)).2.1 = .exiting := by
  simp [Watchdog.resume, ho, hstop, Int.not_lt.mpr hdue]

theorem Watchdog.loopTop_outage {w : Watchdog} {o : Outage} (ho : w.outage = some o)
    (hstop : w.stopRequested = false) : w.loopTop = .waitingUntil o.deadline := by
  simp [Watchdog.loopTop, ho, hstop]

/-- Two turns are enough for an outage that is due, and no wait holds up either. -/
theorem Attentive.due (h : Attentive config s) {o : Outage}
    (ho : s.base.watchdog.outage = some o) (hdue : o.deadline ≤ s.base.clock)
    (hstop : s.base.watchdog.stopRequested = false)
    (hplace : s.base.thread ≠ .ended ∧ s.base.thread ≠ .absent) :
    s.turn.turn.base.thread = .exiting ∧ (s.Settled → ¬ s.Asleep ∧ ¬ s.turn.Asleep) := by
  have hfirst : s.turn.base.thread = .exiting ∨
      s.turn.base.watchdog = s.base.watchdog ∧ s.turn.base.thread = .waitingUntil o.deadline := by
    simp only [WakingWatchdog.turn]
    cases hthread : s.base.thread with
    | absent => exact absurd hthread hplace.2
    | ended => exact absurd hthread hplace.1
    | exiting => exact .inl rfl
    | starting => exact .inr ⟨rfl, Watchdog.loopTop_outage ho hstop⟩
    | waiting =>
      right
      simp only [Watchdog.resume]
      rw [if_pos (by simp [ho])]
      exact ⟨rfl, Watchdog.loopTop_outage ho hstop⟩
    | waitingUntil d => exact .inl (Watchdog.resume_due ho hdue hstop d)
  refine ⟨?_, fun hsettled => ⟨?_, ?_⟩⟩
  · rcases hfirst with hexit | ⟨hsame, hwait⟩
    · simp only [WakingWatchdog.turn] at hexit ⊢
      rw [hexit]
      rfl
    · have hsecond : (s.turn.base.watchdog.resume s.turn.base.clock s.turn.base.thread).2.1 =
          .exiting := by
        rw [hwait, hsame]
        exact Watchdog.resume_due ho hdue hstop _
      exact hsecond
  · intro hasleep
    obtain ⟨d, -, hlater, hbefore⟩ := (h.of_asleep hasleep hsettled).2 o ho
    omega
  · rintro ⟨-, hwait | ⟨d, hwait, hlater⟩⟩
    · rcases hfirst with hexit | ⟨-, hnext⟩
      · rw [hexit] at hwait
        cases hwait
      · rw [hnext] at hwait
        cases hwait
    · rcases hfirst with hexit | ⟨-, hnext⟩
      · rw [hexit] at hwait
        cases hwait
      · rw [hnext] at hwait
        obtain rfl := WatchdogThread.waitingUntil.inj hwait
        have hclock : s.turn.base.clock = s.base.clock := rfl
        omega

/-- **No outage is slept through, and no stop.**  Whatever the order of sections,
notifications and wakeups, once the notifications under way are over: a thread that is asleep
was not asked to stop, and while an outage is open it waits for a time no later than that
outage's deadline; when an outage is due and no stop is requested, the thread is not asleep
and two of its turns bring it to the exit; and when a stop is requested, one turn ends the
thread, so that the `join` of `stop` returns.  The run is a run of the watchdog. -/
theorem watchdog_attentive (h : (wakingMachine config).Trace tr s) :
    (s.Settled → s.Asleep → s.base.watchdog.stopRequested = false ∧
      ∀ o, s.base.watchdog.outage = some o →
        ∃ d, s.base.thread = .waitingUntil d ∧ s.base.clock < d ∧ d ≤ o.deadline) ∧
    (∀ o, s.base.watchdog.outage = some o → o.deadline ≤ s.base.clock →
      s.base.watchdog.stopRequested = false →
        s.turn.turn.base.thread = .exiting ∧ (s.Settled → ¬ s.Asleep ∧ ¬ s.turn.Asleep)) ∧
    (s.base.watchdog.stopRequested = true → s.turn.base.thread.isWaiting = false ∧
      s.turn.base.thread ≠ .starting ∧ (s.Settled → ¬ s.Asleep)) ∧
    (watchdogMachine config).Trace tr s.base := by
  have hbase := (projects_waking config).trace_same h
  have hattentive := attentive_of_trace h
  obtain ⟨hended, habsent⟩ := watchdogThread_of_trace hbase
  refine ⟨fun hsettled hasleep => hattentive.of_asleep hasleep hsettled, ?_, ?_, hbase⟩
  · intro o ho hdue hstop
    refine hattentive.due ho hdue hstop ⟨?_, ?_⟩
    · intro hthread
      rw [hended hthread] at hstop
      cases hstop
    · intro hthread
      rw [(watchdogBooks_of_trace hbase).enabled (habsent hthread)] at ho
      cases ho
  · intro hstop
    have htop : s.base.watchdog.loopTop = .ended := by simp [Watchdog.loopTop, hstop]
    refine ⟨?_, ?_, ?_⟩
    · simp only [WakingWatchdog.turn]
      cases hthread : s.base.thread <;> simp [Watchdog.resume, hstop, htop, WatchdogThread.isWaiting]
    · simp only [WakingWatchdog.turn]
      cases hthread : s.base.thread <;> simp [Watchdog.resume, hstop, htop]
    · intro hsettled hasleep
      rw [(hattentive.of_asleep hasleep hsettled).1] at hstop
      cases hstop

/-- The thread is in its wait for an outage when the construction opens one; the notification
is still to come, and the outage is due. -/
def dueBeforeNotified : WakingWatchdog :=
  ⟨⟨⟨⟨true, 75⟩, false, some ⟨0, 75000000⟩⟩, .waiting, .idle, 80000000⟩, true, 0, false⟩

/-- The thread is asleep until it is notified; its turns then bring it to the exit. -/
theorem watchdog_attentive_startup :
    dueBeforeNotified.Asleep ∧ dueBeforeNotified.turn.turn.base.thread = .exiting ∧
      ∃ s, WakingStep dueBeforeNotified [] s ∧ s.Settled ∧ ¬ s.Asleep := by
  have h0 : (wakingMachine ⟨true, 75⟩).Trace [] ⟨.initial ⟨true, 75⟩ 0, false, 0, false⟩ :=
    .start ⟨0, rfl⟩
  have h1 := h0.step (WakingStep.turn _)
  have h2 := h1.step (WakingStep.startOutage _ rfl)
  have h3 := h2.step (WakingStep.report .startupConnectPending 0 _ rfl)
  have h4 : (wakingMachine ⟨true, 75⟩).Trace [.arrived .startupConnectPending 0, .began 0]
      dueBeforeNotified := h3.step (WakingStep.tick 80000000 _ (by decide))
  have h5 : (wakingMachine ⟨true, 75⟩).Trace [.arrived .startupConnectPending 0, .began 0]
      { dueBeforeNotified.notifyAll with notifying := false } :=
    h4.step (WakingStep.notify _ rfl)
  refine ⟨⟨rfl, .inl rfl⟩, ((watchdog_attentive h4).2.1 ⟨0, 75000000⟩ rfl (by decide) rfl).1,
    _, WakingStep.notify _ rfl, ⟨rfl, rfl⟩, ?_⟩
  exact (((watchdog_attentive h5).2.1 ⟨0, 75000000⟩ rfl (by decide) rfl).2 ⟨rfl, rfl⟩).1

end LivekitBridge
