import LivekitBridge.Connection.Watchdog

/-!
# The state of the connection

`room_connection.cpp`: `connect` on the connecting thread, and the delegate's handlers on
the SDK's.  Both change `state_` in `transitionState`, under the mutex, and report the
change to the callback afterwards, outside it; the callback is the watchdog's
`onStateChanged`, which the runtime installs before it starts the connection.

The SDK delivers one event at a time, from the moment `room->connect` starts.  `connect`
ends with a transition of its own to Connected, whatever was delivered meanwhile.  So two
things can go wrong: an event handled before this transition is overwritten by it, and when
`connect` makes its callback the state may have changed again and been reported.
`not_followsSdk` is a run with the first, `not_followsSdk_overtaken` one with the second,
and `followsSdk_of_orderly` says that there is nothing else: without these two the state is
the one the SDK announced last, and the watchdog knows it.

`announced` and `heard` are of the runs; nothing in the source reads them.  The rest of
`stop`, which joins the connecting thread first, is not part of these runs.
-/

namespace LivekitBridge

open Lib

/-- What the SDK calls the delegate with. -/
inductive SdkEvent
  | connectionStateChanged (state : ConnectionState)
  | disconnected
  | reconnecting
  | reconnected
  | roomEos
deriving DecidableEq, Repr

/-- The state that the handler of the event hands to `transitionState`. -/
def SdkEvent.state : SdkEvent → ConnectionState
  | .connectionStateChanged state => state
  | .disconnected => .disconnected
  | .reconnecting => .reconnecting
  | .reconnected => .connected
  | .roomEos => .disconnected

/-- Where `connect` is. -/
inductive ConnectCall
  /-- in `connectRoom`, with `room->connect` started -/
  | connecting
  /-- before the section that reads `stop_requested_` -/
  | connected
  /-- before the section of `activateRoom` -/
  | activating
  /-- before the section of `detachRoom` -/
  | detaching
  /-- before `transitionState(Connected)` -/
  | transitioning
  /-- before the callback of `transitionState` -/
  | reporting (state : ConnectionState)
  /-- `connect` returned. -/
  | returned (result : Bool)
deriving DecidableEq, Repr

/-- Where the SDK's thread is. -/
inductive SdkCall
  | idle
  /-- in a handler, before the section of `transitionState` -/
  | handling (event : SdkEvent)
  /-- before the callback of `transitionState` -/
  | reporting (state : ConnectionState)
deriving DecidableEq, Repr

/-- An event waits for the section of its handler. -/
def SdkCall.waits : SdkCall → Bool
  | .handling _ => true
  | _ => false

/-- `connect` has made its transition. -/
def ConnectCall.transitioned : ConnectCall → Bool
  | .reporting _ => true
  | .returned result => result
  | _ => false

/-- `SdkRoomConnection` with the two threads, what the SDK announced last, whether that came
to the lock after the transition of `connect`, and the watchdog behind the callback. -/
structure Connection where
  state : ConnectionState
  stopRequested : Bool
  connect : ConnectCall
  sdk : SdkCall
  announced : Option ConnectionState
  heard : Bool
  watchdog : Watchdog
deriving DecidableEq, Repr

/-- What a step did. -/
inductive ConnectionEvent
  /-- The SDK delivered the event. -/
  | delivered (event : SdkEvent)
  /-- The callback was called with the state. -/
  | reported (state : ConnectionState)
deriving DecidableEq, Repr

namespace Connection

/-- The section of `transitionState`, with the change that is to be reported. -/
def transitionState (c : Connection) (state : ConnectionState) :
    Connection × Option ConnectionState :=
  if c.state = state then (c, none)
  else ({ c with state := state }, some state)

/-- The callback, which is the watchdog's `onStateChanged`. -/
def report (c : Connection) (state : ConnectionState) (now : Int) : Connection :=
  { c with watchdog := (c.watchdog.report (.stateChanged state) now).1 }

/-- `connect` ends with its transition, or with the callback after it. -/
def afterTransition : Option ConnectionState → ConnectCall
  | none => .returned true
  | some state => .reporting state

/-- A handler ends with its transition, or with the callback after it. -/
def afterHandling : Option ConnectionState → SdkCall
  | none => .idle
  | some state => .reporting state

/-- The connection when `room->connect` starts, with a watchdog that has only its startup
outage. -/
def initial (config : WatchdogConfig) (since : Int) (stopRequested : Bool) : Connection :=
  ⟨.disconnected, stopRequested, .connecting, .idle, none, false,
    (Watchdog.report ⟨config, false, none⟩ .startupConnectPending since).1⟩

end Connection

/-- One section or one callback of one thread. -/
inductive ConnectionStep : Connection → List ConnectionEvent → Connection → Prop
  | connectRoom (succeeds : Bool) (c : Connection) : c.connect = .connecting →
      ConnectionStep c [] { c with connect := if succeeds then .connected else .returned false }
  | checkStop (c : Connection) : c.connect = .connected →
      ConnectionStep c []
        { c with connect := if c.stopRequested then .returned false else .activating }
  | activateRoom (registered : Bool) (c : Connection) : c.connect = .activating →
      ConnectionStep c [] { c with connect := if registered then .transitioning else .detaching }
  | detachRoom (c : Connection) : c.connect = .detaching →
      ConnectionStep c [] { c with state := .disconnected, connect := .returned false }
  | transitionState (c : Connection) : c.connect = .transitioning →
      ConnectionStep c []
        { (c.transitionState .connected).1 with
          connect := Connection.afterTransition (c.transitionState .connected).2
          heard := c.sdk.waits }
  | report (state : ConnectionState) (now : Int) (c : Connection) : c.connect = .reporting state →
      ConnectionStep c [.reported state] { c.report state now with connect := .returned true }
  | requestStop (c : Connection) : ConnectionStep c [] { c with stopRequested := true }
  | deliver (event : SdkEvent) (c : Connection) : c.sdk = .idle → c.connect ≠ .returned false →
      ConnectionStep c [.delivered event]
        { c with sdk := .handling event, announced := some event.state, heard := true }
  | handle (event : SdkEvent) (c : Connection) : c.sdk = .handling event →
      ConnectionStep c []
        { (c.transitionState event.state).1 with
          sdk := Connection.afterHandling (c.transitionState event.state).2 }
  | reportHandled (state : ConnectionState) (now : Int) (c : Connection) :
      c.sdk = .reporting state →
      ConnectionStep c [.reported state] { c.report state now with sdk := .idle }

def connectionMachine : Machine Connection ConnectionEvent where
  start c := ∃ config since stopRequested, c = .initial config since stopRequested
  step := ConnectionStep

/-! ### What the state should be -/

def ConnectionEvent.delivered? : ConnectionEvent → Option ConnectionState
  | .delivered event => some event.state
  | .reported _ => none

def ConnectionEvent.reported? : ConnectionEvent → Option ConnectionState
  | .delivered _ => none
  | .reported state => some state

def lastDelivered (tr : List ConnectionEvent) : Option ConnectionState :=
  (tr.filterMap ConnectionEvent.delivered?).getLast?

def lastReported (tr : List ConnectionEvent) : Option ConnectionState :=
  (tr.filterMap ConnectionEvent.reported?).getLast?

/-- Once `connect` has returned true and the SDK's thread is between two events, the state
is the one delivered last, it is the one reported last, and an enabled watchdog has an
outage open exactly if it is not Connected. -/
def FollowsSdk (tr : List ConnectionEvent) (c : Connection) : Prop :=
  c.connect = .returned true → c.sdk = .idle →
    c.state = (lastDelivered tr).getD .connected ∧ lastReported tr = some c.state ∧
      (c.watchdog.config.enabled = true →
        (c.watchdog.outage.isSome = true ↔ c.state ≠ .connected))

/-- No event was delivered, or the last one is Connected or came to the lock after the
transition of `connect`. -/
def Connection.Heard (c : Connection) : Prop :=
  c.heard = true ∨ c.announced = none ∨ c.announced = some .connected

/-- The state is Connected, or the SDK's thread has a change to report or to make. -/
def Connection.Current (c : Connection) : Prop :=
  c.state = .connected ∨ (∃ state, c.sdk = .reporting state) ∨
    ∃ event, c.sdk = .handling event ∧ event.state ≠ c.state

/-- If the step is the callback of `connect`, nothing is overwritten or overtaken by then. -/
def CallsBackInTime (c c' : Connection) : Prop :=
  ∀ state, c.connect = .reporting state → c'.connect = .returned true → c.Heard ∧ c.Current

/-- The runs in which `connect` makes its callback in time. -/
def orderlyConnection : Machine Connection ConnectionEvent where
  start := connectionMachine.start
  step c evs c' := connectionMachine.step c evs c' ∧ CallsBackInTime c c'

@[simp] theorem lastDelivered_delivered (tr : List ConnectionEvent) (event : SdkEvent) :
    lastDelivered (tr ++ [.delivered event]) = some event.state := by
  simp [lastDelivered, ConnectionEvent.delivered?]

@[simp] theorem lastDelivered_reported (tr : List ConnectionEvent) (state : ConnectionState) :
    lastDelivered (tr ++ [.reported state]) = lastDelivered tr := by
  simp [lastDelivered, ConnectionEvent.delivered?]

@[simp] theorem lastReported_delivered (tr : List ConnectionEvent) (event : SdkEvent) :
    lastReported (tr ++ [.delivered event]) = lastReported tr := by
  simp [lastReported, ConnectionEvent.reported?]

@[simp] theorem lastReported_reported (tr : List ConnectionEvent) (state : ConnectionState) :
    lastReported (tr ++ [.reported state]) = some state := by
  simp [lastReported, ConnectionEvent.reported?]

/-! ### The state and the events -/

namespace Connection

variable (c : Connection) (state : ConnectionState)

/-- A transition changes the state, or finds it as it is. -/
theorem transitionState_cases :
    (c.state = state ∧ c.transitionState state = (c, none)) ∨
    (c.state ≠ state ∧ c.transitionState state = ({ c with state := state }, some state)) := by
  by_cases h : c.state = state
  · exact .inl ⟨h, if_pos h⟩
  · exact .inr ⟨h, if_neg h⟩

@[simp] theorem transitionState_state : (c.transitionState state).1.state = state := by
  rcases c.transitionState_cases state with ⟨h, heq⟩ | ⟨_, heq⟩
  · rw [heq]
    exact h
  · rw [heq]

@[simp] theorem transitionState_connect : (c.transitionState state).1.connect = c.connect := by
  rcases c.transitionState_cases state with ⟨_, heq⟩ | ⟨_, heq⟩ <;> rw [heq]

@[simp] theorem transitionState_sdk : (c.transitionState state).1.sdk = c.sdk := by
  rcases c.transitionState_cases state with ⟨_, heq⟩ | ⟨_, heq⟩ <;> rw [heq]

@[simp] theorem transitionState_announced :
    (c.transitionState state).1.announced = c.announced := by
  rcases c.transitionState_cases state with ⟨_, heq⟩ | ⟨_, heq⟩ <;> rw [heq]

@[simp] theorem transitionState_heard : (c.transitionState state).1.heard = c.heard := by
  rcases c.transitionState_cases state with ⟨_, heq⟩ | ⟨_, heq⟩ <;> rw [heq]

@[simp] theorem transitionState_watchdog :
    (c.transitionState state).1.watchdog = c.watchdog := by
  rcases c.transitionState_cases state with ⟨_, heq⟩ | ⟨_, heq⟩ <;> rw [heq]

theorem afterTransition_cases :
    (c.state = state ∧ afterTransition (c.transitionState state).2 = .returned true) ∨
    (c.state ≠ state ∧ afterTransition (c.transitionState state).2 = .reporting state) := by
  rcases c.transitionState_cases state with ⟨h, heq⟩ | ⟨h, heq⟩
  · exact .inl ⟨h, by rw [heq]; rfl⟩
  · exact .inr ⟨h, by rw [heq]; rfl⟩

theorem afterHandling_cases :
    (c.state = state ∧ afterHandling (c.transitionState state).2 = .idle) ∨
    (c.state ≠ state ∧ afterHandling (c.transitionState state).2 = .reporting state) := by
  rcases c.transitionState_cases state with ⟨h, heq⟩ | ⟨h, heq⟩
  · exact .inl ⟨h, by rw [heq]; rfl⟩
  · exact .inr ⟨h, by rw [heq]; rfl⟩

theorem afterTransition_transitioned (change : Option ConnectionState) :
    (afterTransition change).transitioned = true := by
  cases change <;> rfl

end Connection

/-- What the two threads have made of the events.  Before the transition of `connect` the
state is the one announced last, unless its event waits for the lock.  After it, it is so
once an event has come to the lock, and Connected until then. -/
structure Announces (tr : List ConnectionEvent) (c : Connection) : Prop where
  announced_eq : c.announced = lastDelivered tr
  handling : ∀ event, c.sdk = .handling event → c.announced = some event.state
  reporting : ∀ state, c.sdk = .reporting state → c.announced = some state
  connecting : ∀ state, c.connect = .reporting state → state = .connected
  early : c.connect.transitioned = false → c.sdk.waits = false →
    c.state = c.announced.getD .disconnected
  unheard : c.connect.transitioned = true → c.heard = false →
    c.sdk.waits = false ∧ c.state = .connected
  late : c.connect.transitioned = true → c.heard = true → c.sdk.waits = false →
    c.announced = some c.state
  watched : c.watchdog.config.enabled = true →
    (c.watchdog.outage.isSome = true ↔ lastReported tr ≠ some .connected)

namespace Announces

variable {tr evs : List ConnectionEvent} {c c' : Connection}

theorem initial (config : WatchdogConfig) (since : Int) (stopRequested : Bool) :
    Announces [] (.initial config since stopRequested) where
  announced_eq := rfl
  handling := nofun
  reporting := nofun
  connecting := nofun
  early := fun _ _ => rfl
  unheard := nofun
  late := nofun
  watched := by
    intro henabled
    have henabled : config.enabled = true := by
      cases h : config.enabled with
      | true => rfl
      | false =>
        simp [Connection.initial, Watchdog.report, Report.isConnected, Watchdog.startOutageTimer, h]
          at henabled
    simp [Connection.initial, Watchdog.report, Report.isConnected, Watchdog.startOutageTimer,
      henabled, lastReported]

/-- `connect` goes on, before its transition. -/
theorem moves (h : Announces tr c) {call : ConnectCall} (hc : c.connect.transitioned = false)
    (hcall : call.transitioned = false) : Announces (tr ++ []) { c with connect := call } := by
  rw [List.append_nil]
  refine ⟨h.announced_eq, h.handling, h.reporting, ?_, fun _ => h.early hc, ?_, ?_, h.watched⟩
  · intro state hreporting
    rw [show call = .reporting state from hreporting] at hcall
    cases hcall
  · intro htransitioned
    rw [show call.transitioned = true from htransitioned] at hcall
    cases hcall
  · intro htransitioned
    rw [show call.transitioned = true from htransitioned] at hcall
    cases hcall

/-- The watchdog knows the state that was reported last. -/
theorem watched_report (state : ConnectionState) (now : Int) :
    (c.report state now).watchdog.config.enabled = true →
      ((c.report state now).watchdog.outage.isSome = true ↔
        lastReported (tr ++ [.reported state]) ≠ some .connected) := by
  intro henabled
  rw [Connection.report, Watchdog.report_config] at henabled
  rw [lastReported_reported, Connection.report, c.watchdog.report_outage henabled]
  cases state <;> simp [Report.isConnected]

theorem step (h : Announces tr c) (hs : ConnectionStep c evs c')
    (hc' : c'.connect ≠ .returned false) : Announces (tr ++ evs) c' := by
  cases hs with
  | connectRoom succeeds _ hat =>
    apply h.moves (by rw [hat]; rfl)
    cases succeeds <;> rfl
  | checkStop _ hat =>
    apply h.moves (by rw [hat]; rfl)
    cases c.stopRequested <;> rfl
  | activateRoom registered _ hat =>
    apply h.moves (by rw [hat]; rfl)
    cases registered <;> rfl
  | detachRoom _ hat => exact absurd rfl hc'
  | transitionState _ hat =>
    rw [List.append_nil]
    have htransitioned := Connection.afterTransition_transitioned (c.transitionState .connected).2
    refine ⟨?_, ?_, ?_, ?_, ?_, ?_, ?_, ?_⟩
    · simpa using h.announced_eq
    · simpa using h.handling
    · simpa using h.reporting
    · intro state hreporting
      rcases c.afterTransition_cases .connected with ⟨_, hcall⟩ | ⟨_, hcall⟩
      · cases hcall.symm.trans hreporting
      · cases hcall.symm.trans hreporting
        rfl
    · intro hearly
      cases htransitioned.symm.trans hearly
    · intro _ hheard
      exact ⟨by simpa using hheard, by simp⟩
    · intro _ hheard hwaits
      have hwaits : c.sdk.waits = false := by simpa using hwaits
      cases hheard.symm.trans hwaits
    · simpa using h.watched
  | report state now _ hat =>
    have htransitioned : c.connect.transitioned = true := by rw [hat]; rfl
    refine ⟨?_, h.handling, h.reporting, nofun, nofun, fun _ => h.unheard htransitioned,
      fun _ => h.late htransitioned, watched_report state now⟩
    rw [lastDelivered_reported]
    exact h.announced_eq
  | requestStop =>
    rw [List.append_nil]
    exact ⟨h.announced_eq, h.handling, h.reporting, h.connecting, h.early, h.unheard, h.late,
      h.watched⟩
  | deliver event _ hidle _ =>
    refine ⟨by simp, ?_, nofun, h.connecting, nofun, nofun, nofun, ?_⟩
    · intro event' hhandling
      cases hhandling
      rfl
    · rw [lastReported_delivered]
      exact h.watched
  | handle event _ hat =>
    rw [List.append_nil]
    have hannounced := h.handling event hat
    have hwaits : c.sdk.waits = true := by rw [hat]; rfl
    refine ⟨?_, ?_, ?_, ?_, ?_, ?_, ?_, ?_⟩
    · simpa using h.announced_eq
    · intro event' hhandling
      rcases c.afterHandling_cases event.state with ⟨_, hcall⟩ | ⟨_, hcall⟩
      · cases hcall.symm.trans hhandling
      · cases hcall.symm.trans hhandling
    · intro state hreporting
      rcases c.afterHandling_cases event.state with ⟨_, hcall⟩ | ⟨_, hcall⟩
      · cases hcall.symm.trans hreporting
      · cases hcall.symm.trans hreporting
        simpa using hannounced
    · simpa using h.connecting
    · intro _ _
      simp [hannounced]
    · intro htransitioned hheard
      have hquiet := (h.unheard (by simpa using htransitioned) (by simpa using hheard)).1
      cases hwaits.symm.trans hquiet
    · intro _ _ _
      simpa using hannounced
    · simpa using h.watched
  | reportHandled state now _ hat =>
    have hwaits : c.sdk.waits = false := by rw [hat]; rfl
    refine ⟨?_, nofun, nofun, h.connecting, fun hearly _ => h.early hearly hwaits,
      fun hlate hheard => ⟨rfl, (h.unheard hlate hheard).2⟩,
      fun hlate hheard _ => h.late hlate hheard hwaits, watched_report state now⟩
    rw [lastDelivered_reported]
    exact h.announced_eq

/-- Where no event was overwritten, the state is the one announced last. -/
theorem state_eq (h : Announces tr c) (hlate : c.connect.transitioned = true)
    (hwaits : c.sdk.waits = false) (hheard : c.Heard) :
    c.state = c.announced.getD .connected := by
  cases hc : c.heard with
  | true =>
    rw [h.late hlate hc hwaits]
    rfl
  | false =>
    rw [(h.unheard hlate hc).2]
    rcases hheard with htrue | hnone | hconnected
    · cases hc.symm.trans htrue
    · rw [hnone]
      rfl
    · rw [hconnected]
      rfl

end Announces

/-- `connect` does not come back from a failure. -/
theorem ConnectionStep.returned_false {evs : List ConnectionEvent} {c c' : Connection}
    (hs : ConnectionStep c evs c') (hc : c.connect = .returned false) :
    c'.connect = .returned false := by
  cases hs with
  | requestStop => exact hc
  | deliver event _ hidle hlive => exact absurd hc hlive
  | handle event _ hat => simpa using hc
  | reportHandled state now _ hat => exact hc
  | connectRoom succeeds _ hat => rw [hc] at hat; cases hat
  | checkStop _ hat => rw [hc] at hat; cases hat
  | activateRoom registered _ hat => rw [hc] at hat; cases hat
  | detachRoom _ hat => rfl
  | transitionState _ hat => rw [hc] at hat; cases hat
  | report state now _ hat => rw [hc] at hat; cases hat

theorem announces_of_trace {tr : List ConnectionEvent} {c : Connection}
    (h : connectionMachine.Trace tr c) : c.connect ≠ .returned false → Announces tr c := by
  refine Machine.Trace.invariant (M := connectionMachine)
    (P := fun tr c => c.connect ≠ .returned false → Announces tr c) ?_ ?_ h
  · rintro _ ⟨config, since, stopRequested, rfl⟩ _
    exact Announces.initial config since stopRequested
  · intro tr evs c c' _ ih hs hc'
    exact (ih fun hc => hc' (ConnectionStep.returned_false hs hc)).step hs hc'

/-! ### The reports -/

/-- The state is the one reported last, unless the SDK's thread has a change to report, or
an event that will make one; or nothing has changed since the start. -/
structure Told (tr : List ConnectionEvent) (c : Connection) : Prop where
  early : c.connect.transitioned = false →
    (∃ state, c.sdk = .reporting state) ∨ lastReported tr = some c.state ∨
      (lastReported tr = none ∧ c.state = .disconnected)
  heard : c.connect = .returned true → c.Heard
  late : c.connect = .returned true →
    (∃ state, c.sdk = .reporting state) ∨ lastReported tr = some c.state ∨
      ∃ event, c.sdk = .handling event ∧ event.state ≠ c.state

namespace Told

variable {tr evs : List ConnectionEvent} {c c' : Connection}

theorem moves (h : Told tr c) {call : ConnectCall} (hc : c.connect.transitioned = false)
    (hcall : call.transitioned = false) : Told (tr ++ []) { c with connect := call } := by
  rw [List.append_nil]
  refine ⟨fun _ => h.early hc, ?_, ?_⟩
  · intro hreturned
    rw [show call = .returned true from hreturned] at hcall
    cases hcall
  · intro hreturned
    rw [show call = .returned true from hreturned] at hcall
    cases hcall

theorem step (h : Told tr c) (hannounces : Announces tr c) (hs : ConnectionStep c evs c')
    (hinTime : CallsBackInTime c c') (hc' : c'.connect ≠ .returned false) :
    Told (tr ++ evs) c' := by
  cases hs with
  | connectRoom succeeds _ hat =>
    apply h.moves (by rw [hat]; rfl)
    cases succeeds <;> rfl
  | checkStop _ hat =>
    apply h.moves (by rw [hat]; rfl)
    cases c.stopRequested <;> rfl
  | activateRoom registered _ hat =>
    apply h.moves (by rw [hat]; rfl)
    cases registered <;> rfl
  | detachRoom _ hat => exact absurd rfl hc'
  | transitionState _ hat =>
    rw [List.append_nil]
    have hbefore : c.connect.transitioned = false := by rw [hat]; rfl
    rcases c.afterTransition_cases .connected with ⟨hsame, hcall⟩ | ⟨_, hcall⟩
    · refine ⟨?_, ?_, ?_⟩
      · intro hearly
        rw [hcall] at hearly
        cases hearly
      · intro _
        cases hwaits : c.sdk.waits with
        | true => exact .inl rfl
        | false =>
          -- the state is Connected because an event has made it so
          have hstate := hannounces.early hbefore hwaits
          rw [hsame] at hstate
          refine .inr (.inr ?_)
          rw [Connection.transitionState_announced]
          cases hannounced : c.announced with
          | none =>
            rw [hannounced] at hstate
            cases hstate
          | some state =>
            rw [hannounced] at hstate
            rw [show ConnectionState.connected = state from hstate]
      · intro _
        rcases h.early hbefore with ⟨state, hreporting⟩ | htold | ⟨_, hstate⟩
        · exact .inl ⟨state, by simpa using hreporting⟩
        · rw [hsame] at htold
          exact .inr (.inl (by simpa using htold))
        · cases hsame.symm.trans hstate
    · refine ⟨?_, ?_, ?_⟩
      · intro hearly
        rw [hcall] at hearly
        cases hearly
      · intro hreturned
        cases hcall.symm.trans hreturned
      · intro hreturned
        cases hcall.symm.trans hreturned
  | report state now _ hat =>
    obtain ⟨hheard, hcurrent⟩ := hinTime state hat rfl
    refine ⟨nofun, fun _ => hheard, fun _ => ?_⟩
    rcases hcurrent with hconnected | hreporting | hhandling
    · refine .inr (.inl ?_)
      rw [lastReported_reported, hannounces.connecting state hat]
      exact congrArg some hconnected.symm
    · exact .inl hreporting
    · exact .inr (.inr hhandling)
  | requestStop =>
    rw [List.append_nil]
    exact ⟨h.early, h.heard, h.late⟩
  | deliver event _ hidle _ =>
    have hnone : ¬ ∃ state, c.sdk = .reporting state := by
      rintro ⟨state, hreporting⟩
      cases hidle.symm.trans hreporting
    refine ⟨?_, fun _ => .inl rfl, ?_⟩
    · intro hearly
      rw [lastReported_delivered]
      exact .inr ((h.early hearly).resolve_left hnone)
    · intro hreturned
      rw [lastReported_delivered]
      rcases (h.late hreturned).resolve_left hnone with htold | ⟨event', hhandling, _⟩
      · exact .inr (.inl htold)
      · cases hidle.symm.trans hhandling
  | handle event _ hat =>
    rw [List.append_nil]
    rcases c.transitionState_cases event.state with ⟨hsame, heq⟩ | ⟨_, heq⟩
    · have hnone : ¬ ∃ state, c.sdk = .reporting state := by
        rintro ⟨state, hreporting⟩
        cases hat.symm.trans hreporting
      rw [heq]
      refine ⟨?_, h.heard, ?_⟩
      · exact fun hearly => .inr ((h.early hearly).resolve_left hnone)
      · intro hreturned
        rcases (h.late hreturned).resolve_left hnone with htold | ⟨event', hhandling, hne⟩
        · exact .inr (.inl htold)
        · cases hat.symm.trans hhandling
          exact absurd hsame.symm hne
    · rw [heq]
      exact ⟨fun _ => .inl ⟨_, rfl⟩, h.heard, fun _ => .inl ⟨_, rfl⟩⟩
  | reportHandled state now _ hat =>
    have hwaits : c.sdk.waits = false := by rw [hat]; rfl
    have hannounced := hannounces.reporting state hat
    refine ⟨?_, h.heard, ?_⟩
    · intro hearly
      refine .inr (.inl ?_)
      have hstate := hannounces.early hearly hwaits
      rw [hannounced] at hstate
      rw [lastReported_reported]
      exact congrArg some hstate.symm
    · intro hreturned
      refine .inr (.inl ?_)
      have hreturned : c.connect = .returned true := hreturned
      have hstate := hannounces.state_eq (by rw [hreturned]; rfl) hwaits (h.heard hreturned)
      rw [hannounced] at hstate
      rw [lastReported_reported]
      exact congrArg some hstate.symm

end Told

theorem trace_of_orderly {tr : List ConnectionEvent} {c : Connection}
    (h : orderlyConnection.Trace tr c) : connectionMachine.Trace tr c := by
  induction h with
  | start hs => exact .start hs
  | step _ hs ih => exact .step ih hs.1

theorem told_of_orderly {tr : List ConnectionEvent} {c : Connection}
    (h : orderlyConnection.Trace tr c) : c.connect ≠ .returned false → Told tr c := by
  refine Machine.Trace.invariant (M := orderlyConnection)
    (P := fun tr c => c.connect ≠ .returned false → Told tr c) ?_ ?_ h
  · rintro _ ⟨config, since, stopRequested, rfl⟩ _
    exact ⟨fun _ => .inr (.inr ⟨rfl, rfl⟩), nofun, nofun⟩
  · rintro tr evs c c' prior ih ⟨hs, hinTime⟩ hc'
    have hc : c.connect ≠ .returned false := fun hc => hc' (ConnectionStep.returned_false hs hc)
    exact (ih hc).step (announces_of_trace (trace_of_orderly prior) hc) hs hinTime hc'

/-! ### Callbacks that are late -/

/-- **A late callback loses the state.**  With or without another step of the SDK's thread, the
state is not the one announced last, or not the one reported last. -/
theorem not_followsSdk_of_late {tr : List ConnectionEvent} {c : Connection}
    {state : ConnectionState} (h : connectionMachine.Trace tr c) (hat : c.connect = .reporting state)
    (hlate : ¬ (c.Heard ∧ c.Current)) :
    ∃ rest c', connectionMachine.Trace (tr ++ .reported state :: rest) c' ∧
      ¬ FollowsSdk (tr ++ .reported state :: rest) c' := by
  have hannounces := announces_of_trace h (by rw [hat]; exact nofun)
  have htransitioned : c.connect.transitioned = true := by rw [hat]; rfl
  have hconnected := hannounces.connecting state hat
  have hreported := h.step (ConnectionStep.report state 0 c hat)
  -- what the SDK announced last and `connect` overwrote
  have hunheard : ¬ c.Heard → c.state = .connected ∧
      c.announced.getD .connected ≠ .connected := by
    intro hnot
    rw [Connection.Heard, not_or, not_or, Bool.not_eq_true] at hnot
    obtain ⟨hheard, hsome, hother⟩ := hnot
    refine ⟨(hannounces.unheard htransitioned hheard).2, ?_⟩
    intro hannounced
    cases hlast : c.announced with
    | none => exact hsome hlast
    | some last =>
      rw [hlast] at hannounced
      rw [hlast, show last = .connected from hannounced] at hother
      exact hother rfl
  cases hsdk : c.sdk with
  | idle =>
    refine ⟨[], _, hreported, ?_⟩
    intro hfollows
    obtain ⟨hstate, htold, _⟩ := hfollows rfl hsdk
    rw [lastReported_reported, hconnected] at htold
    rw [lastDelivered_reported, ← hannounces.announced_eq] at hstate
    apply hlate
    constructor
    · by_contra hnot
      obtain ⟨hsame, hother⟩ := hunheard hnot
      exact hother (hstate.symm.trans hsame)
    · exact .inl (Option.some.inj htold).symm
  | reporting last =>
    have hdone := hreported.step (ConnectionStep.reportHandled last 0 _ hsdk)
    rw [List.append_assoc] at hdone
    refine ⟨[.reported last], _, hdone, ?_⟩
    intro hfollows
    obtain ⟨hstate, _, _⟩ := hfollows rfl rfl
    apply hlate
    refine ⟨?_, .inr (.inl ⟨last, hsdk⟩)⟩
    by_contra hnot
    obtain ⟨hsame, hother⟩ := hunheard hnot
    have hlast : lastDelivered (tr ++ [.reported state, .reported last]) = c.announced := by
      rw [List.append_cons, lastDelivered_reported, lastDelivered_reported,
        hannounces.announced_eq]
    rw [hlast] at hstate
    exact hother (hstate.symm.trans hsame)
  | handling event =>
    have hheard : c.heard = true := by
      by_contra hnot
      have hwaits := (hannounces.unheard htransitioned (Bool.eq_false_iff.mpr hnot)).1
      rw [hsdk] at hwaits
      cases hwaits
    have hcurrent : ¬ c.Current := fun hcurrent => hlate ⟨.inl hheard, hcurrent⟩
    rw [Connection.Current, not_or, not_or] at hcurrent
    obtain ⟨hother, _, hnone⟩ := hcurrent
    have hsame : c.state = event.state := by
      by_contra hne
      exact hnone ⟨event, hsdk, Ne.symm hne⟩
    have hhandled := hreported.step (ConnectionStep.handle event _ hsdk)
    rw [List.append_nil] at hhandled
    refine ⟨[], _, hhandled, ?_⟩
    intro hfollows
    have hidle : Connection.afterHandling
        (({ c.report state 0 with connect := .returned true } : Connection).transitionState
          event.state).2 = .idle := by
      rcases Connection.afterHandling_cases _ event.state with ⟨_, hcall⟩ | ⟨hne, _⟩
      · exact hcall
      · exact absurd hsame hne
    obtain ⟨_, htold, _⟩ := hfollows (by simp) hidle
    rw [lastReported_reported, hconnected] at htold
    have hstate : event.state = .connected := by simpa using htold.symm
    exact hother (hsame.trans hstate)

/-- **The state follows the SDK** in every run in which, when `connect` makes its callback,
the last event delivered has not been overwritten by its transition and the state is
Connected or about to be reported again.  From any other callback of `connect` a state is
reached that does not follow. -/
theorem followsSdk_of_orderly (tr : List ConnectionEvent) (c : Connection) :
    (orderlyConnection.Trace tr c → FollowsSdk tr c) ∧
      (connectionMachine.Trace tr c → ∀ state, c.connect = .reporting state →
        ¬ (c.Heard ∧ c.Current) →
        ∃ rest c', connectionMachine.Trace (tr ++ .reported state :: rest) c' ∧
          ¬ FollowsSdk (tr ++ .reported state :: rest) c') := by
  refine ⟨?_, fun h state => not_followsSdk_of_late h⟩
  intro h hreturned hidle
  have hlive : c.connect ≠ .returned false := by simp [hreturned]
  have hannounces := announces_of_trace (trace_of_orderly h) hlive
  have htold := told_of_orderly h hlive
  have hreported : lastReported tr = some c.state := by
    rcases htold.late hreturned with ⟨state, hreporting⟩ | htold | ⟨event, hhandling, _⟩
    · cases hidle.symm.trans hreporting
    · exact htold
    · cases hidle.symm.trans hhandling
  refine ⟨?_, hreported, ?_⟩
  · rw [← hannounces.announced_eq]
    exact hannounces.state_eq (by rw [hreturned]; rfl) (by rw [hidle]; rfl) (htold.heard hreturned)
  · intro henabled
    rw [hannounces.watched henabled, hreported]
    simp

/-! ### Three runs -/

/-- A connection with the room activated, before the transition of `connect`. -/
def activated : Connection :=
  { Connection.initial ⟨true, 75⟩ 0 false with connect := .transitioning }

theorem trace_activated {M : Machine Connection ConnectionEvent}
    (hstart : M.start (.initial ⟨true, 75⟩ 0 false))
    (hstep : ∀ {c evs c'}, ConnectionStep c evs c' → c.connect.transitioned = false →
      M.step c evs c') : M.Trace [] activated := by
  have h0 : M.Trace [] _ := .start hstart
  have h1 := h0.step (hstep (ConnectionStep.connectRoom true _ rfl) rfl)
  have h2 := h1.step (hstep (ConnectionStep.checkStop _ rfl) rfl)
  exact h2.step (hstep (ConnectionStep.activateRoom true _ rfl) rfl)

theorem inTime_of_not_reporting {c c' : Connection} (h : ∀ state, c.connect ≠ .reporting state) :
    CallsBackInTime c c' := fun state hat => absurd hat (h state)

/-- The transition of `connect` overwrites a Disconnected, and a Reconnecting is delivered
before its callback. -/
theorem followsSdk_of_orderly_reconnecting :
    FollowsSdk [.delivered .disconnected, .delivered .reconnecting, .reported .connected,
        .reported .reconnecting]
      ⟨.reconnecting, false, .returned true, .idle, some .reconnecting, true,
        ⟨⟨true, 75⟩, false, some ⟨6, 75000006⟩⟩⟩ := by
  have h0 : orderlyConnection.Trace [] activated := by
    refine trace_activated ⟨_, _, _, rfl⟩ fun hs hc => ⟨hs, ?_⟩
    intro state hat
    rw [hat] at hc
    cases hc
  have h1 := h0.step (show orderlyConnection.step _ _ _ from
    ⟨ConnectionStep.deliver .disconnected _ rfl (by decide), inTime_of_not_reporting nofun⟩)
  have h2 := h1.step (show orderlyConnection.step _ _ _ from
    ⟨ConnectionStep.handle .disconnected _ rfl, inTime_of_not_reporting nofun⟩)
  have h3 := h2.step (show orderlyConnection.step _ _ _ from
    ⟨ConnectionStep.transitionState _ rfl, inTime_of_not_reporting nofun⟩)
  have h4 := h3.step (show orderlyConnection.step _ _ _ from
    ⟨ConnectionStep.deliver .reconnecting _ rfl (by decide), fun _ _ hc' => by cases hc'⟩)
  have h5 := h4.step (show orderlyConnection.step _ _ _ from
    ⟨ConnectionStep.report .connected 5 _ rfl, fun _ _ _ => ⟨.inl rfl, .inl rfl⟩⟩)
  have h6 := h5.step (show orderlyConnection.step _ _ _ from
    ⟨ConnectionStep.handle .reconnecting _ rfl, inTime_of_not_reporting nofun⟩)
  exact (followsSdk_of_orderly _ _).1 (h6.step (show orderlyConnection.step _ _ _ from
    ⟨ConnectionStep.reportHandled .reconnecting 6 _ rfl, inTime_of_not_reporting nofun⟩))

/-- **A disconnect is lost.**  The room disconnects while `connect` activates it: the
handler finds the state Disconnected, and `connect` then sets it to Connected and disarms
the watchdog. -/
theorem not_followsSdk : ¬ ∀ tr c, connectionMachine.Trace tr c → FollowsSdk tr c := by
  intro hclaim
  have h0 : connectionMachine.Trace [] activated := trace_activated ⟨_, _, _, rfl⟩ fun hs _ => hs
  have h1 := h0.step (ConnectionStep.deliver .disconnected _ rfl (by decide))
  have h2 := h1.step (ConnectionStep.handle .disconnected _ rfl)
  have h3 := h2.step (ConnectionStep.transitionState _ rfl)
  have h4 := h3.step (ConnectionStep.report .connected 5 _ rfl)
  have hstate := (hclaim _ _ h4 rfl rfl).1
  revert hstate
  decide

/-- **A report is overtaken.**  The room disconnects right after the transition of
`connect`, whose callback comes last: the state is Disconnected, and the watchdog was told
Connected. -/
theorem not_followsSdk_overtaken :
    ∃ tr c, connectionMachine.Trace tr c ∧ c.connect = .returned true ∧ c.sdk = .idle ∧
      c.state = (lastDelivered tr).getD .connected ∧ lastReported tr ≠ some c.state := by
  have h0 : connectionMachine.Trace [] activated := trace_activated ⟨_, _, _, rfl⟩ fun hs _ => hs
  have h1 := h0.step (ConnectionStep.transitionState _ rfl)
  have h2 := h1.step (ConnectionStep.deliver .disconnected _ rfl (by decide))
  have h3 := h2.step (ConnectionStep.handle .disconnected _ rfl)
  have h4 := h3.step (ConnectionStep.reportHandled .disconnected 5 _ rfl)
  have h5 := h4.step (ConnectionStep.report .connected 6 _ rfl)
  exact ⟨_, _, h5, by decide, by decide, by decide, by decide⟩

end LivekitBridge
