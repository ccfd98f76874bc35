import LivekitBridge.Leases.Reports
import LivekitBridge.Leases.Sessions
import LivekitBridge.Utils.LogEvent

/-!
# What a heartbeat logs

The log statements of `subscription_lease_manager.cpp` that a heartbeat can reach.  A definition
here follows the function of the manager that has the statement, and returns the messages instead
of the state; the state between two demands is that of the manager.

Of the texts in a message the session, the kinds and the names are the client's, and so is what
rclcpp says of a name that it does not accept, as that quotes the name.  `fieldQuoted` is used for
the kind and the name of an entry of an unknown kind, and nowhere else.  So a message of any other
statement that has such a text can be forged (`not_unforgeable_dropped`), and a heartbeat is logged
safely exactly when it reaches none of them (`unforgeable_iff`).
-/

namespace LivekitBridge

open Lib

/-! ### The statements -/

/-- What is around the statements: whether the throttle of rclcpp lets a message pass, what
`publishData` throws, and what the clock shows at the calls of `EventThrottle::record`. -/
structure LogEffects where
  passes : Bool
  publishData : Except Str Unit
  clock : Nat → Time

/-- `conflict_throttle_`, `unsupported_kind_throttle_` -/
structure LeaseThrottles where
  conflict : EventThrottle
  unsupportedKind : EventThrottle
deriving DecidableEq, Repr

def LogEffects.warnThrottle (lfx : LogEffects) (e : LogEvent) : List LogEvent :=
  if lfx.passes then [e] else []

/-- `magic_enum::enum_name`, of a `SubscriptionTargetKind`. -/
def TargetKind.enumName : TargetKind → Str
  | .topic => lit "Topic"
  | .otherVideo => lit "OtherVideo"
  | .otherAudio => lit "OtherAudio"

/-- `magic_enum::enum_name`, of a `SubscriptionDeliveryKind`. -/
def DeliveryKind.enumName : DeliveryKind → Str
  | .data => lit "Data"
  | .video => lit "Video"
  | .audio => lit "Audio"

/-- The statement of `handleHeartbeatPayload`; `quotesClient` is whether the error quotes the
payload. -/
def packetRejected (identity : Str) (error : ValidationError) (quotesClient : Bool) : LogEvent :=
  (((LogEvent.new (lit "livekit_packet_rejected")).field (lit "reason")
    (bridgeText (lit "invalid_heartbeat"))).fieldOr (lit "requester_identity")
    (bridgeText identity) kUnknownFieldValue).field (lit "request_field")
    (bridgeText error.field) |>.field (lit "error") ⟨error.reason, quotesClient⟩

/-- The first statement of `resolveIdentity`. -/
def heartbeatDropped (sessionId : Option Str) : LogEvent :=
  ((LogEvent.new (lit "heartbeat_dropped")).field (lit "reason")
    (bridgeText (lit "anonymous_requester_without_resolvable_client_session"))).fieldOrOptional
    (lit "session_id") (sessionId.map clientText) (lit "<absent>")

/-- The second one. -/
def heartbeatClientSessionConflict (identity : Str) (sessionId : Option Str) (existing : Str)
    (pending : Nat) : LogEvent :=
  (((LogEvent.new (lit "heartbeat_client_session_conflict")).field (lit "requester_identity")
    (bridgeText identity)).fieldOrOptional (lit "session_id") (sessionId.map clientText)
    (lit "<absent>")).field (lit "existing_requester_identity") (bridgeText existing)
    |>.field (lit "count") (bridgeText (decimalText pending))

/-- The statement of `appendUnsupportedStatus`. -/
def unsupportedHeartbeatKind (unsupported : UnsupportedSubscription) (requester : Str)
    (pending : Nat) : LogEvent :=
  (((LogEvent.new (lit "unsupported_heartbeat_kind")).fieldQuoted (lit "kind")
    (clientText unsupported.kind)).fieldOrQuoted (lit "name") (unsupported.name.map clientText)
    (lit "<absent>")).field (lit "requester_identity") (bridgeText requester)
    |>.fieldIf (decide (1 < pending)) (lit "count") (bridgeText (decimalText pending))

/-- The statement of `publishStatusReport`. -/
def subscriptionStatusPublishFailed (requester : Str) (sessionId : Option Str) (what : Str) :
    LogEvent :=
  (((LogEvent.new (lit "subscription_status_publish_failed")).field (lit "requester_identity")
    (bridgeText requester)).fieldOrOptional (lit "session_id") (sessionId.map clientText)
    (lit "<absent>")).field (lit "error") (bridgeText what)

/-- The first statement of `create`; the name is what the client's resolved to. -/
def subscriptionCreated (name : Str) (kind : TargetKind) (delivery : DeliveryKind)
    (requester : Str) : LogEvent :=
  (((LogEvent.new (lit "subscription_created")).field (lit "resource") (clientText name)).field
    (lit "kind") (bridgeText kind.enumName)).field (lit "delivery") (bridgeText delivery.enumName)
    |>.field (lit "requester_identity") (bridgeText requester)

/-- The second one. -/
def subscriptionCreateFailed (name : Str) (kind : TargetKind) (requester what : Str) : LogEvent :=
  (((LogEvent.new (lit "subscription_create_failed")).field (lit "resource")
    (clientText name)).field (lit "kind") (bridgeText kind.enumName)).field
    (lit "requester_identity") (bridgeText requester) |>.field (lit "error") (bridgeText what)

/-! ### The functions that have them -/

/-- `resolveIdentity` -/
def resolveIdentityLog (lfx : LogEffects) (throttle : EventThrottle) (s : LeaseState)
    (identity : Str) (sessionId : Option Str) : EventThrottle × List LogEvent :=
  if identity = [] then
    match sessionId.bind fun id => (s.sessionLeases.lookup id : Option SessionLease) with
    | none => (throttle, lfx.warnThrottle (heartbeatDropped sessionId))
    | some _ => (throttle, [])
  else
    match sessionId.bind fun id => (s.sessionLeases.lookup id : Option SessionLease) with
    | none => (throttle, [])
    | some lease =>
      if lease.requesterIdentity ≠ identity then
        let recorded := throttle.record (lfx.clock 0)
        (recorded.1,
          if 0 < recorded.2 then
            [heartbeatClientSessionConflict identity sessionId lease.requesterIdentity recorded.2]
          else [])
      else (throttle, [])

/-- The loop over `appendUnsupportedStatus` in `createStatusReport`; `clock i` is the time of the
`i`-th record. -/
def appendUnsupportedStatusesLog (requester : Str) :
    EventThrottle → (Nat → Time) → List UnsupportedSubscription → EventThrottle × List LogEvent
  | throttle, _, [] => (throttle, [])
  | throttle, clock, unsupported :: entries =>
    let recorded := throttle.record (clock 0)
    let rest := appendUnsupportedStatusesLog requester recorded.1 (fun i => clock (i + 1)) entries
    (rest.1,
      (if 0 < recorded.2 then [unsupportedHeartbeatKind unsupported requester recorded.2] else []) ++
        rest.2)

/-- `publishStatusReport` -/
def publishStatusReportLog (lfx : LogEffects) (requester : Str) (sessionId : Option Str)
    (report : StatusReport) : List LogEvent :=
  if report.statuses = [] then []
  else
    match lfx.publishData with
    | .ok _ => []
    | .error what =>
      lfx.warnThrottle (subscriptionStatusPublishFailed requester sessionId what)

namespace LeaseManager

variable (m : LeaseManager)

/-- `create` -/
def createLog (fx : DemandEffects) (s : LeaseState) (d : ResolvedDemand) (requester : Str)
    (lease : Lease) : List LogEvent :=
  match (m.create fx s d requester lease).1 with
  | .ok status => [subscriptionCreated d.name d.kind status.delivery requester]
  | .error what => [subscriptionCreateFailed d.name d.kind requester what]

/-- `ensure`; what `renew` does, does not throw. -/
def ensureLog (fx : DemandEffects) (s : LeaseState) (requester : Str) (d : ResolvedDemand)
    (expiry : Time) : List LogEvent :=
  if s.isShutdown then []
  else
    match (s.subscriptions.lookup d.key : Option Subscription) with
    | some _ => []
    | none =>
      match m.resolveDemandDelivery fx d with
      | .error _ => []
      | .ok created => m.createLog fx s created requester ⟨d.preferredIntervalMs, expiry⟩

/-- `appendDemandStatus` -/
def appendDemandStatusLog (fx : DemandEffects) (s : LeaseState) (requester : Str) (demand : Demand)
    (expiry : Time) : List LogEvent :=
  if demand.kind = .topic ∧ m.accessPolicy.allows m.node.expand .subscribe demand.name = false then
    []
  else if s.isShutdown then []
  else
    match m.resolveDemand demand with
    | .error _ => []
    | .ok resolved => m.ensureLog fx s requester resolved expiry

/-- The loop of `createStatusReport` over the demands. -/
def appendDemandStatusesLog (requester : Str) (expiry : Time) :
    (Nat → DemandEffects) → LeaseState → List Demand → List LogEvent
  | _, _, [] => []
  | fx, s, demand :: demands =>
    m.appendDemandStatusLog (fx 0) s requester demand expiry ++
      appendDemandStatusesLog requester expiry (fun i => fx (i + 1))
        (m.appendDemandStatus (fx 0) s requester demand expiry).2.1 demands

/-- `handleHeartbeat` -/
def handleHeartbeatLog (fx : Nat → DemandEffects) (lfx : LogEffects) (throttles : LeaseThrottles)
    (now : Time) (identity : Str) (heartbeat : Heartbeat) (s : LeaseState) :
    LeaseThrottles × List LogEvent :=
  match resolveIdentity s identity heartbeat.sessionId with
  | none =>
    let refused := resolveIdentityLog lfx throttles.conflict s identity heartbeat.sessionId
    ({ throttles with conflict := refused.1 }, refused.2)
  | some requester =>
    let expiry := now + m.heartbeatLeaseDuration
    match renewSessionLease s requester heartbeat.sessionId expiry with
    | .error _ => (throttles, [])
    | .ok bound =>
      let report := (m.createStatusReport fx bound heartbeat requester expiry).1
      let unsupported :=
        appendUnsupportedStatusesLog requester throttles.unsupportedKind lfx.clock
          heartbeat.unsupported
      ({ throttles with unsupportedKind := unsupported.1 },
        m.appendDemandStatusesLog requester expiry fx bound heartbeat.demands ++ unsupported.2 ++
          publishStatusReportLog lfx requester heartbeat.sessionId report)

end LeaseManager

/-- What rclcpp throws at the name of an entry, when the entry is of a topic. -/
def nameRefusal (expand : Expand) (entry : Json) : Option ExpandError :=
  if recognisedKind entry = some .topic then
    (rawNameOf entry).bind fun raw =>
      match expand (trim raw) kHeartbeatTopicExpansionNodeName
          kHeartbeatTopicExpansionNamespace false with
      | .ok _ => none
      | .error e => some e
  else none

/-- The same of the entry at which the parser stops, if it does. -/
def firstRefusal (expand : Expand) (st : ParseState) : List Json → Option ExpandError
  | [] => none
  | entry :: entries =>
    match parseHeartbeatEntry expand st entry with
    | .error _ => nameRefusal expand entry
    | .ok st' => firstRefusal expand st' entries

/-- What rclcpp threw at a name, when that is why the payload is rejected. -/
def payloadRefusal (parseText : Str → Option Json) (expand : Expand) (payload : Str) :
    Option ExpandError :=
  match parseObject parseText payload (lit "Invalid JSON in subscription heartbeat")
      (lit "Subscription heartbeat must be a JSON object") with
  | .error _ => none
  | .ok body =>
    match optionalString body (lit "session_id")
        (lit "heartbeat session_id must be a string") true with
    | .error _ => none
    | .ok _ => (entriesOf body).bind (firstRefusal expand ⟨[], [], ∅, []⟩)

/-- The texts of rclcpp's name validation quote the name; that of its other errors does not. -/
def ExpandError.quotesName : ExpandError → Bool
  | .nameValidation _ => true
  | .runtimeError _ => false

/-- `handleHeartbeatPayload` -/
def LeaseManager.handleHeartbeatPayloadLog (m : LeaseManager) (parseText : Str → Option Json)
    (fx : Nat → DemandEffects) (lfx : LogEffects) (throttles : LeaseThrottles) (now : Time)
    (identity payload : Str) (s : LeaseState) : LeaseThrottles × List LogEvent :=
  match parseHeartbeatPayload parseText m.node.expand payload with
  | .error error =>
    let quotesClient := (payloadRefusal parseText m.node.expand payload).any ExpandError.quotesName
    (throttles, lfx.warnThrottle (packetRejected identity error quotesClient))
  | .ok heartbeat => m.handleHeartbeatLog fx lfx throttles now identity heartbeat s

/-! ### When this is safe -/

/-- No control characters. -/
def ControlFree (text : Str) : Prop := ∀ b ∈ text, 0x20 ≤ b ∧ b ≠ 0x7F

instance (text : Str) : Decidable (ControlFree text) :=
  List.decidableBAll (fun b => 0x20 ≤ b ∧ b ≠ 0x7F) text

/-- `record` returns 0. -/
def EventThrottle.Silent (t : EventThrottle) (now : Time) : Prop :=
  t.nextAllowedAt ≠ 0 ∧ now < t.nextAllowedAt

/-- The demand is for a new subscription, and its target is there. -/
def LeaseManager.Opens (m : LeaseManager) (fx : DemandEffects) (s : LeaseState) (demand : Demand) :
    Prop :=
  ¬ m.Denied demand ∧ s.isShutdown = false ∧ ∃ d created, m.resolveDemand demand = .ok d ∧
    s.subscriptions.lookup d.key = none ∧ m.resolveDemandDelivery fx d = .ok created

/-- A heartbeat reaches no statement that has a text of the client as it is: without a requester it
has no session, or is not logged; in a conflict it is not logged; and otherwise it opens no
subscription, and its report goes out, or has no session. -/
structure SafelyServed (m : LeaseManager) (fx : Nat → DemandEffects) (lfx : LogEffects)
    (throttles : LeaseThrottles) (identity : Str) (heartbeat : Heartbeat) (s : LeaseState) :
    Prop where
  anonymous : AnonymousWithoutSession s identity heartbeat.sessionId →
    lfx.passes = true → heartbeat.sessionId = none
  conflict : SessionConflict s identity heartbeat.sessionId →
    throttles.conflict.Silent (lfx.clock 0)
  opens : ¬ AnonymousWithoutSession s identity heartbeat.sessionId →
    ¬ SessionConflict s identity heartbeat.sessionId →
      ∀ i demand, heartbeat.demands[i]? = some demand → ¬ m.Opens (fx i) s demand
  reports : ¬ AnonymousWithoutSession s identity heartbeat.sessionId →
    ¬ SessionConflict s identity heartbeat.sessionId →
      ∀ what, heartbeat.demands ≠ [] ∨ heartbeat.unsupported ≠ [] →
        lfx.publishData = .error what → lfx.passes = true →
          heartbeat.sessionId = none ∧ NoLineBreak what

/-- The same of a payload: when it is rejected for a name, the text of rclcpp quotes no name and
has no line break, or is not logged. -/
structure SafelyLogged (m : LeaseManager) (parseText : Str → Option Json)
    (fx : Nat → DemandEffects) (lfx : LogEffects) (throttles : LeaseThrottles)
    (identity payload : Str) (s : LeaseState) : Prop where
  rejected : ∀ e, parseHeartbeatPayload parseText m.node.expand payload = .error e →
    lfx.passes = true → ∀ refusal, payloadRefusal parseText m.node.expand payload = some refusal →
      refusal.quotesName = false ∧ NoLineBreak refusal.what
  accepted : ∀ heartbeat, parseHeartbeatPayload parseText m.node.expand payload = .ok heartbeat →
    SafelyServed m fx lfx throttles identity heartbeat s

theorem ControlFree.noLineBreak {text : Str} (h : ControlFree text) : NoLineBreak text := by
  intro b hb
  have hlarge := (h b hb).1
  constructor
  · intro heq
    rw [heq] at hlarge
    revert hlarge
    decide
  · intro heq
    rw [heq] at hlarge
    revert hlarge
    decide

theorem record_eq_zero_iff (t : EventThrottle) (now : Time) :
    (t.record now).2 = 0 ↔ t.Silent now := by
  rw [EventThrottle.record]
  split
  · rename_i hpasses
    constructor
    · intro hzero
      cases hzero
    · rintro ⟨hset, hearly⟩
      rcases hpasses with hunset | hdue
      · exact absurd hunset hset
      · exact absurd hearly (Nat.not_lt.mpr hdue)
  · rename_i hheld
    rw [not_or, Nat.not_le] at hheld
    exact ⟨fun _ => hheld, fun _ => rfl⟩

/-! ### Why a payload is rejected -/

section Refusals

variable {expand : Expand} {entry : Json}

def ValidationError.OneLine (e : ValidationError) : Prop :=
  NoLineBreak e.field ∧ NoLineBreak e.reason

/-- The error has what rclcpp threw, or it has a text of the bridge. -/
def RefusedFor (refusal : Option ExpandError) (error : ValidationError) : Prop :=
  match refusal with
  | some e => error = ⟨kSubscriptionNameField, e.what⟩
  | none => error.OneLine

theorem noLineBreak_nameField : NoLineBreak kSubscriptionNameField := by decide

theorem nameRefusal_of_other (h : recognisedKind entry ≠ some .topic) :
    nameRefusal expand entry = none := by
  rw [nameRefusal, if_neg h]

theorem parseName_refusal {kind : TargetKind} {raw : Str} {e : ValidationError}
    (hkind : recognisedKind entry = some kind) (hraw : rawNameOf entry = some raw)
    (h : parseName expand kind raw = .error e) : RefusedFor (nameRefusal expand entry) e := by
  have hblank : NoLineBreak
      (lit "heartbeat subscription other source name must trim to a non-empty name") := by decide
  cases kind with
  | topic =>
    rw [nameRefusal, if_pos hkind, hraw]
    simp only [parseName, heartbeatTopic, expandTrimmed] at h
    cases hexpand : expand (trim raw) kHeartbeatTopicExpansionNodeName
        kHeartbeatTopicExpansionNamespace false with
    | ok name =>
      rw [hexpand] at h
      cases h
    | error refusal =>
      rw [hexpand] at h
      simp only [Option.bind_some, hexpand]
      exact (Except.error.inj h).symm
  | otherVideo =>
    rw [nameRefusal_of_other (by rw [hkind]; decide)]
    simp only [parseName] at h
    split at h
    · rw [← Except.error.inj h]
      exact ⟨noLineBreak_nameField, hblank⟩
    · cases h
  | otherAudio =>
    rw [nameRefusal_of_other (by rw [hkind]; decide)]
    simp only [parseName] at h
    split at h
    · rw [← Except.error.inj h]
      exact ⟨noLineBreak_nameField, hblank⟩
    · cases h

theorem parseTarget_refusal {e : ValidationError} (h : parseTarget expand entry = .error e) :
    RefusedFor (nameRefusal expand entry) e := by
  have hkind : NoLineBreak kSubscriptionKindField := by decide
  have hfind : (entry.find (lit "kind")).bind Json.text? = rawKindOf entry := rfl
  have hfindName : (entry.find (lit "name")).bind Json.text? = rawNameOf entry := rfl
  rw [parseTarget, hfind, hfindName] at h
  cases hraw : rawKindOf entry with
  | none =>
    rw [hraw] at h
    rw [← Except.error.inj h, nameRefusal_of_other (by rw [recognisedKind, hraw]; decide)]
    exact ⟨hkind, by decide⟩
  | some rawKind =>
    have hrecognised : recognisedKind entry = targetKindOf (trim rawKind) := by
      rw [recognisedKind, hraw]
      rfl
    rw [hraw] at h
    dsimp only at h
    split at h
    · rename_i hblank
      have hnone : targetKindOf [] = none := by decide
      rw [← Except.error.inj h,
        nameRefusal_of_other (by rw [hrecognised, hblank, hnone]; decide)]
      exact ⟨hkind, by decide⟩
    · cases htarget : targetKindOf (trim rawKind) with
      | none =>
        rw [htarget] at h
        cases h
      | some kind =>
        rw [htarget] at h hrecognised
        dsimp only at h
        cases hrawName : rawNameOf entry with
        | none =>
          have hnone : nameRefusal expand entry = none := by
            rw [nameRefusal, hrawName]
            exact ite_self none
          rw [hrawName] at h
          rw [← Except.error.inj h, hnone]
          exact ⟨noLineBreak_nameField, by decide⟩
        | some raw =>
          rw [hrawName] at h
          dsimp only at h
          cases hparsed : parseName expand kind raw with
          | error e' =>
            rw [hparsed] at h
            rw [← Except.error.inj h]
            exact parseName_refusal hrecognised hrawName hparsed
          | ok name =>
            rw [hparsed] at h
            cases h

theorem nameRefusal_of_target {kind : TargetKind} {name : Str}
    (h : parseTarget expand entry = .ok (.target kind name)) : nameRefusal expand entry = none := by
  by_cases htopic : recognisedKind entry = some .topic
  · rcases parseTarget_cases expand entry with ⟨_, hnone, _⟩ | ⟨_, _, _, hnone, _⟩ |
      ⟨_, _, _, e, herror⟩ | ⟨kind', raw, name', hkind, hraw, hname, _⟩
    · rw [hnone] at htopic
      cases htopic
    · rw [hnone] at htopic
      cases htopic
    · rw [h] at herror
      cases herror
    · obtain rfl : kind' = .topic := Option.some.inj (hkind.symm.trans htopic)
      simp only [parseName, heartbeatTopic, expandTrimmed] at hname
      rw [nameRefusal, if_pos htopic, hraw]
      cases hexpand : expand (trim raw) kHeartbeatTopicExpansionNodeName
          kHeartbeatTopicExpansionNamespace false with
      | ok _ => simp only [Option.bind_some, hexpand]
      | error e =>
        rw [hexpand] at hname
        cases hname
  · exact nameRefusal_of_other htopic

theorem parseClampedInt_error {value : Json} {reason : Str} {e : ValidationError}
    (h : parseClampedInt value reason = .error e) :
    e = ⟨kDeliveryPreferencesIntervalMsField, reason⟩ := by
  cases value with
  | signed raw => cases h
  | unsigned raw => cases h
  | _ => exact (Except.error.inj h).symm

theorem parseIntervalMs_oneLine {e : ValidationError} (h : parseIntervalMs entry = .error e) :
    e.OneLine := by
  have hinterval : NoLineBreak kDeliveryPreferencesIntervalMsField := by decide
  have hpreferences : NoLineBreak kDeliveryPreferencesField := by decide
  have hinteger : NoLineBreak (lit "delivery_preferences.interval_ms must be an integer") := by
    decide
  rw [parseIntervalMs] at h
  split at h
  · cases h
  · split at h
    · split at h
      · cases h
      · split at h
        · rename_i hclamped
          rw [← Except.error.inj h, parseClampedInt_error hclamped]
          exact ⟨hinterval, hinteger⟩
        · split at h <;> cases h
    · rw [← Except.error.inj h]
      exact ⟨hpreferences, by decide⟩

theorem parseHeartbeatEntry_refusal {st : ParseState} {e : ValidationError}
    (h : parseHeartbeatEntry expand st entry = .error e) :
    RefusedFor (nameRefusal expand entry) e := by
  rw [parseHeartbeatEntry] at h
  split at h
  · cases htarget : parseTarget expand entry with
    | error e' =>
      rw [htarget] at h
      rw [← Except.error.inj h]
      exact parseTarget_refusal htarget
    | ok parsed =>
      rw [htarget] at h
      cases parsed with
      | unsupported u => cases h
      | target kind name =>
        dsimp only at h
        cases hinterval : parseIntervalMs entry with
        | ok interval =>
          rw [hinterval] at h
          cases h
        | error e' =>
          rw [hinterval] at h
          rw [← Except.error.inj h, nameRefusal_of_target htarget]
          exact parseIntervalMs_oneLine hinterval
  · rename_i hobject
    have hnone : recognisedKind entry = none := by
      cases entry with
      | object fields => exact absurd rfl hobject
      | _ => rfl
    rw [← Except.error.inj h, nameRefusal_of_other (by rw [hnone]; decide)]
    exact ⟨by decide, by decide⟩

theorem parseHeartbeatEntries_refusal {st : ParseState} {entries : List Json} {e : ValidationError}
    (h : parseHeartbeatEntries expand st entries = .error e) :
    RefusedFor (firstRefusal expand st entries) e := by
  induction entries generalizing st with
  | nil => cases h
  | cons entry entries ih =>
    rw [parseHeartbeatEntries] at h
    rw [firstRefusal]
    cases hentry : parseHeartbeatEntry expand st entry with
    | error e' =>
      rw [hentry] at h
      rw [← Except.error.inj h]
      exact parseHeartbeatEntry_refusal hentry
    | ok st' =>
      rw [hentry] at h
      exact ih h

/-- **Why a payload is rejected**: for a name, with the text of rclcpp, or with a text of the
bridge. -/
theorem parseHeartbeatPayload_refusal {parseText : Str → Option Json} {payload : Str}
    {e : ValidationError} (h : parseHeartbeatPayload parseText expand payload = .error e) :
    RefusedFor (payloadRefusal parseText expand payload) e := by
  have hpayload : NoLineBreak kPayloadField := by decide
  have hinvalid : NoLineBreak (lit "Invalid JSON in subscription heartbeat") := by decide
  have hobject : NoLineBreak (lit "Subscription heartbeat must be a JSON object") := by decide
  rw [parseHeartbeatPayload] at h
  rw [payloadRefusal]
  cases hbody : parseObject parseText payload (lit "Invalid JSON in subscription heartbeat")
      (lit "Subscription heartbeat must be a JSON object") with
  | error what =>
    rw [hbody] at h
    rw [← Except.error.inj h]
    refine ⟨hpayload, ?_⟩
    rw [parseObject] at hbody
    split at hbody
    · rw [← Except.error.inj hbody]
      exact hinvalid
    · split at hbody
      · cases hbody
      · rw [← Except.error.inj hbody]
        exact hobject
  | ok body =>
    rw [hbody] at h
    dsimp only at h ⊢
    rw [parseHeartbeat] at h
    rcases optionalString_session body (lit "heartbeat session_id must be a string") with
      ⟨_, _, _, _, hsession⟩ | ⟨_, hsession⟩
    · rw [hsession] at h ⊢
      rw [← Except.error.inj h]
      exact ⟨by decide, by decide⟩
    · rw [hsession] at h ⊢
      dsimp only at h ⊢
      rw [entriesOf]
      have hfield : NoLineBreak kSubscriptionsField := by decide
      cases hfind : body.find (lit "subscriptions") with
      | none =>
        rw [hfind] at h
        rw [← Except.error.inj h]
        exact ⟨hfield, by decide⟩
      | some value =>
        rw [hfind] at h
        dsimp only at h
        rw [Option.bind_some]
        cases hitems : value.items? with
        | none =>
          rw [hitems] at h
          rw [← Except.error.inj h]
          exact ⟨hfield, by decide⟩
        | some items =>
          rw [hitems] at h
          dsimp only at h
          rw [Option.bind_some]
          cases hentries : parseHeartbeatEntries expand ⟨[], [], ∅, []⟩ items with
          | error e' =>
            rw [hentries] at h
            rw [← Except.error.inj h]
            exact parseHeartbeatEntries_refusal hentries
          | ok st =>
            rw [hentries] at h
            cases h

end Refusals

/-! ### The demands -/

theorem not_unforgeable_of_client {e : LogEvent} {key text : Str}
    (hmem : (key, .plain (clientText text)) ∈ e.fields) : ¬ e.Unforgeable := by
  intro h
  cases (h.plain hmem).1

namespace LeaseManager

section Demands

variable {m : LeaseManager} {fx : DemandEffects} {s s' : LeaseState} {requester : Str}
  {demand : Demand} {expiry : Time}

/-- The same subscriptions, whatever they are. -/
def SameKeys (s s' : LeaseState) : Prop :=
  s'.isShutdown = s.isShutdown ∧
    ∀ key, s'.subscriptions.lookup key = none ↔ s.subscriptions.lookup key = none

theorem SameKeys.refl (s : LeaseState) : SameKeys s s := ⟨rfl, fun _ => Iff.rfl⟩

theorem opens_congr (h : SameKeys s s') : m.Opens fx s' demand ↔ m.Opens fx s demand := by
  rw [Opens, Opens, h.1]
  simp only [h.2]

/-- A subscription that is there is replaced. -/
theorem sameKeys_insert {key : Str} {sub sub' : Subscription}
    (h : s.subscriptions.lookup key = some sub) :
    SameKeys s { s with subscriptions := s.subscriptions.insert key sub' } := by
  refine ⟨rfl, ?_⟩
  intro other
  rw [AList.lookup_insert_eq_if]
  split
  · rename_i heq
    rw [heq, h]
    exact ⟨nofun, nofun⟩
  · exact Iff.rfl

theorem appendDemandStatus_sameKeys (h : ¬ m.Opens fx s demand) :
    SameKeys s (m.appendDemandStatus fx s requester demand expiry).2.1 := by
  rw [appendDemandStatus]
  split
  · exact .refl s
  · rename_i hallowed
    split
    · exact .refl s
    · rename_i hrunning
      cases hresolve : m.resolveDemand demand with
      | error what => exact .refl s
      | ok d =>
        dsimp only
        have hsame : SameKeys s (m.ensure fx s requester d expiry).2.1 := by
          rw [ensure, if_neg hrunning]
          dsimp only
          cases hlookup : (s.subscriptions.lookup d.key : Option Subscription) with
          | some sub => exact sameKeys_insert hlookup
          | none =>
            cases hdelivery : m.resolveDemandDelivery fx d with
            | error what => exact .refl s
            | ok created =>
              rw [Bool.not_eq_true] at hrunning
              exact absurd ⟨hallowed, hrunning, d, created, hresolve, hlookup, hdelivery⟩ h
        split
        · rename_i heq
          rw [heq] at hsame
          exact hsame
        · rename_i heq
          rw [heq] at hsame
          exact hsame

theorem appendDemandStatusLog_of_not_opens (h : ¬ m.Opens fx s demand) :
    m.appendDemandStatusLog fx s requester demand expiry = [] := by
  rw [appendDemandStatusLog]
  split
  · rfl
  · rename_i hallowed
    split
    · rfl
    · rename_i hrunning
      cases hresolve : m.resolveDemand demand with
      | error what => rfl
      | ok d =>
        dsimp only
        rw [ensureLog, if_neg hrunning]
        cases hlookup : (s.subscriptions.lookup d.key : Option Subscription) with
        | some sub => rfl
        | none =>
          cases hdelivery : m.resolveDemandDelivery fx d with
          | error what => rfl
          | ok created =>
            rw [Bool.not_eq_true] at hrunning
            exact absurd ⟨hallowed, hrunning, d, created, hresolve, hlookup, hdelivery⟩ h

/-- Whether a subscription can be created or not, its name is logged as it is. -/
theorem appendDemandStatusLog_of_opens (h : m.Opens fx s demand) :
    ∃ e ∈ m.appendDemandStatusLog fx s requester demand expiry, ¬ e.Unforgeable := by
  obtain ⟨hallowed, hrunning, d, created, hresolve, hlookup, hdelivery⟩ := h
  have hopen : ¬ s.isShutdown = true := by
    rw [hrunning]
    exact nofun
  rw [Denied] at hallowed
  rw [appendDemandStatusLog, if_neg hallowed, if_neg hopen, hresolve]
  dsimp only
  rw [ensureLog, if_neg hopen, hlookup, hdelivery]
  dsimp only
  rw [createLog]
  split
  · exact ⟨_, List.mem_singleton_self _, not_unforgeable_of_client List.mem_cons_self⟩
  · exact ⟨_, List.mem_singleton_self _, not_unforgeable_of_client List.mem_cons_self⟩

end Demands

/-- **The demands are logged safely when none of them opens a subscription.** -/
theorem appendDemandStatusesLog_unforgeable_iff (m : LeaseManager) (requester : Str)
    (expiry : Time) (demands : List Demand) (fx : Nat → DemandEffects) (s : LeaseState) :
    (∀ e ∈ m.appendDemandStatusesLog requester expiry fx s demands, e.Unforgeable) ↔
      ∀ i demand, demands[i]? = some demand → ¬ m.Opens (fx i) s demand := by
  induction demands generalizing fx s with
  | nil => exact ⟨fun _ _ _ h => (nomatch h), fun _ _ h => nomatch h⟩
  | cons demand demands ih =>
    rw [appendDemandStatusesLog, List.forall_mem_append]
    by_cases hopens : m.Opens (fx 0) s demand
    · constructor
      · intro h
        obtain ⟨e, hmem, hbad⟩ :=
          @appendDemandStatusLog_of_opens m (fx 0) s requester demand expiry hopens
        exact absurd (h.1 e hmem) hbad
      · intro h
        exact absurd hopens (h 0 demand rfl)
    · have hsame := @appendDemandStatus_sameKeys m (fx 0) s requester demand expiry hopens
      rw [appendDemandStatusLog_of_not_opens hopens, ih]
      constructor
      · intro h i other hother
        cases i with
        | zero =>
          obtain rfl := Option.some.inj hother
          exact hopens
        | succ i => exact (opens_congr hsame).not.mp (h.2 i other hother)
      · intro h
        refine ⟨fun _ hmem => (nomatch hmem), ?_⟩
        intro i other hother
        exact (opens_congr hsame).not.mpr (h (i + 1) other hother)

end LeaseManager

/-! ### The messages -/

section Statements

variable {identity requester what : Str} {sessionId : Option Str}

theorem packetRejected_unforgeable_iff {error : ValidationError} {refusal : Option ExpandError}
    (hidentity : NoLineBreak identity) (herror : RefusedFor refusal error) :
    (packetRejected identity error (refusal.any ExpandError.quotesName)).Unforgeable ↔
      ∀ e, refusal = some e → e.quotesName = false ∧ NoLineBreak e.what := by
  have hrequester : NoLineBreak
      (if (bridgeText identity).text = [] then bridgeText kUnknownFieldValue
        else bridgeText identity).text := by
    split
    · decide
    · exact hidentity
  have hbridge : (if (bridgeText identity).text = [] then bridgeText kUnknownFieldValue
      else bridgeText identity).client = false := by
    split <;> rfl
  have hfields : NoLineBreak error.field → NoLineBreak error.reason →
      refusal.any ExpandError.quotesName = false →
      (packetRejected identity error (refusal.any ExpandError.quotesName)).Unforgeable := by
    intro hfield hreason hquotes
    apply LogEvent.Unforgeable.field _ (by decide) hreason hquotes
    apply LogEvent.Unforgeable.field _ (by decide) hfield rfl
    apply LogEvent.Unforgeable.field _ (by decide) hrequester hbridge
    apply LogEvent.Unforgeable.field _ (by decide) (by decide) rfl
    exact unforgeable_new (by decide)
  cases refusal with
  | none =>
    constructor
    · intro _ e he
      cases he
    · intro _
      exact hfields herror.1 herror.2 rfl
  | some e =>
    have heq : error = ⟨kSubscriptionNameField, e.what⟩ := herror
    constructor
    · intro h e' he'
      obtain rfl := Option.some.inj he'
      have hplain := h.plain (List.mem_append_right _ (List.mem_singleton_self _))
      rw [heq] at hplain
      exact hplain
    · intro h
      obtain ⟨hquotes, hwhat⟩ := h e rfl
      rw [heq] at hfields ⊢
      exact hfields noLineBreak_nameField hwhat hquotes

/-- The session stands in a message as it is. -/
theorem mem_fields_fieldOrOptional {e : LogEvent} {key id fallback : Str} (hid : id ≠ []) :
    (key, .plain (clientText id)) ∈ (e.fieldOrOptional key (some (clientText id)) fallback).fields := by
  have hkeeps : (if (clientText id).text = [] then bridgeText fallback else clientText id) =
      clientText id := if_neg hid
  rw [LogEvent.fieldOrOptional, LogEvent.fieldOr, hkeeps]
  exact List.mem_append_right _ (List.mem_singleton_self _)

theorem heartbeatDropped_unforgeable_iff (hsession : sessionId ≠ some []) :
    (heartbeatDropped sessionId).Unforgeable ↔ sessionId = none := by
  cases sessionId with
  | none =>
    refine ⟨fun _ => rfl, fun _ => ?_⟩
    apply LogEvent.Unforgeable.field _ (by decide) (by decide) rfl
    apply LogEvent.Unforgeable.field _ (by decide) (by decide) rfl
    exact unforgeable_new (by decide)
  | some id =>
    have hid : id ≠ [] := fun hnil => hsession (by rw [hnil])
    refine ⟨fun h => ?_, nofun⟩
    exact absurd h (not_unforgeable_of_client (mem_fields_fieldOrOptional hid))

theorem not_unforgeable_conflict {id existing : Str} (hid : id ≠ []) (pending : Nat) :
    ¬ (heartbeatClientSessionConflict identity (some id) existing pending).Unforgeable := by
  apply not_unforgeable_of_client
  apply List.mem_append_left
  apply List.mem_append_left
  exact mem_fields_fieldOrOptional hid

theorem unsupportedHeartbeatKind_unforgeable (unsupported : UnsupportedSubscription)
    (hrequester : NoLineBreak requester) (pending : Nat) :
    (unsupportedHeartbeatKind unsupported requester pending).Unforgeable := by
  apply LogEvent.Unforgeable.fieldIf _ _ (by decide) (noLineBreak_decimalText pending) rfl
  apply LogEvent.Unforgeable.field _ (by decide) hrequester rfl
  apply LogEvent.Unforgeable.fieldOrQuoted _ (by decide) _ (by decide)
  apply LogEvent.Unforgeable.fieldQuoted _ (by decide)
  exact unforgeable_new (by decide)

theorem statusPublishFailed_unforgeable_iff (hrequester : NoLineBreak requester)
    (hsession : sessionId ≠ some []) :
    (subscriptionStatusPublishFailed requester sessionId what).Unforgeable ↔
      sessionId = none ∧ NoLineBreak what := by
  cases sessionId with
  | none =>
    constructor
    · intro h
      exact ⟨rfl, (h.plain (List.mem_append_right _ (List.mem_singleton_self _))).2⟩
    · intro ⟨_, hwhat⟩
      apply LogEvent.Unforgeable.field _ (by decide) hwhat rfl
      apply LogEvent.Unforgeable.field _ (by decide) (by decide) rfl
      apply LogEvent.Unforgeable.field _ (by decide) hrequester rfl
      exact unforgeable_new (by decide)
  | some id =>
    have hid : id ≠ [] := fun hnil => hsession (by rw [hnil])
    refine ⟨fun h => ?_, fun h => nomatch h.1⟩
    have hmem : (lit "session_id", .plain (clientText id)) ∈
        (subscriptionStatusPublishFailed requester (some id) what).fields :=
      List.mem_append_left _ (mem_fields_fieldOrOptional hid)
    exact absurd h (not_unforgeable_of_client hmem)

theorem appendUnsupportedStatusesLog_unforgeable (hrequester : NoLineBreak requester)
    (entries : List UnsupportedSubscription) (throttle : EventThrottle) (clock : Nat → Time) :
    ∀ e ∈ (appendUnsupportedStatusesLog requester throttle clock entries).2, e.Unforgeable := by
  induction entries generalizing throttle clock with
  | nil => exact fun _ h => nomatch h
  | cons unsupported entries ih =>
    rw [appendUnsupportedStatusesLog]
    intro e he
    rcases List.mem_append.mp he with hfirst | hrest
    · split at hfirst
      · rw [List.mem_singleton.mp hfirst]
        exact unsupportedHeartbeatKind_unforgeable unsupported hrequester _
      · cases hfirst
    · exact ih _ _ e hrest

end Statements

/-! ### The whole call -/

section Refused

variable {s : LeaseState} {identity : Str} {sessionId : Option Str}

theorem resolveIdentityLog_of_anonymous (h : AnonymousWithoutSession s identity sessionId)
    (lfx : LogEffects) (throttle : EventThrottle) :
    (resolveIdentityLog lfx throttle s identity sessionId).2 =
      lfx.warnThrottle (heartbeatDropped sessionId) := by
  obtain ⟨hidentity, hnone⟩ := h
  have hfound : (sessionId.bind fun id => (s.sessionLeases.lookup id : Option SessionLease)) =
      none := by
    cases sessionId with
    | none => rfl
    | some id => exact hnone id rfl
  rw [resolveIdentityLog, if_pos hidentity, hfound]

theorem resolveIdentityLog_of_conflict (h : SessionConflict s identity sessionId)
    (lfx : LogEffects) (throttle : EventThrottle) :
    ∃ id existing, sessionId = some id ∧
      (resolveIdentityLog lfx throttle s identity sessionId).2 =
        if 0 < (throttle.record (lfx.clock 0)).2 then
          [heartbeatClientSessionConflict identity (some id) existing
            (throttle.record (lfx.clock 0)).2]
        else [] := by
  obtain ⟨hidentity, id, lease, rfl, hlease, hne⟩ := h
  refine ⟨id, lease.requesterIdentity, rfl, ?_⟩
  rw [resolveIdentityLog, if_neg hidentity, Option.bind_some, hlease]
  dsimp only
  rw [if_pos hne]

theorem not_conflict_of_anonymous (h : AnonymousWithoutSession s identity sessionId) :
    ¬ SessionConflict s identity sessionId :=
  fun hconflict => hconflict.1 h.1

theorem controlFree_of_resolved {requester : Str}
    (h : resolveIdentity s identity sessionId = some requester) (hidentity : ControlFree identity)
    (hsessions : ∀ id lease, s.sessionLeases.lookup id = some lease →
      ControlFree lease.requesterIdentity) : ControlFree requester := by
  rcases resolveIdentity_cases h with ⟨_, rfl⟩ | ⟨_, id, lease, _, hlease, rfl⟩
  · exact hidentity
  · exact hsessions id lease hlease

theorem controlFree_of_trace {m : LeaseManager} {tr : List LeaseEvent} (h : m.machine.Trace tr s)
    (hidentities : ∀ now identity sessionId requester,
      .heartbeat now identity sessionId requester ∈ tr → ControlFree identity) :
    ∀ id lease, s.sessionLeases.lookup id = some lease → ControlFree lease.requesterIdentity := by
  intro id lease hlease
  obtain ⟨_, pre, e, post, rfl, hidentified, _⟩ := (sessions_of_trace h).bound id lease hlease
  have hmem : e ∈ pre ++ e :: post := List.mem_append_right pre List.mem_cons_self
  cases e with
  | heartbeat now identity' sessionId requester =>
    cases sessionId with
    | none => cases hidentified
    | some id' =>
      cases requester with
      | none => cases hidentified
      | some requester =>
        rw [identifiedBy] at hidentified
        split at hidentified
        · rw [← Option.some.inj hidentified]
          exact hidentities _ _ _ _ hmem
        · cases hidentified
  | _ => cases hidentified

end Refused

theorem mem_warnThrottle {lfx : LogEffects} {e e' : LogEvent} :
    e ∈ lfx.warnThrottle e' ↔ lfx.passes = true ∧ e = e' := by
  rw [LogEffects.warnThrottle]
  split
  · rename_i hpasses
    rw [List.mem_singleton, hpasses]
    simp
  · rename_i hheld
    exact ⟨fun h => (nomatch h), fun h => absurd h.1 hheld⟩

/-- A session that is read is not blank. -/
theorem sessionId_ne_nil {parseText : Str → Option Json} {expand : Expand} {payload : Str}
    {heartbeat : Heartbeat}
    (h : parseHeartbeatPayload parseText expand payload = .ok heartbeat) :
    heartbeat.sessionId ≠ some [] := by
  obtain ⟨body, entries, rfl⟩ := parseHeartbeatPayload_eq h
  intro hsession
  obtain ⟨text, _, hkeeps⟩ := Option.bind_eq_some_iff.mp hsession
  split at hkeeps
  · cases hkeeps
  · rename_i hblank
    exact hblank (Option.some.inj hkeeps)

section Call

variable {m : LeaseManager} {parseText : Str → Option Json} {fx : Nat → DemandEffects}
  {lfx : LogEffects} {throttles : LeaseThrottles} {now : Time} {identity payload : Str}
  {s : LeaseState} {heartbeat : Heartbeat}

theorem handleHeartbeatLog_of_resolved {requester : Str}
    (h : resolveIdentity s identity heartbeat.sessionId = some requester) :
    (m.handleHeartbeatLog fx lfx throttles now identity heartbeat s).2 =
      m.appendDemandStatusesLog requester (now + m.heartbeatLeaseDuration) fx
          (s.bindSession requester heartbeat.sessionId (now + m.heartbeatLeaseDuration))
          heartbeat.demands ++
        (appendUnsupportedStatusesLog requester throttles.unsupportedKind lfx.clock
          heartbeat.unsupported).2 ++
        publishStatusReportLog lfx requester heartbeat.sessionId
          (m.report fx now heartbeat s requester) := by
  rw [LeaseManager.handleHeartbeatLog, h]
  dsimp only
  rw [renewSessionLease_of_resolved _ h]
  rfl

theorem publishStatusReportLog_unforgeable_iff {requester : Str} (hrequester : NoLineBreak requester)
    (hsession : heartbeat.sessionId ≠ some []) :
    (∀ e ∈ publishStatusReportLog lfx requester heartbeat.sessionId
        (m.report fx now heartbeat s requester), e.Unforgeable) ↔
      ∀ what, heartbeat.demands ≠ [] ∨ heartbeat.unsupported ≠ [] →
        lfx.publishData = .error what → lfx.passes = true →
          heartbeat.sessionId = none ∧ NoLineBreak what := by
  have hlength := LeaseManager.length_report m heartbeat fx now s requester
  rw [publishStatusReportLog]
  split
  · rename_i hempty
    rw [hempty, List.length_nil] at hlength
    refine ⟨fun _ what hasks => ?_, fun _ _ h => nomatch h⟩
    rw [ne_eq, ne_eq, ← List.length_eq_zero_iff, ← List.length_eq_zero_iff] at hasks
    omega
  · rename_i hfull
    have hasks : heartbeat.demands ≠ [] ∨ heartbeat.unsupported ≠ [] := by
      rw [← List.length_eq_zero_iff, hlength] at hfull
      rw [ne_eq, ne_eq, ← List.length_eq_zero_iff, ← List.length_eq_zero_iff]
      omega
    cases hpublish : lfx.publishData with
    | ok _ => exact ⟨fun _ _ _ h => (nomatch h), fun _ _ h => nomatch h⟩
    | error what =>
      constructor
      · intro h what' _ hwhat hpasses
        obtain rfl := Except.error.inj hwhat
        exact (statusPublishFailed_unforgeable_iff hrequester hsession).mp
          (h _ (mem_warnThrottle.mpr ⟨hpasses, rfl⟩))
      · intro h e he
        obtain ⟨hpasses, rfl⟩ := mem_warnThrottle.mp he
        exact (statusPublishFailed_unforgeable_iff hrequester hsession).mpr
          (h what hasks rfl hpasses)

theorem handleHeartbeatLog_unforgeable_iff (hidentity : ControlFree identity)
    (hsessions : ∀ id lease, s.sessionLeases.lookup id = some lease →
      ControlFree lease.requesterIdentity) (hsession : heartbeat.sessionId ≠ some []) :
    (∀ e ∈ (m.handleHeartbeatLog fx lfx throttles now identity heartbeat s).2, e.Unforgeable) ↔
      SafelyServed m fx lfx throttles identity heartbeat s := by
  by_cases hanonymous : AnonymousWithoutSession s identity heartbeat.sessionId
  · have hnoConflict := not_conflict_of_anonymous hanonymous
    have hrefused := (resolveIdentity_eq_none_iff s identity heartbeat.sessionId).mpr (.inl hanonymous)
    rw [LeaseManager.handleHeartbeatLog, hrefused]
    dsimp only
    rw [resolveIdentityLog_of_anonymous hanonymous]
    constructor
    · intro h
      refine ⟨fun _ hpasses => ?_, fun hconflict => absurd hconflict hnoConflict,
        fun hnot => absurd hanonymous hnot, fun hnot => absurd hanonymous hnot⟩
      exact (heartbeatDropped_unforgeable_iff hsession).mp
        (h _ (mem_warnThrottle.mpr ⟨hpasses, rfl⟩))
    · intro h e he
      obtain ⟨hpasses, rfl⟩ := mem_warnThrottle.mp he
      exact (heartbeatDropped_unforgeable_iff hsession).mpr (h.anonymous hanonymous hpasses)
  by_cases hconflict : SessionConflict s identity heartbeat.sessionId
  · have hrefused := (resolveIdentity_eq_none_iff s identity heartbeat.sessionId).mpr (.inr hconflict)
    obtain ⟨id, existing, hid, hlog⟩ :=
      resolveIdentityLog_of_conflict hconflict lfx throttles.conflict
    have hne : id ≠ [] := fun hnil => hsession (by rw [hid, hnil])
    rw [LeaseManager.handleHeartbeatLog, hrefused]
    dsimp only
    rw [hlog]
    constructor
    · intro h
      refine ⟨fun hyes => absurd hyes hanonymous, fun _ => ?_, fun _ hnot => absurd hconflict hnot,
        fun _ hnot => absurd hconflict hnot⟩
      rw [← record_eq_zero_iff]
      by_contra hrecorded
      rw [if_pos (Nat.pos_of_ne_zero hrecorded)] at h
      exact not_unforgeable_conflict hne _ (h _ (List.mem_singleton_self _))
    · intro h e he
      rw [(record_eq_zero_iff _ _).mpr (h.conflict hconflict)] at he
      cases he
  · cases hresolve : resolveIdentity s identity heartbeat.sessionId with
    | none =>
      rcases (resolveIdentity_eq_none_iff s identity heartbeat.sessionId).mp hresolve with hyes | hyes
      · exact absurd hyes hanonymous
      · exact absurd hyes hconflict
    | some requester =>
      have hrequester :=
        (controlFree_of_resolved hresolve hidentity hsessions).noLineBreak
      have hbound : LeaseManager.SameKeys s
          (s.bindSession requester heartbeat.sessionId (now + m.heartbeatLeaseDuration)) := by
        refine ⟨LeaseState.bindSession_isShutdown s _ _ _, ?_⟩
        intro key
        rw [LeaseState.bindSession_subscriptions]
      have hunsupported := appendUnsupportedStatusesLog_unforgeable hrequester
        heartbeat.unsupported throttles.unsupportedKind lfx.clock
      rw [handleHeartbeatLog_of_resolved hresolve, List.forall_mem_append, List.forall_mem_append,
        LeaseManager.appendDemandStatusesLog_unforgeable_iff,
        publishStatusReportLog_unforgeable_iff hrequester hsession]
      constructor
      · intro h
        refine ⟨fun hyes => absurd hyes hanonymous, fun hyes => absurd hyes hconflict, ?_,
          fun _ _ => h.2⟩
        intro _ _ i demand hdemand
        exact (LeaseManager.opens_congr hbound).not.mp (h.1.1 i demand hdemand)
      · intro h
        refine ⟨⟨?_, hunsupported⟩, h.reports hanonymous hconflict⟩
        intro i demand hdemand
        exact (LeaseManager.opens_congr hbound).not.mpr
          (h.opens hanonymous hconflict i demand hdemand)

end Call

/-- **When the log of a heartbeat cannot be forged**: it is rejected for another reason than a name
that rclcpp refuses, or it is refused without its session being logged, or it is served, opens no
subscription, and its report goes out. -/
theorem unforgeable_iff (m : LeaseManager) (parseText : Str → Option Json)
    (fx : Nat → DemandEffects) (lfx : LogEffects) (throttles : LeaseThrottles) (now : Time)
    {identity : Str} (payload : Str) {s : LeaseState} (hidentity : ControlFree identity)
    (hsessions : ∀ id lease, s.sessionLeases.lookup id = some lease →
      ControlFree lease.requesterIdentity) :
    (∀ e ∈ (m.handleHeartbeatPayloadLog parseText fx lfx throttles now identity payload s).2,
        e.Unforgeable) ↔
      SafelyLogged m parseText fx lfx throttles identity payload s := by
  rw [LeaseManager.handleHeartbeatPayloadLog]
  cases hparse : parseHeartbeatPayload parseText m.node.expand payload with
  | error error =>
    have hmessage := packetRejected_unforgeable_iff hidentity.noLineBreak
      (parseHeartbeatPayload_refusal hparse)
    constructor
    · intro h
      refine ⟨fun _ _ hpasses => ?_, fun heartbeat hok => ?_⟩
      · exact hmessage.mp (h _ (mem_warnThrottle.mpr ⟨hpasses, rfl⟩))
      · rw [hparse] at hok
        cases hok
    · intro h e he
      obtain ⟨hpasses, rfl⟩ := mem_warnThrottle.mp he
      exact hmessage.mpr (h.rejected error hparse hpasses)
  | ok heartbeat =>
    dsimp only
    rw [handleHeartbeatLog_unforgeable_iff hidentity hsessions (sessionId_ne_nil hparse)]
    constructor
    · intro h
      refine ⟨fun e herror => ?_, fun heartbeat' hok => ?_⟩
      · rw [hparse] at herror
        cases herror
      · rw [hparse] at hok
        obtain rfl := Except.ok.inj hok
        exact h
    · intro h
      exact h.accepted heartbeat hparse

/-- The throttles of a manager that was just constructed. -/
def initialThrottles : LeaseThrottles := ⟨⟨5000000000, 0, 0⟩, ⟨5000000000, 0, 0⟩⟩

/-- A heartbeat for a kind that the bridge does not know, with a line break in it. -/
def brokenKindText : Str :=
  lit "\x7b\"subscriptions\":[\x7b\"kind\":\"li\\ndar\"\x7d]\x7d"

/-- A parser that knows that text. -/
def brokenKindParser (text : Str) : Option Json :=
  if text = brokenKindText then
    some (.object [(lit "subscriptions",
      .array [.object [(lit "kind", .string (lit "li\ndar"))]])])
  else none

/-- Its line break is escaped. -/
theorem unforgeable_iff_brokenKind :
    SafelyLogged openManager brokenKindParser (fun _ => chatterEffects) ⟨true, .ok (), fun _ => 1⟩
        initialThrottles (lit "alice") brokenKindText .initial ∧
      ∀ e ∈ (openManager.handleHeartbeatPayloadLog brokenKindParser (fun _ => chatterEffects)
          ⟨true, .ok (), fun _ => 1⟩ initialThrottles 1 (lit "alice") brokenKindText .initial).2,
        e.Unforgeable := by
  have hidentity : ControlFree (lit "alice") := by decide
  have hstart : openManager.machine.Trace [] .initial := .start rfl
  have hsessions := controlFree_of_trace hstart (by simp)
  have hparse : parseHeartbeatPayload brokenKindParser openManager.node.expand brokenKindText =
      .ok ⟨none, [], [⟨lit "li\ndar", none⟩]⟩ := rfl
  have hsafe : SafelyLogged openManager brokenKindParser (fun _ => chatterEffects)
      ⟨true, .ok (), fun _ => 1⟩ initialThrottles (lit "alice") brokenKindText .initial := by
    refine ⟨?_, ?_⟩
    · intro e herror
      rw [hparse] at herror
      cases herror
    · intro heartbeat hok
      rw [hparse] at hok
      obtain rfl := Except.ok.inj hok
      refine ⟨?_, ?_, ?_, ?_⟩
      · intro _ _
        rfl
      · rintro ⟨_, id, lease, hid, _⟩
        cases hid
      · intro _ _ i demand hdemand
        cases hdemand
      · intro _ _ what _ hwhat
        cases hwhat
  exact ⟨hsafe, (unforgeable_iff openManager brokenKindParser (fun _ => chatterEffects)
    ⟨true, .ok (), fun _ => 1⟩ initialThrottles 1 brokenKindText hidentity hsessions).mpr hsafe⟩

/-- A heartbeat with a line break in its session. -/
def brokenSessionText : Str :=
  lit "\x7b\"session_id\":\"a\\nevent=b\",\"subscriptions\":[]\x7d"

/-- A parser that knows that text. -/
def brokenSessionParser (text : Str) : Option Json :=
  if text = brokenSessionText then
    some (.object [(lit "session_id", .string (lit "a\nevent=b")),
      (lit "subscriptions", .array [])])
  else none

/-- A heartbeat without an identity is dropped, and its session breaks the line of the message. -/
theorem not_unforgeable_dropped :
    ∃ e ∈ (openManager.handleHeartbeatPayloadLog brokenSessionParser (fun _ => chatterEffects)
        ⟨true, .ok (), fun _ => 1⟩ initialThrottles 1 [] brokenSessionText .initial).2,
      ¬ NoLineBreak e.str ∧ ¬ e.Unforgeable := by
  have hid : lit "a\nevent=b" ≠ [] := nofun
  have hmem : (lit "session_id", .plain (clientText (lit "a\nevent=b"))) ∈
      (heartbeatDropped (some (lit "a\nevent=b"))).fields := mem_fields_fieldOrOptional hid
  refine ⟨heartbeatDropped (some (lit "a\nevent=b")), List.mem_singleton_self _, ?_,
    not_unforgeable_of_client hmem⟩
  intro h
  have hbreak : ¬ NoLineBreak (lit "a\nevent=b") := by decide
  exact hbreak (noLineBreak_of_mem_fields h hmem)

end LivekitBridge
