import LivekitBridge.Bridge.TopicNames
import LivekitBridge.Leases.Manager
import LivekitBridge.Lib.FirstSeen
import LivekitBridge.Protocol.Json

/-!
# Heartbeats on the wire

`protocol/subscriptions_json.cpp`, `parse`.  A heartbeat lists subscriptions.  Entries of a
kind the bridge knows become demands, one for each target, with the smallest interval that
any of them asks for; the others are kept as they came, to be answered as unsupported.

The loop carries two lists and an index for each.  `Read` says what they are after the
entries of a prefix: the demands are the targets in the order in which they were first
seen, each with the least of its intervals, and the unsupported entries likewise.  The
index finds a target by its key, and a key tells its target because no kind has a colon in
it (`wireKey_inj`).
-/

namespace LivekitBridge

open Lib

/-! ### The parser -/

def toWire : TargetKind → Str
  | .topic => lit "topic"
  | .otherVideo => lit "other_video"
  | .otherAudio => lit "other_audio"

def kPayloadField : Str := lit "payload"

def kSessionIdField : Str := lit "session_id"

def kSubscriptionsField : Str := lit "subscriptions"

def kSubscriptionKindField : Str := lit "subscriptions.kind"

def kSubscriptionNameField : Str := lit "subscriptions.name"

def kDeliveryPreferencesField : Str := lit "subscriptions.delivery_preferences"

def kDeliveryPreferencesIntervalMsField : Str :=
  lit "subscriptions.delivery_preferences.interval_ms"

/-- `std::numeric_limits<int>::min()` -/
def kIntMin : Int := -2147483648

/-- `std::numeric_limits<int>::max()` -/
def kIntMax : Int := 2147483647

def parseClampedInt (value : Json) (reason : Str) : Except ValidationError Int :=
  match value with
  | .unsigned raw => .ok (if (raw : Int) > kIntMax then kIntMax else raw)
  | .signed raw => .ok (if raw < kIntMin then kIntMin else if raw > kIntMax then kIntMax else raw)
  | _ => .error ⟨kDeliveryPreferencesIntervalMsField, reason⟩

def parseIntervalMs (entry : Json) : Except ValidationError (Option Int) :=
  match entry.find (lit "delivery_preferences") with
  | none => .ok none
  | some preferences =>
    if preferences.isObject then
      match preferences.find (lit "interval_ms") with
      | none => .ok none
      | some interval =>
        match parseClampedInt interval
            (lit "delivery_preferences.interval_ms must be an integer") with
        | .error e => .error e
        | .ok ms => if ms = 0 then .ok none else .ok (some ms)
    else .error ⟨kDeliveryPreferencesField, lit "delivery_preferences must be an object"⟩

/-- The kind that the trimmed text names, if the bridge knows it. -/
def targetKindOf (kind : Str) : Option TargetKind :=
  if kind = lit "topic" then some .topic
  else if kind = lit "other_video" then some .otherVideo
  else if kind = lit "other_audio" then some .otherAudio
  else none

/-- The name of a recognised entry in `parseTarget`. -/
def parseName (expand : Expand) (kind : TargetKind) (raw : Str) : Except ValidationError Str :=
  match kind with
  | .topic =>
    match heartbeatTopic expand raw with
    | .error what => .error ⟨kSubscriptionNameField, what⟩
    | .ok name => .ok name
  | .otherVideo | .otherAudio =>
    if trim raw = [] then
      .error ⟨kSubscriptionNameField,
        lit "heartbeat subscription other source name must trim to a non-empty name"⟩
    else .ok (trim raw)

/-- What `parseTarget` writes: a target, or an entry of an unknown kind. -/
inductive ParsedTarget
  | target (kind : TargetKind) (name : Str)
  | unsupported (entry : UnsupportedSubscription)
deriving DecidableEq, Repr

def parseTarget (expand : Expand) (entry : Json) : Except ValidationError ParsedTarget :=
  match (entry.find (lit "kind")).bind Json.text? with
  | none => .error ⟨kSubscriptionKindField, lit "heartbeat subscription 'kind' must be a string"⟩
  | some rawKind =>
    if trim rawKind = [] then
      .error ⟨kSubscriptionKindField,
        lit "heartbeat subscription 'kind' must be a non-empty value"⟩
    else
      match targetKindOf (trim rawKind) with
      | none => .ok (.unsupported ⟨rawKind, (entry.find (lit "name")).bind Json.text?⟩)
      | some kind =>
        match (entry.find (lit "name")).bind Json.text? with
        | none =>
          .error ⟨kSubscriptionNameField, lit "heartbeat subscription 'name' must be a string"⟩
        | some raw =>
          match parseName expand kind raw with
          | .error e => .error e
          | .ok name => .ok (.target kind name)

/-- The key of `index_by_target`. -/
def wireKey (kind : TargetKind) (name : Str) : Str := toWire kind ++ lit ":" ++ name

/-- The local variables of `parse` in its loop. -/
structure ParseState where
  demands : List Demand
  unsupported : List UnsupportedSubscription
  indexByTarget : AList fun _ : Str => Nat
  seenUnsupported : List UnsupportedSubscription

/-- A target that was seen: the smaller interval stays. -/
def coalesceInterval (interval : Option Int) (current : Demand) : Demand :=
  match interval with
  | none => current
  | some requested =>
    match current.preferredIntervalMs with
    | none => { current with preferredIntervalMs := some requested }
    | some ms =>
      if requested ≥ ms then current else { current with preferredIntervalMs := some requested }

/-- The end of the loop's body for a recognised entry. -/
def ParseState.addDemand (st : ParseState) (demand : Demand) : ParseState :=
  match st.indexByTarget.lookup (wireKey demand.kind demand.name) with
  | none =>
    { st with
      demands := st.demands ++ [demand]
      indexByTarget :=
        st.indexByTarget.insert (wireKey demand.kind demand.name) st.demands.length }
  | some pos =>
    { st with demands := st.demands.modify pos (coalesceInterval demand.preferredIntervalMs) }

/-- The end of the loop's body for an entry of an unknown kind. -/
def ParseState.addUnsupported (st : ParseState) (entry : UnsupportedSubscription) : ParseState :=
  if entry ∈ st.seenUnsupported then st
  else
    { st with
      unsupported := st.unsupported ++ [entry]
      seenUnsupported := entry :: st.seenUnsupported }

/-- One entry of the loop of `parse`. -/
def parseHeartbeatEntry (expand : Expand) (st : ParseState) (entry : Json) :
    Except ValidationError ParseState :=
  if entry.isObject then
    match parseTarget expand entry with
    | .error e => .error e
    | .ok (.unsupported unsupported) => .ok (st.addUnsupported unsupported)
    | .ok (.target kind name) =>
      match parseIntervalMs entry with
      | .error e => .error e
      | .ok interval => .ok (st.addDemand ⟨kind, name, interval⟩)
  else .error ⟨kSubscriptionsField, lit "heartbeat subscriptions must be objects"⟩

/-- The loop of `parse`. -/
def parseHeartbeatEntries (expand : Expand) (st : ParseState) :
    List Json → Except ValidationError ParseState
  | [] => .ok st
  | entry :: entries =>
    match parseHeartbeatEntry expand st entry with
    | .error e => .error e
    | .ok st' => parseHeartbeatEntries expand st' entries

/-- `parse`, of a JSON object. -/
def parseHeartbeat (expand : Expand) (body : Json) : Except ValidationError Heartbeat :=
  match optionalString body (lit "session_id") (lit "heartbeat session_id must be a string") true with
  | .error what => .error ⟨kSessionIdField, what⟩
  | .ok sessionId =>
    match body.find (lit "subscriptions") with
    | none => .error ⟨kSubscriptionsField, lit "heartbeat subscriptions are required"⟩
    | some entries =>
      match entries.items? with
      | none => .error ⟨kSubscriptionsField, lit "heartbeat subscriptions must be an array"⟩
      | some items =>
        match parseHeartbeatEntries expand ⟨[], [], ∅, []⟩ items with
        | .error e => .error e
        | .ok st => .ok ⟨sessionId, st.demands, st.unsupported⟩

/-- `parse`, of the bytes. -/
def parseHeartbeatPayload (parseText : Str → Option Json) (expand : Expand) (payload : Str) :
    Except ValidationError Heartbeat :=
  match parseObject parseText payload (lit "Invalid JSON in subscription heartbeat")
      (lit "Subscription heartbeat must be a JSON object") with
  | .error what => .error ⟨kPayloadField, what⟩
  | .ok body => parseHeartbeat expand body

/-! ### What a heartbeat says -/

def rawKindOf (entry : Json) : Option Str := (entry.find (lit "kind")).bind Json.text?

def rawNameOf (entry : Json) : Option Str := (entry.find (lit "name")).bind Json.text?

def recognisedKind (entry : Json) : Option TargetKind :=
  (rawKindOf entry).bind fun raw => targetKindOf (trim raw)

/-- The target of a recognised entry: its kind and its canonical name. -/
def targetOf (expand : Expand) (entry : Json) : Option (TargetKind × Str) :=
  (recognisedKind entry).bind fun kind => (rawNameOf entry).bind fun raw =>
    (parseName expand kind raw).toOption.map fun name => (kind, name)

/-- The value of a number that is an integer. -/
def Json.integer? : Json → Option Int
  | .signed value => some value
  | .unsigned value => some value
  | _ => none

/-- The interval an entry asks for: the integer, clamped to the range of `int`, unless
that is zero. -/
def intervalOf (entry : Json) : Option Int :=
  ((entry.find (lit "delivery_preferences")).bind fun preferences =>
    (preferences.find (lit "interval_ms")).bind fun interval =>
      interval.integer?.map fun value => max kIntMin (min value kIntMax)).filter (· ≠ 0)

/-- An entry of an unknown kind, as it came. -/
def unsupportedOf (entry : Json) : Option UnsupportedSubscription :=
  (rawKindOf entry).bind fun raw =>
    if trim raw ≠ [] ∧ targetKindOf (trim raw) = none then some ⟨raw, rawNameOf entry⟩ else none

/-- The targets of the recognised entries. -/
def targetsOf (expand : Expand) (entries : List Json) : List (TargetKind × Str) :=
  entries.filterMap (targetOf expand)

def intervalsOf (expand : Expand) (entries : List Json) (target : TargetKind × Str) : List Int :=
  (entries.filter fun entry => targetOf expand entry = some target).filterMap intervalOf

/-- The demands: each target once, as first seen, with the least of its intervals. -/
def demandsOf (expand : Expand) (entries : List Json) : List Demand :=
  (targetsOf expand entries).eraseDups.map fun target =>
    ⟨target.1, target.2, (intervalsOf expand entries target).min?⟩

/-- The entries of unknown kinds, each once, as first seen. -/
def unsupportedIn (entries : List Json) : List UnsupportedSubscription :=
  (entries.filterMap unsupportedOf).eraseDups

/-- What makes an entry reject the heartbeat. -/
inductive Malformed (expand : Expand) (entry : Json) : Prop
  | notObject : entry.isObject = false → Malformed expand entry
  /-- no string under `kind`, or a blank one -/
  | noKind : (∀ raw, rawKindOf entry = some raw → trim raw = []) → Malformed expand entry
  /-- no string under `name`, or one that is no name of the kind -/
  | noName (kind : TargetKind) : recognisedKind entry = some kind →
      (∀ raw, rawNameOf entry = some raw → ∃ e, parseName expand kind raw = .error e) →
      Malformed expand entry
  | badPreferences (kind : TargetKind) (preferences : Json) : recognisedKind entry = some kind →
      entry.find (lit "delivery_preferences") = some preferences →
      preferences.isObject = false → Malformed expand entry
  | badInterval (kind : TargetKind) (preferences interval : Json) :
      recognisedKind entry = some kind →
      entry.find (lit "delivery_preferences") = some preferences →
      preferences.find (lit "interval_ms") = some interval →
      interval.isInteger = false → Malformed expand entry

/-! ### One entry -/

section Entry

variable {expand : Expand} {entry : Json}

theorem parseClampedInt_eq (value : Json) (reason : Str) :
    parseClampedInt value reason =
      (value.integer?.map fun v => max kIntMin (min v kIntMax)).elim
        (.error ⟨kDeliveryPreferencesIntervalMsField, reason⟩) .ok := by
  cases value with
  | signed raw =>
    have hclamp : (if raw < kIntMin then kIntMin else if raw > kIntMax then kIntMax else raw) =
        max kIntMin (min raw kIntMax) := by
      simp only [kIntMin, kIntMax]
      omega
    exact congrArg Except.ok hclamp
  | unsigned raw =>
    have hclamp : (if (raw : Int) > kIntMax then kIntMax else (raw : Int)) =
        max kIntMin (min (raw : Int) kIntMax) := by
      simp only [kIntMin, kIntMax]
      omega
    exact congrArg Except.ok hclamp
  | _ => rfl

theorem isInteger_eq (value : Json) : value.isInteger = value.integer?.isSome := by
  cases value <;> rfl

/-- The preferences of the entry are no object, or its interval is no integer. -/
def BadInterval (entry : Json) : Prop :=
  (∃ preferences, entry.find (lit "delivery_preferences") = some preferences ∧
    preferences.isObject = false) ∨
  ∃ preferences interval, entry.find (lit "delivery_preferences") = some preferences ∧
    preferences.find (lit "interval_ms") = some interval ∧ interval.isInteger = false

/-- **What `parseIntervalMs` does.** -/
theorem parseIntervalMs_cases (entry : Json) :
    (BadInterval entry ∧ ∃ e, parseIntervalMs entry = .error e) ∨
      (¬ BadInterval entry ∧ parseIntervalMs entry = .ok (intervalOf entry)) := by
  cases hp : entry.find (lit "delivery_preferences") with
  | none =>
    refine .inr ⟨?_, by simp [parseIntervalMs, intervalOf, hp]⟩
    simp [BadInterval, hp]
  | some preferences =>
    cases hobject : preferences.isObject with
    | false => exact .inl ⟨.inl ⟨preferences, hp, hobject⟩, by simp [parseIntervalMs, hp, hobject]⟩
    | true =>
      cases hi : preferences.find (lit "interval_ms") with
      | none =>
        refine .inr ⟨?_, by simp [parseIntervalMs, intervalOf, hp, hobject, hi]⟩
        simp [BadInterval, hp, hobject, hi]
      | some interval =>
        have hinteger := isInteger_eq interval
        cases hv : interval.integer? with
        | none =>
          refine .inl ⟨.inr ⟨preferences, interval, hp, hi, by simp [hinteger, hv]⟩, ?_⟩
          simp [parseIntervalMs, hp, hobject, hi, parseClampedInt_eq, hv]
        | some v =>
          refine .inr ⟨by simp [BadInterval, hp, hobject, hi, hinteger, hv], ?_⟩
          by_cases hzero : max kIntMin (min v kIntMax) = 0
          · simp [parseIntervalMs, intervalOf, hp, hobject, hi, parseClampedInt_eq, hv, hzero,
              Option.filter]
          · simp [parseIntervalMs, intervalOf, hp, hobject, hi, parseClampedInt_eq, hv, hzero,
              Option.filter]

/-- **What `parseTarget` does.** -/
theorem parseTarget_cases (expand : Expand) (entry : Json) :
    ((∀ raw, rawKindOf entry = some raw → trim raw = []) ∧ recognisedKind entry = none ∧
      ∃ e, parseTarget expand entry = .error e) ∨
    (∃ raw, rawKindOf entry = some raw ∧ trim raw ≠ [] ∧ recognisedKind entry = none ∧
      parseTarget expand entry = .ok (.unsupported ⟨raw, rawNameOf entry⟩)) ∨
    (∃ kind, recognisedKind entry = some kind ∧
      (∀ raw, rawNameOf entry = some raw → ∃ e, parseName expand kind raw = .error e) ∧
      ∃ e, parseTarget expand entry = .error e) ∨
    ∃ kind raw name, recognisedKind entry = some kind ∧ rawNameOf entry = some raw ∧
      parseName expand kind raw = .ok name ∧
      parseTarget expand entry = .ok (.target kind name) := by
  have hblank : targetKindOf [] = none := by decide
  cases hk : rawKindOf entry with
  | none =>
    have hk' : (entry.find (lit "kind")).bind Json.text? = none := hk
    exact .inl ⟨by simp, by simp [recognisedKind, hk], by simp [parseTarget, hk']⟩
  | some rawKind =>
    have hk' : (entry.find (lit "kind")).bind Json.text? = some rawKind := hk
    have hkind : recognisedKind entry = targetKindOf (trim rawKind) := by simp [recognisedKind, hk]
    by_cases ht : trim rawKind = []
    · refine .inl ⟨by simp [ht], ?_, by simp [parseTarget, hk', ht]⟩
      rw [hkind, ht, hblank]
    · cases hr : targetKindOf (trim rawKind) with
      | none =>
        refine .inr (.inl ⟨rawKind, rfl, ht, hkind.trans hr, ?_⟩)
        simp [parseTarget, hk', ht, hr, rawNameOf]
      | some kind =>
        cases hn : rawNameOf entry with
        | none =>
          have hn' : (entry.find (lit "name")).bind Json.text? = none := hn
          exact .inr (.inr (.inl ⟨kind, hkind.trans hr, by simp,
            by simp [parseTarget, hk', ht, hr, hn']⟩))
        | some raw =>
          have hn' : (entry.find (lit "name")).bind Json.text? = some raw := hn
          cases hname : parseName expand kind raw with
          | error e =>
            refine .inr (.inr (.inl ⟨kind, hkind.trans hr, ?_, ?_⟩))
            · rintro _ ⟨⟩
              exact ⟨e, hname⟩
            · simp [parseTarget, hk', ht, hr, hn', hname]
          | ok name =>
            refine .inr (.inr (.inr ⟨kind, raw, name, hkind.trans hr, rfl, hname, ?_⟩))
            simp [parseTarget, hk', ht, hr, hn', hname]

theorem unsupportedOf_of_recognised {kind : TargetKind} (h : recognisedKind entry = some kind) :
    unsupportedOf entry = none := by
  obtain ⟨raw, hraw, hkind⟩ := Option.bind_eq_some_iff.mp h
  simp [unsupportedOf, hraw, hkind]

theorem unsupportedOf_eq {raw : Str} (hraw : rawKindOf entry = some raw) (ht : trim raw ≠ [])
    (h : recognisedKind entry = none) : unsupportedOf entry = some ⟨raw, rawNameOf entry⟩ := by
  have hkind : targetKindOf (trim raw) = none := by simpa [recognisedKind, hraw] using h
  simp [unsupportedOf, hraw, ht, hkind]

/-- An entry of an unknown kind is not validated any further. -/
theorem not_malformed_of_unsupported {raw : Str} (hobject : entry.isObject = true)
    (hraw : rawKindOf entry = some raw) (ht : trim raw ≠ []) (h : recognisedKind entry = none) :
    ¬ Malformed expand entry := by
  intro hbad
  cases hbad with
  | notObject hnot => rw [hobject] at hnot; cases hnot
  | noKind hnone => exact ht (hnone raw hraw)
  | noName kind hkind _ => rw [h] at hkind; cases hkind
  | badPreferences kind _ hkind _ _ => rw [h] at hkind; cases hkind
  | badInterval kind _ _ hkind _ _ _ => rw [h] at hkind; cases hkind

theorem not_malformed_of_target {kind : TargetKind} {raw name : Str} (hobject : entry.isObject = true)
    (hkind : recognisedKind entry = some kind) (hraw : rawNameOf entry = some raw)
    (hname : parseName expand kind raw = .ok name) (hinterval : ¬ BadInterval entry) :
    ¬ Malformed expand entry := by
  intro hbad
  cases hbad with
  | notObject hnot => rw [hobject] at hnot; cases hnot
  | noKind hnone =>
    obtain ⟨rawKind, hrawKind, htarget⟩ := Option.bind_eq_some_iff.mp hkind
    rw [hnone rawKind hrawKind] at htarget
    revert htarget
    cases kind <;> decide
  | noName kind' hkind' hnone =>
    obtain rfl : kind = kind' := Option.some.inj (hkind.symm.trans hkind')
    obtain ⟨e, he⟩ := hnone raw hraw
    rw [hname] at he
    cases he
  | badPreferences _ preferences _ hp hnot => exact hinterval (.inl ⟨preferences, hp, hnot⟩)
  | badInterval _ preferences interval _ hp hi hnot =>
    exact hinterval (.inr ⟨preferences, interval, hp, hi, hnot⟩)

/-- **What one entry does**: reject the heartbeat, name a target, or be of an unknown
kind. -/
theorem parseHeartbeatEntry_cases (expand : Expand) (entry : Json) :
    (Malformed expand entry ∧ ∀ st, ∃ e, parseHeartbeatEntry expand st entry = .error e) ∨
    (¬ Malformed expand entry ∧ ∃ target, targetOf expand entry = some target ∧
      unsupportedOf entry = none ∧
      ∀ st, parseHeartbeatEntry expand st entry =
        .ok (st.addDemand ⟨target.1, target.2, intervalOf entry⟩)) ∨
    (¬ Malformed expand entry ∧ ∃ u, unsupportedOf entry = some u ∧ targetOf expand entry = none ∧
      ∀ st, parseHeartbeatEntry expand st entry = .ok (st.addUnsupported u)) := by
  cases hobject : entry.isObject with
  | false => exact .inl ⟨.notObject hobject, by simp [parseHeartbeatEntry, hobject]⟩
  | true =>
    rcases parseTarget_cases expand entry with ⟨hkind, -, e, he⟩ | ⟨raw, hraw, ht, hkind, he⟩ |
      ⟨kind, hkind, hname, e, he⟩ | ⟨kind, raw, name, hkind, hraw, hname, he⟩
    · exact .inl ⟨.noKind hkind, by simp [parseHeartbeatEntry, hobject, he]⟩
    · refine .inr (.inr ⟨not_malformed_of_unsupported hobject hraw ht hkind, _,
        unsupportedOf_eq hraw ht hkind, by simp [targetOf, hkind], ?_⟩)
      simp [parseHeartbeatEntry, hobject, he]
    · exact .inl ⟨.noName kind hkind hname, by simp [parseHeartbeatEntry, hobject, he]⟩
    · rcases parseIntervalMs_cases entry with ⟨hbad, e, hi⟩ | ⟨hgood, hi⟩
      · refine .inl ⟨?_, by simp [parseHeartbeatEntry, hobject, he, hi]⟩
        rcases hbad with ⟨preferences, hp, hnot⟩ | ⟨preferences, interval, hp, hv, hnot⟩
        · exact .badPreferences kind preferences hkind hp hnot
        · exact .badInterval kind preferences interval hkind hp hv hnot
      · refine .inr (.inl ⟨not_malformed_of_target hobject hkind hraw hname hgood, (kind, name),
          ?_, unsupportedOf_of_recognised hkind, ?_⟩)
        · simp [targetOf, hkind, hraw, hname, Except.toOption]
        · simp [parseHeartbeatEntry, hobject, he, hi]

end Entry

/-! ### The loop -/

/-- The bytes of a key that tell its kind. -/
def kindMark : TargetKind → UInt8 × Option UInt8
  | .topic => (0x74, none)
  | .otherVideo => (0x6F, some 0x76)
  | .otherAudio => (0x6F, some 0x61)

theorem head?_wireKey (kind : TargetKind) (name : Str) :
    (wireKey kind name).head? = some (kindMark kind).1 := by
  cases kind <;> rfl

theorem head?_drop_wireKey {kind : TargetKind} {mark : UInt8} (h : (kindMark kind).2 = some mark)
    (name : Str) : ((wireKey kind name).drop 6).head? = some mark := by
  rw [← h]
  cases kind with
  | topic => cases h
  | otherVideo => rfl
  | otherAudio => rfl

theorem wireKey_inj {k k' : TargetKind} {n n' : Str} (h : wireKey k n = wireKey k' n') :
    (k, n) = (k', n') := by
  have hfirst : (kindMark k).1 = (kindMark k').1 := by
    have := head?_wireKey k n
    rw [h, head?_wireKey k' n'] at this
    exact (Option.some.inj this).symm
  have hseventh : ∀ mark mark', (kindMark k).2 = some mark → (kindMark k').2 = some mark' →
      mark = mark' := by
    intro mark mark' hk hk'
    have := head?_drop_wireKey hk n
    rw [h, head?_drop_wireKey hk' n'] at this
    exact (Option.some.inj this).symm
  have hkind : k = k' := by
    cases k with
    | topic =>
      cases k' with
      | topic => rfl
      | otherVideo => exact absurd hfirst (by decide)
      | otherAudio => exact absurd hfirst (by decide)
    | otherVideo =>
      cases k' with
      | topic => exact absurd hfirst (by decide)
      | otherVideo => rfl
      | otherAudio => exact absurd (hseventh _ _ rfl rfl) (by decide)
    | otherAudio =>
      cases k' with
      | topic => exact absurd hfirst (by decide)
      | otherVideo => exact absurd (hseventh _ _ rfl rfl) (by decide)
      | otherAudio => rfl
  subst hkind
  rw [List.append_cancel_left h]

section Loop

variable {expand : Expand} {pre : List Json} {entry : Json} {st : ParseState}

/-- The local variables after the entries of a prefix. -/
structure Read (expand : Expand) (pre : List Json) (st : ParseState) : Prop where
  demands : st.demands = demandsOf expand pre
  unsupported : st.unsupported = unsupportedIn pre
  index : ∀ kind name, st.indexByTarget.lookup (wireKey kind name) =
    (targetsOf expand pre).eraseDups.idxOf? (kind, name)
  seen : ∀ u, u ∈ st.seenUnsupported ↔ u ∈ st.unsupported

theorem read_nil (expand : Expand) : Read expand [] ⟨[], [], ∅, []⟩ where
  demands := rfl
  unsupported := rfl
  index := fun _ _ => rfl
  seen := fun _ => Iff.rfl

theorem targetsOf_concat (expand : Expand) (pre : List Json) (entry : Json) :
    targetsOf expand (pre ++ [entry]) = targetsOf expand pre ++ (targetOf expand entry).toList := by
  rw [targetsOf, List.filterMap_append]
  cases h : targetOf expand entry <;> simp [targetsOf, h]

theorem intervalsOf_concat_self {target : TargetKind × Str} (h : targetOf expand entry = some target) :
    intervalsOf expand (pre ++ [entry]) target =
      intervalsOf expand pre target ++ (intervalOf entry).toList := by
  rw [intervalsOf, List.filter_append, List.filterMap_append]
  cases hi : intervalOf entry <;> simp [intervalsOf, h, hi]

theorem intervalsOf_concat_of_ne {target : TargetKind × Str} (h : targetOf expand entry ≠ some target) :
    intervalsOf expand (pre ++ [entry]) target = intervalsOf expand pre target := by
  rw [intervalsOf, List.filter_append, List.filterMap_append]
  simp [intervalsOf, h]

theorem intervalsOf_eq_nil {target : TargetKind × Str} (h : target ∉ targetsOf expand pre) :
    intervalsOf expand pre target = [] := by
  have hnone : (pre.filter fun e => targetOf expand e = some target) = [] := by
    rw [List.filter_eq_nil_iff]
    intro e he heq
    exact h (List.mem_filterMap.mpr ⟨e, he, by simpa using heq⟩)
  rw [intervalsOf, hnone, List.filterMap_nil]

/-- The smaller interval stays. -/
theorem coalesceInterval_eq (interval : Option Int) (kind : TargetKind) (name : Str)
    (ms : List Int) :
    coalesceInterval interval ⟨kind, name, ms.min?⟩ = ⟨kind, name, (ms ++ interval.toList).min?⟩ := by
  cases interval with
  | none => simp [coalesceInterval]
  | some x =>
    rw [Option.toList_some, min?_concat]
    cases hm : ms.min? with
    | none => rfl
    | some y =>
      simp only [coalesceInterval, Option.elim_some]
      split
      · rw [min_eq_left (by omega)]
      · rw [min_eq_right (by omega)]

theorem unsupportedIn_concat_of_none (h : unsupportedOf entry = none) :
    unsupportedIn (pre ++ [entry]) = unsupportedIn pre := by
  rw [unsupportedIn, List.filterMap_append]
  simp [unsupportedIn, h]

theorem demand_concat_of_ne {target other : TargetKind × Str}
    (h : targetOf expand entry = some target) (hne : other ≠ target) :
    (⟨other.1, other.2, (intervalsOf expand pre other).min?⟩ : Demand) =
      ⟨other.1, other.2, (intervalsOf expand (pre ++ [entry]) other).min?⟩ := by
  rw [intervalsOf_concat_of_ne]
  rw [h]
  exact fun heq => hne (Option.some.inj heq).symm

/-- A new target: its one interval is its least. -/
theorem Read.addDemand_new (h : Read expand pre st) {target : TargetKind × Str}
    (htarget : targetOf expand entry = some target) (hunsupported : unsupportedOf entry = none)
    (hidx : (targetsOf expand pre).eraseDups.idxOf? target = none) :
    Read expand (pre ++ [entry])
      { st with
        demands := st.demands ++ [⟨target.1, target.2, intervalOf entry⟩]
        indexByTarget :=
          st.indexByTarget.insert (wireKey target.1 target.2) st.demands.length } := by
  have hnew : target ∉ targetsOf expand pre := by
    rw [List.idxOf?_eq_none_iff] at hidx
    exact fun hmem => hidx (mem_eraseDups.mpr hmem)
  have hdups : (targetsOf expand (pre ++ [entry])).eraseDups =
      (targetsOf expand pre).eraseDups ++ [target] := by
    rw [targetsOf_concat, htarget, Option.toList_some, eraseDups_concat_of_not_mem hnew]
  refine ⟨?_, (unsupportedIn_concat_of_none hunsupported).symm ▸ h.unsupported, ?_, h.seen⟩
  · dsimp only
    rw [demandsOf, hdups, List.map_append, h.demands, demandsOf]
    congr 1
    · refine List.map_congr_left fun other hother => demand_concat_of_ne htarget ?_
      rintro rfl
      exact hnew (mem_eraseDups.mp hother)
    · rw [List.map_singleton, intervalsOf_concat_self htarget, intervalsOf_eq_nil hnew,
        List.nil_append]
      cases intervalOf entry <;> rfl
  · intro kind name
    dsimp only
    rw [AList.lookup_insert_eq_if, hdups, idxOf?_concat, h.index, h.demands, demandsOf,
      List.length_map]
    by_cases hkey : wireKey kind name = wireKey target.1 target.2
    · have heq := wireKey_inj hkey
      rw [if_pos hkey, heq, hidx, beq_self_eq_true, if_pos rfl]
      rfl
    · have hne : (target == (kind, name)) = false := by
        rw [beq_eq_false_iff_ne]
        rintro rfl
        exact hkey rfl
      rw [if_neg hkey, hne, if_neg Bool.false_ne_true, Option.or_none]

/-- A target that was seen: the least of its intervals and this one. -/
theorem Read.addDemand_seen (h : Read expand pre st) {target : TargetKind × Str}
    (htarget : targetOf expand entry = some target) (hunsupported : unsupportedOf entry = none)
    {pos : Nat} (hidx : (targetsOf expand pre).eraseDups.idxOf? target = some pos) :
    Read expand (pre ++ [entry])
      { st with demands := st.demands.modify pos (coalesceInterval (intervalOf entry)) } := by
  obtain ⟨hpos, hget, -⟩ := List.idxOf?_eq_some_iff.mp hidx
  have hat : (targetsOf expand pre).eraseDups[pos]? = some target :=
    List.getElem?_eq_some_iff.mpr ⟨hpos, hget⟩
  have hold : target ∈ targetsOf expand pre := mem_eraseDups.mp (List.mem_of_getElem? hat)
  have hdups : (targetsOf expand (pre ++ [entry])).eraseDups =
      (targetsOf expand pre).eraseDups := by
    rw [targetsOf_concat, htarget, Option.toList_some, eraseDups_concat_of_mem hold]
  refine ⟨?_, (unsupportedIn_concat_of_none hunsupported).symm ▸ h.unsupported, ?_, h.seen⟩
  · dsimp only
    rw [h.demands, demandsOf, demandsOf, hdups]
    refine modify_map (nodup_eraseDups _) hat ?_ fun other hother => demand_concat_of_ne htarget hother
    rw [coalesceInterval_eq, intervalsOf_concat_self htarget]
  · intro kind name
    rw [hdups]
    exact h.index kind name

/-- A recognised entry. -/
theorem Read.addDemand (h : Read expand pre st) {target : TargetKind × Str}
    (htarget : targetOf expand entry = some target) (hunsupported : unsupportedOf entry = none) :
    Read expand (pre ++ [entry]) (st.addDemand ⟨target.1, target.2, intervalOf entry⟩) := by
  have hlookup := h.index target.1 target.2
  unfold ParseState.addDemand
  dsimp only
  cases hidx : (targetsOf expand pre).eraseDups.idxOf? target with
  | none =>
    rw [hlookup, hidx]
    exact h.addDemand_new htarget hunsupported hidx
  | some pos =>
    rw [hlookup, hidx]
    exact h.addDemand_seen htarget hunsupported hidx

/-- An entry of an unknown kind. -/
theorem Read.addUnsupported (h : Read expand pre st) {u : UnsupportedSubscription}
    (hunsupported : unsupportedOf entry = some u) (htarget : targetOf expand entry = none) :
    Read expand (pre ++ [entry]) (st.addUnsupported u) := by
  have htargets : targetsOf expand (pre ++ [entry]) = targetsOf expand pre := by
    rw [targetsOf_concat, htarget, Option.toList_none, List.append_nil]
  have hdemands : demandsOf expand (pre ++ [entry]) = demandsOf expand pre := by
    rw [demandsOf, demandsOf, htargets]
    refine List.map_congr_left fun other _ => ?_
    rw [intervalsOf_concat_of_ne (by rw [htarget]; simp)]
  have hmap : (pre ++ [entry]).filterMap unsupportedOf = pre.filterMap unsupportedOf ++ [u] := by
    rw [List.filterMap_append]
    simp [hunsupported]
  have hmem : u ∈ st.seenUnsupported ↔ u ∈ pre.filterMap unsupportedOf := by
    rw [h.seen u, h.unsupported, unsupportedIn, mem_eraseDups]
  unfold ParseState.addUnsupported
  by_cases hseen : u ∈ st.seenUnsupported
  · rw [if_pos hseen]
    refine ⟨hdemands ▸ h.demands, ?_, htargets ▸ h.index, h.seen⟩
    rw [unsupportedIn, hmap, eraseDups_concat_of_mem (hmem.mp hseen)]
    exact h.unsupported
  · rw [if_neg hseen]
    refine ⟨hdemands ▸ h.demands, ?_, htargets ▸ h.index, ?_⟩
    · rw [unsupportedIn, hmap, eraseDups_concat_of_not_mem fun hin => hseen (hmem.mpr hin),
        h.unsupported, unsupportedIn]
    · intro v
      dsimp only
      rw [List.mem_cons, List.mem_append, List.mem_singleton, h.seen v]
      exact or_comm

/-- The whole loop: it stops at an entry that rejects the heartbeat, or has read all of
them. -/
theorem parseHeartbeatEntries_cases (h : Read expand pre st) (entries : List Json) :
    ((∃ entry ∈ entries, Malformed expand entry) ∧
      ∃ e, parseHeartbeatEntries expand st entries = .error e) ∨
    ((∀ entry ∈ entries, ¬ Malformed expand entry) ∧
      ∃ st', parseHeartbeatEntries expand st entries = .ok st' ∧
        Read expand (pre ++ entries) st') := by
  induction entries generalizing pre st with
  | nil => exact .inr ⟨by simp, st, rfl, by rwa [List.append_nil]⟩
  | cons entry entries ih =>
    have hnext : ∀ st', parseHeartbeatEntry expand st entry = .ok st' →
        Read expand (pre ++ [entry]) st' → ¬ Malformed expand entry →
        ((∃ e ∈ entry :: entries, Malformed expand e) ∧
          ∃ e, parseHeartbeatEntries expand st (entry :: entries) = .error e) ∨
        ((∀ e ∈ entry :: entries, ¬ Malformed expand e) ∧
          ∃ st'', parseHeartbeatEntries expand st (entry :: entries) = .ok st'' ∧
            Read expand (pre ++ entry :: entries) st'') := by
      intro st' hst' hread hfine
      have hrest : parseHeartbeatEntries expand st (entry :: entries) =
          parseHeartbeatEntries expand st' entries := by rw [parseHeartbeatEntries, hst']
      rw [hrest]
      rcases ih hread with ⟨⟨bad, hmem, hbad⟩, herror⟩ | ⟨hall, st'', hok, hread'⟩
      · exact .inl ⟨⟨bad, List.mem_cons_of_mem _ hmem, hbad⟩, herror⟩
      · refine .inr ⟨List.forall_mem_cons.mpr ⟨hfine, hall⟩, st'', hok, ?_⟩
        rwa [List.append_assoc, List.singleton_append] at hread'
    rcases parseHeartbeatEntry_cases expand entry with ⟨hbad, herror⟩ |
      ⟨hfine, target, htarget, hun, hok⟩ | ⟨hfine, u, hun, htarget, hok⟩
    · obtain ⟨e, he⟩ := herror st
      exact .inl ⟨⟨entry, List.mem_cons_self, hbad⟩, e, by rw [parseHeartbeatEntries, he]⟩
    · exact hnext _ (hok st) (h.addDemand htarget hun) hfine
    · exact hnext _ (hok st) (h.addUnsupported hun htarget) hfine

end Loop

/-! ### The whole heartbeat -/

/-- The subscriptions of a heartbeat, if they are an array. -/
def entriesOf (body : Json) : Option (List Json) :=
  (body.find (lit "subscriptions")).bind Json.items?

/-- The session of a heartbeat: a string that is not blank, without the blanks around it. -/
def sessionOf (body : Json) : Option Str :=
  ((body.find (lit "session_id")).bind Json.text?).bind fun text =>
    if trim text = [] then none else some (trim text)

/-- What makes the bridge reject a heartbeat. -/
inductive RejectedBody (expand : Expand) (body : Json) : Prop
  | badSession (value : Json) : body.find (lit "session_id") = some value →
      value.isNull = false → value.text? = none → RejectedBody expand body
  /-- absent, or not an array -/
  | noEntries : entriesOf body = none → RejectedBody expand body
  | badEntry (entries : List Json) (entry : Json) : entriesOf body = some entries →
      entry ∈ entries → Malformed expand entry → RejectedBody expand body

section Heartbeat

variable {expand : Expand} {body : Json}

theorem optionalString_session (body : Json) (invalid : Str) :
    (∃ value, body.find (lit "session_id") = some value ∧ value.isNull = false ∧
      value.text? = none ∧
      optionalString body (lit "session_id") invalid true = .error invalid) ∨
    ((∀ value, body.find (lit "session_id") = some value →
        value.isNull = true ∨ ∃ text, value.text? = some text) ∧
      optionalString body (lit "session_id") invalid true = .ok (sessionOf body)) := by
  cases hfind : body.find (lit "session_id") with
  | none => exact .inr ⟨by simp, by simp [optionalString, sessionOf, hfind]⟩
  | some value =>
    cases htext : value.text? with
    | some text =>
      have hnull : value.isNull = false := by
        cases value with
        | null => cases htext
        | _ => rfl
      refine .inr ⟨by rintro _ ⟨⟩; exact .inr ⟨text, htext⟩, ?_⟩
      by_cases ht : trim text = []
      · simp [optionalString, trimmedString, sessionOf, hfind, htext, hnull, ht]
      · simp [optionalString, trimmedString, sessionOf, hfind, htext, hnull, ht]
    | none =>
      cases hnull : value.isNull with
      | true =>
        refine .inr ⟨by rintro _ ⟨⟩; exact .inl hnull, ?_⟩
        simp [optionalString, trimmedString, sessionOf, hfind, htext, hnull]
      | false =>
        refine .inl ⟨value, rfl, hnull, htext, ?_⟩
        simp [optionalString, trimmedString, hfind, htext, hnull]

theorem rejectedBody_iff {entries : List Json} (hentries : entriesOf body = some entries) :
    RejectedBody expand body ↔
      (∃ value, body.find (lit "session_id") = some value ∧ value.isNull = false ∧
        value.text? = none) ∨ ∃ entry ∈ entries, Malformed expand entry := by
  constructor
  · intro h
    cases h with
    | badSession value hfind hnull htext => exact .inl ⟨value, hfind, hnull, htext⟩
    | noEntries hnone =>
      rw [hentries] at hnone
      cases hnone
    | badEntry entries' entry hentries' hmem hbad =>
      obtain rfl : entries = entries' := Option.some.inj (hentries.symm.trans hentries')
      exact .inr ⟨entry, hmem, hbad⟩
  · rintro (⟨value, hfind, hnull, htext⟩ | ⟨entry, hmem, hbad⟩)
    · exact .badSession value hfind hnull htext
    · exact .badEntry entries entry hentries hmem hbad

theorem parseHeartbeat_cases (expand : Expand) (body : Json) :
    (RejectedBody expand body ∧ ∃ e, parseHeartbeat expand body = .error e) ∨
    (¬ RejectedBody expand body ∧ ∃ entries, entriesOf body = some entries ∧
      parseHeartbeat expand body =
        .ok ⟨sessionOf body, demandsOf expand entries, unsupportedIn entries⟩) := by
  rcases optionalString_session body (lit "heartbeat session_id must be a string") with
    ⟨value, hfind, hnull, htext, herror⟩ | ⟨hsession, hok⟩
  · exact .inl ⟨.badSession value hfind hnull htext, _, by rw [parseHeartbeat, herror]⟩
  · cases hentries : entriesOf body with
    | none =>
      refine .inl ⟨.noEntries hentries, ?_⟩
      rw [parseHeartbeat, hok]
      cases hfind : body.find (lit "subscriptions") with
      | none => exact ⟨_, rfl⟩
      | some value =>
        have hitems : value.items? = none := by simpa [entriesOf, hfind] using hentries
        dsimp only
        rw [hitems]
        exact ⟨_, rfl⟩
    | some entries =>
      obtain ⟨value, hfind, hitems⟩ := Option.bind_eq_some_iff.mp hentries
      rcases parseHeartbeatEntries_cases (read_nil expand) entries with
        ⟨⟨entry, hmem, hbad⟩, e, herror⟩ | ⟨hall, st, hst, hread⟩
      · refine .inl ⟨.badEntry entries entry hentries hmem hbad, e, ?_⟩
        simp [parseHeartbeat, hok, hfind, hitems, herror]
      · refine .inr ⟨?_, entries, rfl, ?_⟩
        · rw [rejectedBody_iff hentries]
          rintro (⟨value, hfind', hnull, htext⟩ | ⟨entry, hmem, hbad⟩)
          · rcases hsession value hfind' with hyes | ⟨text, hyes⟩
            · rw [hnull] at hyes
              cases hyes
            · rw [htext] at hyes
              cases hyes
          · exact hall entry hmem hbad
        · have hdemands := hread.demands
          have hunsupported := hread.unsupported
          rw [List.nil_append] at hdemands hunsupported
          simp [parseHeartbeat, hok, hfind, hitems, hst, hdemands, hunsupported]

theorem unsupportedOf_kind_ne {entry : Json} {u : UnsupportedSubscription}
    (h : unsupportedOf entry = some u) : u.kind ≠ [] := by
  obtain ⟨raw, -, hraw⟩ := Option.bind_eq_some_iff.mp h
  split at hraw
  · rename_i hkind
    obtain rfl := Option.some.inj hraw
    rintro hnil
    have hraw : raw = [] := hnil
    rw [hraw] at hkind
    exact hkind.1 rfl
  · cases hraw

theorem demandsOf_nodup (entries : List Json) : (demandsOf expand entries).Nodup := by
  refine List.Nodup.map ?_ (nodup_eraseDups _)
  rintro ⟨kind, name⟩ ⟨kind', name'⟩ heq
  obtain ⟨rfl, rfl, -⟩ := Demand.mk.inj heq
  rfl

/-- What `parse` returns is read off an object and its entries. -/
theorem parseHeartbeatPayload_eq {parseText : Str → Option Json} {payload : Str}
    {heartbeat : Heartbeat}
    (h : parseHeartbeatPayload parseText expand payload = .ok heartbeat) :
    ∃ body entries, heartbeat = ⟨sessionOf body, demandsOf expand entries, unsupportedIn entries⟩ := by
  rw [parseHeartbeatPayload] at h
  split at h
  · cases h
  · rename_i body _
    rcases parseHeartbeat_cases expand body with ⟨-, e, he⟩ | ⟨-, entries, -, hok⟩
    · rw [h] at he
      cases he
    · exact ⟨body, entries, Except.ok.inj (h.symm.trans hok)⟩

/-- What holds of every heartbeat that `parse` returns: its demands differ, and its
unsupported entries have kinds. -/
theorem parseHeartbeatPayload_ok {parseText : Str → Option Json} {payload : Str}
    {heartbeat : Heartbeat}
    (h : parseHeartbeatPayload parseText expand payload = .ok heartbeat) :
    heartbeat.demands.Nodup ∧ ∀ u ∈ heartbeat.unsupported, u.kind ≠ [] := by
  obtain ⟨body, entries, rfl⟩ := parseHeartbeatPayload_eq h
  refine ⟨demandsOf_nodup entries, ?_⟩
  intro u hu
  obtain ⟨entry, -, hentry⟩ := List.mem_filterMap.mp (mem_eraseDups.mp hu)
  exact unsupportedOf_kind_ne hentry

end Heartbeat

end LivekitBridge
