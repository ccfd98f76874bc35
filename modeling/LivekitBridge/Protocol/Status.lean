import LivekitBridge.Protocol.Heartbeat

/-!
# Status packets

`protocol/subscriptions_json.cpp`, `serialize`: what a status report looks like on the wire.
An entry of an unknown kind echoes the client's own strings, and the serializer refuses to
write one without a kind to echo.  The other throws of the source are for values outside its
enumerations; `TargetKind`, `DeliveryKind` and `ErrorReason` have none.

nlohmann sorts the fields of an object.  Here they stand in the order in which the source
writes them; nothing depends on it, since a reader looks fields up.
-/

namespace LivekitBridge

def kStatusTopic : Str := lit "lkros.status"

def kProtocolVersion : Int := 2

def deliveryToWire : DeliveryKind → Str
  | .data => lit "data"
  | .video => lit "video"
  | .audio => lit "audio"

def reasonToWire : ErrorReason → Str
  | .forbidden => lit "forbidden"
  | .notFound => lit "not_found"
  | .unsupportedKind => lit "unsupported_kind"

/-- The `delivery` of an active entry. -/
def serializeDelivery (status : SubscriptionStatus) : Json :=
  .object <|
    [(lit "kind", .string (deliveryToWire status.delivery)),
      (lit "track_name", .string status.trackName)] ++
    if status.delivery = .data then
      [(lit "content_type", .string kCdrContentType), (lit "interval_ms", .signed status.intervalMs)]
    else []

/-- `serialize`, of an active status.  No status is degraded: nothing in the bridge sets
`degradation_reason`. -/
def serializeStatus (status : SubscriptionStatus) : Json :=
  .object <|
    [(lit "kind", .string (toWire status.kind)), (lit "name", .string status.name),
      (lit "status", .string (lit "active"))] ++
    (if status.interfaceType = [] then []
      else [(lit "interface_type", .string status.interfaceType)]) ++
    (status.qos.map fun qos =>
      (lit "qos", .object [(lit "durability", .string qos.durability)])).toList ++
    [(lit "delivery", serializeDelivery status)]

/-- The name of an error entry, if it has one. -/
def errorName (status : ErrorStatus) : Option Str :=
  if status.reason = .unsupportedKind then status.rawName else some status.name

/-- The object that `serialize` builds of an error status. -/
def errorBody (status : ErrorStatus) : Json :=
  .object <|
    [(lit "kind", .string
        (if status.reason = .unsupportedKind then status.rawKind else toWire status.kind)),
      (lit "status", .string (lit "error")),
      (lit "error", .object [(lit "reason", .string (reasonToWire status.reason)),
        (lit "message", .string status.message)])] ++
    ((errorName status).map fun name => (lit "name", .string name)).toList

/-- `serialize`, of an error status. -/
def serializeError (status : ErrorStatus) : Except Str Json :=
  if status.reason = .unsupportedKind ∧ status.rawKind = [] then
    .error (lit "unsupported kind status is missing the raw kind to echo")
  else .ok (errorBody status)

/-- `serialize`, of an entry. -/
def serializeEntry : StatusEntry → Except Str Json
  | .active status => .ok (serializeStatus status)
  | .error status => serializeError status

/-- The loop of `serialize` over the statuses. -/
def serializeEntries : List StatusEntry → Except Str (List Json)
  | [] => .ok []
  | entry :: entries =>
    match serializeEntry entry with
    | .error what => .error what
    | .ok body =>
      match serializeEntries entries with
      | .error what => .error what
      | .ok bodies => .ok (body :: bodies)

/-- `serialize`, of a report, at the time `now`. -/
def serializeReport (now : Time) (report : StatusReport) : Except Str Json :=
  match serializeEntries report.statuses with
  | .error what => .error what
  | .ok entries =>
    .ok <| .object <|
      [(lit "v", .signed kProtocolVersion), (lit "type", .string kStatusTopic),
        (lit "subscriptions", .array entries)] ++
      (report.sessionId.map fun id => (lit "session_id", .string id)).toList ++
      [(lit "lease_expires_in_ms",
        .signed (((report.leaseExpiry : Int) - now).tdiv 1000000))]

/-- The arguments of `publishData`; `body` is what `dump` writes out. -/
structure DataPacket where
  body : Json
  reliable : Bool
  destinations : List Str
  topic : Str

/-- The packet of `publishStatusReport`. -/
def statusPacket (now : Time) (requester : Str) (report : StatusReport) : Except Str DataPacket :=
  match serializeReport now report with
  | .error what => .error what
  | .ok body => .ok ⟨body, true, [requester], kStatusTopic⟩

/-! ### What a reader finds -/

/-- The value that an entry is written as. -/
def entryBody : StatusEntry → Json
  | .active status => serializeStatus status
  | .error status => errorBody status

/-- An entry with a kind to write. -/
def HasKind : StatusEntry → Prop
  | .active _ => True
  | .error status => status.reason = .unsupportedKind → status.rawKind ≠ []

theorem serializeEntry_of_hasKind {entry : StatusEntry} (h : HasKind entry) :
    serializeEntry entry = .ok (entryBody entry) := by
  cases entry with
  | active status => rfl
  | error status =>
    rw [serializeEntry, serializeError, if_neg fun hno => h hno.1 hno.2]
    rfl

theorem serializeEntries_of_hasKind {entries : List StatusEntry}
    (h : ∀ entry ∈ entries, HasKind entry) :
    serializeEntries entries = .ok (entries.map entryBody) := by
  induction entries with
  | nil => rfl
  | cons entry entries ih =>
    rw [serializeEntries, serializeEntry_of_hasKind (h entry List.mem_cons_self),
      ih fun e he => h e (List.mem_cons_of_mem _ he)]
    rfl

def SaysActive (entry : Json) : Prop := entry.find (lit "status") = some (.string (lit "active"))

def SaysError (entry : Json) : Prop := entry.find (lit "status") = some (.string (lit "error"))

theorem find_serializeStatus (status : SubscriptionStatus) :
    (serializeStatus status).find (lit "kind") = some (.string (toWire status.kind)) ∧
      SaysActive (serializeStatus status) :=
  ⟨rfl, rfl⟩

theorem find_errorBody (status : ErrorStatus) :
    (errorBody status).find (lit "kind") = some (.string
        (if status.reason = .unsupportedKind then status.rawKind else toWire status.kind)) ∧
      (errorBody status).find (lit "name") = (errorName status).map .string ∧
      SaysError (errorBody status) := by
  refine ⟨rfl, ?_, rfl⟩
  rw [errorBody]
  cases errorName status with
  | none => rfl
  | some name => rfl

theorem SaysActive.not_saysError {entry : Json} (h : SaysActive entry) : ¬ SaysError entry := by
  intro herror
  have htexts : lit "active" = lit "error" := by
    have heq := Option.some.inj (h.symm.trans herror)
    exact Json.string.inj heq
  exact absurd htexts (by decide)

/-- A report whose entries have kinds is written: the entries in order, and the session if
there is one. -/
theorem serializeReport_of_hasKind {report : StatusReport}
    (h : ∀ entry ∈ report.statuses, HasKind entry) (now : Time) :
    ∃ body, serializeReport now report = .ok body ∧
      body.find (lit "subscriptions") = some (.array (report.statuses.map entryBody)) ∧
      body.find (lit "session_id") = report.sessionId.map .string := by
  refine ⟨_, by rw [serializeReport, serializeEntries_of_hasKind h], rfl, ?_⟩
  cases report.sessionId with
  | none => rfl
  | some id => rfl

end LivekitBridge
