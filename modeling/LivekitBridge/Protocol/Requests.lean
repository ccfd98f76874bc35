import LivekitBridge.Bridge.TopicNames
import LivekitBridge.Bridge.TopicPublisher
import LivekitBridge.Leases.Manager
import LivekitBridge.Protocol.Cdr
import LivekitBridge.Services.Caller

/-!
# Requests on the wire

The five request parsers of `protocol/`: service calls, publishing, echo-once, interface
definitions and resource lists.  Each starts from the bytes, has them parsed by nlohmann, and
reads the fields of the object one after the other.

A parser throws `ValidationError` with the field it was reading.  It does so by catching
`std::invalid_argument` around each field (`asField`), so what is thrown there and is no
`std::invalid_argument` leaves the parser as it is.
-/

namespace LivekitBridge

/-! ### Fields -/

/-- `catch (const std::invalid_argument & exc) { throw ValidationError(field, exc.what()); }` -/
def asField {α : Type} (field : Str) : Except StdException α → Except StdException α
  | .ok a => .ok a
  | .error e => .error (if e.isInvalidArgument then .validation ⟨field, e.what⟩ else e)

/-- A helper that throws `std::invalid_argument`. -/
def invalid {α : Type} : Except Str α → Except StdException α
  | .ok a => .ok a
  | .error what => .error (.invalidArgument what)

/-- `detail::requiredString`; without an `emptyMessage` a blank string is as invalid as none. -/
def requiredString (body : Json) (field invalid : Str) (emptyMessage : Option Str) :
    Except Str Str :=
  match body.find field with
  | none => .error invalid
  | some value =>
    match trimmedString value invalid false with
    | .error what => .error what
    | .ok (some text) => .ok text
    | .ok none => .error (emptyMessage.getD invalid)

/-- `get<std::int64_t>` of an integer: nlohmann converts an unsigned one. -/
def Json.int64? : Json → Option Int
  | .signed value => some value
  | .unsigned value => some (Int.bmod value 18446744073709551616)
  | _ => none

/-- `detail::parseObject` and the field it is reported under. -/
def parseBody (parseText : Str → Option Json) (payload invalidJson invalidObject : Str) :
    Except StdException Json :=
  asField (lit "payload") (invalid (parseObject parseText payload invalidJson invalidObject))

/-! ### Service calls -/

/-- `rclcpp::expand_topic_or_service_name`, as an expression that throws. -/
def expandName (expand : Expand) (name nodeName namespace_ : Str) (isService : Bool) :
    Except StdException Str :=
  match expand name nodeName namespace_ isService with
  | .ok n => .ok n
  | .error (.nameValidation what) => .error (.invalidArgument what)
  | .error (.runtimeError what) => .error (.runtimeError what)

/-- The name of `services::parse`. -/
def parseService (expand : Expand) (body : Json) : Except StdException Str :=
  asField (lit "service") do
    let text ← invalid (requiredString body (lit "service") (lit "service is required") none)
    expandName expand text (lit "livekit_ros2_bridge") (lit "/") true

/-- The type of `services::parse`. -/
def parseInterfaceType (body : Json) : Except StdException Str :=
  asField (lit "interface_type") do
    let text ← invalid (optionalString body (lit "interface_type")
      (lit "interface_type must be a string") false)
    .ok (text.getD [])

/-- The payload of `services::parse`. -/
def parseServicePayload (evp : Evp) (body : Json) : Except StdException Str :=
  asField (lit "request") do
    let payload ← cdrParse evp body .request
    if payload.length = 0 then
      .error (.invalidArgument (lit "request.payload_base64 must not be empty"))
    else .ok payload

/-- The timeout of `services::parse`, in milliseconds. -/
def parseTimeout (body : Json) : Except StdException (Option Int) :=
  match body.find (lit "timeout_ms") with
  | none => .ok none
  | some value =>
    match value.int64? with
    | none => .error (.validation ⟨lit "timeout_ms", lit "timeout_ms must be an integer"⟩)
    | some ms => .ok (some ms)

/-- `services::parse`, of a JSON object. -/
def parseServiceCall (expand : Expand) (evp : Evp) (body : Json) :
    Except StdException ServiceCallRequest := do
  let name ← parseService expand body
  let interfaceType ← parseInterfaceType body
  let payload ← parseServicePayload evp body
  let timeout ← parseTimeout body
  .ok ⟨name, interfaceType, payload, timeout⟩

/-! ### Publishing -/

/-- The message of `topic_publish::parse`. -/
def parsePublishMessage (evp : Evp) (body : Json) : Except StdException Str := do
  let message ← asField (lit "message") (cdrParse evp body .message)
  if message.length = 0 then
    .error (.validation ⟨lit "message",
      lit "Publish request requires a non-empty message.payload_base64 field."⟩)
  else .ok message

/-- `topic_publish::parse`, of a JSON object. -/
def parsePublish (evp : Evp) (body : Json) : Except StdException PublishRequest := do
  let rosTopic ← asField (lit "topic") (invalid (requiredString body (lit "topic")
    (lit "Publish request requires a string 'topic' field.")
    (some (lit "Publish request requires a non-empty 'topic' field."))))
  let interfaceType ← asField (lit "interface_type") (invalid (requiredString body
    (lit "interface_type")
    (lit "Publish request requires a non-empty 'interface_type' field.") none))
  let message ← parsePublishMessage evp body
  .ok ⟨rosTopic, interfaceType, message⟩

/-! ### Echo-once -/

structure EchoOnceRequest where
  kind : TargetKind
  name : Str
deriving DecidableEq, Repr

/-- `echo_once::parse`, of a JSON object.  The name is taken with `catch (const std::exception &)`,
whatever expanding it throws. -/
def parseEchoOnce (expand : Expand) (body : Json) : Except StdException EchoOnceRequest :=
  match (body.find (lit "kind")).bind Json.text? with
  | none => .error (.validation ⟨lit "kind", lit "echo-once 'kind' must be a string"⟩)
  | some kind =>
    if trim kind ≠ lit "topic" then
      .error (.validation ⟨lit "kind", lit "echo-once 'kind' must be 'topic'"⟩)
    else
      match (body.find (lit "name")).bind Json.text? with
      | none => .error (.validation ⟨lit "name", lit "echo-once 'name' must be a string"⟩)
      | some raw =>
        match echoTopic expand raw with
        | .error what => .error (.validation ⟨lit "name", what⟩)
        | .ok name => .ok ⟨.topic, name⟩

/-! ### Interface definitions -/

/-- The loop of `interfaces::parse`. -/
def parseInterfaceTypes : List Json → Except Str (List Str)
  | [] => .ok []
  | entry :: entries =>
    match entry.text? with
    | none => .error (lit "interface_types entries must be strings")
    | some text =>
      if trim text = [] then .error (lit "interface_types entries must not be empty")
      else
        match parseInterfaceTypes entries with
        | .error what => .error what
        | .ok types => .ok (trim text :: types)

/-- `interfaces::parse`, of a JSON object. -/
def parseInterfaces (body : Json) : Except StdException (List Str) :=
  asField (lit "interface_types") <| invalid <|
    match (body.find (lit "interface_types")).bind Json.items? with
    | none => .error (lit "interface_types must be an array")
    | some entries =>
      match parseInterfaceTypes entries with
      | .error what => .error what
      | .ok types => if types = [] then .error (lit "interface_types must not be empty") else .ok types

/-! ### Resource lists -/

structure ResourceListRequest where
  query : Option Str
  limit : Option Nat
deriving DecidableEq, Repr

/-- The limit of `resources::parse`. -/
def parseLimit (body : Json) : Except StdException (Option Nat) :=
  let rejected : StdException :=
    .validation ⟨lit "limit", lit "limit must be a positive integer"⟩
  match body.find (lit "limit") with
  | none => .ok none
  | some field =>
    if field.isNull then .ok none
    else
      match field.int64? with
      | none => .error rejected
      | some value => if value ≤ 0 then .error rejected else .ok (some value.toNat)

/-- `resources::parse`, of a JSON object. -/
def parseResources (body : Json) : Except StdException ResourceListRequest := do
  let query ← asField (lit "query") (invalid (optionalString body (lit "query")
    (lit "query must be a string") true))
  let limit ← parseLimit body
  .ok ⟨query, limit⟩

/-! ### What is accepted -/

/-- There is a string under `field` that is not blank. -/
def HasText (body : Json) (field : Str) : Prop :=
  ∃ raw, (body.find field).bind Json.text? = some raw ∧ trim raw ≠ []

/-- There is a service name, and it expands. -/
def NamesService (expand : Expand) (body : Json) : Prop :=
  ∃ raw n, (body.find (lit "service")).bind Json.text? = some raw ∧ trim raw ≠ [] ∧
    expand (trim raw) (lit "livekit_ros2_bridge") (lit "/") true = .ok n

/-- Nothing stands under `interface_type`, or a string. -/
def TypeReadable (body : Json) : Prop :=
  ∀ value, body.find (lit "interface_type") = some value → value.text? ≠ none

theorem requiredString_eq_ok {body : Json} {field invalid : Str} {emptyMessage : Option Str}
    {text : Str} : requiredString body field invalid emptyMessage = .ok text ↔
      ∃ raw, (body.find field).bind Json.text? = some raw ∧ trim raw ≠ [] ∧ text = trim raw := by
  rw [requiredString]
  cases body.find field with
  | none => simp
  | some value =>
    cases hv : value.text? with
    | none => simp [trimmedString, hv]
    | some raw =>
      by_cases ht : trim raw = []
      · simp [trimmedString, hv, ht]
      · simp only [trimmedString, Json.isNull, hv, ht, Bool.false_and, Bool.false_eq_true, if_false,
          Option.bind_some, Except.ok.injEq, Option.some.injEq]
        constructor
        · intro h
          exact ⟨raw, rfl, ht, h.symm⟩
        · intro h
          obtain ⟨_, rfl, _, h⟩ := h
          exact h.symm

theorem asField_eq_ok {α : Type} {field : Str} {r : Except StdException α} {a : α} :
    asField field r = .ok a ↔ r = .ok a := by
  cases r <;> simp [asField]

theorem invalid_eq_ok {α : Type} {r : Except Str α} {a : α} : invalid r = .ok a ↔ r = .ok a := by
  cases r <;> simp [invalid]

theorem exists_required {body : Json} {field invalidText : Str} {emptyMessage : Option Str} :
    (∃ text, asField field (invalid (requiredString body field invalidText emptyMessage)) = .ok text) ↔
      HasText body field := by
  simp only [asField_eq_ok, invalid_eq_ok, requiredString_eq_ok, HasText]
  constructor
  · intro h
    obtain ⟨_, raw, hraw, hne, _⟩ := h
    exact ⟨raw, hraw, hne⟩
  · intro h
    obtain ⟨raw, hraw, hne⟩ := h
    exact ⟨_, raw, hraw, hne, rfl⟩

theorem exists_parseService {expand : Expand} {body : Json} :
    (∃ n, parseService expand body = .ok n) ↔ NamesService expand body := by
  simp only [parseService, asField_eq_ok, NamesService]
  constructor
  · intro h
    obtain ⟨n, h⟩ := h
    cases hr : requiredString body (lit "service") (lit "service is required") none with
    | error what =>
      rw [hr] at h
      cases h
    | ok text =>
      rw [hr] at h
      have he : expandName expand text (lit "livekit_ros2_bridge") (lit "/") true = .ok n := h
      obtain ⟨raw, hraw, hne, rfl⟩ := requiredString_eq_ok.mp hr
      refine ⟨raw, n, hraw, hne, ?_⟩
      rw [expandName] at he
      split at he
      · rename_i m hm
        rw [hm, Except.ok.inj he]
      · cases he
      · cases he
  · intro h
    obtain ⟨raw, n, hraw, hne, he⟩ := h
    refine ⟨n, ?_⟩
    rw [requiredString_eq_ok.mpr ⟨raw, hraw, hne, rfl⟩]
    show expandName expand _ _ _ _ = _
    rw [expandName, he]

theorem exists_parseInterfaceType {body : Json} :
    (∃ t, parseInterfaceType body = .ok t) ↔ TypeReadable body := by
  simp only [parseInterfaceType, asField_eq_ok, TypeReadable, optionalString]
  cases body.find (lit "interface_type") with
  | none =>
    constructor
    · intro _ value hvalue
      cases hvalue
    · intro _
      exact ⟨[], rfl⟩
  | some value =>
    cases hv : value.text? with
    | none =>
      constructor
      · intro h
        obtain ⟨t, h⟩ := h
        simp only [trimmedString, Bool.false_and, Bool.false_eq_true, if_false, hv] at h
        cases h
      · intro h
        exact absurd hv (h value rfl)
    | some raw =>
      constructor
      · intro _ v hvalue
        rw [← Option.some.inj hvalue, hv]
        simp
      · intro _
        by_cases ht : trim raw = []
        · exact ⟨[], by simp only [trimmedString, hv, ht]; rfl⟩
        · exact ⟨trim raw, by simp only [trimmedString, hv, ht]; rfl⟩

/-! ### From the bytes -/

section Payload

variable (parseText : Str → Option Json) (expand : Expand) (evp : Evp) (payload : Str)

/-- `services::parse` -/
def parseServiceCallPayload : Except StdException ServiceCallRequest := do
  let body ← parseBody parseText payload (lit "Invalid JSON in service call request")
    (lit "Service call request must be a JSON object")
  parseServiceCall expand evp body

/-- `topic_publish::parse` -/
def parsePublishPayload : Except StdException PublishRequest := do
  let body ← parseBody parseText payload (lit "Invalid JSON in publish request")
    (lit "Publish request must be a JSON object")
  parsePublish evp body

/-- `echo_once::parse` -/
def parseEchoOncePayload : Except StdException EchoOnceRequest := do
  let body ← parseBody parseText payload (lit "Invalid JSON in echo-once request")
    (lit "Echo-once request must be a JSON object")
  parseEchoOnce expand body

/-- `interfaces::parse` -/
def parseInterfacesPayload : Except StdException (List Str) := do
  let body ← parseBody parseText payload (lit "Invalid JSON in interface show request")
    (lit "Interface show request must be a JSON object")
  parseInterfaces body

/-- `resources::parse` -/
def parseResourcesPayload : Except StdException ResourceListRequest := do
  let body ← parseBody parseText payload (lit "Invalid JSON in list request")
    (lit "List request must be a JSON object")
  parseResources body

end Payload

end LivekitBridge
