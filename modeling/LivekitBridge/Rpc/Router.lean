import LivekitBridge.AccessPolicy
import LivekitBridge.Lib.Fallible
import LivekitBridge.Protocol.Requests

/-!
# Errors of remote calls

The handlers of `rpc_router.cpp`, from the invocation to the error code.  A handler parses the
payload, asks the policy, and only then has something done elsewhere: it submits a task to the
executor, or looks up definitions.  What is done there is in other modules; here it is a
`RpcBackend`, and `RpcEffect` records that it was asked to do something.

The code of an error comes from the class of the exception, wherever it was thrown
(`throwRpcError`).  So a rejection is an invalid request only if the parser lets nothing through
that is no `std::invalid_argument`.  `parseServiceCall_escapes_iff` says when the parser of service
calls does: a name with an unknown substitution, and a text that is so long that `decode` cannot
resize its result.  `mapsErrors_iff` says that everything else is mapped as documented.
-/

namespace LivekitBridge

open Lib

/-! ### The code -/

def kInvalidRequestRpcCode : Nat := 2400

def kUnauthorizedRpcCode : Nat := 2401

def kForbiddenRpcCode : Nat := 2403

def kInternalRpcCode : Nat := 2500

structure RpcError where
  code : Nat
  message : Str
deriving DecidableEq, Repr

/-- What leaves a handler: `livekit::RpcError`, or another `std::exception`. -/
inductive Thrown
  | rpc (error : RpcError)
  | std (exc : StdException)
deriving DecidableEq, Repr

/-- What `throwRpcError` takes for an invalid request. -/
def StdException.isInvalidRequest : StdException → Bool
  | .validation _ => true
  | .invalidArgument _ => true
  | .outOfRange _ => true
  | _ => false

def throwRpcError (exc : StdException) : RpcError :=
  ⟨if exc.isInvalidRequest then kInvalidRequestRpcCode else kInternalRpcCode, exc.what⟩

/-- What a handler submits to the executor queue. -/
inductive RpcTask
  | call (requesterIdentity : Str) (request : ServiceCallRequest)
  | listServices (request : ResourceListRequest)
  | listTopics (request : ResourceListRequest)
  | echoOnce (kind : TargetKind) (name requesterIdentity : Str)

/-- What others can see of a request. -/
inductive RpcEffect
  | submitted (task : RpcTask)
  | requestSent (service : Str)
  | streamHandedOff (topic requesterIdentity : Str)

/-- What comes of a task, with the response or the exception that its futures give, and of looking
up definitions. -/
structure RpcBackend where
  run : RpcTask → List RpcEffect × Except StdException Str
  lookup : List Str → Except StdException Str

structure RpcRouter where
  parseText : Str → Option Json
  expand : Expand
  evp : Evp
  policy : AccessPolicy
  backend : RpcBackend

/-- `livekit::RpcInvocationData` -/
structure RpcInvocation where
  callerIdentity : Str
  payload : Str
deriving DecidableEq, Repr

/-- What was done, and the response or the error. -/
structure RpcOutcome where
  effects : List RpcEffect
  result : Except RpcError Str

def withCallerIdentity (invocation : RpcInvocation)
    (handler : List RpcEffect × Except Thrown Str) : RpcOutcome :=
  if invocation.callerIdentity = [] then
    ⟨[], .error ⟨kUnauthorizedRpcCode, lit "caller_identity is required for this RPC"⟩⟩
  else
    match handler with
    | (effects, .ok response) => ⟨effects, .ok response⟩
    | (effects, .error (.rpc error)) => ⟨effects, .error error⟩
    | (effects, .error (.std exc)) => ⟨effects, .error (throwRpcError exc)⟩

/-- A handler that parses the payload and goes on. -/
def parseThen {α : Type} (parsed : Except StdException α)
    (go : α → List RpcEffect × Except Thrown Str) : List RpcEffect × Except Thrown Str :=
  match parsed with
  | .error exc => ([], .error (.std exc))
  | .ok request => go request

namespace RpcRouter

variable (router : RpcRouter) (invocation : RpcInvocation)

/-- `queue_.submit`, and waiting for the result. -/
def submit (task : RpcTask) : List RpcEffect × Except StdException Str :=
  let (effects, response) := router.backend.run task
  (.submitted task :: effects, response)

/-- The handler of `RpcRouter::callService` after parsing. -/
def call (request : ServiceCallRequest) : List RpcEffect × Except Thrown Str :=
  if !router.policy.allows router.expand .callService request.name then
    ([], .error (.rpc ⟨kForbiddenRpcCode,
      lit "ROS service '" ++ request.name ++ lit "' not permitted."⟩))
  else
    match router.submit (.call invocation.callerIdentity request) with
    | (effects, .ok response) => (effects, .ok response)
    | (effects, .error exc) => (effects, .error (.rpc (throwRpcError exc)))

/-- What is submitted for a list or an echo, where exceptions are left to `withCallerIdentity`. -/
def await (task : RpcTask) : List RpcEffect × Except Thrown Str :=
  match router.submit task with
  | (effects, .ok response) => (effects, .ok response)
  | (effects, .error exc) => (effects, .error (.std exc))

/-- The handler of `RpcRouter::requestEchoOnce` after parsing. -/
def echoOnce (request : EchoOnceRequest) : List RpcEffect × Except Thrown Str :=
  if !router.policy.allows router.expand .subscribe request.name then
    ([], .error (.rpc ⟨kForbiddenRpcCode,
      lit "ROS topic '" ++ request.name ++ lit "' not permitted."⟩))
  else router.await (.echoOnce request.kind request.name invocation.callerIdentity)

/-- The handler of `RpcRouter::showInterfaces` after parsing. -/
def showTypes (types : List Str) : List RpcEffect × Except Thrown Str :=
  match router.backend.lookup types with
  | .ok response => ([], .ok response)
  | .error exc => ([], .error (.std exc))

def callService : RpcOutcome :=
  withCallerIdentity invocation (parseThen
    (parseServiceCallPayload router.parseText router.expand router.evp invocation.payload)
    (router.call invocation))

def showInterfaces : RpcOutcome :=
  withCallerIdentity invocation (parseThen
    (parseInterfacesPayload router.parseText invocation.payload) router.showTypes)

def listServices : RpcOutcome :=
  withCallerIdentity invocation (parseThen
    (parseResourcesPayload router.parseText invocation.payload)
    fun request => router.await (.listServices request))

def listTopics : RpcOutcome :=
  withCallerIdentity invocation (parseThen
    (parseResourcesPayload router.parseText invocation.payload)
    fun request => router.await (.listTopics request))

def requestEchoOnce : RpcOutcome :=
  withCallerIdentity invocation (parseThen
    (parseEchoOncePayload router.parseText router.expand invocation.payload)
    (router.echoOnce invocation))

end RpcRouter

/-- The methods with a request; `lkros.capability` has none. -/
inductive RpcMethod
  | callService
  | showInterfaces
  | listServices
  | listTopics
  | requestEchoOnce
deriving DecidableEq, Repr

namespace RpcRouter

variable (router : RpcRouter) (invocation : RpcInvocation)

/-- The handler that `registerRpcs` registers for a method. -/
def handle : RpcMethod → RpcOutcome
  | .callService => router.callService invocation
  | .showInterfaces => router.showInterfaces invocation
  | .listServices => router.listServices invocation
  | .listTopics => router.listTopics invocation
  | .requestEchoOnce => router.requestEchoOnce invocation

end RpcRouter

/-! ### What is to be mapped -/

/-- The request fails with the code, and nothing was done. -/
def RejectedWith (code : Nat) (outcome : RpcOutcome) : Prop :=
  outcome.effects = [] ∧ ∃ message, outcome.result = .error ⟨code, message⟩

namespace RpcRouter

variable (router : RpcRouter) (invocation : RpcInvocation)

def Accepts (payload : Str) : RpcMethod → Prop
  | .callService =>
    ∃ request, parseServiceCallPayload router.parseText router.expand router.evp payload = .ok request
  | .showInterfaces => ∃ types, parseInterfacesPayload router.parseText payload = .ok types
  | .listServices => ∃ request, parseResourcesPayload router.parseText payload = .ok request
  | .listTopics => ∃ request, parseResourcesPayload router.parseText payload = .ok request
  | .requestEchoOnce =>
    ∃ request, parseEchoOncePayload router.parseText router.expand payload = .ok request

/-- The policy denies the request that was parsed. -/
def Denies (payload : Str) : RpcMethod → Prop
  | .callService => ∃ request,
    parseServiceCallPayload router.parseText router.expand router.evp payload = .ok request ∧
      router.policy.allows router.expand .callService request.name = false
  | .requestEchoOnce => ∃ request,
    parseEchoOncePayload router.parseText router.expand payload = .ok request ∧
      router.policy.allows router.expand .subscribe request.name = false
  | _ => False

/-- Callers without an identity, payloads that are not accepted and requests that are denied are
told apart by the code, and nothing is done for any of them. -/
def MapsErrors (method : RpcMethod) : Prop :=
  (invocation.callerIdentity = [] →
    RejectedWith kUnauthorizedRpcCode (router.handle invocation method)) ∧
  (invocation.callerIdentity ≠ [] → ¬ router.Accepts invocation.payload method →
    RejectedWith kInvalidRequestRpcCode (router.handle invocation method)) ∧
  (invocation.callerIdentity ≠ [] → router.Denies invocation.payload method →
    RejectedWith kForbiddenRpcCode (router.handle invocation method))

end RpcRouter

/-! ### What the parsers throw -/

/-- An exception is thrown that is not taken for an invalid request. -/
def Escapes {α : Type} (parsed : Except StdException α) : Prop :=
  ∃ exc, parsed = .error exc ∧ exc.isInvalidRequest = false

section Escapes

variable {α β : Type} {parsed : Except StdException α} {f : α → Except StdException β}

theorem not_escapes_ok (a : α) : ¬ Escapes (.ok a : Except StdException α) := by
  intro h
  obtain ⟨exc, hexc, _⟩ := h
  cases hexc

theorem escapes_error {exc : StdException} :
    Escapes (.error exc : Except StdException α) ↔ exc.isInvalidRequest = false := by
  constructor
  · intro h
    obtain ⟨exc', hexc, h⟩ := h
    cases hexc
    exact h
  · intro h
    exact ⟨exc, rfl, h⟩

theorem escapes_bind : Escapes (parsed >>= f) ↔
    Escapes parsed ∨ ∃ a, parsed = .ok a ∧ Escapes (f a) := by
  constructor
  · intro h
    obtain ⟨exc, hexc, hcode⟩ := h
    rcases bind_eq_error.mp hexc with hexc | ⟨a, ha, hexc⟩
    · exact .inl ⟨exc, hexc, hcode⟩
    · exact .inr ⟨a, ha, exc, hexc, hcode⟩
  · intro h
    rcases h with ⟨exc, hexc, hcode⟩ | ⟨a, ha, exc, hexc, hcode⟩
    · exact ⟨exc, bind_eq_error.mpr (.inl hexc), hcode⟩
    · exact ⟨exc, bind_eq_error.mpr (.inr ⟨a, ha, hexc⟩), hcode⟩

/-- Reporting an exception under a field does not change its class. -/
theorem escapes_asField (field : Str) : Escapes (asField field parsed) ↔ Escapes parsed := by
  cases parsed with
  | ok a => exact ⟨id, id⟩
  | error exc =>
    rw [asField, escapes_error, escapes_error]
    cases exc with
    | validation error => simp [StdException.isInvalidArgument, StdException.isInvalidRequest]
    | invalidArgument what => simp [StdException.isInvalidArgument, StdException.isInvalidRequest]
    | outOfRange what => simp [StdException.isInvalidArgument]
    | lengthError what => simp [StdException.isInvalidArgument]
    | runtimeError what => simp [StdException.isInvalidArgument]

theorem not_escapes_invalid (r : Except Str α) : ¬ Escapes (invalid r) := by
  cases r with
  | ok a => exact not_escapes_ok a
  | error what =>
    rw [invalid, escapes_error]
    simp [StdException.isInvalidRequest]

theorem not_escapes_field (field : Str) (r : Except Str α) : ¬ Escapes (asField field (invalid r)) := by
  rw [escapes_asField]
  exact not_escapes_invalid r

end Escapes

section Parsers

variable (parseText : Str → Option Json) (payload : Str)

/-- A parser that starts with an object lets through what it lets through of the object. -/
theorem escapes_parseBody {α : Type} {invalidJson invalidObject : Str}
    {parse : Json → Except StdException α} :
    Escapes (parseBody parseText payload invalidJson invalidObject >>= parse) ↔
      ∃ body, parseText payload = some body ∧ body.isObject = true ∧ Escapes (parse body) := by
  have hbody : ∀ body, parseBody parseText payload invalidJson invalidObject = .ok body ↔
      parseText payload = some body ∧ body.isObject = true := by
    intro body
    rw [parseBody, asField_eq_ok, parseObject]
    cases parseText payload with
    | none => simp [invalid]
    | some found =>
      by_cases hobject : found.isObject = true
      · simp only [hobject, if_true, invalid, Except.ok.injEq, Option.some.injEq]
        constructor
        · intro h
          exact ⟨h, h ▸ hobject⟩
        · intro h
          exact h.1
      · simp only [hobject, if_false, Bool.false_eq_true, invalid, Option.some.injEq]
        constructor
        · intro h
          cases h
        · intro h
          exact absurd (h.1 ▸ h.2) hobject
  rw [escapes_bind]
  constructor
  · intro h
    rcases h with h | ⟨body, hok, h⟩
    · exact absurd h (not_escapes_field _ _)
    · exact ⟨body, (hbody body).mp hok |>.1, (hbody body).mp hok |>.2, h⟩
  · intro h
    obtain ⟨body, htext, hobject, h⟩ := h
    exact .inr ⟨body, (hbody body).mpr ⟨htext, hobject⟩, h⟩

theorem not_escapes_interfaces : ¬ Escapes (parseInterfacesPayload parseText payload) := by
  rw [parseInterfacesPayload, escapes_parseBody]
  intro h
  obtain ⟨body, _, _, h⟩ := h
  exact not_escapes_field _ _ h

theorem not_escapes_limit (body : Json) : ¬ Escapes (parseLimit body) := by
  intro h
  obtain ⟨exc, hexc, hcode⟩ := h
  rw [parseLimit] at hexc
  split at hexc
  · cases hexc
  split at hexc
  · cases hexc
  split at hexc
  · cases hexc
    cases hcode
  split at hexc
  · cases hexc
    cases hcode
  · cases hexc

theorem not_escapes_resources : ¬ Escapes (parseResourcesPayload parseText payload) := by
  rw [parseResourcesPayload, escapes_parseBody]
  intro h
  obtain ⟨body, _, _, h⟩ := h
  rw [parseResources, escapes_bind] at h
  rcases h with h | ⟨query, _, h⟩
  · exact not_escapes_field _ _ h
  rcases escapes_bind.mp h with h | ⟨limit, _, h⟩
  · exact not_escapes_limit body h
  · exact not_escapes_ok _ h

/-- The parser of echo-once requests catches everything. -/
theorem not_escapes_echoOnce (expand : Expand) :
    ¬ Escapes (parseEchoOncePayload parseText expand payload) := by
  rw [parseEchoOncePayload, escapes_parseBody]
  intro h
  obtain ⟨body, _, _, exc, hexc, hcode⟩ := h
  rw [parseEchoOnce] at hexc
  split at hexc
  · cases hexc
    cases hcode
  split at hexc
  · cases hexc
    cases hcode
  split at hexc
  · cases hexc
    cases hcode
  split at hexc
  · cases hexc
    cases hcode
  · cases hexc

end Parsers

/-! ### What the parser of service calls lets through -/

/-- rclcpp accepts the service name but does not know a substitution in it. -/
def UnknownSubstitution (expand : Expand) (body : Json) : Prop :=
  ∃ raw what, (body.find (lit "service")).bind Json.text? = some raw ∧ trim raw ≠ [] ∧
    expand (trim raw) (lit "livekit_ros2_bridge") (lit "/") true = .error (.runtimeError what)

/-- The text is an encoding with padding, and so long that its size is no positive `int`. -/
def OverlongText (text : Str) : Prop :=
  ∃ bytes, Base64.encode bytes = text ∧ Base64.padding bytes.length ≠ 0 ∧ toInt text.length ≤ 0

/-- The parser comes to the payload, and its text is too long. -/
def OverlongPayload (expand : Expand) (body : Json) : Prop :=
  NamesService expand body ∧ TypeReadable body ∧
    envelopeText body .request kContentType = some kCdrContentType ∧
    ∃ text, envelopeText body .request kPayloadBase64 = some text ∧ OverlongText text

section ServiceCalls

variable {expand : Expand} {evp : Evp} {body : Json}

theorem decode_error_iff (hevp : evp.ImplementsRfc) {text : Str} :
    (∃ exc, base64Decode evp text = .error exc) ↔ OverlongText text := by
  constructor
  · intro h
    obtain ⟨exc, h⟩ := h
    by_cases henc : ∃ bytes, Base64.encode bytes = text
    · obtain ⟨bytes, rfl⟩ := henc
      rcases Nat.lt_or_ge (Base64.encode bytes).length 2147483648 with hshort | hlong
      · rw [decode_short hevp hshort] at h
        cases h
      · rcases decode_long hevp hlong with ⟨hpad, hint, _⟩ | ⟨_, bytes', hok, _⟩
        · exact ⟨bytes, rfl, hpad, hint⟩
        · rw [hok] at h
          cases h
    · obtain ⟨status, _, he⟩ := decode_of_not_encoding evp (fun bytes hb => henc ⟨bytes, hb⟩)
      rw [he] at h
      cases h
  · intro h
    obtain ⟨bytes, rfl, hpad, hint⟩ := h
    rcases Nat.lt_or_ge (Base64.encode bytes).length 2147483648 with hshort | hlong
    · -- a short text has a positive size, unless it is empty
      rw [toInt_of_lt hshort, Base64.length_encode] at hint
      have hnil : bytes.length = 0 := by omega
      rw [hnil] at hpad
      exact absurd rfl hpad
    · rcases decode_long hevp hlong with ⟨_, _, herror⟩ | ⟨hnot, _, _⟩
      · exact ⟨_, herror⟩
      · exact absurd ⟨hpad, hint⟩ hnot

theorem escapes_cdrParse (hevp : evp.ImplementsRfc) (field : CdrField) :
    Escapes (cdrParse evp body field) ↔
      envelopeText body field kContentType = some kCdrContentType ∧
        ∃ text, envelopeText body field kPayloadBase64 = some text ∧ OverlongText text := by
  rcases cdrParse_texts evp body field with ⟨text, htype, htext, hparse⟩ | ⟨hmissing, what, hparse⟩
  · rw [hparse]
    cases hdecode : base64Decode evp text with
    | error exc =>
      obtain ⟨what, rfl⟩ := decode_error hdecode
      constructor
      · intro _
        exact ⟨htype, text, htext, (decode_error_iff hevp).mp ⟨_, hdecode⟩⟩
      · intro _
        exact escapes_error.mpr rfl
    | ok result =>
      obtain ⟨bytes, status⟩ := result
      constructor
      · intro h
        cases status with
        | ok => exact absurd h (not_escapes_ok bytes)
        | missingPadding => cases escapes_error.mp h
        | invalidEncoding => cases escapes_error.mp h
      · intro h
        obtain ⟨_, text', htext', hlong⟩ := h
        rw [htext, Option.some.injEq] at htext'
        subst htext'
        obtain ⟨exc, hexc⟩ := (decode_error_iff hevp).mpr hlong
        rw [hdecode] at hexc
        cases hexc
  · rw [hparse]
    constructor
    · intro h
      cases escapes_error.mp h
    · intro h
      obtain ⟨htype, text, htext, _⟩ := h
      rw [hmissing htype] at htext
      cases htext

theorem escapes_parseService : Escapes (parseService expand body) ↔ UnknownSubstitution expand body := by
  rw [parseService, escapes_asField, escapes_bind]
  have hname : ∀ text, Escapes (expandName expand text (lit "livekit_ros2_bridge") (lit "/") true) ↔
      ∃ what, expand text (lit "livekit_ros2_bridge") (lit "/") true = .error (.runtimeError what) := by
    intro text
    rw [expandName]
    cases expand text (lit "livekit_ros2_bridge") (lit "/") true with
    | ok n => simp [not_escapes_ok]
    | error e =>
      cases e with
      | nameValidation what => simp [escapes_error, StdException.isInvalidRequest]
      | runtimeError what => simp [escapes_error, StdException.isInvalidRequest]
  constructor
  · intro h
    rcases h with h | ⟨text, hok, h⟩
    · exact absurd h (not_escapes_invalid _)
    · obtain ⟨raw, hraw, hne, rfl⟩ := requiredString_eq_ok.mp (invalid_eq_ok.mp hok)
      obtain ⟨what, he⟩ := (hname _).mp h
      exact ⟨raw, what, hraw, hne, he⟩
  · intro h
    obtain ⟨raw, what, hraw, hne, he⟩ := h
    exact .inr ⟨trim raw, invalid_eq_ok.mpr (requiredString_eq_ok.mpr ⟨raw, hraw, hne, rfl⟩),
      (hname _).mpr ⟨what, he⟩⟩

theorem not_escapes_interfaceType : ¬ Escapes (parseInterfaceType body) := by
  rw [parseInterfaceType, escapes_asField, escapes_bind]
  intro h
  rcases h with h | ⟨text, _, h⟩
  · exact not_escapes_invalid _ h
  · exact not_escapes_ok _ h

theorem not_escapes_timeout : ¬ Escapes (parseTimeout body) := by
  intro h
  obtain ⟨exc, hexc, hcode⟩ := h
  rw [parseTimeout] at hexc
  split at hexc
  · cases hexc
  split at hexc
  · cases hexc
    cases hcode
  · cases hexc

theorem escapes_servicePayload :
    Escapes (parseServicePayload evp body) ↔ Escapes (cdrParse evp body .request) := by
  rw [parseServicePayload, escapes_asField, escapes_bind]
  constructor
  · intro h
    rcases h with h | ⟨bytes, _, h⟩
    · exact h
    · split at h
      · cases escapes_error.mp h
      · exact absurd h (not_escapes_ok _)
  · intro h
    exact .inl h

/-- **What the parser of service calls lets through.** -/
theorem parseServiceCall_escapes_iff (hevp : evp.ImplementsRfc) :
    Escapes (parseServiceCall expand evp body) ↔
      UnknownSubstitution expand body ∨ OverlongPayload expand body := by
  constructor
  · intro h
    rw [parseServiceCall, escapes_bind] at h
    rcases h with h | ⟨name, hname, h⟩
    · exact .inl (escapes_parseService.mp h)
    rcases escapes_bind.mp h with h | ⟨interfaceType, htype, h⟩
    · exact absurd h not_escapes_interfaceType
    rcases escapes_bind.mp h with h | ⟨bytes, _, h⟩
    · exact .inr ⟨exists_parseService.mp ⟨name, hname⟩, exists_parseInterfaceType.mp ⟨_, htype⟩,
        (escapes_cdrParse hevp .request).mp (escapes_servicePayload.mp h)⟩
    rcases escapes_bind.mp h with h | ⟨timeout, _, h⟩
    · exact absurd h not_escapes_timeout
    · exact absurd h (not_escapes_ok _)
  · intro h
    rw [parseServiceCall, escapes_bind]
    rcases h with h | ⟨hname, htype, h⟩
    · exact .inl (escapes_parseService.mpr h)
    · obtain ⟨name, hname⟩ := exists_parseService.mpr hname
      obtain ⟨interfaceType, htype⟩ := exists_parseInterfaceType.mpr htype
      have hpayload := escapes_servicePayload.mpr ((escapes_cdrParse hevp .request).mpr h)
      exact .inr ⟨name, hname, escapes_bind.mpr (.inr ⟨interfaceType, htype,
        escapes_bind.mpr (.inl hpayload)⟩)⟩

end ServiceCalls

/-! ### The mapping -/

/-- **A handler maps errors** exactly when its parser lets nothing through.  `denied` is what the
policy refuses after parsing. -/
theorem mapped_iff {α : Type} (invocation : RpcInvocation) (parsed : Except StdException α)
    (go : α → List RpcEffect × Except Thrown Str) (denied : α → Prop)
    (hdenied : ∀ request, denied request →
      ∃ message, go request = ([], .error (.rpc ⟨kForbiddenRpcCode, message⟩))) :
    ((invocation.callerIdentity = [] →
        RejectedWith kUnauthorizedRpcCode (withCallerIdentity invocation (parseThen parsed go))) ∧
      (invocation.callerIdentity ≠ [] → (¬ ∃ request, parsed = .ok request) →
        RejectedWith kInvalidRequestRpcCode (withCallerIdentity invocation (parseThen parsed go))) ∧
      (invocation.callerIdentity ≠ [] → (∃ request, parsed = .ok request ∧ denied request) →
        RejectedWith kForbiddenRpcCode (withCallerIdentity invocation (parseThen parsed go)))) ↔
    ¬ (invocation.callerIdentity ≠ [] ∧ Escapes parsed) := by
  by_cases hcaller : invocation.callerIdentity = []
  · have hout : withCallerIdentity invocation (parseThen parsed go) =
        ⟨[], .error ⟨kUnauthorizedRpcCode, lit "caller_identity is required for this RPC"⟩⟩ :=
      if_pos hcaller
    constructor
    · intro _ h
      exact h.1 hcaller
    · intro _
      rw [hout]
      exact ⟨fun _ => ⟨rfl, _, rfl⟩, fun hne => absurd hcaller hne, fun hne => absurd hcaller hne⟩
  · cases parsed with
    | error exc =>
      have hout : withCallerIdentity invocation (parseThen (.error exc) go) =
          ⟨[], .error (throwRpcError exc)⟩ := if_neg hcaller
      have hcode : RejectedWith kInvalidRequestRpcCode ⟨[], .error (throwRpcError exc)⟩ ↔
          ¬ Escapes (.error exc : Except StdException α) := by
        rw [escapes_error]
        cases hexc : exc.isInvalidRequest with
        | true => simp [RejectedWith, throwRpcError, hexc]
        | false => simp [RejectedWith, throwRpcError, hexc, kInternalRpcCode, kInvalidRequestRpcCode]
      rw [hout]
      constructor
      · intro h hescapes
        exact hcode.mp (h.2.1 hcaller (by simp)) hescapes.2
      · intro h
        refine ⟨fun he => absurd he hcaller, ?_, ?_⟩
        · intro _ _
          exact hcode.mpr fun hescapes => h ⟨hcaller, hescapes⟩
        · intro _ hd
          obtain ⟨request, hrequest, _⟩ := hd
          cases hrequest
    | ok request =>
      constructor
      · intro _ h
        exact not_escapes_ok request h.2
      · intro _
        refine ⟨fun he => absurd he hcaller, fun _ hno => absurd ⟨request, rfl⟩ hno, ?_⟩
        intro _ hd
        obtain ⟨request', hrequest, hd⟩ := hd
        cases hrequest
        obtain ⟨message, hgo⟩ := hdenied request hd
        have hout : withCallerIdentity invocation (parseThen (.ok request) go) =
            ⟨[], .error ⟨kForbiddenRpcCode, message⟩⟩ := by
          rw [parseThen, hgo]
          exact if_neg hcaller
        rw [hout]
        exact ⟨rfl, message, rfl⟩

namespace RpcRouter

variable {router : RpcRouter} {invocation : RpcInvocation}

theorem call_denied {request : ServiceCallRequest}
    (h : router.policy.allows router.expand .callService request.name = false) :
    ∃ message, router.call invocation request =
      ([], .error (.rpc ⟨kForbiddenRpcCode, message⟩)) := by
  rw [call, h]
  exact ⟨_, rfl⟩

theorem echoOnce_denied {request : EchoOnceRequest}
    (h : router.policy.allows router.expand .subscribe request.name = false) :
    ∃ message, router.echoOnce invocation request =
      ([], .error (.rpc ⟨kForbiddenRpcCode, message⟩)) := by
  rw [echoOnce, h]
  exact ⟨_, rfl⟩

/-- A method whose parser lets nothing through, and whose requests are not denied. -/
theorem mapped_of_not_escapes {α : Type} {parsed : Except StdException α}
    {go : α → List RpcEffect × Except Thrown Str} (h : ¬ Escapes parsed) :
    (invocation.callerIdentity = [] →
        RejectedWith kUnauthorizedRpcCode (withCallerIdentity invocation (parseThen parsed go))) ∧
      (invocation.callerIdentity ≠ [] → (¬ ∃ request, parsed = .ok request) →
        RejectedWith kInvalidRequestRpcCode (withCallerIdentity invocation (parseThen parsed go))) ∧
      (invocation.callerIdentity ≠ [] → False →
        RejectedWith kForbiddenRpcCode (withCallerIdentity invocation (parseThen parsed go))) := by
  obtain ⟨hunauthorized, hinvalid, _⟩ := (mapped_iff invocation parsed go (fun _ => False)
    (fun _ hd => hd.elim)).mpr fun hescapes => h hescapes.2
  exact ⟨hunauthorized, hinvalid, fun _ hfalse => hfalse.elim⟩

/-- **Errors are mapped as documented**, except for service calls whose name has an unknown
substitution or whose payload is too long. -/
theorem mapsErrors_iff (hevp : router.evp.ImplementsRfc) (method : RpcMethod) :
    router.MapsErrors invocation method ↔
      ¬ (invocation.callerIdentity ≠ [] ∧ method = .callService ∧
        ∃ body, router.parseText invocation.payload = some body ∧ body.isObject = true ∧
          (UnknownSubstitution router.expand body ∨ OverlongPayload router.expand body)) := by
  cases method with
  | callService =>
    have hmapped : router.MapsErrors invocation .callService ↔ ¬ (invocation.callerIdentity ≠ [] ∧
        Escapes (parseServiceCallPayload router.parseText router.expand router.evp
          invocation.payload)) :=
      mapped_iff invocation _ _ _ fun _ hdenied => call_denied hdenied
    rw [hmapped, parseServiceCallPayload, escapes_parseBody]
    simp only [parseServiceCall_escapes_iff hevp, true_and]
  | showInterfaces =>
    refine iff_of_true ?_ (by simp)
    exact mapped_of_not_escapes (not_escapes_interfaces router.parseText invocation.payload)
  | listServices =>
    refine iff_of_true ?_ (by simp)
    exact mapped_of_not_escapes (not_escapes_resources router.parseText invocation.payload)
  | listTopics =>
    refine iff_of_true ?_ (by simp)
    exact mapped_of_not_escapes (not_escapes_resources router.parseText invocation.payload)
  | requestEchoOnce =>
    refine iff_of_true ?_ (by simp)
    refine (mapped_iff invocation _ _ _ fun _ hdenied => echoOnce_denied hdenied).mpr ?_
    intro h
    exact not_escapes_echoOnce router.parseText invocation.payload router.expand h.2

/-- ROS name expansion with both exceptions: the name is invalid, or it is valid and has a
substitution that is not known. -/
def throwingExpand : Expand := fun name nodeName namespace_ isService =>
  match ros2Expand name nodeName namespace_ isService with
  | .ok n => .ok n
  | .error e =>
    if ros2ValidName name && (pieces (expandTilde nodeName namespace_ name)).any fun ps =>
        (piecesText nodeName namespace_ ps).isNone then
      .error (.runtimeError (lit "unknown substitution"))
    else .error e

/-- A call of a service whose name has a substitution that rclcpp does not know. -/
def unknownText : Str := lit "\x7b\"service\":\"/\x7bfoo\x7d\"\x7d"

/-- A router that denies everything, and whose parser knows that text. -/
def strict : RpcRouter where
  parseText text :=
    if text = unknownText then
      some (.object [(lit "service", .string (lit "/\x7bfoo\x7d"))])
    else none
  expand := throwingExpand
  evp := rfcEvp
  policy := .ofConfig throwingExpand ⟨⟨[], []⟩, ⟨[], []⟩, ⟨[], []⟩⟩
  backend := ⟨fun _ => ([], .error (.runtimeError (lit "unreachable"))),
    fun _ => .error (.runtimeError (lit "unreachable"))⟩

/-- What is no JSON is an invalid request. -/
theorem mapsErrors_iff_noJson :
    strict.MapsErrors ⟨lit "alice", lit "ping"⟩ .callService := by
  refine (mapsErrors_iff rfcEvp_implementsRfc .callService).mpr ?_
  intro h
  obtain ⟨_, _, body, hbody, _⟩ := h
  have hnone : strict.parseText (lit "ping") = none := by rfl
  rw [hnone] at hbody
  cases hbody

/-- An unknown substitution is an internal error. -/
theorem not_mapsErrors :
    ¬ ∀ (router : RpcRouter), router.evp.ImplementsRfc → ∀ (invocation : RpcInvocation)
      (method : RpcMethod), router.MapsErrors invocation method := by
  intro h
  obtain ⟨_, hinvalid, _⟩ := h strict rfcEvp_implementsRfc ⟨lit "alice", unknownText⟩ .callService
  have hparse : parseServiceCallPayload strict.parseText strict.expand strict.evp unknownText =
      .error (.runtimeError (lit "unknown substitution")) := by rfl
  have hreject : ¬ strict.Accepts unknownText .callService := by
    intro haccepts
    obtain ⟨request, hrequest⟩ := haccepts
    rw [hparse] at hrequest
    cases hrequest
  obtain ⟨_, message, hresult⟩ := hinvalid (by decide) hreject
  have hcode : (strict.handle ⟨lit "alice", unknownText⟩ .callService).result =
      .error ⟨kInternalRpcCode, lit "unknown substitution"⟩ := by rfl
  rw [hcode] at hresult
  cases hresult

end RpcRouter

end LivekitBridge
