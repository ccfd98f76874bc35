import LivekitBridge.Protocol.Requests
import LivekitBridge.Utils.Chrono

/-!
# Timeouts in 64 bits

How long a service call may take, from the request to the deadline.  `timeout_ms` is an integer of
the JSON text, which nlohmann keeps as an `int64` or as a `uint64`; `services::parse` reads it as an
`int64`; `RosServiceCaller::call` takes a value that is not positive for the default, turns
milliseconds into nanoseconds and adds them to the time of `steady_clock`.  Each of the three steps
is done in 64 bits and none is checked.

`timeoutHonoured_iff` says for which timeouts the deadline that the caller stores is what was asked
for: those for which the deadline, in nanoseconds, is below `2 ^ 63` (`callDeadline64_eq`).
-/

namespace LivekitBridge

/-! ### The code -/

/-- `now >= call.deadline` of `executeWaitable` -/
def isExpired (now deadline : Int) : Bool := decide (deadline ≤ now)

/-- nlohmann keeps the integer `T` as an `int64` or as a `uint64`. -/
def Json.Stores (value : Json) (T : Int) : Prop :=
  (value = .signed T ∧ FitsInt64 T) ∨
    ∃ n : Nat, value = .unsigned n ∧ T = n ∧ n ≤ 18446744073709551615

/-! ### What it computes -/

theorem timeout_of_parse {expand : Expand} {evp : Evp} {body value : Json}
    {request : ServiceCallRequest} {T : Int} (hparse : parseServiceCall expand evp body = .ok request)
    (hfind : body.find (lit "timeout_ms") = some value) (hstores : value.Stores T) :
    request.timeout = some (wrap64 T) := by
  have hint : value.int64? = some (wrap64 T) := by
    rcases hstores with ⟨rfl, hfits⟩ | ⟨n, rfl, rfl, _⟩
    · rw [wrap64_of_fits hfits]
      rfl
    · rfl
  have htimeout : parseTimeout body = .ok (some (wrap64 T)) := by
    rw [parseTimeout, hfind]
    dsimp only
    rw [hint]
  rw [parseServiceCall, htimeout] at hparse
  cases hname : parseService expand body with
  | error e =>
    rw [hname] at hparse
    cases hparse
  | ok name =>
    cases htype : parseInterfaceType body with
    | error e =>
      rw [hname, htype] at hparse
      cases hparse
    | ok interfaceType =>
      cases hpayload : parseServicePayload evp body with
      | error e =>
        rw [hname, htype, hpayload] at hparse
        cases hparse
      | ok payload =>
        rw [hname, htype, hpayload] at hparse
        rw [← Except.ok.inj hparse]

/-- Nothing overflows on the way from `T` to the deadline. -/
structure NoOverflow (now T : Int) : Prop where
  read : FitsInt64 T
  scaled : FitsInt64 (effectiveTimeout (some T) * 1000000)
  added : FitsInt64 (now + effectiveTimeout (some T) * 1000000)

theorem callDeadline64_eq {now T : Int} (h : NoOverflow now T) :
    callDeadline64 now (some (wrap64 T)) = now + effectiveTimeout (some T) * 1000000 := by
  rw [callDeadline64, wrap64_of_fits h.read, toNanoseconds, wrap64_of_fits h.scaled,
    wrap64_of_fits h.added]

/-- **When nothing overflows.** -/
theorem noOverflow_iff {now T : Int} (hnow : 0 ≤ now) (hmax : now < 4611686018427387904)
    (hmin : -9223372036854775808 ≤ T) :
    NoOverflow now T ↔ now + T * 1000000 ≤ 9223372036854775807 := by
  constructor
  · intro h
    have hadded := h.added.2
    rw [effectiveTimeout, kDefaultTimeout] at hadded
    split at hadded <;> omega
  · intro h
    have heff : (0 < T ∧ effectiveTimeout (some T) = T) ∨
        (T ≤ 0 ∧ effectiveTimeout (some T) = 2000) := by
      rw [effectiveTimeout, kDefaultTimeout]
      split
      · exact .inl ⟨by assumption, rfl⟩
      · exact .inr ⟨by omega, rfl⟩
    rcases heff with ⟨hT, heff⟩ | ⟨hT, heff⟩
    · refine ⟨⟨hmin, by omega⟩, ?_, ?_⟩
      · rw [heff]
        exact ⟨by omega, by omega⟩
      · rw [heff]
        exact ⟨by omega, by omega⟩
    · refine ⟨⟨hmin, by omega⟩, ?_, ?_⟩
      · rw [heff]
        exact ⟨by omega, by omega⟩
      · rw [heff]
        exact ⟨by omega, by omega⟩

/-! ### Which timeouts are honoured -/

/-- What a client may expect of a call with `timeout_ms` of `T` that starts at `now`. -/
structure TimeoutHonoured (expand : Expand) (evp : Evp) (now T deadline : Int) : Prop where
  noOverflow : NoOverflow now T
  default : T ≤ 0 → deadline = now + 2000 * 1000000
  later : 0 < T → now < deadline ∧ isExpired now deadline = false
  monotone : ∀ (body' value' : Json) (request' : ServiceCallRequest) (T' : Int),
    parseServiceCall expand evp body' = .ok request' →
    body'.find (lit "timeout_ms") = some value' → value'.Stores T' → 0 < T' → T' ≤ T →
    callDeadline64 now request'.timeout ≤ deadline

/-- **Which timeouts are honoured**: those whose deadline is an `int64` of nanoseconds. -/
theorem timeoutHonoured_iff {expand : Expand} {evp : Evp} {body value : Json}
    {request : ServiceCallRequest} {T now : Int}
    (hparse : parseServiceCall expand evp body = .ok request)
    (hfind : body.find (lit "timeout_ms") = some value) (hstores : value.Stores T)
    (hnow : 0 ≤ now) (hmax : now < 4611686018427387904) :
    TimeoutHonoured expand evp now T (callDeadline64 now request.timeout) ↔
      now + T * 1000000 ≤ 9223372036854775807 := by
  have hmin : -9223372036854775808 ≤ T := by
    rcases hstores with ⟨_, hfits⟩ | ⟨n, _, rfl, _⟩
    · exact hfits.1
    · omega
  rw [timeout_of_parse hparse hfind hstores]
  constructor
  · intro h
    exact (noOverflow_iff hnow hmax hmin).mp h.noOverflow
  · intro h
    have hno := (noOverflow_iff hnow hmax hmin).mpr h
    have hdeadline := callDeadline64_eq hno
    have heff : effectiveTimeout (some T) = if 0 < T then T else 2000 := rfl
    refine ⟨hno, ?_, ?_, ?_⟩
    · intro hT
      rw [hdeadline, heff, if_neg (by omega)]
    · intro hT
      rw [hdeadline, heff, if_pos hT, isExpired, decide_eq_false_iff_not]
      exact ⟨by omega, by omega⟩
    · intro body' value' request' T' hparse' hfind' hstores' hpos hle
      have hno' : NoOverflow now T' := (noOverflow_iff hnow hmax (by omega)).mpr (by omega)
      have heff' : effectiveTimeout (some T') = if 0 < T' then T' else 2000 := rfl
      rw [timeout_of_parse hparse' hfind' hstores', callDeadline64_eq hno', hdeadline, heff, heff',
        if_pos hpos, if_pos (by omega)]
      omega

/-- A call of `/ping` with a timeout. -/
def timedCall (timeout : Json) : Json :=
  .object [(lit "request", .object [(kContentType, .string kCdrContentType),
    (kPayloadBase64, .string (lit "AAECAw=="))]), (lit "service", .string (lit "/ping")),
    (lit "timeout_ms", timeout)]

theorem parse_timedCall (timeout : Nat) :
    parseServiceCall ros2Expand rfcEvp (timedCall (.unsigned timeout)) =
      .ok ⟨lit "/ping", [], [0, 1, 2, 3], some (wrap64 timeout)⟩ := by
  rfl

/-- One second is one second. -/
theorem timeoutHonoured_iff_second :
    TimeoutHonoured ros2Expand rfcEvp 0 1000 (callDeadline64 0 (some (wrap64 1000))) :=
  (timeoutHonoured_iff (parse_timedCall 1000) rfl (.inr ⟨1000, rfl, rfl, by decide⟩) (by decide)
    (by decide)).mpr (by decide)

/-- 9223372036855 milliseconds are more nanoseconds than an `int64` holds: the call has expired. -/
theorem not_timeoutHonoured :
    ¬ ∀ (expand : Expand) (evp : Evp) (body value : Json) (request : ServiceCallRequest) (T now : Int),
      parseServiceCall expand evp body = .ok request → body.find (lit "timeout_ms") = some value →
      value.Stores T → 0 ≤ now → now < 4611686018427387904 →
      TimeoutHonoured expand evp now T (callDeadline64 now request.timeout) := by
  intro h
  have hlater := (h ros2Expand rfcEvp (timedCall (.unsigned 9223372036855)) _ _ 9223372036855 0
    (parse_timedCall 9223372036855) rfl (.inr ⟨9223372036855, rfl, rfl, by decide⟩) (by decide)
    (by decide)).later (by decide)
  have hdeadline : callDeadline64 0 (some (wrap64 (9223372036855 : Nat))) = -9223372036854551616 := by
    decide
  rw [hdeadline] at hlater
  exact absurd hlater.1 (by decide)

end LivekitBridge
