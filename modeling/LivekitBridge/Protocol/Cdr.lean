import LivekitBridge.Protocol.Base64

/-!
# The payload envelope

`protocol/cdr.cpp`: serialised ROS messages travel as an object with a content type and the bytes
in base64.  `cdrParse_eq_ok` says which envelopes are read, and `base64_canonical_iff` how far the
codec is canonical: a text decodes to the bytes it is the encoding of and to nothing else, as long
as its length is an `int`.
-/

namespace LivekitBridge

open Lib

/-! ### The code -/

def kContentType : Str := lit "content_type"

def kPayloadBase64 : Str := lit "payload_base64"

/-- `cdr::Field` -/
inductive CdrField
  | message
  | request
deriving DecidableEq, Repr

/-- `field_name` of `cdr::parse` -/
def CdrField.name : CdrField → Str
  | .message => lit "message"
  | .request => lit "request"

/-- `cdr::parse`; a `rclcpp::SerializedMessage` is its bytes. -/
def cdrParse (evp : Evp) (body : Json) (field : CdrField) : Except StdException Str :=
  match body.find field.name with
  | none => .error (.invalidArgument (field.name ++ lit " must be an object."))
  | some envelope =>
    if envelope.isObject = false then
      .error (.invalidArgument (field.name ++ lit " must be an object."))
    else
      match (envelope.find kContentType).bind Json.text? with
      | none => .error (.invalidArgument (kContentType ++ lit " must be a string."))
      | some contentType =>
        if contentType ≠ kCdrContentType then
          .error (.invalidArgument
            (field.name ++ lit "." ++ kContentType ++ lit " must be application/x-ros-cdr."))
        else
          match (envelope.find kPayloadBase64).bind Json.text? with
          | none => .error (.invalidArgument (kPayloadBase64 ++ lit " must be a string."))
          | some encoded =>
            match base64Decode evp encoded with
            | .error e => .error e
            | .ok ⟨bytes, .ok⟩ => .ok bytes
            | .ok ⟨_, .missingPadding⟩ =>
              .error (.invalidArgument (lit "payload_base64 must be padded standard base64."))
            | .ok ⟨_, .invalidEncoding⟩ =>
              .error (.invalidArgument (lit "payload_base64 is not valid base64."))

/-- `cdr::serialize` -/
def cdrSerialize (evp : Evp) (bytes : Str) : Except StdException Json :=
  match base64Encode evp bytes with
  | .error e => .error e
  | .ok text =>
    .ok (.object [(kContentType, .string kCdrContentType), (kPayloadBase64, .string text)])

/-! ### Envelopes -/

def envelopeText (body : Json) (field : CdrField) (name : Str) : Option Str :=
  ((body.find field.name).bind fun envelope => envelope.find name).bind Json.text?

theorem cdrParse_texts (evp : Evp) (body : Json) (field : CdrField) :
    (∃ text, envelopeText body field kContentType = some kCdrContentType ∧
      envelopeText body field kPayloadBase64 = some text ∧
      cdrParse evp body field =
        match base64Decode evp text with
        | .error e => .error e
        | .ok ⟨bytes, .ok⟩ => .ok bytes
        | .ok ⟨_, .missingPadding⟩ =>
          .error (.invalidArgument (lit "payload_base64 must be padded standard base64."))
        | .ok ⟨_, .invalidEncoding⟩ =>
          .error (.invalidArgument (lit "payload_base64 is not valid base64."))) ∨
    (envelopeText body field kContentType = some kCdrContentType →
      envelopeText body field kPayloadBase64 = none) ∧
      ∃ what, cdrParse evp body field = .error (.invalidArgument what) := by
  rw [cdrParse, envelopeText, envelopeText]
  cases body.find field.name with
  | none => exact .inr ⟨by simp, _, rfl⟩
  | some envelope =>
    cases envelope with
    | object fields =>
      simp only [Json.isObject, Bool.true_eq_false, if_false, Option.bind_some]
      cases (Json.find (.object fields) kContentType).bind Json.text? with
      | none => exact .inr ⟨by simp, _, rfl⟩
      | some contentType =>
        by_cases hc : contentType = kCdrContentType
        · subst hc
          simp only [ne_eq, not_true_eq_false, if_false]
          cases (Json.find (.object fields) kPayloadBase64).bind Json.text? with
          | none => exact .inr ⟨by simp, _, rfl⟩
          | some text => exact .inl ⟨text, trivial, rfl, rfl⟩
        · exact .inr ⟨by simp [hc], _, by simp only [ne_eq, hc, not_false_eq_true, if_true]; rfl⟩
    | _ => exact .inr ⟨by simp [Json.find], _, rfl⟩

/-- **What `cdr::parse` reads**: the content type as it is, and a text that `decode` accepts. -/
theorem cdrParse_eq_ok {evp : Evp} {body : Json} {field : CdrField} {bytes : Str} :
    cdrParse evp body field = .ok bytes ↔
      envelopeText body field kContentType = some kCdrContentType ∧
      ∃ text, envelopeText body field kPayloadBase64 = some text ∧
        base64Decode evp text = .ok ⟨bytes, .ok⟩ := by
  rcases cdrParse_texts evp body field with ⟨text, htype, htext, hparse⟩ | ⟨hmissing, what, hparse⟩
  · rw [hparse, htype, htext]
    simp only [Option.some.injEq, exists_eq_left', true_and]
    cases base64Decode evp text with
    | error e => simp
    | ok result =>
      obtain ⟨decoded, status⟩ := result
      cases status <;> simp
  · rw [hparse]
    constructor
    · intro h
      cases h
    · rintro ⟨htype, text, htext, -⟩
      rw [hmissing htype] at htext
      cases htext

/-- The envelope has the content type, and `decode` neither rejects its text nor returns no
bytes. -/
def EnvelopeRead (evp : Evp) (body : Json) (field : CdrField) : Prop :=
  envelopeText body field kContentType = some kCdrContentType ∧
    ∃ text, envelopeText body field kPayloadBase64 = some text ∧
      ∀ result, base64Decode evp text = .ok result → result.status = .ok ∧ result.bytes ≠ []

/-- `decode` throws nothing but what `resize` throws. -/
theorem decode_error {evp : Evp} {text : Str} {e : StdException}
    (h : base64Decode evp text = .error e) : ∃ what, e = .lengthError what := by
  by_cases henc : ∃ bytes, Base64.encode bytes = text
  · obtain ⟨bytes, rfl⟩ := henc
    by_cases hne : bytes = []
    · rw [hne] at h
      cases h
    · rw [decode_of_encode evp hne] at h
      simp only [decodeQuanta, resize] at h
      split at h
      · exact ⟨_, (Except.error.inj h).symm⟩
      · cases h
  · obtain ⟨status, _, he⟩ := decode_of_not_encoding evp (fun bytes hb => henc ⟨bytes, hb⟩)
    rw [he] at h
    cases h

theorem not_envelopeRead {evp : Evp} {body : Json} {field : CdrField}
    (hmissing : envelopeText body field kContentType = some kCdrContentType →
      envelopeText body field kPayloadBase64 = none) : ¬ EnvelopeRead evp body field := by
  rintro ⟨htype, text, htext, -⟩
  rw [hmissing htype] at htext
  cases htext

/-- **What `cdr::parse` does**, by whether the envelope is read. -/
theorem cdrParse_cases (evp : Evp) (body : Json) (field : CdrField) :
    (EnvelopeRead evp body field ∧ ((∃ bytes, bytes ≠ [] ∧ cdrParse evp body field = .ok bytes) ∨
      ∃ what, cdrParse evp body field = .error (.lengthError what))) ∨
    (¬ EnvelopeRead evp body field ∧ (cdrParse evp body field = .ok [] ∨
      ∃ what, cdrParse evp body field = .error (.invalidArgument what))) := by
  rcases cdrParse_texts evp body field with ⟨text, htype, htext, hparse⟩ | ⟨hmissing, what, hparse⟩
  · rw [hparse, EnvelopeRead]
    cases hdecode : base64Decode evp text with
    | error e =>
      obtain ⟨what, rfl⟩ := decode_error hdecode
      exact .inl ⟨⟨htype, text, htext, by simp [hdecode]⟩, .inr ⟨what, rfl⟩⟩
    | ok result =>
      obtain ⟨bytes, status⟩ := result
      cases status with
      | ok =>
        by_cases hbytes : bytes = []
        · refine .inr ⟨?_, .inl (by rw [hbytes])⟩
          simp [htext, hdecode, hbytes]
        · refine .inl ⟨⟨htype, text, htext, ?_⟩, .inl ⟨bytes, hbytes, rfl⟩⟩
          simp [hdecode, hbytes]
      | invalidEncoding => exact .inr ⟨by simp [htext, hdecode], .inr ⟨_, rfl⟩⟩
      | missingPadding => exact .inr ⟨by simp [htext, hdecode], .inr ⟨_, rfl⟩⟩
  · exact .inr ⟨not_envelopeRead hmissing, .inr ⟨what, hparse⟩⟩

/-- The envelope of a text, read back. -/
theorem cdrParse_envelope {evp : Evp} {body : Json} {field : CdrField} {text bytes : Str}
    (hbody : body.find field.name =
      some (.object [(kContentType, .string kCdrContentType), (kPayloadBase64, .string text)]))
    (h : base64Decode evp text = .ok ⟨bytes, .ok⟩) : cdrParse evp body field = .ok bytes := by
  have hdiffer : (kContentType == kPayloadBase64) = false := by decide
  refine cdrParse_eq_ok.mpr ⟨?_, text, ?_, h⟩
  · rw [envelopeText, hbody]
    simp [Json.find, Json.text?]
  · rw [envelopeText, hbody]
    simp [Json.find, Json.text?, List.find?, hdiffer]

/-! ### The codec is canonical -/

/-- A text is accepted for the bytes that it is the encoding of, and rejected without bytes. -/
structure CanonicalText (evp : Evp) (text : Str) : Prop where
  accepted_iff : ∀ bytes : Str, bytes.length < 2147483648 →
    (base64Decode evp text = .ok ⟨bytes, .ok⟩ ↔ base64Encode evp bytes = .ok text)
  rejected : ∀ result, base64Decode evp text = .ok result → result.status ≠ .ok →
    result.bytes = []

/-- The bytes have an encoding, which is not accepted with less padding and comes back out of an
envelope. -/
structure RoundTrips (evp : Evp) (bytes : Str) : Prop where
  stripped : ∃ text, base64Encode evp bytes = .ok text ∧ ∀ text' k, k ≠ 0 →
    text = text' ++ List.replicate k Base64.pad →
    base64Decode evp text' = .ok ⟨[], .missingPadding⟩
  envelope : ∃ envelope, cdrSerialize evp bytes = .ok envelope ∧ ∀ (body : Json) (field : CdrField),
    body.find field.name = some envelope → cdrParse evp body field = .ok bytes

/-- The length of the text is an `int`; or nothing depends on it: the text is no encoding, or
it has padding and the length becomes an `int` that is not positive. -/
def TextFits (text : Str) : Prop :=
  text.length < 2147483648 ∨ (∀ bytes, Base64.encode bytes ≠ text) ∨
    text.getLast? = some Base64.pad ∧ toInt text.length ≤ 0

theorem getLast?_encode (bytes : Str) :
    (Base64.encode bytes).getLast? = some Base64.pad ↔ Base64.padding bytes.length ≠ 0 := by
  rw [Base64.encode]
  cases hp : Base64.padding bytes.length with
  | zero =>
    rw [List.replicate_zero, List.append_nil]
    constructor
    · intro h
      obtain ⟨v, hv, hpad⟩ := List.mem_map.mp (List.mem_of_getLast? h)
      exact absurd hpad (Base64.letter_ne_pad (Base64.lt_of_mem_sextets bytes v hv))
    · intro h
      exact absurd rfl h
  | succ p =>
    rw [List.replicate_succ', ← List.append_assoc]
    simp

section Canonical

variable {evp : Evp} (hevp : evp.ImplementsRfc)
include hevp

theorem encode_eq_ok {bytes text : Str} (hbytes : bytes.length < 2147483648) :
    base64Encode evp bytes = .ok text ↔ Base64.encode bytes = text ∧ text.length < 2147483648 := by
  by_cases h : (Base64.encode bytes).length < 2147483648
  · rw [encode_short hevp h, Except.ok.injEq]
    constructor
    · intro he
      exact ⟨he, he ▸ h⟩
    · intro he
      exact he.1
  · rw [encode_long hevp hbytes (Nat.not_lt.mp h)]
    constructor
    · intro he
      cases he
    · intro he
      exact absurd (he.1 ▸ he.2) h

theorem rejected_of_decode (text : Str) : ∀ result, base64Decode evp text = .ok result →
    result.status ≠ .ok → result.bytes = [] := by
  intro result hr hs
  by_cases henc : ∃ bytes, Base64.encode bytes = text
  · obtain ⟨bytes, rfl⟩ := henc
    by_cases hlen : (Base64.encode bytes).length < 2147483648
    · rw [decode_short hevp hlen] at hr
      obtain rfl := Except.ok.inj hr
      exact absurd rfl hs
    · rcases decode_long hevp (Nat.not_lt.mp hlen) with ⟨_, _, he⟩ | ⟨_, bytes', he, _⟩
      · rw [he] at hr
        cases hr
      · rw [he] at hr
        obtain rfl := Except.ok.inj hr
        exact absurd rfl hs
  · obtain ⟨status, _, he⟩ := decode_of_not_encoding evp (fun bytes h => henc ⟨bytes, h⟩)
    rw [he] at hr
    obtain rfl := Except.ok.inj hr
    rfl

/-- **Which texts are accepted canonically.** -/
theorem canonicalText_iff (text : Str) : CanonicalText evp text ↔ TextFits text := by
  by_cases henc : ∃ bytes, Base64.encode bytes = text
  · obtain ⟨bytes, rfl⟩ := henc
    by_cases hlen : (Base64.encode bytes).length < 2147483648
    · -- a short encoding
      refine ⟨fun _ => .inl hlen, fun _ => ⟨?_, rejected_of_decode hevp _⟩⟩
      intro bytes' hbytes'
      rw [decode_short hevp hlen, encode_eq_ok hevp hbytes', Except.ok.injEq,
        Base64Result.mk.injEq]
      constructor
      · intro h
        exact ⟨by rw [h.1], hlen⟩
      · intro h
        have hback := decode_short hevp (h.1.symm ▸ hlen)
        rw [h.1, decode_short hevp hlen, Except.ok.injEq, Base64Result.mk.injEq] at hback
        exact hback
    · have hlong := Nat.not_lt.mp hlen
      rw [TextFits, getLast?_encode]
      constructor
      · intro h
        rcases decode_long hevp hlong with ⟨hpad, hneg, _⟩ | ⟨_, bytes', he, hshort⟩
        · exact .inr (.inr ⟨hpad, hneg⟩)
        · -- the bytes that it decodes to have a shorter encoding
          have hbytes' : bytes'.length < 2147483648 := by
            have := Base64.length_encode bytes'
            omega
          have hback := (h.accepted_iff bytes' hbytes').mp he
          rw [encode_eq_ok hevp hbytes'] at hback
          exact absurd hback.2 hlen
      · intro h
        refine ⟨?_, rejected_of_decode hevp _⟩
        intro bytes' hbytes'
        rcases decode_long hevp hlong with ⟨_, _, he⟩ | ⟨hnot, _, _, _⟩
        · rw [he, encode_eq_ok hevp hbytes']
          simp [hlen]
        · rcases h with h | h | h
          · exact absurd h hlen
          · exact absurd rfl (h bytes)
          · exact absurd h hnot
  · have hnot : ∀ bytes, Base64.encode bytes ≠ text := fun bytes h => henc ⟨bytes, h⟩
    refine ⟨fun _ => .inr (.inl hnot), fun _ => ⟨?_, rejected_of_decode hevp _⟩⟩
    intro bytes hbytes
    obtain ⟨status, hstatus, he⟩ := decode_of_not_encoding evp hnot
    rw [he, encode_eq_ok hevp hbytes, Except.ok.injEq, Base64Result.mk.injEq]
    constructor
    · intro h
      exact absurd h.2 hstatus
    · intro h
      exact absurd h.1 (hnot bytes)

/-- **Which bytes come back.** -/
theorem roundTrips_iff {bytes : Str} (hbytes : bytes.length < 2147483648) :
    RoundTrips evp bytes ↔ bytes.length ≤ 1610612733 := by
  have hlength := Base64.length_encode bytes
  constructor
  · intro h
    obtain ⟨text, htext, _⟩ := h.stripped
    obtain ⟨rfl, hlen⟩ := (encode_eq_ok hevp hbytes).mp htext
    omega
  · intro h
    have hlen : (Base64.encode bytes).length < 2147483648 := by omega
    have hencode := encode_short hevp hlen
    refine ⟨⟨_, hencode, ?_⟩, _, by rw [cdrSerialize, hencode], ?_⟩
    · intro text' k hk htext
      exact decode_stripped evp bytes hk htext
    · intro body field hbody
      exact cdrParse_envelope hbody (decode_short hevp hlen)

/-- **The codec is canonical exactly as far as lengths are `int`s**: for texts, and for bytes. -/
theorem base64_canonical_iff :
    (∀ text, CanonicalText evp text ↔ TextFits text) ∧
      ∀ bytes : Str, bytes.length < 2147483648 →
        (RoundTrips evp bytes ↔ bytes.length ≤ 1610612733) := by
  refine ⟨canonicalText_iff hevp, ?_⟩
  intro bytes hbytes
  exact roundTrips_iff hevp hbytes

end Canonical

theorem base64_canonical_iff_letter :
    CanonicalText rfcEvp (lit "TQ==") ∧ RoundTrips rfcEvp (lit "M") := by
  obtain ⟨htexts, hbytes⟩ := base64_canonical_iff rfcEvp_implementsRfc
  refine ⟨(htexts _).mpr (.inl ?_), (hbytes _ ?_).mpr ?_⟩
  · have hlen : (lit "TQ==").length = 4 := by decide
    omega
  · have hlen : (lit "M").length = 1 := by decide
    omega
  · have hlen : (lit "M").length = 1 := by decide
    omega

/-- 1610612734 bytes are `2 ^ 31` characters, and `encode` throws. -/
theorem not_base64_canonical :
    ¬ ∀ bytes text : Str, bytes.length < 2147483648 →
      CanonicalText rfcEvp text ∧ RoundTrips rfcEvp bytes := by
  intro h
  have hlen : (List.replicate 1610612734 (0 : UInt8)).length = 1610612734 := List.length_replicate
  have hround := (h (List.replicate 1610612734 0) [] (by omega)).2
  rw [roundTrips_iff rfcEvp_implementsRfc (by omega)] at hround
  omega

end LivekitBridge
