import LivekitBridge.Protocol.Requests

/-!
# Whitespace in requests

The protocol says that parsers trim string fields before they validate them.  `Pads` adds
whitespace to strings of a JSON value, wherever they are, and `readsAlike_iff` says for which
requests that makes no difference.

Every field that goes through `trimmedString` or `trim` is read alike (`trimmedString_pads` and what
follows from it).  The two strings of the payload envelope are compared and decoded as they are:
an envelope that is accepted is not accepted once either of them has been padded
(`not_envelopeRead_of_changed`).
-/

namespace LivekitBridge

open Lib

/-! ### Padding -/

/-- `text'` is `text` with whitespace around it. -/
def PadsText (text text' : Str) : Prop :=
  ∃ before after : Str, (∀ c ∈ before, isSpace c = true) ∧ (∀ c ∈ after, isSpace c = true) ∧
    text' = before ++ text ++ after

/-- Strings of a value have been padded. -/
inductive Pads : Json → Json → Prop
  | refl (value : Json) : Pads value value
  | string {text text' : Str} : PadsText text text' → Pads (.string text) (.string text')
  | array {items items' : List Json} : List.Forall₂ Pads items items' →
      Pads (.array items) (.array items')
  | object {fields fields' : List (Str × Json)} : fields.map Prod.fst = fields'.map Prod.fst →
      List.Forall₂ Pads (fields.map Prod.snd) (fields'.map Prod.snd) →
      Pads (.object fields) (.object fields')

theorem PadsText.refl (text : Str) : PadsText text text :=
  ⟨[], [], by simp, by simp, by simp⟩

/-- **Padding is trimmed.** -/
theorem PadsText.trim {text text' : Str} (h : PadsText text text') : trim text' = trim text := by
  obtain ⟨before, after, hb, ha, rfl⟩ := h
  rw [trim_append_spaces ha, trim_spaces_append hb]

/-- Text without whitespace is not a padding of anything else. -/
theorem PadsText.eq_of_no_space {text text' : Str} (h : PadsText text text')
    (hns : ∀ c ∈ text', isSpace c = false) : text = text' := by
  obtain ⟨before, after, hb, ha, rfl⟩ := h
  have hbefore : before = [] := by
    rw [List.eq_nil_iff_forall_not_mem]
    intro c hc
    have h₁ := hb c hc
    rw [hns c (by simp [hc])] at h₁
    cases h₁
  have hafter : after = [] := by
    rw [List.eq_nil_iff_forall_not_mem]
    intro c hc
    have h₁ := ha c hc
    rw [hns c (by simp [hc])] at h₁
    cases h₁
  rw [hbefore, hafter, List.nil_append, List.append_nil]

/-- Both are absent, or one is the other padded. -/
def PadsOption (found found' : Option Json) : Prop :=
  found = none ∧ found' = none ∨
    ∃ value value', found = some value ∧ found' = some value' ∧ Pads value value'

theorem pads_find_fields (field : Str) : ∀ (fields fields' : List (Str × Json)),
    fields.map Prod.fst = fields'.map Prod.fst →
    List.Forall₂ Pads (fields.map Prod.snd) (fields'.map Prod.snd) →
    PadsOption ((fields.find? fun entry => entry.1 == field).map Prod.snd)
      ((fields'.find? fun entry => entry.1 == field).map Prod.snd) := by
  intro fields
  induction fields with
  | nil =>
    intro fields' hkeys _
    obtain rfl := List.map_eq_nil_iff.mp hkeys.symm
    exact .inl ⟨rfl, rfl⟩
  | cons entry fields ih =>
    intro fields' hkeys hvalues
    cases fields' with
    | nil => cases hkeys
    | cons entry' fields' =>
      rw [List.map_cons, List.map_cons, List.cons.injEq] at hkeys
      rw [List.map_cons, List.map_cons, List.forall₂_cons] at hvalues
      rw [List.find?_cons, List.find?_cons, ← hkeys.1]
      cases entry.1 == field with
      | true => exact .inr ⟨_, _, rfl, rfl, hvalues.1⟩
      | false => exact ih fields' hkeys.2 hvalues.2

/-- **A field is absent from both, or padded.** -/
theorem Pads.find {body body' : Json} (h : Pads body body') (field : Str) :
    PadsOption (body.find field) (body'.find field) := by
  cases h with
  | refl =>
    cases body.find field with
    | none => exact .inl ⟨rfl, rfl⟩
    | some found => exact .inr ⟨found, found, rfl, rfl, .refl found⟩
  | string _ => exact .inl ⟨rfl, rfl⟩
  | array _ => exact .inl ⟨rfl, rfl⟩
  | object hkeys hvalues => exact pads_find_fields field _ _ hkeys hvalues

/-- Padding changes strings only. -/
theorem Pads.isObject {value value' : Json} (h : Pads value value') :
    value'.isObject = value.isObject := by
  cases h <;> rfl

theorem Pads.isNull {value value' : Json} (h : Pads value value') : value'.isNull = value.isNull := by
  cases h <;> rfl

theorem Pads.int64? {value value' : Json} (h : Pads value value') : value'.int64? = value.int64? := by
  cases h <;> rfl

/-- Neither is a string, or one is the other padded. -/
def PadsString (found found' : Option Str) : Prop :=
  found = none ∧ found' = none ∨
    ∃ text text', found = some text ∧ found' = some text' ∧ PadsText text text'

theorem Pads.text? {value value' : Json} (h : Pads value value') :
    PadsString value.text? value'.text? := by
  cases h with
  | refl =>
    cases value with
    | string text => exact .inr ⟨text, text, rfl, rfl, .refl text⟩
    | _ => exact .inl ⟨rfl, rfl⟩
  | string htext => exact .inr ⟨_, _, rfl, rfl, htext⟩
  | array _ => exact .inl ⟨rfl, rfl⟩
  | object _ _ => exact .inl ⟨rfl, rfl⟩

theorem PadsOption.text? {found found' : Option Json} (h : PadsOption found found') :
    PadsString (found.bind Json.text?) (found'.bind Json.text?) := by
  rcases h with ⟨rfl, rfl⟩ | ⟨value, value', rfl, rfl, hvalue⟩
  · exact .inl ⟨rfl, rfl⟩
  · exact hvalue.text?

theorem PadsString.eq_of_no_space {found found' : Option Str} {text' : Str}
    (h : PadsString found found') (hf : found' = some text')
    (hns : ∀ c ∈ text', isSpace c = false) : found' = found := by
  rcases h with ⟨_, hnone⟩ | ⟨text, text'', hfound, hfound', htext⟩
  · rw [hnone] at hf
    cases hf
  · obtain rfl := Option.some.inj (hf.symm.trans hfound')
    rw [hfound, hfound', htext.eq_of_no_space hns]

/-! ### Fields that are trimmed -/

theorem trimmedString_pads {value value' : Json} (h : Pads value value') (invalid : Str)
    (nullIsAbsent : Bool) :
    trimmedString value' invalid nullIsAbsent = trimmedString value invalid nullIsAbsent := by
  cases h with
  | refl => rfl
  | string htext => simp [trimmedString, Json.isNull, Json.text?, htext.trim]
  | array _ => rfl
  | object _ _ => rfl

section Fields

variable {body body' : Json} (h : Pads body body')
include h

theorem requiredString_pads (field invalid : Str) (emptyMessage : Option Str) :
    requiredString body' field invalid emptyMessage =
      requiredString body field invalid emptyMessage := by
  rw [requiredString, requiredString]
  rcases h.find field with ⟨hf, hf'⟩ | ⟨value, value', hf, hf', hvalue⟩
  · rw [hf, hf']
  · rw [hf, hf']
    dsimp only
    rw [trimmedString_pads hvalue]

theorem optionalString_pads (field invalid : Str) (nullIsAbsent : Bool) :
    optionalString body' field invalid nullIsAbsent =
      optionalString body field invalid nullIsAbsent := by
  rw [optionalString, optionalString]
  rcases h.find field with ⟨hf, hf'⟩ | ⟨value, value', hf, hf', hvalue⟩
  · rw [hf, hf']
  · rw [hf, hf']
    exact trimmedString_pads hvalue invalid nullIsAbsent

theorem parseService_pads (expand : Expand) : parseService expand body' = parseService expand body := by
  rw [parseService, parseService, requiredString_pads h]

theorem parseInterfaceType_pads : parseInterfaceType body' = parseInterfaceType body := by
  rw [parseInterfaceType, parseInterfaceType, optionalString_pads h]

theorem parseTimeout_pads : parseTimeout body' = parseTimeout body := by
  rw [parseTimeout, parseTimeout]
  rcases h.find (lit "timeout_ms") with ⟨hf, hf'⟩ | ⟨value, value', hf, hf', hvalue⟩
  · rw [hf, hf']
  · rw [hf, hf']
    dsimp only
    rw [hvalue.int64?]

theorem parseEchoOnce_pads (expand : Expand) :
    parseEchoOnce expand body' = parseEchoOnce expand body := by
  rw [parseEchoOnce, parseEchoOnce]
  rcases (h.find (lit "kind")).text? with ⟨hk, hk'⟩ | ⟨kind, kind', hk, hk', hkind⟩
  · rw [hk, hk']
  · rw [hk, hk']
    dsimp only
    rw [hkind.trim]
    rcases (h.find (lit "name")).text? with ⟨hn, hn'⟩ | ⟨name, name', hn, hn', hname⟩
    · rw [hn, hn']
    · rw [hn, hn']
      simp only [echoTopic, expandTrimmed, hname.trim]

theorem parseResources_pads : parseResources body' = parseResources body := by
  have hlimit : parseLimit body' = parseLimit body := by
    rw [parseLimit, parseLimit]
    rcases h.find (lit "limit") with ⟨hf, hf'⟩ | ⟨value, value', hf, hf', hvalue⟩
    · rw [hf, hf']
    · rw [hf, hf']
      dsimp only
      rw [hvalue.isNull, hvalue.int64?]
  rw [parseResources, parseResources, optionalString_pads h, hlimit]

end Fields

theorem parseInterfaceTypes_pads : ∀ (items items' : List Json), List.Forall₂ Pads items items' →
    parseInterfaceTypes items' = parseInterfaceTypes items := by
  intro items
  induction items with
  | nil =>
    intro items' h
    cases h
    rfl
  | cons item items ih =>
    intro items' h
    cases h with
    | cons hitem hitems =>
      rw [parseInterfaceTypes, parseInterfaceTypes, ih _ hitems]
      rcases hitem.text? with ⟨ht, ht'⟩ | ⟨text, text', ht, ht', htext⟩
      · rw [ht, ht']
      · rw [ht, ht']
        dsimp only
        rw [htext.trim]

theorem parseInterfaces_pads {body body' : Json} (h : Pads body body') :
    parseInterfaces body' = parseInterfaces body := by
  rw [parseInterfaces, parseInterfaces]
  rcases h.find (lit "interface_types") with ⟨hf, hf'⟩ | ⟨value, value', hf, hf', hvalue⟩
  · rw [hf, hf']
  · rw [hf, hf']
    cases hvalue with
    | refl => rfl
    | string _ => rfl
    | array hitems => simp only [Option.bind_some, Json.items?, parseInterfaceTypes_pads _ _ hitems]
    | object _ _ => rfl

/-! ### The envelope -/

/-- The content type or the text of the envelope is not what it was. -/
def EnvelopeChanged (body body' : Json) (field : CdrField) : Prop :=
  envelopeText body' field kContentType ≠ envelopeText body field kContentType ∨
    envelopeText body' field kPayloadBase64 ≠ envelopeText body field kPayloadBase64

theorem Pads.envelopeText {body body' : Json} (h : Pads body body') (field : CdrField) (name : Str) :
    PadsString (envelopeText body field name) (LivekitBridge.envelopeText body' field name) := by
  rw [LivekitBridge.envelopeText, LivekitBridge.envelopeText]
  rcases h.find field.name with ⟨hf, hf'⟩ | ⟨value, value', hf, hf', hvalue⟩
  · rw [hf, hf']
    exact .inl ⟨rfl, rfl⟩
  · rw [hf, hf']
    exact (hvalue.find name).text?

/-- A text with whitespace in it is rejected. -/
theorem decode_of_space (evp : Evp) {text : Str} {c : UInt8} (hc : c ∈ text)
    (hspace : isSpace c = true) :
    ∃ status, status ≠ .ok ∧ base64Decode evp text = .ok ⟨[], status⟩ := by
  refine decode_of_not_encoding evp ?_
  intro bytes he
  have hletters : ∀ v < 64, isSpace (Base64.letter v) = false := by decide +kernel
  rw [← he, Base64.encode, List.mem_append] at hc
  rcases hc with hc | hc
  · obtain ⟨v, hv, rfl⟩ := List.mem_map.mp hc
    rw [hletters v (Base64.lt_of_mem_sextets bytes v hv)] at hspace
    cases hspace
  · rw [List.eq_of_mem_replicate hc] at hspace
    exact absurd hspace (by decide)

/-- **A padded envelope is not read.** -/
theorem not_envelopeRead_of_changed {evp : Evp} {body body' : Json} {field : CdrField}
    (h : Pads body body') (hchanged : EnvelopeChanged body body' field) :
    ¬ EnvelopeRead evp body' field := by
  intro hread
  obtain ⟨htype, text', htext', hdecode⟩ := hread
  rcases hchanged with hc | hc
  · have hany : kCdrContentType.any isSpace = false := by decide
    have hns : ∀ c ∈ kCdrContentType, isSpace c = false := by
      intro c hcmem
      exact Bool.eq_false_iff.mpr (List.any_eq_false.mp hany c hcmem)
    exact hc ((h.envelopeText field kContentType).eq_of_no_space htype hns)
  · have hns : ∀ c ∈ text', isSpace c = false := by
      intro c hcmem
      by_contra hspace
      rw [Bool.not_eq_false] at hspace
      obtain ⟨status, hstatus, he⟩ := decode_of_space evp hcmem hspace
      exact hstatus (hdecode _ he).1
    exact hc ((h.envelopeText field kPayloadBase64).eq_of_no_space htext' hns)

/-- The same texts are read alike. -/
theorem envelopeRead_of_unchanged {evp : Evp} {body body' : Json} {field : CdrField}
    (hsame : ¬ EnvelopeChanged body body' field) :
    EnvelopeRead evp body' field ↔ EnvelopeRead evp body field := by
  rw [EnvelopeChanged, not_or, not_not, not_not] at hsame
  rw [EnvelopeRead, EnvelopeRead, hsame.1, hsame.2]

theorem cdrParse_of_unchanged {evp : Evp} {body body' : Json} {field : CdrField}
    (hsame : ¬ EnvelopeChanged body body' field) (hread : EnvelopeRead evp body field) :
    cdrParse evp body' field = cdrParse evp body field := by
  have hread' := (envelopeRead_of_unchanged hsame).mpr hread
  rw [EnvelopeChanged, not_or, not_not, not_not] at hsame
  rcases cdrParse_texts evp body field with ⟨text, _, htext, hparse⟩ | ⟨hmissing, _⟩
  · rcases cdrParse_texts evp body' field with ⟨text', _, htext', hparse'⟩ | ⟨hmissing, _⟩
    · obtain rfl : text = text' := Option.some.inj (by rw [← htext, ← htext', hsame.2])
      rw [hparse, hparse']
    · exact absurd hread' (not_envelopeRead hmissing)
  · exact absurd hread (not_envelopeRead hmissing)

/-! ### Results -/

/-- The field that a rejection names. -/
def StdException.field? : StdException → Option Str
  | .validation error => some error.field
  | _ => none

/-- The same request, or two rejections that name the same field. -/
def SameResult {α : Type} : Except StdException α → Except StdException α → Prop
  | .ok a, .ok a' => a = a'
  | .error e, .error e' => e.field? = e'.field?
  | _, _ => False

theorem SameResult.refl {α : Type} (r : Except StdException α) : SameResult r r := by
  cases r <;> rfl

theorem SameResult.of_eq {α : Type} {r r' : Except StdException α} (h : r' = r) :
    SameResult r r' := h ▸ SameResult.refl r

/-- What comes before is the same on both sides. -/
theorem SameResult.bind {α β : Type} {x : Except StdException α}
    {f f' : α → Except StdException β} :
    SameResult (x >>= f) (x >>= f') ↔ ∀ a, x = .ok a → SameResult (f a) (f' a) := by
  cases x with
  | ok a =>
    constructor
    · intro h b hb
      obtain rfl := Except.ok.inj hb
      exact h
    · intro h
      exact h a rfl
  | error e =>
    constructor
    · intro _ a ha
      cases ha
    · intro _
      exact SameResult.refl (.error e)

/-- What the two parsers with an envelope make of `cdr::parse`. -/
structure ReadsEnvelope (evp : Evp) (field : CdrField) (parse : Json → Except StdException Str) :
    Prop where
  read : ∀ body, EnvelopeRead evp body field →
    (∃ bytes, parse body = .ok bytes) ∨ ∃ what, parse body = .error (.lengthError what)
  not_read : ∀ body, ¬ EnvelopeRead evp body field →
    ∃ what, parse body = .error (.validation ⟨field.name, what⟩)
  congr : ∀ body body', cdrParse evp body' field = cdrParse evp body field →
    parse body' = parse body

theorem readsEnvelope_service (evp : Evp) : ReadsEnvelope evp .request (parseServicePayload evp) where
  read body h := by
    rcases cdrParse_cases evp body .request with ⟨_, hc⟩ | ⟨hnot, _⟩
    · rcases hc with ⟨bytes, hbytes, hc⟩ | ⟨what, hc⟩
      · have hlen : bytes.length ≠ 0 := by rwa [ne_eq, List.length_eq_zero_iff]
        refine .inl ⟨bytes, ?_⟩
        rw [parseServicePayload, hc]
        show asField _ (if bytes.length = 0 then _ else _) = _
        rw [if_neg hlen]
        rfl
      · exact .inr ⟨what, by rw [parseServicePayload, hc]; rfl⟩
    · exact absurd h hnot
  not_read body h := by
    rcases cdrParse_cases evp body .request with ⟨hread, _⟩ | ⟨_, hc | ⟨what, hc⟩⟩
    · exact absurd hread h
    · exact ⟨_, by rw [parseServicePayload, hc]; rfl⟩
    · exact ⟨what, by rw [parseServicePayload, hc]; rfl⟩
  congr body body' h := by rw [parseServicePayload, parseServicePayload, h]

theorem readsEnvelope_publish (evp : Evp) : ReadsEnvelope evp .message (parsePublishMessage evp) where
  read body h := by
    rcases cdrParse_cases evp body .message with ⟨_, hc⟩ | ⟨hnot, _⟩
    · rcases hc with ⟨bytes, hbytes, hc⟩ | ⟨what, hc⟩
      · have hlen : bytes.length ≠ 0 := by rwa [ne_eq, List.length_eq_zero_iff]
        refine .inl ⟨bytes, ?_⟩
        rw [parsePublishMessage, hc]
        show (if bytes.length = 0 then _ else _) = _
        rw [if_neg hlen]
      · exact .inr ⟨what, by rw [parsePublishMessage, hc]; rfl⟩
    · exact absurd h hnot
  not_read body h := by
    rcases cdrParse_cases evp body .message with ⟨hread, _⟩ | ⟨_, hc | ⟨what, hc⟩⟩
    · exact absurd hread h
    · exact ⟨_, by rw [parsePublishMessage, hc]; rfl⟩
    · exact ⟨what, by rw [parsePublishMessage, hc]; rfl⟩
  congr body body' h := by rw [parsePublishMessage, parsePublishMessage, h]

/-- **Where a padded envelope shows.**  What is read after it does not name its field. -/
theorem sameResult_payload_iff {evp : Evp} {field : CdrField} {body body' : Json} {β : Type}
    {parse : Json → Except StdException Str} {k : Str → Except StdException β}
    (hparse : ReadsEnvelope evp field parse) (h : Pads body body')
    (hk : ∀ p e, k p = .error e → e.field? ≠ some field.name) :
    SameResult (parse body >>= k) (parse body' >>= k) ↔
      ¬ (EnvelopeRead evp body field ∧ EnvelopeChanged body body' field) := by
  by_cases hc : EnvelopeChanged body body' field
  · obtain ⟨what', hx'⟩ := hparse.not_read body' (not_envelopeRead_of_changed h hc)
    rw [hx']
    by_cases hr : EnvelopeRead evp body field
    · simp only [hr, hc, and_self, not_true_eq_false, iff_false]
      intro hs
      rcases hparse.read body hr with ⟨p, hx⟩ | ⟨what, hx⟩
      · rw [hx] at hs
        have hkp : SameResult (k p) (.error (.validation ⟨field.name, what'⟩)) := hs
        cases hres : k p with
        | ok b =>
          rw [hres] at hkp
          exact hkp
        | error e =>
          rw [hres] at hkp
          exact hk p e hres hkp
      · rw [hx] at hs
        cases hs
    · obtain ⟨what, hx⟩ := hparse.not_read body hr
      rw [hx]
      simp only [hr, false_and, not_false_eq_true, iff_true]
      rfl
  · simp only [hc, and_false, not_false_eq_true, iff_true]
    by_cases hr : EnvelopeRead evp body field
    · rw [hparse.congr body body' (cdrParse_of_unchanged hc hr)]
      exact SameResult.refl _
    · have hr' := mt (envelopeRead_of_unchanged hc).mp hr
      obtain ⟨what, hx⟩ := hparse.not_read body hr
      obtain ⟨what', hx'⟩ := hparse.not_read body' hr'
      rw [hx, hx']
      rfl

/-! ### Which requests are read alike -/

/-- The five parsers. -/
inductive RequestKind
  | serviceCall
  | publish
  | echoOnce
  | interfaces
  | resources
deriving DecidableEq, Repr

section Payloads

variable (parseText : Str → Option Json) (expand : Expand) (evp : Evp)

/-- The parser gives the same result on both payloads. -/
def ReadsAlike (payload payload' : Str) : RequestKind → Prop
  | .serviceCall =>
    SameResult (parseServiceCallPayload parseText expand evp payload)
      (parseServiceCallPayload parseText expand evp payload')
  | .publish =>
    SameResult (parsePublishPayload parseText evp payload) (parsePublishPayload parseText evp payload')
  | .echoOnce =>
    SameResult (parseEchoOncePayload parseText expand payload)
      (parseEchoOncePayload parseText expand payload')
  | .interfaces =>
    SameResult (parseInterfacesPayload parseText payload) (parseInterfacesPayload parseText payload')
  | .resources =>
    SameResult (parseResourcesPayload parseText payload) (parseResourcesPayload parseText payload')

/-- The parser comes to an envelope that it reads, and a string of it has been padded. -/
def EnvelopePadded (body body' : Json) : RequestKind → Prop
  | .serviceCall =>
    NamesService expand body ∧ TypeReadable body ∧ EnvelopeRead evp body .request ∧
      EnvelopeChanged body body' .request
  | .publish =>
    HasText body (lit "topic") ∧ HasText body (lit "interface_type") ∧
      EnvelopeRead evp body .message ∧ EnvelopeChanged body body' .message
  | .echoOnce => False
  | .interfaces => False
  | .resources => False

end Payloads

section Alike

variable {parseText : Str → Option Json} {expand : Expand} {evp : Evp} {payload payload' : Str}
  {body body' : Json}

/-- A body that is no object is rejected, padded or not. -/
theorem sameResult_parseBody (hbody : parseText payload = some body)
    (hbody' : parseText payload' = some body') (h : Pads body body') {α : Type}
    {f : Json → Except StdException α} {invalidJson invalidObject : Str} :
    SameResult (parseBody parseText payload invalidJson invalidObject >>= f)
      (parseBody parseText payload' invalidJson invalidObject >>= f) ↔
      (body.isObject = true → SameResult (f body) (f body')) := by
  simp only [parseBody, parseObject, hbody, hbody', h.isObject]
  cases body.isObject with
  | true =>
    constructor
    · intro hs _
      exact hs
    · intro hs
      exact hs rfl
  | false =>
    constructor
    · intro _ hfalse
      cases hfalse
    · intro _
      rfl

theorem find_of_not_object (h : body.isObject = false) (field : Str) : body.find field = none := by
  cases body with
  | object fields => cases h
  | _ => rfl

theorem parseServiceCall_alike (h : Pads body body') :
    SameResult (parseServiceCall expand evp body) (parseServiceCall expand evp body') ↔
      ¬ EnvelopePadded expand evp body body' .serviceCall := by
  have htimeout : ∀ name interfaceType payload e,
      (do let timeout ← parseTimeout body
          .ok (⟨name, interfaceType, payload, timeout⟩ : ServiceCallRequest) :
        Except StdException ServiceCallRequest) = .error e →
      e.field? ≠ some CdrField.request.name := by
    intro name interfaceType payload e he
    cases ht : parseTimeout body with
    | ok timeout =>
      rw [ht] at he
      cases he
    | error e' =>
      rw [ht] at he
      obtain rfl : e' = e := Except.error.inj he
      rw [parseTimeout] at ht
      split at ht
      · cases ht
      · split at ht
        · obtain rfl := Except.error.inj ht
          decide
        · cases ht
  rw [parseServiceCall, parseServiceCall, parseService_pads h, parseInterfaceType_pads h,
    parseTimeout_pads h, SameResult.bind, EnvelopePadded, ← exists_parseService,
    ← exists_parseInterfaceType]
  simp only [SameResult.bind,
    sameResult_payload_iff (readsEnvelope_service evp) h (htimeout _ _)]
  constructor
  · intro hall hpadded
    obtain ⟨⟨n, hn⟩, ⟨t, ht⟩, henvelope⟩ := hpadded
    exact hall n hn t ht henvelope
  · intro hnot n hn t ht henvelope
    exact hnot ⟨⟨n, hn⟩, ⟨t, ht⟩, henvelope⟩

theorem parsePublish_alike (expand : Expand) (h : Pads body body') :
    SameResult (parsePublish evp body) (parsePublish evp body') ↔
      ¬ EnvelopePadded expand evp body body' .publish := by
  have hlast : ∀ (rosTopic interfaceType message : Str) (e : StdException),
      (Except.ok ⟨rosTopic, interfaceType, message⟩ : Except StdException PublishRequest) = .error e →
      e.field? ≠ some CdrField.message.name := by
    intro _ _ _ _ he
    cases he
  rw [parsePublish, parsePublish, requiredString_pads h, requiredString_pads h, SameResult.bind,
    EnvelopePadded]
  simp only [SameResult.bind, sameResult_payload_iff (readsEnvelope_publish evp) h (hlast _ _)]
  constructor
  · intro hall hpadded
    obtain ⟨htopic, htype, henvelope⟩ := hpadded
    obtain ⟨n, hn⟩ := exists_required.mpr htopic
    obtain ⟨t, ht⟩ := exists_required.mpr htype
    exact hall n hn t ht henvelope
  · intro hnot n hn t ht henvelope
    exact hnot ⟨exists_required.mp ⟨n, hn⟩, exists_required.mp ⟨t, ht⟩, henvelope⟩

theorem readsAlike_of_eq (hbody : parseText payload = some body)
    (hbody' : parseText payload' = some body') (h : Pads body body') {α : Type}
    {f : Json → Except StdException α} (hf : f body' = f body) {invalidJson invalidObject : Str} :
    SameResult (parseBody parseText payload invalidJson invalidObject >>= f)
      (parseBody parseText payload' invalidJson invalidObject >>= f) :=
  (sameResult_parseBody hbody hbody' h).mpr fun _ => .of_eq hf

/-- **Which requests are read alike when strings are padded**: all but those whose envelope is
read and has a padded string. -/
theorem readsAlike_iff (hbody : parseText payload = some body)
    (hbody' : parseText payload' = some body') (h : Pads body body') (kind : RequestKind) :
    ReadsAlike parseText expand evp payload payload' kind ↔
      ¬ EnvelopePadded expand evp body body' kind := by
  have hnothing : body.isObject = false → ¬ EnvelopePadded expand evp body body' kind := by
    intro hobject hpadded
    cases kind with
    | serviceCall =>
      obtain ⟨⟨raw, _, hraw, _⟩, _⟩ := hpadded
      rw [find_of_not_object hobject] at hraw
      cases hraw
    | publish =>
      obtain ⟨⟨raw, hraw, _⟩, _⟩ := hpadded
      rw [find_of_not_object hobject] at hraw
      cases hraw
    | echoOnce => exact hpadded
    | interfaces => exact hpadded
    | resources => exact hpadded
  have hobject : ¬ EnvelopePadded expand evp body body' kind ↔
      (body.isObject = true → ¬ EnvelopePadded expand evp body body' kind) := by
    cases hb : body.isObject with
    | true => simp
    | false => simp [hnothing hb]
  rw [hobject]
  cases kind with
  | serviceCall =>
    rw [ReadsAlike, parseServiceCallPayload, parseServiceCallPayload,
      sameResult_parseBody hbody hbody' h, parseServiceCall_alike h]
  | publish =>
    rw [ReadsAlike, parsePublishPayload, parsePublishPayload,
      sameResult_parseBody hbody hbody' h, parsePublish_alike expand h]
  | echoOnce =>
    refine iff_of_true ?_ (fun _ hpadded => hpadded)
    exact readsAlike_of_eq hbody hbody' h (parseEchoOnce_pads h expand)
  | interfaces =>
    refine iff_of_true ?_ (fun _ hpadded => hpadded)
    exact readsAlike_of_eq hbody hbody' h (parseInterfaces_pads h)
  | resources =>
    refine iff_of_true ?_ (fun _ hpadded => hpadded)
    exact readsAlike_of_eq hbody hbody' h (parseResources_pads h)

end Alike

def callText (service contentType : Str) : Str :=
  lit "\x7b\"request\":\x7b\"content_type\":\"" ++ contentType ++
    lit "\",\"payload_base64\":\"AAECAw==\"\x7d,\"service\":\"" ++ service ++ lit "\"\x7d"

/-- What that text says. -/
def callBody (service contentType : Str) : Json :=
  .object [(lit "request", .object [(kContentType, .string contentType),
    (kPayloadBase64, .string (lit "AAECAw=="))]), (lit "service", .string service)]

/-- A parser that knows two such texts. -/
def callParser (service contentType service' contentType' text : Str) : Option Json :=
  if text = callText service contentType then some (callBody service contentType)
  else if text = callText service' contentType' then some (callBody service' contentType')
  else none

theorem callBody_pads {service service' contentType contentType' : Str}
    (hservice : PadsText service service') (htype : PadsText contentType contentType') :
    Pads (callBody service contentType) (callBody service' contentType') := by
  have henvelope : Pads
      (.object [(kContentType, .string contentType), (kPayloadBase64, .string (lit "AAECAw=="))])
      (.object [(kContentType, .string contentType'), (kPayloadBase64, .string (lit "AAECAw=="))]) :=
    .object rfl (.cons (.string htype) (.cons (.refl _) .nil))
  exact .object rfl (.cons henvelope (.cons (.string hservice) .nil))

theorem callParser_first (service contentType service' contentType' : Str) :
    callParser service contentType service' contentType' (callText service contentType) =
      some (callBody service contentType) := if_pos rfl

theorem callParser_second {service contentType service' contentType' : Str}
    (h : callText service' contentType' ≠ callText service contentType) :
    callParser service contentType service' contentType' (callText service' contentType') =
      some (callBody service' contentType') := by
  rw [callParser, if_neg h, if_pos rfl]

/-- Whitespace around the service name makes no difference. -/
theorem readsAlike_iff_service :
    ReadsAlike (callParser (lit "/ping") kCdrContentType (lit " /ping ") kCdrContentType)
      ros2Expand rfcEvp (callText (lit "/ping") kCdrContentType)
      (callText (lit " /ping ") kCdrContentType) .serviceCall := by
  have hpads := callBody_pads (show PadsText (lit "/ping") (lit " /ping ") from
    ⟨lit " ", lit " ", List.all_eq_true.mp rfl, List.all_eq_true.mp rfl, rfl⟩)
    (.refl kCdrContentType)
  have hbody := callParser_first (lit "/ping") kCdrContentType (lit " /ping ") kCdrContentType
  have hdiffer : callText (lit " /ping ") kCdrContentType ≠
      callText (lit "/ping") kCdrContentType := by decide
  refine (readsAlike_iff hbody (callParser_second hdiffer) hpads .serviceCall).mpr ?_
  intro hpadded
  exact hpadded.2.2.2.elim (fun h => h rfl) (fun h => h rfl)

/-- Whitespace in front of the content type does. -/
theorem not_readsAlike_contentType :
    ¬ ∀ (parseText : Str → Option Json) (expand : Expand) (evp : Evp) (payload payload' : Str)
      (body body' : Json) (kind : RequestKind), parseText payload = some body →
      parseText payload' = some body' → Pads body body' →
      ReadsAlike parseText expand evp payload payload' kind := by
  intro h
  have hpads := callBody_pads (.refl (lit "/ping"))
    (show PadsText kCdrContentType (lit " application/x-ros-cdr") from
      ⟨lit " ", [], List.all_eq_true.mp rfl, List.all_eq_true.mp rfl, rfl⟩)
  have hbody := callParser_first (lit "/ping") kCdrContentType (lit "/ping")
    (lit " application/x-ros-cdr")
  have hdiffer : callText (lit "/ping") (lit " application/x-ros-cdr") ≠
      callText (lit "/ping") kCdrContentType := by decide
  have hbody' := callParser_second hdiffer
  have hplain : parseServiceCall ros2Expand rfcEvp (callBody (lit "/ping") kCdrContentType) =
      .ok ⟨lit "/ping", [], [0, 1, 2, 3], none⟩ := by rfl
  have hpadded : parseServiceCall ros2Expand rfcEvp
      (callBody (lit "/ping") (lit " application/x-ros-cdr")) =
      .error (.validation ⟨lit "request",
        lit "request.content_type must be application/x-ros-cdr."⟩) := by rfl
  have hsame := h _ ros2Expand rfcEvp _ _ _ _ .serviceCall hbody hbody' hpads
  rw [ReadsAlike, parseServiceCallPayload, parseServiceCallPayload,
    sameResult_parseBody hbody hbody' hpads] at hsame
  have hbodies := hsame rfl
  rw [hplain, hpadded] at hbodies
  exact hbodies

end LivekitBridge
