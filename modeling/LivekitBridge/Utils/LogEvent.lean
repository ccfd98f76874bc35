import LivekitBridge.Text

/-!
# Log events

`utils/log_event.hpp` and `utils/event_throttle.hpp`.  A message is one line: `event=` and a name,
then fields, each a key and a value.  `field` and `fieldOr` write the value as it is, `fieldQuoted`
in quotes and escaped.

The model keeps the fields apart, and keeps with each text whether it came from a client, so that
one can say where the texts of clients stand (`Unforgeable`).  A quoted value has no line break
(`noLineBreak_escape`), and whoever reads it from its opening quote comes to its end, whatever the
client has put in (`readQuoted_escape`).
-/

namespace LivekitBridge

/-- `'"'` -/
def quote : UInt8 := 0x22

/-- `'\\'` -/
def backslash : UInt8 := 0x5C

/-- A digit as `std::hex` writes it. -/
def lowerHexDigit (digit : UInt8) : UInt8 := if digit < 10 then 0x30 + digit else 0x57 + digit

/-- One character in the loop of `fieldQuoted`. -/
def escapeByte (character : UInt8) : Str :=
  if character = backslash then [backslash, backslash]
  else if character = quote then [backslash, quote]
  else if character = 0x0A then [backslash, 0x6E]
  else if character = 0x0D then [backslash, 0x72]
  else if character = 0x09 then [backslash, 0x74]
  else if character < 0x10 then [backslash, 0x78, lowerHexDigit character]
  else if character < 0x20 then [backslash, 0x78, 0x31, lowerHexDigit (character - 0x10)]
  else [character]

/-- The loop of `fieldQuoted`. -/
def escape (value : Str) : Str := value.flatMap escapeByte

/-- A text that is logged, and whether a client has supplied it. -/
structure LogText where
  text : Str
  client : Bool
deriving DecidableEq, Repr

/-- A text of the bridge, or of what it runs on. -/
def bridgeText (text : Str) : LogText := ⟨text, false⟩

/-- A text that a client has supplied. -/
def clientText (text : Str) : LogText := ⟨text, true⟩

/-- A value as it is written: plain, or in quotes and escaped. -/
inductive LogValue
  | plain (value : LogText)
  | quoted (value : LogText)
deriving DecidableEq, Repr

structure LogEvent where
  name : Str
  fields : List (Str × LogValue)
deriving DecidableEq, Repr

def kUnknownFieldValue : Str := lit "<unknown>"

/-- An integer in `operator<<`. -/
def decimalText (n : Nat) : Str := (Nat.toDigits 10 n).map Char.toUInt8

namespace LogValue

/-- What is written after the equals sign. -/
def written : LogValue → Str
  | .plain value => value.text
  | .quoted value => quote :: escape value.text ++ [quote]

end LogValue

namespace LogEvent

/-- The constructor. -/
def new (name : Str) : LogEvent := ⟨name, []⟩

/-- `field`, `fieldEnum`, `fieldException` -/
def field (e : LogEvent) (key : Str) (value : LogText) : LogEvent :=
  { e with fields := e.fields ++ [(key, .plain value)] }

def fieldQuoted (e : LogEvent) (key : Str) (value : LogText) : LogEvent :=
  { e with fields := e.fields ++ [(key, .quoted value)] }

def fieldIf (e : LogEvent) (included : Bool) (key : Str) (value : LogText) : LogEvent :=
  if included then e.field key value else e

/-- `fieldOr`, of a text. -/
def fieldOr (e : LogEvent) (key : Str) (value : LogText) (fallback : Str) : LogEvent :=
  e.field key (if value.text = [] then bridgeText fallback else value)

/-- `fieldOr`, of a text that may be absent. -/
def fieldOrOptional (e : LogEvent) (key : Str) (value : Option LogText) (fallback : Str) :
    LogEvent :=
  match value with
  | some value => e.fieldOr key value fallback
  | none => e.field key (bridgeText fallback)

def fieldOrQuoted (e : LogEvent) (key : Str) (value : Option LogText) (fallback : Str) : LogEvent :=
  match value with
  | some value => e.fieldQuoted key value
  | none => e.field key (bridgeText fallback)

/-- One field of the message. -/
def writtenField (field : Str × LogValue) : Str := lit " " ++ field.1 ++ lit "=" ++ field.2.written

def str (e : LogEvent) : Str := lit "event=" ++ e.name ++ e.fields.flatMap writtenField

end LogEvent

structure EventThrottle where
  interval : Nat
  pending : Nat
  nextAllowedAt : Nat
deriving DecidableEq, Repr

/-- `record`, at the time `now`. -/
def EventThrottle.record (t : EventThrottle) (now : Nat) : EventThrottle × Nat :=
  if t.nextAllowedAt = 0 ∨ t.nextAllowedAt ≤ now then
    ({ t with pending := 0, nextAllowedAt := now + t.interval }, t.pending + 1)
  else ({ t with pending := t.pending + 1 }, 0)

/-! ### What is to hold of a message -/

/-- No line feed and no carriage return. -/
def NoLineBreak (text : Str) : Prop := ∀ b ∈ text, b ≠ 0x0A ∧ b ≠ 0x0D

instance (text : Str) : Decidable (NoLineBreak text) :=
  List.decidableBAll (fun b => b ≠ 0x0A ∧ b ≠ 0x0D) text

/-- The text of a client stands in quotes. -/
def LogValue.Guarded : LogValue → Prop
  | .plain value => value.client = false
  | .quoted _ => True

/-- The message is one line, in which what clients have supplied stands in quotes. -/
structure LogEvent.Unforgeable (e : LogEvent) : Prop where
  oneLine : NoLineBreak e.str
  guarded : ∀ field ∈ e.fields, field.2.Guarded

/-! ### Quoted values -/

theorem noLineBreak_append {a b : Str} : NoLineBreak (a ++ b) ↔ NoLineBreak a ∧ NoLineBreak b :=
  List.forall_mem_append

theorem noLineBreak_nil : NoLineBreak [] := fun _ h => nomatch h

theorem noLineBreak_flatMap {α : Type} {f : α → Str} {l : List α} :
    NoLineBreak (l.flatMap f) ↔ ∀ x ∈ l, NoLineBreak (f x) := by
  constructor
  · intro h x hx b hb
    exact h b (List.mem_flatMap.mpr ⟨x, hx, hb⟩)
  · intro h b hb
    obtain ⟨x, hx, hb⟩ := List.mem_flatMap.mp hb
    exact h x hx b hb

/-- A digit is neither a quote nor a backslash, nor does it break the line. -/
theorem lowerHexDigit_plain {digit : UInt8} (h : digit < 0x10) :
    0x30 ≤ lowerHexDigit digit ∧ lowerHexDigit digit ≠ backslash := by
  rw [UInt8.lt_iff_toNat_lt] at h
  have hsmall : digit.toNat < 16 := h
  rw [lowerHexDigit, UInt8.le_iff_toNat_le, ne_eq, ← UInt8.toNat_inj]
  split
  · rename_i hten
    rw [UInt8.lt_iff_toNat_lt] at hten
    have hdigit : digit.toNat < 10 := hten
    rw [UInt8.toNat_add]
    simp [backslash]
    omega
  · rename_i hten
    rw [UInt8.lt_iff_toNat_lt] at hten
    have hdigit : ¬ digit.toNat < 10 := hten
    rw [UInt8.toNat_add]
    simp [backslash]
    omega

theorem secondDigit_lt {character : UInt8} (hlarge : ¬ character < 0x10) (hsmall : character < 0x20) :
    character - 0x10 < 0x10 := by
  rw [UInt8.lt_iff_toNat_lt] at hlarge hsmall ⊢
  have hle : (0x10 : UInt8) ≤ character := UInt8.le_iff_toNat_le.mpr (Nat.le_of_not_lt hlarge)
  have hlt : character.toNat < 32 := hsmall
  rw [UInt8.toNat_sub_of_le _ _ hle]
  show character.toNat - 16 < 16
  omega

/-- What the reader of a quoted value steps over. -/
def Unescaped (text : Str) : Prop := ∀ b ∈ text, b ≠ quote ∧ b ≠ backslash ∧ b ≠ 0x0A ∧ b ≠ 0x0D

theorem unescaped_of_digit {digit : UInt8} (h : digit < 0x10) {text : Str} (htext : Unescaped text) :
    Unescaped (lowerHexDigit digit :: text) := by
  obtain ⟨hlarge, hne⟩ := lowerHexDigit_plain h
  refine List.forall_mem_cons.mpr ⟨⟨?_, hne, ?_, ?_⟩, htext⟩
  · intro heq
    rw [heq] at hlarge
    revert hlarge
    decide
  · intro heq
    rw [heq] at hlarge
    revert hlarge
    decide
  · intro heq
    rw [heq] at hlarge
    revert hlarge
    decide

/-- **One byte**: it is escaped by a backslash and a letter, with digits after it, or it goes as it
is. -/
theorem escapeByte_cases (character : UInt8) :
    (∃ b text, escapeByte character = backslash :: b :: text ∧ b ≠ 0x0A ∧ b ≠ 0x0D ∧
      Unescaped text) ∨ (escapeByte character = [character] ∧ Unescaped [character]) := by
  have hnil : Unescaped [] := fun _ h => nomatch h
  rw [escapeByte]
  split
  · exact .inl ⟨_, [], rfl, by decide, by decide, hnil⟩
  split
  · exact .inl ⟨_, [], rfl, by decide, by decide, hnil⟩
  split
  · exact .inl ⟨_, [], rfl, by decide, by decide, hnil⟩
  split
  · exact .inl ⟨_, [], rfl, by decide, by decide, hnil⟩
  split
  · exact .inl ⟨_, [], rfl, by decide, by decide, hnil⟩
  split
  · rename_i hsmall
    exact .inl ⟨_, _, rfl, by decide, by decide, unescaped_of_digit hsmall hnil⟩
  split
  · rename_i hlarge hsmall
    have hdigit := secondDigit_lt hlarge hsmall
    have hone : ∀ text, Unescaped text → Unescaped (0x31 :: text) :=
      fun text htext => List.forall_mem_cons.mpr ⟨by decide, htext⟩
    exact .inl ⟨_, _, rfl, by decide, by decide, hone _ (unescaped_of_digit hdigit hnil)⟩
  · rename_i hbackslash hquote hfeed hreturn _ _ _
    exact .inr ⟨rfl, List.forall_mem_cons.mpr ⟨⟨hquote, hbackslash, hfeed, hreturn⟩, hnil⟩⟩

theorem Unescaped.noLineBreak {text : Str} (h : Unescaped text) : NoLineBreak text :=
  fun b hb => (h b hb).2.2

/-- **A quoted value breaks no line.** -/
theorem noLineBreak_escape (value : Str) : NoLineBreak (escape value) := by
  apply noLineBreak_flatMap.mpr
  intro character _
  rcases escapeByte_cases character with ⟨b, text, heq, hfeed, hreturn, htext⟩ | ⟨heq, htext⟩
  · rw [heq]
    have hletter : NoLineBreak (b :: text) :=
      List.forall_mem_cons.mpr ⟨⟨hfeed, hreturn⟩, htext.noLineBreak⟩
    exact List.forall_mem_cons.mpr ⟨by decide, hletter⟩
  · rw [heq]
    exact htext.noLineBreak

/-- Reading a quoted value after its opening quote: a backslash takes the byte after it along, and
the next quote is the end. -/
def readQuoted : Str → Option (Str × Str)
  | [] => none
  | b :: rest =>
    if b = quote then some ([], rest)
    else if b = backslash then
      match rest with
      | [] => none
      | b' :: rest' => (readQuoted rest').map fun read => (b :: b' :: read.1, read.2)
    else (readQuoted rest).map fun read => (b :: read.1, read.2)

theorem readQuoted_append {text : Str} (h : Unescaped text) (rest : Str) :
    readQuoted (text ++ rest) = (readQuoted rest).map fun read => (text ++ read.1, read.2) := by
  induction text with
  | nil => simp
  | cons b text ih =>
    obtain ⟨⟨hquote, hbackslash, _⟩, htext⟩ := List.forall_mem_cons.mp h
    rw [List.cons_append, readQuoted.eq_def]
    simp only [if_neg hquote, if_neg hbackslash]
    rw [ih htext, Option.map_map]
    rfl

theorem readQuoted_escaped (b : UInt8) (rest : Str) :
    readQuoted (backslash :: b :: rest) =
      (readQuoted rest).map fun read => (backslash :: b :: read.1, read.2) := by
  have hne : backslash ≠ quote := by decide
  rw [readQuoted.eq_def]
  simp only [if_neg hne, if_pos]

/-- **A client does not get out of the quotes**: the reader comes to the quote that the bridge has
put after the value. -/
theorem readQuoted_escape (value rest : Str) :
    readQuoted (escape value ++ quote :: rest) = some (escape value, rest) := by
  induction value with
  | nil =>
    rw [escape, List.flatMap_nil, List.nil_append, readQuoted.eq_def]
    simp only [if_pos]
  | cons character value ih =>
    have hsplit : escape (character :: value) = escapeByte character ++ escape value :=
      List.flatMap_cons
    rw [hsplit, List.append_assoc]
    rcases escapeByte_cases character with ⟨b, text, heq, _, _, htext⟩ | ⟨heq, htext⟩
    · rw [heq, List.cons_append, List.cons_append, readQuoted_escaped, readQuoted_append htext, ih]
      rfl
    · rw [heq, readQuoted_append htext, ih]
      rfl

/-! ### Messages -/

section Messages

variable {e : LogEvent} {key : Str} {value : LogText}

theorem str_concat (e : LogEvent) (field : Str × LogValue) :
    ({ e with fields := e.fields ++ [field] } : LogEvent).str =
      e.str ++ LogEvent.writtenField field := by
  rw [LogEvent.str, LogEvent.str, List.flatMap_append, List.flatMap_singleton, ← List.append_assoc]

theorem noLineBreak_writtenField {value : LogValue} (hkey : NoLineBreak key)
    (hvalue : NoLineBreak value.written) : NoLineBreak (LogEvent.writtenField (key, value)) := by
  have hspace : NoLineBreak (lit " ") := by decide
  have hequals : NoLineBreak (lit "=") := by decide
  exact noLineBreak_append.mpr
    ⟨noLineBreak_append.mpr ⟨noLineBreak_append.mpr ⟨hspace, hkey⟩, hequals⟩, hvalue⟩

theorem noLineBreak_quoted (value : LogText) : NoLineBreak (LogValue.quoted value).written := by
  have hquote : NoLineBreak [quote] := by decide
  exact noLineBreak_append.mpr
    ⟨noLineBreak_append.mpr ⟨hquote, noLineBreak_escape value.text⟩, hquote⟩

theorem unforgeable_new {name : Str} (h : NoLineBreak name) : (LogEvent.new name).Unforgeable where
  oneLine := by
    have hevent : NoLineBreak (lit "event=") := by decide
    exact noLineBreak_append.mpr ⟨noLineBreak_append.mpr ⟨hevent, h⟩, noLineBreak_nil⟩
  guarded := fun _ h => nomatch h

theorem LogEvent.Unforgeable.concat (h : e.Unforgeable) {value : LogValue} (hkey : NoLineBreak key)
    (hvalue : NoLineBreak value.written) (hguarded : value.Guarded) :
    ({ e with fields := e.fields ++ [(key, value)] } : LogEvent).Unforgeable where
  oneLine := by
    rw [str_concat]
    exact noLineBreak_append.mpr ⟨h.oneLine, noLineBreak_writtenField hkey hvalue⟩
  guarded := by
    intro field hmem
    rcases List.mem_append.mp hmem with hold | hnew
    · exact h.guarded field hold
    · rw [List.mem_singleton.mp hnew]
      exact hguarded

theorem LogEvent.Unforgeable.field (h : e.Unforgeable) (hkey : NoLineBreak key)
    (hvalue : NoLineBreak value.text) (hclient : value.client = false) :
    (e.field key value).Unforgeable :=
  h.concat hkey hvalue hclient

theorem LogEvent.Unforgeable.fieldQuoted (h : e.Unforgeable) (hkey : NoLineBreak key)
    (value : LogText) : (e.fieldQuoted key value).Unforgeable :=
  h.concat hkey (noLineBreak_quoted value) trivial

theorem LogEvent.Unforgeable.fieldIf (h : e.Unforgeable) (included : Bool) (hkey : NoLineBreak key)
    (hvalue : NoLineBreak value.text) (hclient : value.client = false) :
    (e.fieldIf included key value).Unforgeable := by
  cases included with
  | false => exact h
  | true => exact h.field hkey hvalue hclient

theorem LogEvent.Unforgeable.fieldOrQuoted (h : e.Unforgeable) (hkey : NoLineBreak key)
    (value : Option LogText) {fallback : Str} (hfallback : NoLineBreak fallback) :
    (e.fieldOrQuoted key value fallback).Unforgeable := by
  cases value with
  | none => exact h.field hkey hfallback rfl
  | some value => exact h.fieldQuoted hkey value

theorem noLineBreak_of_mem_fields (h : NoLineBreak e.str) {value : LogValue}
    (hmem : (key, value) ∈ e.fields) : NoLineBreak value.written := by
  have hfields := (noLineBreak_append.mp h).2
  have hfield := noLineBreak_flatMap.mp hfields _ hmem
  exact (noLineBreak_append.mp hfield).2

/-- What stands in a message as it is has no line break, and is not a client's. -/
theorem LogEvent.Unforgeable.plain (h : e.Unforgeable) (hmem : (key, .plain value) ∈ e.fields) :
    value.client = false ∧ NoLineBreak value.text :=
  ⟨h.guarded _ hmem, noLineBreak_of_mem_fields h.oneLine hmem⟩

theorem noLineBreak_decimalText (n : Nat) : NoLineBreak (decimalText n) := by
  intro b hb
  obtain ⟨c, hc, rfl⟩ := List.mem_map.mp hb
  have hdigit : c.isDigit = true := Nat.isDigit_of_mem_toDigits (by decide) (by decide) hc
  rw [Char.isDigit, Bool.and_eq_true, decide_eq_true_eq, decide_eq_true_eq] at hdigit
  have hlow : 48 ≤ c.val.toNat := UInt32.le_iff_toNat_le.mp hdigit.1
  have hhigh : c.val.toNat ≤ 57 := UInt32.le_iff_toNat_le.mp hdigit.2
  have hbyte : c.toUInt8.toNat = c.val.toNat % 256 := UInt32.toNat_toUInt8 c.val
  rw [ne_eq, ne_eq, ← UInt8.toNat_inj, ← UInt8.toNat_inj, hbyte]
  constructor
  · show ¬ c.val.toNat % 256 = 10
    omega
  · show ¬ c.val.toNat % 256 = 13
    omega

end Messages

end LivekitBridge
