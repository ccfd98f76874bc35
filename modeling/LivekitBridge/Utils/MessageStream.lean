import LivekitBridge.Lib.Delimited
import LivekitBridge.Utils.LogEvent

/-!
# The stream of a log message

`LogEvent` writes its fields to one `std::ostringstream`, `message_`.  The loop of `fieldQuoted`
sets the base of the stream to write a control character, and sets it back.  Here the stream is
modelled with its base.  Whatever the base is before, the loop writes `escape`
(`fieldQuoted_text`), and a message is what `LogEvent.str` says, with the base decimal after every
field (`LogEvent.stream_text`, `LogEvent.stream_hex`).

`fieldQuoted_contained` says what quoting is for.  That the quotes in a body are escaped by an odd
number of backslashes each follows from the reader that comes to the end of it
(`readQuoted_eq_read`).
-/

namespace LivekitBridge

open Lib

/-- `message_`: what was written, and whether the base is that of `std::hex`. -/
structure MessageStream where
  text : Str
  hex : Bool
deriving DecidableEq, Repr

/-- An `int` of 32 bits in `operator<<`: in the base of `std::hex` its two's complement. -/
def intText (hex : Bool) (n : Int) : Str :=
  if hex then (Nat.toDigits 16 (n % 4294967296).toNat).map Char.toUInt8
  else if n < 0 then lit "-" ++ decimalText n.natAbs
  else decimalText n.natAbs

namespace MessageStream

/-- `operator<<` of a text. -/
def put (s : MessageStream) (text : Str) : MessageStream := { s with text := s.text ++ text }

/-- `operator<<` of an `int`. -/
def putInt (s : MessageStream) (n : Int) : MessageStream := s.put (intText s.hex n)

/-- `std::hex` -/
def setHex (s : MessageStream) : MessageStream := { s with hex := true }

/-- `std::dec` -/
def setDec (s : MessageStream) : MessageStream := { s with hex := false }

/-- The body of the loop of `fieldQuoted`.  The cast to `int` is from a signed `char`. -/
def putQuoted (s : MessageStream) (character : UInt8) : MessageStream :=
  if character = backslash then s.put [backslash, backslash]
  else if character = quote then s.put [backslash, quote]
  else if character = 0x0A then s.put [backslash, 0x6E]
  else if character = 0x0D then s.put [backslash, 0x72]
  else if character = 0x09 then s.put [backslash, 0x74]
  else if character < 0x20 then
    ((s.put [backslash, 0x78]).setHex.putInt character.toInt8.toInt).setDec
  else s.put [character]

def fieldQuoted (s : MessageStream) (key value : Str) : MessageStream :=
  (value.foldl putQuoted (((s.put (lit " ")).put key).put (lit "=" ++ [quote]))).put [quote]

def putField (s : MessageStream) : Str × LogValue → MessageStream
  | (key, .plain value) => (((s.put (lit " ")).put key).put (lit "=")).put value.text
  | (key, .quoted value) => s.fieldQuoted key value.text

end MessageStream

/-- `message_` after the calls that have made the event. -/
def LogEvent.stream (e : LogEvent) : MessageStream :=
  e.fields.foldl MessageStream.putField ⟨lit "event=" ++ e.name, false⟩

/-! ### The base of the stream -/

namespace MessageStream

variable (s : MessageStream)

@[simp] theorem put_text (text : Str) : (s.put text).text = s.text ++ text := rfl

@[simp] theorem put_hex (text : Str) : (s.put text).hex = s.hex := rfl

@[simp] theorem setDec_text : s.setDec.text = s.text := rfl

@[simp] theorem setDec_hex : s.setDec.hex = false := rfl

/-- A control character in hex, as `escapeByte` has it. -/
theorem intText_control : ∀ n < 32, intText true (UInt8.ofNat n).toInt8.toInt =
    if UInt8.ofNat n < 0x10 then [lowerHexDigit (UInt8.ofNat n)]
    else [0x31, lowerHexDigit (UInt8.ofNat n - 0x10)] := by
  decide

/-- **One character** is written as `escapeByte` has it, whatever the base is. -/
theorem putQuoted_text (character : UInt8) :
    (s.putQuoted character).text = s.text ++ escapeByte character := by
  rw [putQuoted, escapeByte]
  split
  · rfl
  split
  · rfl
  split
  · rfl
  split
  · rfl
  split
  · rfl
  split
  · rename_i hcontrol
    have htext := intText_control character.toNat (UInt8.lt_iff_toNat_lt.mp hcontrol)
    rw [UInt8.ofNat_toNat] at htext
    have hwritten : (((s.put [backslash, 0x78]).setHex.putInt character.toInt8.toInt).setDec).text =
        s.text ++ ([backslash, 0x78] ++ intText true character.toInt8.toInt) := by
      rw [← List.append_assoc]
      rfl
    rw [hwritten, htext]
    split
    · rfl
    · rfl
  · rename_i hcontrol
    have hlarge : ¬ character < 0x10 := by
      intro hsmall
      exact hcontrol (UInt8.lt_trans hsmall (by decide))
    rw [if_neg hlarge]
    rfl

theorem putQuoted_hex (character : UInt8) (h : s.hex = false) :
    (s.putQuoted character).hex = false := by
  rw [putQuoted]
  split
  · exact h
  split
  · exact h
  split
  · exact h
  split
  · exact h
  split
  · exact h
  split
  · rfl
  · exact h

theorem foldl_putQuoted_text (value : Str) (s : MessageStream) :
    (value.foldl putQuoted s).text = s.text ++ escape value := by
  induction value generalizing s with
  | nil => exact (List.append_nil _).symm
  | cons character value ih =>
    rw [List.foldl_cons, ih, putQuoted_text, List.append_assoc, escape, escape, List.flatMap_cons]

theorem foldl_putQuoted_hex (value : Str) {s : MessageStream} (h : s.hex = false) :
    (value.foldl putQuoted s).hex = false := by
  induction value generalizing s with
  | nil => exact h
  | cons character value ih => exact ih (putQuoted_hex s character h)

/-- **The loop writes the escaped value.** -/
theorem fieldQuoted_text (key value : Str) :
    (s.fieldQuoted key value).text =
      s.text ++ (lit " " ++ key ++ lit "=") ++ (quote :: escape value ++ [quote]) := by
  rw [fieldQuoted, put_text, foldl_putQuoted_text]
  simp

theorem putField_text (field : Str × LogValue) :
    (s.putField field).text = s.text ++ LogEvent.writtenField field := by
  obtain ⟨key, value⟩ := field
  cases value with
  | plain value => simp [putField, LogEvent.writtenField, LogValue.written]
  | quoted value =>
    rw [putField, fieldQuoted_text, LogEvent.writtenField, LogValue.written, List.append_assoc]

theorem putField_hex (field : Str × LogValue) (h : s.hex = false) :
    (s.putField field).hex = false := by
  obtain ⟨key, value⟩ := field
  cases value with
  | plain value => exact h
  | quoted value => exact foldl_putQuoted_hex value.text h

theorem foldl_putField_text (fields : List (Str × LogValue)) (s : MessageStream) :
    (fields.foldl putField s).text = s.text ++ fields.flatMap LogEvent.writtenField := by
  induction fields generalizing s with
  | nil => exact (List.append_nil _).symm
  | cons field fields ih =>
    rw [List.foldl_cons, ih, putField_text, List.append_assoc, List.flatMap_cons]

theorem foldl_putField_hex (fields : List (Str × LogValue)) {s : MessageStream}
    (h : s.hex = false) : (fields.foldl putField s).hex = false := by
  induction fields generalizing s with
  | nil => exact h
  | cons field fields ih => exact ih (s.putField_hex field h)

end MessageStream

/-- **The stream has the message.** -/
theorem LogEvent.stream_text (e : LogEvent) : e.stream.text = e.str :=
  MessageStream.foldl_putField_text e.fields _

/-- A number is written decimal after every field. -/
theorem LogEvent.stream_hex (e : LogEvent) : e.stream.hex = false :=
  MessageStream.foldl_putField_hex e.fields rfl

/-! ### What is in the quotes -/

theorem readQuoted_eq_read (text : Str) : readQuoted text = Delimited.read backslash quote text := by
  have hne : backslash ≠ quote := by decide
  fun_induction readQuoted text with
  | case1 => rfl
  | case2 rest => simp [Delimited.read, Delimited.readFrom]
  | case3 => simp [Delimited.read, Delimited.readFrom, hne]
  | case4 _ b' rest' ih =>
    rw [ih]
    simp [Delimited.read, Delimited.readFrom, hne]
    rfl
  | case5 b rest hquote hbackslash ih =>
    rw [ih]
    simp [Delimited.read, Delimited.readFrom, hquote, hbackslash]

/-- No byte below `0x20`. -/
def NoControl (text : Str) : Prop := ∀ b ∈ text, 0x20 ≤ b

instance (text : Str) : Decidable (NoControl text) :=
  List.decidableBAll (fun b => 0x20 ≤ b) text

theorem noControl_of_digit {digit : UInt8} (h : digit < 0x10) : NoControl [lowerHexDigit digit] := by
  have hlow : (0x20 : UInt8) ≤ 0x30 := by decide
  exact List.forall_mem_singleton.mpr (UInt8.le_trans hlow (lowerHexDigit_plain h).1)

theorem noControl_escapeByte (character : UInt8) : NoControl (escapeByte character) := by
  rw [escapeByte]
  split
  · decide
  split
  · decide
  split
  · decide
  split
  · decide
  split
  · decide
  split
  · rename_i hsmall
    have hstart : NoControl [backslash, 0x78] := by decide
    exact List.forall_mem_append.mpr ⟨hstart, noControl_of_digit hsmall⟩
  split
  · rename_i hlarge hsmall
    have hstart : NoControl [backslash, 0x78, 0x31] := by decide
    exact List.forall_mem_append.mpr ⟨hstart, noControl_of_digit (secondDigit_lt hlarge hsmall)⟩
  · rename_i hcontrol
    exact List.forall_mem_singleton.mpr (UInt8.not_lt.mp hcontrol)

theorem noControl_escape (value : Str) : NoControl (escape value) := by
  intro b hb
  obtain ⟨character, _, hb⟩ := List.mem_flatMap.mp hb
  exact noControl_escapeByte character b hb

/-- A body that stays in its quotes. -/
structure Contained (body : Str) : Prop where
  noControl : NoControl body
  /-- each quote has an odd number of backslashes right before it -/
  escaped : ∀ before after, body = before ++ quote :: after →
    Odd (Delimited.trailing backslash before)
  /-- and so the reader comes to the closing quote -/
  ends : ∀ rest, readQuoted (body ++ quote :: rest) = some (body, rest)

/-- **A quoted value is contained**, whatever it is, and whatever was written before it. -/
theorem fieldQuoted_contained (s : MessageStream) (key value : Str) :
    (s.fieldQuoted key value).text =
      s.text ++ (lit " " ++ key ++ lit "=") ++ (quote :: escape value ++ [quote]) ∧
      Contained (escape value) := by
  have hread : Delimited.read backslash quote (escape value ++ [quote]) = some (escape value, []) := by
    rw [← readQuoted_eq_read]
    exact readQuoted_escape value []
  obtain ⟨-, hescaped, -⟩ := Delimited.read_eq_some_iff.mp hread
  exact ⟨s.fieldQuoted_text key value, noControl_escape value, hescaped, readQuoted_escape value⟩

/-- It is contained, and still cannot be read back: the digits of a control character have no end. -/
example : escape [0x01, 0x62] = escape [0x1B] := by decide

end LivekitBridge
