import Mathlib.Data.List.Basic

/-!
# Percent-encoding

RFC 3986, section 2.  A byte is kept, or written as a `%` and two hex digits.  Which bytes are kept
is a parameter: all that is asked of it is that `%` is not kept.

`decode` reads a text byte by byte and takes digits of either case.  `decode_encode_append` says
that it reads an encoding back whatever follows, so that no encoding is another one's, nor the
beginning of one with something else after it.
-/

namespace LivekitBridge.Lib.Percent

/-- `'%'` -/
def percent : UInt8 := 0x25

/-- The unreserved characters (section 2.3). -/
def unreserved : List UInt8 :=
  "ABCDEFGHIJKLMNOPQRSTUVWXYZabcdefghijklmnopqrstuvwxyz0123456789-._~".toList.map Char.toUInt8

/-- The digits of an encoding, which should be upper-case (section 2.1). -/
def upperHexDigits : List UInt8 := "0123456789ABCDEF".toList.map Char.toUInt8

/-- The value of a hex digit of either case. -/
def hexValue? (digit : UInt8) : Option Nat :=
  if 0x30 ≤ digit ∧ digit ≤ 0x39 then some (digit.toNat - 0x30)
  else if 0x41 ≤ digit ∧ digit ≤ 0x46 then some (digit.toNat - 0x37)
  else if 0x61 ≤ digit ∧ digit ≤ 0x66 then some (digit.toNat - 0x57)
  else none

def upperHexDigit (value : Nat) : UInt8 := upperHexDigits.getD value 0

/-- A byte that is not kept. -/
def triple (byte : UInt8) : List UInt8 :=
  [percent, upperHexDigit (byte.toNat / 16), upperHexDigit (byte.toNat % 16)]

/-- Percent-encoding. -/
def encode (keep : UInt8 → Bool) (bytes : List UInt8) : List UInt8 :=
  bytes.flatMap fun byte => if keep byte then [byte] else triple byte

/-- Percent-decoding.  A `%` without two hex digits after it is an error. -/
def decode : List UInt8 → Option (List UInt8)
  | [] => some []
  | byte :: rest =>
    if byte = percent then
      match rest with
      | high :: low :: rest' =>
        match hexValue? high, hexValue? low with
        | some h, some l => (decode rest').map fun bytes => UInt8.ofNat (h * 16 + l) :: bytes
        | _, _ => none
      | _ => none
    else (decode rest).map fun bytes => byte :: bytes

/-- A text of bytes of `plain` and of triples with upper-case digits. -/
inductive Encoded (plain : List UInt8) : List UInt8 → Prop
  | nil : Encoded plain []
  | plain {byte : UInt8} {rest : List UInt8} : byte ∈ plain → Encoded plain rest →
      Encoded plain (byte :: rest)
  | triple {high low : UInt8} {rest : List UInt8} : high ∈ upperHexDigits → low ∈ upperHexDigits →
      Encoded plain rest → Encoded plain (percent :: high :: low :: rest)

/-! ### Digits -/

theorem hexValue?_upperHexDigit : ∀ value < 16, hexValue? (upperHexDigit value) = some value := by
  decide

theorem upperHexDigit_mem : ∀ value < 16, upperHexDigit value ∈ upperHexDigits := by
  decide

/-- A byte has two digits. -/
theorem halves_lt (byte : UInt8) : byte.toNat / 16 < 16 ∧ byte.toNat % 16 < 16 := by
  have hbyte := byte.toNat_lt
  omega

/-! ### Encodings -/

section Encode

variable {keep : UInt8 → Bool}

theorem encode_nil (keep : UInt8 → Bool) : encode keep [] = [] := rfl

theorem encode_cons_of_keep {byte : UInt8} (h : keep byte = true) (bytes : List UInt8) :
    encode keep (byte :: bytes) = byte :: encode keep bytes := by
  rw [encode, List.flatMap_cons, if_pos h]
  rfl

theorem encode_cons_of_not_keep {byte : UInt8} (h : keep byte = false) (bytes : List UInt8) :
    encode keep (byte :: bytes) = triple byte ++ encode keep bytes := by
  rw [encode, List.flatMap_cons, if_neg (by simp [h])]
  rfl

/-- The encoding goes byte by byte. -/
theorem encode_append (keep : UInt8 → Bool) (bytes bytes' : List UInt8) :
    encode keep (bytes ++ bytes') = encode keep bytes ++ encode keep bytes' :=
  List.flatMap_append

theorem encode_of_keep {bytes : List UInt8} (h : ∀ byte ∈ bytes, keep byte = true) :
    encode keep bytes = bytes := by
  induction bytes with
  | nil => rfl
  | cons byte bytes ih =>
    obtain ⟨hbyte, hbytes⟩ := List.forall_mem_cons.mp h
    rw [encode_cons_of_keep hbyte, ih hbytes]

/-- **What an encoding looks like.** -/
theorem encoded_encode {plain : List UInt8} (h : ∀ byte, keep byte = true → byte ∈ plain)
    (bytes : List UInt8) : Encoded plain (encode keep bytes) := by
  induction bytes with
  | nil => exact .nil
  | cons byte bytes ih =>
    cases hkeep : keep byte with
    | true =>
      rw [encode_cons_of_keep hkeep]
      exact .plain (h byte hkeep) ih
    | false =>
      obtain ⟨hhigh, hlow⟩ := halves_lt byte
      rw [encode_cons_of_not_keep hkeep]
      exact .triple (upperHexDigit_mem _ hhigh) (upperHexDigit_mem _ hlow) ih

theorem decode_cons_of_ne {byte : UInt8} (h : byte ≠ percent) (rest : List UInt8) :
    decode (byte :: rest) = (decode rest).map fun bytes => byte :: bytes := by
  rw [decode.eq_def]
  simp only [if_neg h]

theorem decode_triple_append (byte : UInt8) (rest : List UInt8) :
    decode (triple byte ++ rest) = (decode rest).map fun bytes => byte :: bytes := by
  obtain ⟨hhigh, hlow⟩ := halves_lt byte
  have hbyte : byte.toNat / 16 * 16 + byte.toNat % 16 = byte.toNat := by omega
  rw [triple, List.cons_append, decode.eq_def]
  simp only [List.cons_append, List.nil_append, if_pos, hexValue?_upperHexDigit _ hhigh,
    hexValue?_upperHexDigit _ hlow, hbyte, UInt8.ofNat_toNat]

/-- **An encoding is read back, whatever follows it.** -/
theorem decode_encode_append (hpercent : keep percent = false) (bytes rest : List UInt8) :
    decode (encode keep bytes ++ rest) = (decode rest).map fun bytes' => bytes ++ bytes' := by
  induction bytes with
  | nil => simp [encode_nil]
  | cons byte bytes ih =>
    cases hkeep : keep byte with
    | true =>
      have hne : byte ≠ percent := by
        intro heq
        rw [heq, hpercent] at hkeep
        cases hkeep
      rw [encode_cons_of_keep hkeep, List.cons_append, decode_cons_of_ne hne, ih, Option.map_map]
      rfl
    | false =>
      rw [encode_cons_of_not_keep hkeep, List.append_assoc, decode_triple_append, ih,
        Option.map_map]
      rfl

/-- **Decoding is the inverse of encoding.** -/
theorem decode_encode (hpercent : keep percent = false) (bytes : List UInt8) :
    decode (encode keep bytes) = some bytes := by
  have h := decode_encode_append hpercent bytes []
  rw [List.append_nil] at h
  simpa [decode] using h

theorem encode_injective (hpercent : keep percent = false) : Function.Injective (encode keep) := by
  intro bytes bytes' h
  have hread := decode_encode hpercent bytes
  rw [h, decode_encode hpercent bytes'] at hread
  exact (Option.some.inj hread).symm

end Encode

end LivekitBridge.Lib.Percent
