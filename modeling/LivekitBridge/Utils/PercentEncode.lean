import LivekitBridge.Lib.PercentEncoding
import LivekitBridge.Streams.Spec

/-!
# Percent-encoded source names

`utils/percent_encode.cpp`, which the names of the `other_video` and `other_audio` tracks are made
with.  It is the percent-encoding that keeps the unreserved bytes (`percentEncodeUnreserved_eq_encode`),
and everything else here follows from the library.
-/

namespace LivekitBridge

open Lib

/-- What `percentEncodeUnreserved` writes for one byte. -/
def percentEncodeByte (byte : UInt8) : Str :=
  if isUnreservedByte byte then [byte]
  else [0x25, kHexDigits.getD (byte >>> 4).toNat 0, kHexDigits.getD (byte &&& 0x0F).toNat 0]

theorem percentEncodeUnreserved_eq (name : Str) :
    percentEncodeUnreserved name = name.flatMap percentEncodeByte := rfl

theorem toNat_nibbles (byte : UInt8) :
    (byte >>> 4).toNat = byte.toNat / 16 ∧ (byte &&& 0x0F).toNat = byte.toNat % 16 := by
  constructor
  · rw [UInt8.toNat_shiftRight]
    simp [Nat.shiftRight_eq_div_pow]
  · rw [UInt8.toNat_and]
    exact Nat.and_two_pow_sub_one_eq_mod byte.toNat 4

theorem percentEncodeByte_eq (byte : UInt8) :
    percentEncodeByte byte =
      if isUnreservedByte byte then [byte] else Percent.triple byte := by
  obtain ⟨hhigh, hlow⟩ := toNat_nibbles byte
  rw [percentEncodeByte, hhigh, hlow]
  rfl

/-- **The encoding is that of RFC 3986**, with the unreserved bytes kept. -/
theorem percentEncodeUnreserved_eq_encode (name : Str) :
    percentEncodeUnreserved name = Percent.encode isUnreservedByte name := by
  rw [percentEncodeUnreserved_eq, Percent.encode, funext percentEncodeByte_eq]

/-! ### Unreserved bytes -/

theorem isUnreservedByte_percent : isUnreservedByte Percent.percent = false := by decide

/-- The ranges of the code are the letters of the RFC. -/
theorem isUnreservedByte_iff (byte : UInt8) :
    isUnreservedByte byte = true ↔ byte ∈ Percent.unreserved := by
  constructor
  · have hall : ∀ n < 256, isUnreservedByte (UInt8.ofNat n) = true →
        UInt8.ofNat n ∈ Percent.unreserved := by decide +kernel
    have hbyte := hall byte.toNat byte.toNat_lt
    rwa [UInt8.ofNat_toNat] at hbyte
  · intro hmem
    have hall : Percent.unreserved.all isUnreservedByte = true := by decide
    exact List.all_eq_true.mp hall byte hmem

theorem percentEncodeUnreserved_of_unreserved {name : Str}
    (h : ∀ c ∈ name, isUnreservedByte c = true) : percentEncodeUnreserved name = name := by
  rw [percentEncodeUnreserved_eq_encode]
  exact Percent.encode_of_keep h

/-- An encoding without `%` is of unreserved bytes. -/
theorem unreserved_of_percent_not_mem {name : Str} (h : (0x25 : UInt8) ∉ percentEncodeUnreserved name) :
    ∀ c ∈ name, isUnreservedByte c = true := by
  intro c hc
  by_contra hreserved
  refine h (List.mem_flatMap.mpr ⟨c, hc, ?_⟩)
  rw [if_neg hreserved]
  exact List.mem_cons_self

/-! ### Reading it back -/

/-- **A source can be read off its track's name.** -/
theorem percentEncodeUnreserved_injective {m n : Str}
    (h : percentEncodeUnreserved m = percentEncodeUnreserved n) : m = n := by
  rw [percentEncodeUnreserved_eq_encode, percentEncodeUnreserved_eq_encode] at h
  exact Percent.encode_injective isUnreservedByte_percent h

/-- **Percent-encoding is invertible.**  An encoding is of unreserved characters and of triples with
upper-case digits, and it is decoded to the name; so different names have different encodings; and
the encoding of two names put together is that of the two. -/
theorem percentEncodeUnreserved_invertible :
    (∀ name, Percent.Encoded Percent.unreserved (percentEncodeUnreserved name) ∧
      Percent.decode (percentEncodeUnreserved name) = some name) ∧
    Function.Injective percentEncodeUnreserved ∧
    ∀ m n, percentEncodeUnreserved (m ++ n) =
      percentEncodeUnreserved m ++ percentEncodeUnreserved n := by
  refine ⟨?_, ?_, ?_⟩
  · intro name
    rw [percentEncodeUnreserved_eq_encode]
    constructor
    · exact Percent.encoded_encode (fun byte => (isUnreservedByte_iff byte).mp) name
    · exact Percent.decode_encode isUnreservedByte_percent name
  · intro m n h
    exact percentEncodeUnreserved_injective h
  · intro m n
    rw [percentEncodeUnreserved_eq_encode, percentEncodeUnreserved_eq_encode, percentEncodeUnreserved_eq_encode]
    exact Percent.encode_append isUnreservedByte m n

/-- A `%` of the name is encoded, and a byte above `0x7F` is one like any other. -/
example : percentEncodeUnreserved (lit "%2F" ++ [0xFF]) = lit "%252F%FF" := by decide

end LivekitBridge
