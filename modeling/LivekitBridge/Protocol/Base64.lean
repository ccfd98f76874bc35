import LivekitBridge.Lib.Base64
import LivekitBridge.Protocol.Json

/-!
# The base64 codec

`protocol/detail/base64.cpp`.  The letters are turned by OpenSSL, `EVP_EncodeBlock` and
`EVP_DecodeBlock`, which take and return lengths as `int`; `decode` checks the text first, because
OpenSSL accepts more than one text for the same bytes.  OpenSSL is not part of the repository:
`Evp` is the pair of functions, and `Evp.ImplementsRfc` what is relied on.

A text passes the checks of `decode` exactly if it is an encoding (`decode_of_encode`,
`decode_of_not_encoding`).  What is then left is the length: `static_cast<int>(size)` is the size
of a text shorter than `2 ^ 31` only.  Up to there the bytes come back (`decode_short`); a longer
encoding is cut, to nothing or to what its length is modulo `2 ^ 32`, and it is either not decoded
at all or decoded to the bytes of another text (`decode_long`).
-/

namespace LivekitBridge

open Lib

/-! ### The code -/

/-- `static_cast<int>` of a size. -/
def toInt (n : Nat) : Int := Int.bmod n 4294967296

/-- `static_cast<std::size_t>` -/
def toSize (i : Int) : Nat := (i % 18446744073709551616).toNat

/-- `max_size` of a `std::string` and of a `std::vector<std::uint8_t>`. -/
def kMaxSize : Nat := 9223372036854775807

/-- `resize`; `what` is the text of the `std::length_error`. -/
def resize (what : Str) (buffer : Str) (n : Nat) : Except StdException Str :=
  if kMaxSize < n then .error (.lengthError what)
  else .ok (buffer.take n ++ List.replicate (n - buffer.length) 0)

/-- A zeroed buffer of `size` bytes into which `output` was written. -/
def fillBuffer (size : Nat) (output : Str) : Str :=
  output.take size ++ List.replicate (size - output.length) 0

/-- `EVP_EncodeBlock(t, f, n)` and `EVP_DecodeBlock(t, f, n)`: what is written to `t`, and the
number returned. -/
structure Evp where
  encodeBlock : Str → Int → Str × Int
  decodeBlock : Str → Int → Str × Int

/-- `base64::Status` -/
inductive Base64Status
  | ok
  | invalidEncoding
  | missingPadding
deriving DecidableEq, Repr

/-- `base64::Result` -/
structure Base64Result where
  bytes : Str
  status : Base64Status
deriving DecidableEq, Repr

def decodeSextet (c : UInt8) : Int :=
  if 0x41 ≤ c ∧ c ≤ 0x5A then (c.toNat : Int) - 0x41
  else if 0x61 ≤ c ∧ c ≤ 0x7A then 26 + ((c.toNat : Int) - 0x61)
  else if 0x30 ≤ c ∧ c ≤ 0x39 then 52 + ((c.toNat : Int) - 0x30)
  else if c = 0x2B then 62
  else if c = 0x2F then 63
  else -1

/-- `base64::encode` -/
def base64Encode (evp : Evp) (bytes : Str) : Except StdException Str :=
  if bytes.length = 0 then .ok []
  else
    let (output, written) := evp.encodeBlock bytes (toInt bytes.length)
    resize (lit "basic_string::_M_replace_aux")
      (fillBuffer ((bytes.length + 2) / 3 * 4) output) (toSize written)

/-- The loop of `decode` over the text: the number of `=` at its end, or none. -/
def scanPadding (padding : Nat) : Str → Option Nat
  | [] => some padding
  | c :: text =>
    if c = Base64.pad then scanPadding (padding + 1) text
    else if padding ≠ 0 ∨ decodeSextet c < 0 then none
    else scanPadding padding text

/-- The unused bits of the last quantum: those of the sextet before the padding. -/
def unusedBits (text : Str) (padding : Nat) : Nat :=
  let sextet := decodeSextet (text.getD (text.length - (padding + 1)) 0)
  let mask := if padding = 2 then 0x0F else 0x03
  sextet.toNat &&& mask

/-- `decode` after its checks. -/
def decodeQuanta (evp : Evp) (text : Str) (padding : Nat) : Except StdException Base64Result :=
  let (output, written) := evp.decodeBlock text (toInt text.length)
  (resize (lit "vector::_M_default_append") (fillBuffer (text.length / 4 * 3) output)
    (toSize (toSize written - padding))).map fun bytes => ⟨bytes, .ok⟩

/-- `base64::decode` -/
def base64Decode (evp : Evp) (text : Str) : Except StdException Base64Result :=
  if text = [] then .ok ⟨[], .ok⟩
  else
    match scanPadding 0 text with
    | none => .ok ⟨[], .invalidEncoding⟩
    | some padding =>
      if 2 < padding ∨ padding ≠ 0 ∧ text.length = 1 then .ok ⟨[], .invalidEncoding⟩
      else if text.length % 4 ≠ 0 then .ok ⟨[], .missingPadding⟩
      else if padding ≠ 0 ∧ unusedBits text padding ≠ 0 then .ok ⟨[], .invalidEncoding⟩
      else decodeQuanta evp text padding

/-! ### OpenSSL -/

/-- OpenSSL implements RFC 4648: it writes the encoding, it decodes blocks of four letters and
reads `=` as a zero.  What it returns is an `int`, and `n` letters are read, none if `n` is
negative. -/
structure Evp.ImplementsRfc (evp : Evp) : Prop where
  encode : ∀ bytes : Str, bytes.length < 2147483648 →
    evp.encodeBlock bytes bytes.length = (Base64.encode bytes, toInt (Base64.encode bytes).length)
  decode : ∀ (text : Str) (n : Int), n ≤ text.length → n % 4 = 0 →
    (∀ c ∈ text, (Base64.sextet? c).isSome = true ∨ c = Base64.pad) →
    evp.decodeBlock text n = (Base64.decodeBlocks (text.take n.toNat), ((3 * (n.toNat / 4) : Nat) : Int))

/-- OpenSSL as RFC 4648 has it. -/
def rfcEvp : Evp where
  encodeBlock bytes n :=
    (Base64.encode (bytes.take n.toNat), toInt (Base64.encode (bytes.take n.toNat)).length)
  decodeBlock text n := (Base64.decodeBlocks (text.take n.toNat), ((3 * (n.toNat / 4) : Nat) : Int))

theorem rfcEvp_implementsRfc : rfcEvp.ImplementsRfc where
  encode bytes _ := by simp [rfcEvp]
  decode _ _ _ _ _ := rfl

/-! ### The checks of `decode` -/

theorem decodeSextet_eq (c : UInt8) :
    decodeSextet c = (Base64.sextet? c).elim (-1) fun v => (v : Int) := by
  have hall : ∀ n < 256, decodeSextet (UInt8.ofNat n) =
      (Base64.sextet? (UInt8.ofNat n)).elim (-1) fun v => (v : Int) := by decide +kernel
  have hc := hall c.toNat c.toNat_lt
  rw [UInt8.ofNat_toNat] at hc
  exact hc

theorem decodeSextet_neg_iff (c : UInt8) : decodeSextet c < 0 ↔ Base64.sextet? c = none := by
  rw [decodeSextet_eq]
  cases Base64.sextet? c with
  | none => simp
  | some v => simp

/-- After the first `=`, only `=` follows. -/
theorem scanPadding_of_pos (text : Str) : ∀ {q p : Nat}, q ≠ 0 →
    (scanPadding q text = some p ↔ q ≤ p ∧ text = List.replicate (p - q) Base64.pad) := by
  induction text with
  | nil =>
    intro q p _
    rw [scanPadding, Option.some.injEq]
    constructor
    · intro h
      subst h
      simp
    · intro h
      have hzero : p - q = 0 := by
        have hlen := congrArg List.length h.2
        rw [List.length_replicate] at hlen
        exact hlen.symm
      omega
  | cons c text ih =>
    intro q p hq
    rw [scanPadding]
    by_cases hc : c = Base64.pad
    · rw [if_pos hc, ih (Nat.succ_ne_zero q), hc]
      constructor
      · intro h
        refine ⟨by omega, ?_⟩
        rw [show p - q = (p - (q + 1)) + 1 by omega, List.replicate_succ, ← h.2]
      · intro h
        have hpos : p - q ≠ 0 := by
          intro hz
          rw [hz] at h
          exact List.cons_ne_nil _ _ h.2
        have hsplit : p - q = (p - (q + 1)) + 1 := by omega
        rw [hsplit, List.replicate_succ, List.cons.injEq] at h
        exact ⟨by omega, h.2.2⟩
    · rw [if_neg hc, if_pos (.inl hq)]
      constructor
      · intro h
        cases h
      · intro h
        have hmem : c ∈ List.replicate (p - q) Base64.pad := by
          rw [← h.2]
          exact List.mem_cons_self
        exact absurd (List.eq_of_mem_replicate hmem) hc

/-- The text is letters followed by padding. -/
def IsLetters (p : Nat) (text : Str) (values : List Nat) : Prop :=
  (∀ v ∈ values, v < 64) ∧ text = values.map Base64.letter ++ List.replicate p Base64.pad

theorem isLetters_cons {c : UInt8} {text : Str} {p : Nat} (hc : c ≠ Base64.pad) :
    (∃ values, IsLetters p (c :: text) values) ↔
      Base64.sextet? c ≠ none ∧ ∃ values, IsLetters p text values := by
  constructor
  · intro h
    obtain ⟨values, hlt, h⟩ := h
    cases values with
    | nil =>
      rw [List.map_nil, List.nil_append] at h
      have hmem : c ∈ List.replicate p Base64.pad := h ▸ List.mem_cons_self
      exact absurd (List.eq_of_mem_replicate hmem) hc
    | cons v values =>
      rw [List.map_cons, List.cons_append, List.cons.injEq] at h
      refine ⟨?_, values, fun w hw => hlt w (List.mem_cons_of_mem v hw), h.2⟩
      rw [h.1, Base64.sextet?_letter (hlt v List.mem_cons_self)]
      simp
  · intro h
    obtain ⟨hs, values, hlt, rfl⟩ := h
    obtain ⟨v, hv⟩ := Option.ne_none_iff_exists'.mp hs
    obtain ⟨hv64, hletter⟩ := Base64.letter_of_sextet? hv
    refine ⟨v :: values, ?_, by rw [List.map_cons, hletter, List.cons_append]⟩
    intro w hw
    rcases List.mem_cons.mp hw with rfl | hw
    · exact hv64
    · exact hlt w hw

/-- **The loop accepts letters followed by padding.** -/
theorem scanPadding_eq_some (text : Str) {p : Nat} :
    scanPadding 0 text = some p ↔ ∃ values, IsLetters p text values := by
  induction text with
  | nil =>
    rw [scanPadding, Option.some.injEq]
    constructor
    · intro h
      subst h
      exact ⟨[], by simp, rfl⟩
    · intro h
      obtain ⟨values, _, h⟩ := h
      have hlen := congrArg List.length h
      rw [List.length_append, List.length_replicate, List.length_nil] at hlen
      omega
  | cons c text ih =>
    rw [scanPadding]
    by_cases hc : c = Base64.pad
    · rw [if_pos hc, scanPadding_of_pos text (Nat.succ_ne_zero 0)]
      constructor
      · intro h
        refine ⟨[], by simp, ?_⟩
        rw [hc, h.2, show p = (p - 1) + 1 by omega]
        rfl
      · intro h
        obtain ⟨values, hlt, h⟩ := h
        cases values with
        | nil =>
          rw [List.map_nil, List.nil_append] at h
          cases p with
          | zero => exact absurd h (List.cons_ne_nil _ _)
          | succ p =>
            rw [List.replicate_succ, List.cons.injEq] at h
            exact ⟨by omega, h.2⟩
        | cons v values =>
          rw [List.map_cons, List.cons_append, List.cons.injEq] at h
          exact absurd (h.1.symm.trans hc) (Base64.letter_ne_pad (hlt v List.mem_cons_self))
    · have hsome : Base64.sextet? c ≠ none ↔ ¬ decodeSextet c < 0 :=
        (not_congr (decodeSextet_neg_iff c)).symm
      rw [if_neg hc, isLetters_cons hc, hsome, ← ih]
      by_cases hs : decodeSextet c < 0
      · simp [hs]
      · simp [hs]

theorem IsLetters.length {p : Nat} {text : Str} {values : List Nat} (h : IsLetters p text values) :
    text.length = values.length + p := by
  rw [h.2, List.length_append, List.length_map, List.length_replicate]

/-- The bits that the code looks at are those of the last sextet. -/
theorem unusedBits_eq {p : Nat} {text : Str} {values : List Nat} {w : Nat}
    (h : IsLetters p text values) (hw : values.getLast? = some w) :
    unusedBits text p = if p = 2 then w % 16 else w % 4 := by
  have hne : values ≠ [] := by
    intro he
    rw [he] at hw
    cases hw
  have hpos := List.length_pos_iff.mpr hne
  have hget : text.getD (text.length - (p + 1)) 0 = Base64.letter w := by
    have hindex : text.length - (p + 1) = values.length - 1 := by
      rw [h.length]
      omega
    rw [List.getLast?_eq_getElem?] at hw
    rw [hindex, h.2, List.getD_eq_getElem?_getD,
      List.getElem?_append_left (by rw [List.length_map]; omega), List.getElem?_map, hw]
    rfl
  have hw64 : w < 64 := h.1 w (List.mem_of_getLast? hw)
  have hsextet : decodeSextet (Base64.letter w) = (w : Int) := by
    rw [decodeSextet_eq, Base64.sextet?_letter hw64]
    rfl
  rw [unusedBits, hget, hsextet, Int.toNat_natCast]
  by_cases hp : p = 2
  · rw [if_pos hp, if_pos hp]
    exact Nat.and_two_pow_sub_one_eq_mod w 4
  · rw [if_neg hp, if_neg hp]
    exact Nat.and_two_pow_sub_one_eq_mod w 2

theorem isLetters_encode (bytes : Str) :
    IsLetters (Base64.padding bytes.length) (Base64.encode bytes) (Base64.sextets bytes) :=
  ⟨Base64.lt_of_mem_sextets bytes, rfl⟩

/-- **An encoding passes the checks.** -/
theorem decode_of_encode (evp : Evp) {bytes : Str} (hne : bytes ≠ []) :
    base64Decode evp (Base64.encode bytes) =
      decodeQuanta evp (Base64.encode bytes) (Base64.padding bytes.length) := by
  have hletters := isLetters_encode bytes
  have hscan := (scanPadding_eq_some _).mpr ⟨_, hletters⟩
  have hlen := Base64.length_encode bytes
  have hpos := List.length_pos_iff.mpr hne
  have hle := Base64.padding_le bytes.length
  have hsum := Base64.length_sextets bytes
  have hbits : ¬ (Base64.padding bytes.length ≠ 0 ∧
      unusedBits (Base64.encode bytes) (Base64.padding bytes.length) ≠ 0) := by
    intro h
    obtain ⟨w, hw⟩ : ∃ w, (Base64.sextets bytes).getLast? = some w := by
      refine Option.ne_none_iff_exists'.mp ?_
      rw [ne_eq, List.getLast?_eq_none_iff]
      intro he
      rw [he, List.length_nil] at hsum
      omega
    have hclosed := ((Base64.closed_iff _).mp (Base64.closed_sextets bytes)).2 w hw
    rw [unusedBits_eq hletters hw] at h
    by_cases hp : Base64.padding bytes.length = 2
    · rw [if_pos hp] at h
      exact h.2 (hclosed.1 (by omega))
    · rw [if_neg hp] at h
      exact h.2 (hclosed.2 (by omega))
  rw [base64Decode, if_neg (Base64.encode_ne_nil hne), hscan]
  dsimp only
  rw [if_neg (by omega), if_neg (by omega), if_neg hbits]

/-- **A text that passes the checks is an encoding.** -/
theorem decode_of_not_encoding (evp : Evp) {text : Str} (h : ∀ bytes, Base64.encode bytes ≠ text) :
    ∃ status, status ≠ .ok ∧ base64Decode evp text = .ok ⟨[], status⟩ := by
  have hne : text ≠ [] := fun he => h [] he.symm
  rw [base64Decode, if_neg hne]
  cases hscan : scanPadding 0 text with
  | none => exact ⟨.invalidEncoding, by decide, rfl⟩
  | some p =>
    obtain ⟨values, hletters⟩ := (scanPadding_eq_some text).mp hscan
    have hlen := hletters.length
    dsimp only
    by_cases h₁ : 2 < p ∨ p ≠ 0 ∧ text.length = 1
    · exact ⟨.invalidEncoding, by decide, by rw [if_pos h₁]⟩
    · rw [if_neg h₁]
      by_cases h₂ : text.length % 4 ≠ 0
      · exact ⟨.missingPadding, by decide, by rw [if_pos h₂]⟩
      · rw [if_neg h₂]
        by_cases h₃ : p ≠ 0 ∧ unusedBits text p ≠ 0
        · exact ⟨.invalidEncoding, by decide, by rw [if_pos h₃]⟩
        · -- all three checks passed: the sextets are closed
          have hclosed : Base64.Closed values := by
            refine (Base64.closed_iff values).mpr ⟨by omega, ?_⟩
            intro w hw
            have hbits : p ≠ 0 → (if p = 2 then w % 16 else w % 4) = 0 := by
              intro hp
              rw [← unusedBits_eq hletters hw]
              by_contra hb
              exact h₃ ⟨hp, hb⟩
            constructor
            · intro h2
              have hb := hbits (by omega)
              rwa [if_pos (by omega)] at hb
            · intro h3
              have hb := hbits (by omega)
              rwa [if_neg (by omega)] at hb
          have henc := Base64.encode_octets (p := p) hletters.1 hclosed (by omega) (by omega)
          exact absurd (henc.trans hletters.2.symm) (h _)

/-- **An encoding without all of its padding.** -/
theorem decode_stripped (evp : Evp) (bytes : Str) {text : Str} {k : Nat} (hk : k ≠ 0)
    (h : Base64.encode bytes = text ++ List.replicate k Base64.pad) :
    base64Decode evp text = .ok ⟨[], .missingPadding⟩ := by
  have hsum := Base64.length_sextets bytes
  have hle := Base64.padding_le bytes.length
  -- the letters before the padding stay
  have hkle : k ≤ Base64.padding bytes.length := by
    by_contra hlt
    rw [show k = (k - Base64.padding bytes.length) + Base64.padding bytes.length by omega,
      List.replicate_add, ← List.append_assoc] at h
    have hcut : (Base64.sextets bytes).map Base64.letter =
        text ++ List.replicate (k - Base64.padding bytes.length) Base64.pad :=
      List.append_cancel_right h
    have hmem : Base64.pad ∈ (Base64.sextets bytes).map Base64.letter := by
      rw [hcut]
      exact List.mem_append_right _ (List.mem_replicate.mpr ⟨by omega, rfl⟩)
    obtain ⟨v, hv, hpad⟩ := List.mem_map.mp hmem
    exact Base64.letter_ne_pad (Base64.lt_of_mem_sextets bytes v hv) hpad
  have hletters : IsLetters (Base64.padding bytes.length - k) text (Base64.sextets bytes) := by
    refine ⟨Base64.lt_of_mem_sextets bytes, ?_⟩
    have hsplit : Base64.encode bytes = (Base64.sextets bytes).map Base64.letter ++
        List.replicate (Base64.padding bytes.length - k) Base64.pad ++
          List.replicate k Base64.pad := by
      rw [List.append_assoc, ← List.replicate_add, Nat.sub_add_cancel hkle]
      rfl
    exact List.append_cancel_right (h.symm.trans hsplit)
  have hlen := hletters.length
  have hne : text ≠ [] := by
    intro he
    rw [he, List.length_nil] at hlen
    omega
  rw [base64Decode, if_neg hne, (scanPadding_eq_some text).mpr ⟨_, hletters⟩]
  dsimp only
  rw [if_neg (by omega), if_pos (by omega)]

/-! ### Lengths -/

theorem toInt_eq (n : Nat) : toInt n =
    if n % 4294967296 < 2147483648 then ((n % 4294967296 : Nat) : Int)
    else ((n % 4294967296 : Nat) : Int) - 4294967296 := by
  have h : toInt n = Int.bmod n 4294967296 := rfl
  rw [Int.bmod_def] at h
  by_cases hlt : n % 4294967296 < 2147483648
  · rw [if_pos hlt, h, if_pos (by omega)]
    omega
  · rw [if_neg hlt, h, if_neg (by omega)]
    omega

theorem toInt_of_lt {n : Nat} (h : n < 2147483648) : toInt n = n := by
  have heq := toInt_eq n
  omega

theorem toInt_lt (n : Nat) : toInt n < 2147483648 := by
  have heq := toInt_eq n
  omega

theorem le_toInt (n : Nat) : -2147483648 ≤ toInt n := by
  have heq := toInt_eq n
  omega

theorem toInt_le (n : Nat) : toInt n ≤ n := by
  have heq := toInt_eq n
  omega

/-- A size that is a multiple of four stays one. -/
theorem toInt_mod {n : Nat} (h : n % 4 = 0) : toInt n % 4 = 0 := by
  have heq := toInt_eq n
  omega

theorem toInt_neg {n : Nat} (h : 2147483648 ≤ n) (h' : n < 4294967296) : toInt n < 0 := by
  have heq := toInt_eq n
  omega

theorem toSize_natCast {n : Nat} (h : n < 18446744073709551616) : toSize (n : Int) = n := by
  show ((n : Int) % 18446744073709551616).toNat = n
  omega

/-- A negative number of moderate size is more than a buffer can hold. -/
theorem kMaxSize_lt_toSize {i : Int} (h : i < 0) (h' : -2147483648 ≤ i) : kMaxSize < toSize i := by
  show 9223372036854775807 < (i % 18446744073709551616).toNat
  omega

theorem length_fillBuffer (size : Nat) (output : Str) : (fillBuffer size output).length = size := by
  rw [fillBuffer, List.length_append, List.length_take, List.length_replicate]
  omega

theorem take_fillBuffer {size n : Nat} {output : Str} (h : n ≤ output.length) (h' : n ≤ size) :
    (fillBuffer size output).take n = output.take n := by
  rw [fillBuffer, List.take_append_of_le_length (by rw [List.length_take]; omega), List.take_take,
    Nat.min_eq_left h']

theorem resize_of_le {what buffer : Str} {n : Nat} (h : n ≤ buffer.length) (hmax : n ≤ kMaxSize) :
    resize what buffer n = .ok (buffer.take n) := by
  rw [resize, if_neg (Nat.not_lt.mpr hmax), Nat.sub_eq_zero_of_le h, List.replicate_zero,
    List.append_nil]

/-! ### What OpenSSL makes of it -/

section Evp

variable {evp : Evp} (hevp : evp.ImplementsRfc)
include hevp

/-- **`encode` below `2 ^ 31` characters.** -/
theorem encode_short {bytes : Str} (h : (Base64.encode bytes).length < 2147483648) :
    base64Encode evp bytes = .ok (Base64.encode bytes) := by
  have hlen := Base64.length_encode bytes
  have hbytes : bytes.length < 2147483648 := by omega
  rw [base64Encode]
  by_cases hz : bytes.length = 0
  · rw [if_pos hz, List.length_eq_zero_iff.mp hz]
    rfl
  · rw [if_neg hz, toInt_of_lt hbytes, hevp.encode bytes hbytes]
    dsimp only
    have hsize : (bytes.length + 2) / 3 * 4 = (Base64.encode bytes).length := by omega
    rw [toInt_of_lt h, toSize_natCast (by omega), hsize,
      resize_of_le (by rw [length_fillBuffer]) (by rw [kMaxSize]; omega),
      take_fillBuffer (Nat.le_refl _) (Nat.le_refl _), List.take_length]

/-- **`encode` from `2 ^ 31` characters on**: the count is not an `int`. -/
theorem encode_long {bytes : Str} (hbytes : bytes.length < 2147483648)
    (h : 2147483648 ≤ (Base64.encode bytes).length) :
    base64Encode evp bytes = .error (.lengthError (lit "basic_string::_M_replace_aux")) := by
  have hlen := Base64.length_encode bytes
  rw [base64Encode, if_neg (by omega), toInt_of_lt hbytes, hevp.encode bytes hbytes]
  dsimp only
  rw [resize, if_pos]
  exact kMaxSize_lt_toSize (toInt_neg h (by omega)) (le_toInt _)

/-- **`decode` of a text that passed the checks**: `n` is what is left of its length. -/
theorem decodeQuanta_eq {p : Nat} {text : Str} {values : List Nat} (h : IsLetters p text values)
    (hp : p ≤ 2) (hmod : text.length % 4 = 0) {n : Nat} (hn : (toInt text.length).toNat = n) :
    decodeQuanta evp text p =
      if p ≤ 3 * (n / 4) then
        .ok ⟨(Base64.decodeBlocks (text.take n)).take (3 * (n / 4) - p), .ok⟩
      else .error (.lengthError (lit "vector::_M_default_append")) := by
  have hle := toInt_le text.length
  have hlt := toInt_lt text.length
  have hchars : ∀ c ∈ text, (Base64.sextet? c).isSome = true ∨ c = Base64.pad := by
    intro c hc
    rw [h.2, List.mem_append] at hc
    rcases hc with hc | hc
    · obtain ⟨v, hv, rfl⟩ := List.mem_map.mp hc
      exact .inl (by rw [Base64.sextet?_letter (h.1 v hv)]; rfl)
    · exact .inr (List.eq_of_mem_replicate hc)
  rw [decodeQuanta, hevp.decode text _ hle (toInt_mod hmod) hchars, hn]
  dsimp only
  rw [toSize_natCast (by omega)]
  by_cases hpad : p ≤ 3 * (n / 4)
  · have hsize : ((3 * (n / 4) : Nat) : Int) - (p : Int) = ((3 * (n / 4) - p : Nat) : Int) := by
      omega
    have hout : (Base64.decodeBlocks (text.take n)).length = 3 * (n / 4) := by
      rw [Base64.length_decodeBlocks, List.length_take, Nat.min_eq_left (by omega)]
    rw [if_pos hpad, hsize, toSize_natCast (by omega),
      resize_of_le (by rw [length_fillBuffer]; omega) (by rw [kMaxSize]; omega),
      take_fillBuffer (by omega) (by omega)]
    rfl
  · rw [if_neg hpad, resize, if_pos]
    · rfl
    · exact kMaxSize_lt_toSize (by omega) (by omega)

/-- **`decode` below `2 ^ 31` characters.** -/
theorem decode_short {bytes : Str} (h : (Base64.encode bytes).length < 2147483648) :
    base64Decode evp (Base64.encode bytes) = .ok ⟨bytes, .ok⟩ := by
  by_cases hne : bytes = []
  · rw [hne]
    rfl
  · have hletters := isLetters_encode bytes
    have hlen := Base64.length_encode bytes
    have hsum := Base64.length_sextets bytes
    have hle := Base64.padding_le bytes.length
    have hpos := List.length_pos_iff.mpr hne
    have hn : (toInt (Base64.encode bytes).length).toNat = (Base64.encode bytes).length := by
      rw [toInt_of_lt h, Int.toNat_natCast]
    rw [decode_of_encode evp hne, decodeQuanta_eq hevp hletters hle (by omega) hn,
      if_pos (by omega), List.take_length]
    have htake := Base64.decodeBlocks_take (Base64.sextets bytes)
      (Base64.lt_of_mem_sextets bytes) hle (by omega)
    rw [← hletters.length, Base64.octets_sextets] at htake
    exact congrArg (fun b => Except.ok (Base64Result.mk b .ok)) htake

/-- **`decode` from `2 ^ 31` characters on**: it throws, or returns the bytes of a shorter text. -/
theorem decode_long {bytes : Str} (h : 2147483648 ≤ (Base64.encode bytes).length) :
    (Base64.padding bytes.length ≠ 0 ∧ toInt (Base64.encode bytes).length ≤ 0 ∧
      base64Decode evp (Base64.encode bytes) =
        .error (.lengthError (lit "vector::_M_default_append"))) ∨
    (¬ (Base64.padding bytes.length ≠ 0 ∧ toInt (Base64.encode bytes).length ≤ 0) ∧
      ∃ bytes', base64Decode evp (Base64.encode bytes) = .ok ⟨bytes', .ok⟩ ∧
        (Base64.encode bytes').length < 2147483648) := by
  have hlen := Base64.length_encode bytes
  have hne : bytes ≠ [] := by
    intro he
    have hnil : bytes.length = 0 := List.length_eq_zero_iff.mpr he
    omega
  have hle := Base64.padding_le bytes.length
  have hmod : (Base64.encode bytes).length % 4 = 0 := by omega
  have hmod' := toInt_mod hmod
  obtain ⟨n, hn⟩ : ∃ n, (toInt (Base64.encode bytes).length).toNat = n := ⟨_, rfl⟩
  have hlt : n < 2147483648 := by
    have hint := toInt_lt (Base64.encode bytes).length
    omega
  rw [decode_of_encode evp hne, decodeQuanta_eq hevp (isLetters_encode bytes) hle hmod hn]
  by_cases hcut : Base64.padding bytes.length ≠ 0 ∧ toInt (Base64.encode bytes).length ≤ 0
  · exact .inl ⟨hcut.1, hcut.2, by rw [if_neg (by omega)]⟩
  · refine .inr ⟨hcut, _, by rw [if_pos (by omega)], ?_⟩
    have htake := List.length_take_le (3 * (n / 4) - Base64.padding bytes.length)
      (Base64.decodeBlocks ((Base64.encode bytes).take n))
    refine Nat.lt_of_le_of_lt ?_ hlt
    rw [Base64.length_encode]
    omega

end Evp

end LivekitBridge
