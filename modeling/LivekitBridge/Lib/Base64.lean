import Mathlib.Data.List.Basic
import Mathlib.Tactic.IntervalCases

/-!
# Base64

RFC 4648, section 4.  Three octets are four sextets, and a rest of one or two octets is two or
three sextets whose unused bits are zero; a sextet is written as a letter of the alphabet, and
the last four letters are filled up with `=`.

The two levels are kept apart.  `sextets` and `octets` regroup bits and are inverse to each other
on the lists of sextets that are `Closed`: of a length that octets can have, with zero unused
bits (`octets_sextets`, `sextets_octets`).  `letter` and `sextet?` are the alphabet, and inverse
to each other as well.  `encode` is the first level written with the second.

`decodeBlocks` is what a lenient decoder does: it takes four letters at a time, reads `=` as a
zero, and knows nothing of padding.  Less the octets of the padding, it returns the octets
(`decodeBlocks_take`).
-/

namespace LivekitBridge.Lib.Base64

/-! ### Sextets -/

/-- The sextets of a list of octets. -/
def sextets : List UInt8 → List Nat
  | [] => []
  | [a] => [a.toNat / 4, a.toNat % 4 * 16]
  | [a, b] => [a.toNat / 4, a.toNat % 4 * 16 + b.toNat / 16, b.toNat % 16 * 4]
  | a :: b :: c :: rest =>
    a.toNat / 4 :: (a.toNat % 4 * 16 + b.toNat / 16) :: (b.toNat % 16 * 4 + c.toNat / 64) ::
      c.toNat % 64 :: sextets rest

/-- The octet of the first two of four sextets. -/
def octet₁ (v₀ v₁ : Nat) : UInt8 := UInt8.ofNat (v₀ * 4 + v₁ / 16)

/-- The octet of the middle two of four sextets. -/
def octet₂ (v₁ v₂ : Nat) : UInt8 := UInt8.ofNat (v₁ % 16 * 16 + v₂ / 4)

/-- The octet of the last two of four sextets. -/
def octet₃ (v₂ v₃ : Nat) : UInt8 := UInt8.ofNat (v₂ % 4 * 64 + v₃)

/-- The octets of a list of sextets. -/
def octets : List Nat → List UInt8
  | v₀ :: v₁ :: v₂ :: v₃ :: rest => octet₁ v₀ v₁ :: octet₂ v₁ v₂ :: octet₃ v₂ v₃ :: octets rest
  | [v₀, v₁, v₂] => [octet₁ v₀ v₁, octet₂ v₁ v₂]
  | [v₀, v₁] => [octet₁ v₀ v₁]
  | _ => []

/-- Sextets that octets have: their number, and the unused bits of the last one. -/
def Closed : List Nat → Prop
  | _ :: _ :: _ :: _ :: rest => Closed rest
  | [_, _, v₂] => v₂ % 4 = 0
  | [_, v₁] => v₁ % 16 = 0
  | [_] => False
  | [] => True

theorem octet₁_of (a : UInt8) {x : Nat} (hx : x < 16) :
    octet₁ (a.toNat / 4) (a.toNat % 4 * 16 + x) = a := by
  have h : a.toNat / 4 * 4 + (a.toNat % 4 * 16 + x) / 16 = a.toNat := by omega
  rw [octet₁, h, UInt8.ofNat_toNat]

theorem octet₂_of (b : UInt8) (k : Nat) {y : Nat} (hy : y < 4) :
    octet₂ (k * 16 + b.toNat / 16) (b.toNat % 16 * 4 + y) = b := by
  have hb : b.toNat < 256 := b.toNat_lt
  have h : (k * 16 + b.toNat / 16) % 16 * 16 + (b.toNat % 16 * 4 + y) / 4 = b.toNat := by omega
  rw [octet₂, h, UInt8.ofNat_toNat]

theorem octet₃_of (c : UInt8) (k : Nat) :
    octet₃ (k * 4 + c.toNat / 64) (c.toNat % 64) = c := by
  have hc : c.toNat < 256 := c.toNat_lt
  have h : (k * 4 + c.toNat / 64) % 4 * 64 + c.toNat % 64 = c.toNat := by omega
  rw [octet₃, h, UInt8.ofNat_toNat]

theorem octet₁_toNat {v₀ v₁ : Nat} (h₀ : v₀ < 64) (h₁ : v₁ < 64) :
    (octet₁ v₀ v₁).toNat = v₀ * 4 + v₁ / 16 :=
  UInt8.toNat_ofNat_of_lt (show v₀ * 4 + v₁ / 16 < 256 by omega)

theorem octet₂_toNat {v₁ v₂ : Nat} (h₂ : v₂ < 64) :
    (octet₂ v₁ v₂).toNat = v₁ % 16 * 16 + v₂ / 4 :=
  UInt8.toNat_ofNat_of_lt (show v₁ % 16 * 16 + v₂ / 4 < 256 by omega)

theorem octet₃_toNat {v₂ v₃ : Nat} (h₃ : v₃ < 64) :
    (octet₃ v₂ v₃).toNat = v₂ % 4 * 64 + v₃ :=
  UInt8.toNat_ofNat_of_lt (show v₂ % 4 * 64 + v₃ < 256 by omega)

/-- **The sextets of some octets have these octets.** -/
theorem octets_sextets (bytes : List UInt8) : octets (sextets bytes) = bytes := by
  induction bytes using sextets.induct with
  | case1 => rfl
  | case2 a =>
    rw [sextets, octets]
    exact congrArg (fun x => [x]) (octet₁_of a (show (0 : Nat) < 16 by omega))
  | case3 a b =>
    have hb : b.toNat < 256 := b.toNat_lt
    rw [sextets, octets, octet₁_of a (by omega)]
    exact congrArg (fun x => [a, x]) (octet₂_of b _ (show (0 : Nat) < 4 by omega))
  | case4 a b c rest ih =>
    have hb : b.toNat < 256 := b.toNat_lt
    have hc : c.toNat < 256 := c.toNat_lt
    rw [sextets, octets, octet₁_of a (by omega), octet₂_of b _ (by omega), octet₃_of c, ih]

/-- The sextets of some octets are below 64. -/
theorem lt_of_mem_sextets (bytes : List UInt8) : ∀ v ∈ sextets bytes, v < 64 := by
  induction bytes using sextets.induct with
  | case1 => simp [sextets]
  | case2 a =>
    have ha : a.toNat < 256 := a.toNat_lt
    simp only [sextets, List.mem_cons, List.not_mem_nil, or_false]
    omega
  | case3 a b =>
    have ha : a.toNat < 256 := a.toNat_lt
    have hb : b.toNat < 256 := b.toNat_lt
    simp only [sextets, List.mem_cons, List.not_mem_nil, or_false]
    omega
  | case4 a b c rest ih =>
    have ha : a.toNat < 256 := a.toNat_lt
    have hb : b.toNat < 256 := b.toNat_lt
    have hc : c.toNat < 256 := c.toNat_lt
    intro v hv
    simp only [sextets, List.mem_cons] at hv
    rcases hv with hv | hv | hv | hv | hv
    · omega
    · omega
    · omega
    · omega
    · exact ih v hv

theorem closed_sextets (bytes : List UInt8) : Closed (sextets bytes) := by
  induction bytes using sextets.induct with
  | case1 => trivial
  | case2 a => show a.toNat % 4 * 16 % 16 = 0; omega
  | case3 a b => show b.toNat % 16 * 4 % 4 = 0; omega
  | case4 a b c rest ih => exact ih

/-- **Closed sextets are those of their octets.** -/
theorem sextets_octets (values : List Nat) (hlt : ∀ v ∈ values, v < 64) (h : Closed values) :
    sextets (octets values) = values := by
  induction values using octets.induct with
  | case1 v₀ v₁ v₂ v₃ rest ih =>
    have h₀ : v₀ < 64 := hlt v₀ (by simp)
    have h₁ : v₁ < 64 := hlt v₁ (by simp)
    have h₂ : v₂ < 64 := hlt v₂ (by simp)
    have h₃ : v₃ < 64 := hlt v₃ (by simp)
    have hrest := ih (fun v hv => hlt v (by simp [hv])) h
    rw [octets, sextets, hrest, octet₁_toNat h₀ h₁, octet₂_toNat h₂, octet₃_toNat h₃]
    have e₀ : (v₀ * 4 + v₁ / 16) / 4 = v₀ := by omega
    have e₁ : (v₀ * 4 + v₁ / 16) % 4 * 16 + (v₁ % 16 * 16 + v₂ / 4) / 16 = v₁ := by omega
    have e₂ : (v₁ % 16 * 16 + v₂ / 4) % 16 * 4 + (v₂ % 4 * 64 + v₃) / 64 = v₂ := by omega
    have e₃ : (v₂ % 4 * 64 + v₃) % 64 = v₃ := by omega
    rw [e₀, e₁, e₂, e₃]
  | case2 v₀ v₁ v₂ =>
    have h₀ : v₀ < 64 := hlt v₀ (by simp)
    have h₁ : v₁ < 64 := hlt v₁ (by simp)
    have h₂ : v₂ < 64 := hlt v₂ (by simp)
    have hz : v₂ % 4 = 0 := h
    rw [octets, sextets, octet₁_toNat h₀ h₁, octet₂_toNat h₂]
    have e₀ : (v₀ * 4 + v₁ / 16) / 4 = v₀ := by omega
    have e₁ : (v₀ * 4 + v₁ / 16) % 4 * 16 + (v₁ % 16 * 16 + v₂ / 4) / 16 = v₁ := by omega
    have e₂ : (v₁ % 16 * 16 + v₂ / 4) % 16 * 4 = v₂ := by omega
    rw [e₀, e₁, e₂]
  | case3 v₀ v₁ =>
    have h₀ : v₀ < 64 := hlt v₀ (by simp)
    have h₁ : v₁ < 64 := hlt v₁ (by simp)
    have hz : v₁ % 16 = 0 := h
    rw [octets, sextets, octet₁_toNat h₀ h₁]
    have e₀ : (v₀ * 4 + v₁ / 16) / 4 = v₀ := by omega
    have e₁ : (v₀ * 4 + v₁ / 16) % 4 * 16 = v₁ := by omega
    rw [e₀, e₁]
  | case4 values h₄ h₃ h₂ =>
    -- what is left is the empty list, and a single sextet is not closed
    match values, h₄, h₃, h₂, h with
    | [], _, _, _, _ => rfl
    | [_], _, _, _, hf => exact hf.elim
    | [a, b], _, _, h₂, _ => exact (h₂ a b rfl).elim
    | [a, b, c], _, h₃, _, _ => exact (h₃ a b c rfl).elim
    | a :: b :: c :: d :: r, h₄, _, _, _ => exact (h₄ a b c d r rfl).elim

/-- `Closed` in terms of the number of sextets and of the last one. -/
theorem closed_iff (values : List Nat) :
    Closed values ↔ values.length % 4 ≠ 1 ∧ ∀ w ∈ values.getLast?,
      (values.length % 4 = 2 → w % 16 = 0) ∧ (values.length % 4 = 3 → w % 4 = 0) := by
  induction values using Closed.induct with
  | case1 v₀ v₁ v₂ v₃ rest ih =>
    have hlen : (v₀ :: v₁ :: v₂ :: v₃ :: rest).length % 4 = rest.length % 4 := by
      simp only [List.length_cons]
      omega
    rw [Closed, ih, hlen]
    cases rest with
    | nil => simp
    | cons v rest => rfl
  | case2 v₀ v₁ v₂ => simp [Closed]
  | case3 v₀ v₁ => simp [Closed]
  | case4 v₀ => simp [Closed]
  | case5 => simp [Closed]

/-! ### Letters -/

/-- The letter of a sextet. -/
def letter (v : Nat) : UInt8 :=
  if v < 26 then UInt8.ofNat (0x41 + v)
  else if v < 52 then UInt8.ofNat (0x61 + (v - 26))
  else if v < 62 then UInt8.ofNat (0x30 + (v - 52))
  else if v = 62 then 0x2B
  else 0x2F

/-- The sextet of a letter; none for any other byte. -/
def sextet? (c : UInt8) : Option Nat :=
  if 0x41 ≤ c ∧ c ≤ 0x5A then some (c.toNat - 0x41)
  else if 0x61 ≤ c ∧ c ≤ 0x7A then some (26 + (c.toNat - 0x61))
  else if 0x30 ≤ c ∧ c ≤ 0x39 then some (52 + (c.toNat - 0x30))
  else if c = 0x2B then some 62
  else if c = 0x2F then some 63
  else none

/-- `'='` -/
def pad : UInt8 := 0x3D

@[simp] theorem sextet?_pad : sextet? pad = none := by decide

@[simp] theorem sextet?_letter {v : Nat} (h : v < 64) : sextet? (letter v) = some v := by
  have hall : ∀ v < 64, sextet? (letter v) = some v := by decide
  exact hall v h

theorem letter_of_sextet? {c : UInt8} {v : Nat} (h : sextet? c = some v) :
    v < 64 ∧ letter v = c := by
  have hall : ∀ n < 256, ∀ v ∈ sextet? (UInt8.ofNat n), v < 64 ∧ letter v = UInt8.ofNat n := by
    decide +kernel
  have hc := hall c.toNat c.toNat_lt
  rw [UInt8.ofNat_toNat] at hc
  exact hc v h

theorem letter_ne_pad {v : Nat} (h : v < 64) : letter v ≠ pad := by
  intro he
  have hv := sextet?_letter h
  rw [he, sextet?_pad] at hv
  cases hv

/-! ### Encoding -/

/-- How many `=` follow the letters of `n` octets. -/
def padding (n : Nat) : Nat := (3 - n % 3) % 3

/-- The text of some octets. -/
def encode (bytes : List UInt8) : List UInt8 :=
  (sextets bytes).map letter ++ List.replicate (padding bytes.length) pad

theorem padding_le (n : Nat) : padding n ≤ 2 := by
  rw [padding]
  omega

theorem length_sextets (bytes : List UInt8) :
    (sextets bytes).length + padding bytes.length = 4 * ((bytes.length + 2) / 3) := by
  induction bytes using sextets.induct with
  | case1 => rfl
  | case2 a => simp [sextets, padding]
  | case3 a b => simp [sextets, padding]
  | case4 a b c rest ih =>
    simp only [sextets, List.length_cons, padding] at ih ⊢
    omega

/-- **The length of an encoding.** -/
theorem length_encode (bytes : List UInt8) :
    (encode bytes).length = 4 * ((bytes.length + 2) / 3) := by
  rw [encode, List.length_append, List.length_map, List.length_replicate, length_sextets]

/-- **What is an encoding**: the letters of closed sextets, filled up to a multiple of four. -/
theorem encode_octets {values : List Nat} {p : Nat} (hlt : ∀ v ∈ values, v < 64)
    (h : Closed values) (hp : p ≤ 2) (hlen : (values.length + p) % 4 = 0) :
    encode (octets values) = values.map letter ++ List.replicate p pad := by
  have hs : sextets (octets values) = values := sextets_octets values hlt h
  have hpad : padding (octets values).length = p := by
    have hsum := length_sextets (octets values)
    rw [hs] at hsum
    have hle := padding_le (octets values).length
    omega
  rw [encode, hs, hpad]

theorem encode_ne_nil {bytes : List UInt8} (h : bytes ≠ []) : encode bytes ≠ [] := by
  intro he
  have hlen := length_encode bytes
  rw [he, List.length_nil] at hlen
  have hpos := List.length_pos_iff.mpr h
  omega

/-! ### Decoding blocks -/

/-- The sextet of a letter, and zero for `=`. -/
def value (c : UInt8) : Nat := (sextet? c).getD 0

/-- Four letters at a time, each three octets. -/
def decodeBlocks : List UInt8 → List UInt8
  | c₀ :: c₁ :: c₂ :: c₃ :: rest =>
    octet₁ (value c₀) (value c₁) :: octet₂ (value c₁) (value c₂) ::
      octet₃ (value c₂) (value c₃) :: decodeBlocks rest
  | _ => []

@[simp] theorem value_letter {v : Nat} (h : v < 64) : value (letter v) = v := by
  rw [value, sextet?_letter h, Option.getD_some]

theorem length_decodeBlocks (text : List UInt8) :
    (decodeBlocks text).length = 3 * (text.length / 4) := by
  induction text using decodeBlocks.induct with
  | case1 c₀ c₁ c₂ c₃ rest ih =>
    simp only [decodeBlocks, List.length_cons, ih]
    omega
  | case2 text h =>
    match text, h with
    | [], _ => rfl
    | [_], _ => simp [decodeBlocks]
    | [_, _], _ => simp [decodeBlocks]
    | [_, _, _], _ => simp [decodeBlocks]
    | a :: b :: c :: d :: r, h => exact (h a b c d r rfl).elim

/-- **Decoding by blocks returns the octets**, followed by one for each `=`. -/
theorem decodeBlocks_take (values : List Nat) (hlt : ∀ v ∈ values, v < 64) {p : Nat} (hp : p ≤ 2)
    (hlen : (values.length + p) % 4 = 0) :
    (decodeBlocks (values.map letter ++ List.replicate p pad)).take
      (3 * ((values.length + p) / 4) - p) = octets values := by
  have hpadValue : value pad = 0 := by decide
  induction values using octets.induct with
  | case1 v₀ v₁ v₂ v₃ rest ih =>
    have h₀ : v₀ < 64 := hlt v₀ (by simp)
    have h₁ : v₁ < 64 := hlt v₁ (by simp)
    have h₂ : v₂ < 64 := hlt v₂ (by simp)
    have h₃ : v₃ < 64 := hlt v₃ (by simp)
    have hrest := ih (fun v hv => hlt v (by simp [hv])) (by simp only [List.length_cons] at hlen; omega)
    have hcount : 3 * (((v₀ :: v₁ :: v₂ :: v₃ :: rest).length + p) / 4) - p =
        (3 * ((rest.length + p) / 4) - p) + 1 + 1 + 1 := by
      simp only [List.length_cons] at hlen ⊢
      omega
    rw [hcount]
    simp only [List.map_cons, List.cons_append, decodeBlocks, octets, List.take_succ_cons,
      value_letter h₀, value_letter h₁, value_letter h₂, value_letter h₃, hrest]
  | case2 v₀ v₁ v₂ =>
    obtain rfl : p = 1 := by simp only [List.length_cons, List.length_nil] at hlen; omega
    simp [decodeBlocks, octets, value_letter (hlt v₀ (by simp)), value_letter (hlt v₁ (by simp)),
      value_letter (hlt v₂ (by simp))]
  | case3 v₀ v₁ =>
    obtain rfl : p = 2 := by simp only [List.length_cons, List.length_nil] at hlen; omega
    simp [decodeBlocks, octets, List.replicate, value_letter (hlt v₀ (by simp)),
      value_letter (hlt v₁ (by simp)), hpadValue, octet₁]
  | case4 values h₄ h₃ h₂ =>
    match values, h₄, h₃, h₂, hlen with
    | [], _, _, _, hlen =>
      obtain rfl : p = 0 := by simp only [List.length_nil] at hlen; omega
      rfl
    | [_], _, _, _, hlen => simp only [List.length_cons, List.length_nil] at hlen; omega
    | [a, b], _, _, h₂, _ => exact (h₂ a b rfl).elim
    | [a, b, c], _, h₃, _, _ => exact (h₃ a b c rfl).elim
    | a :: b :: c :: d :: r, h₄, _, _, _ => exact (h₄ a b c d r rfl).elim

end LivekitBridge.Lib.Base64
