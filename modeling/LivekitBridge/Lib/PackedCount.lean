import Mathlib.Data.List.Induction

/-!
# A flag and a count in one word

The top bit of the word is the flag and the bits below it are the count, so that both change in one
atomic operation.  `Packed word flag count` says what the word holds.  The operations act on one of
the two as long as the count is below the top bit: an increment does not carry into the flag, and a
decrement of a positive count does not borrow from it.

`Counts word count` asks for no bound: the count may have carried into the flag and beyond.  What is
left then is that the word below the flag is 0 when the count is (`Counts.and_below`).
-/

namespace LivekitBridge.Lib

variable {w : Nat} {word : BitVec (w + 1)} {flag : Bool} {count : Nat}

structure Packed (word : BitVec (w + 1)) (flag : Bool) (count : Nat) : Prop where
  bound : count < (BitVec.intMin (w + 1)).toNat
  toNat : word.toNat = count + if flag then (BitVec.intMin (w + 1)).toNat else 0

theorem Packed.msb (h : Packed word flag count) : word.msb = flag := by
  have hbound := h.bound
  have hword := h.toNat
  have htop : (BitVec.intMin (w + 1)).toNat = 2 ^ w :=
    BitVec.toNat_intMin_of_pos (Nat.succ_pos w)
  rw [htop] at hbound hword
  rw [BitVec.msb_eq_decide, Nat.add_sub_cancel, hword]
  cases flag with
  | false => simpa using hbound
  | true => simp

theorem Packed.and_top (h : Packed word flag count) :
    word &&& BitVec.intMin (w + 1) = 0 ↔ flag = false := by
  rw [BitVec.intMin, BitVec.and_twoPow, Nat.add_sub_cancel, ← h.msb, BitVec.msb_eq_getLsbD_last,
    Nat.add_sub_cancel]
  cases word.getLsbD w with
  | false => simp
  | true => simp

/-- Masking the top bit out leaves the count. -/
theorem Packed.and_below (h : Packed word flag count) :
    (word &&& ~~~BitVec.intMin (w + 1)).toNat = count := by
  have hbound := h.bound
  have hword := h.toNat
  have htop : (BitVec.intMin (w + 1)).toNat = 2 ^ w :=
    BitVec.toNat_intMin_of_pos (Nat.succ_pos w)
  rw [htop] at hbound hword
  have hmask : (~~~BitVec.intMin (w + 1)).toNat = 2 ^ w - 1 := by
    rw [BitVec.toNat_not, htop, Nat.pow_succ]
    omega
  rw [BitVec.toNat_and, hmask, Nat.and_two_pow_sub_one_eq_mod, hword]
  cases flag with
  | false => simpa using Nat.mod_eq_of_lt hbound
  | true => simpa using Nat.mod_eq_of_lt hbound

theorem packed_zero : Packed (0 : BitVec (w + 1)) false 0 where
  bound := by
    rw [BitVec.toNat_intMin_of_pos (Nat.succ_pos w)]
    exact Nat.two_pow_pos _
  toNat := by simp

/-- An increment counts one more. -/
theorem Packed.succ (h : Packed word flag count)
    (hbound : count + 1 < (BitVec.intMin (w + 1)).toNat) : Packed (word + 1) flag (count + 1) where
  bound := hbound
  toNat := by
    have hword := h.toNat
    have htop : (BitVec.intMin (w + 1)).toNat = 2 ^ w :=
      BitVec.toNat_intMin_of_pos (Nat.succ_pos w)
    rw [htop] at hbound hword ⊢
    have hone : (1 : BitVec (w + 1)).toNat = 1 := by simp
    rw [BitVec.toNat_add, hone, hword, Nat.mod_eq_of_lt, Nat.add_right_comm]
    rw [Nat.pow_succ]
    cases flag with
    | false => simp; omega
    | true => simp; omega

/-- A decrement counts one less. -/
theorem Packed.pred (h : Packed word flag (count + 1)) : Packed (word - 1) flag count where
  bound := Nat.lt_of_succ_lt h.bound
  toNat := by
    have hword := h.toNat
    have hone : (1 : BitVec (w + 1)).toNat = 1 := by simp
    rw [BitVec.toNat_sub_of_le, hone, hword, Nat.add_right_comm, Nat.add_sub_cancel]
    rw [BitVec.le_def, hone, hword]
    omega

theorem Packed.or_top (h : Packed word flag count) :
    Packed (word ||| BitVec.intMin (w + 1)) true count where
  bound := h.bound
  toNat := by
    have hbound := h.bound
    have hword := h.toNat
    have htop : (BitVec.intMin (w + 1)).toNat = 2 ^ w :=
      BitVec.toNat_intMin_of_pos (Nat.succ_pos w)
    rw [htop] at hbound hword
    have hsplit : count + 2 ^ w = 2 ^ w ||| count := by
      have hor := Nat.two_pow_add_eq_or_of_lt hbound 1
      rw [Nat.mul_one] at hor
      rw [← hor, Nat.add_comm]
    rw [BitVec.toNat_or, htop, hword, if_pos rfl, hsplit]
    cases flag with
    | false => simp [Nat.or_comm]
    | true =>
      rw [if_pos rfl, hsplit, Nat.or_comm, ← Nat.or_assoc, Nat.or_self]

/-! ### Counts that may carry -/

/-- The word counts to `count`, whatever the flag is and however far the count has carried. -/
def Counts (word : BitVec (w + 1)) (count : Nat) : Prop :=
  word = BitVec.ofNat (w + 1) count ∨ word = BitVec.ofNat (w + 1) count + BitVec.intMin (w + 1)

theorem counts_zero : Counts (0 : BitVec (w + 1)) 0 := .inl rfl

theorem intMin_add_intMin : BitVec.intMin (w + 1) + BitVec.intMin (w + 1) = 0 := by
  apply BitVec.eq_of_toNat_eq
  rw [BitVec.toNat_add, BitVec.toNat_intMin_of_pos (Nat.succ_pos w)]
  simp [Nat.pow_succ, ← Nat.mul_two]

theorem Counts.succ (h : Counts word count) : Counts (word + 1) (count + 1) := by
  have hnext : BitVec.ofNat (w + 1) (count + 1) = BitVec.ofNat (w + 1) count + 1 :=
    BitVec.ofNat_add count 1
  rcases h with rfl | rfl
  · exact .inl hnext.symm
  · refine .inr ?_
    rw [hnext, BitVec.add_assoc, BitVec.add_comm (BitVec.intMin _) 1, ← BitVec.add_assoc]

theorem Counts.pred (h : Counts word (count + 1)) : Counts (word - 1) count := by
  have hnext : BitVec.ofNat (w + 1) (count + 1) = BitVec.ofNat (w + 1) count + 1 :=
    BitVec.ofNat_add count 1
  rcases h with rfl | rfl
  · left
    rw [hnext, BitVec.add_sub_cancel]
  · right
    rw [hnext, BitVec.add_assoc, BitVec.add_comm 1, ← BitVec.add_assoc, BitVec.add_sub_cancel]

/-- Setting a bit that is clear adds it. -/
theorem or_top_cases (word : BitVec (w + 1)) : word ||| BitVec.intMin (w + 1) = word ∨
    word ||| BitVec.intMin (w + 1) = word + BitVec.intMin (w + 1) := by
  have htop : ∀ i, (BitVec.intMin (w + 1)).getLsbD i = decide (i = w) := by
    intro i
    simp [BitVec.getLsbD_intMin]
  cases hlast : word.getLsbD w with
  | true =>
    left
    refine BitVec.eq_of_getLsbD_eq fun i _ => ?_
    rw [BitVec.getLsbD_or, htop]
    by_cases hi : i = w
    · rw [hi, hlast, Bool.true_or]
    · rw [decide_eq_false hi, Bool.or_false]
  | false =>
    right
    refine (BitVec.add_eq_or_of_and_eq_zero _ _ (BitVec.eq_of_getLsbD_eq fun i _ => ?_)).symm
    rw [BitVec.getLsbD_and, htop, BitVec.getLsbD_zero]
    by_cases hi : i = w
    · rw [hi, hlast, Bool.false_and]
    · rw [decide_eq_false hi, Bool.and_false]

theorem Counts.or_top (h : Counts word count) : Counts (word ||| BitVec.intMin (w + 1)) count := by
  rcases or_top_cases word with heq | heq
  · rw [heq]
    exact h
  · rw [heq]
    rcases h with rfl | rfl
    · exact .inr rfl
    · left
      rw [BitVec.add_assoc, intMin_add_intMin]
      exact BitVec.add_zero _

theorem Counts.and_below (h : Counts word 0) : word &&& ~~~BitVec.intMin (w + 1) = 0 := by
  rcases h with rfl | rfl
  · simp
  · simp

end LivekitBridge.Lib
