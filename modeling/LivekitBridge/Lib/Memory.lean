import Mathlib.Data.List.Basic

/-!
# Copies between memories

A memory is a list of cells, and an address is an index into it.  `memcpy` is the copy that C has,
or nothing where it would read or write outside of the memories.  `copyRows` copies a rectangle row
by row, from a memory where the rows are `stride` apart to one where they follow each other.

Both are an `overwrite` of the target; what a block holds after it follows from where the block is
(`slice_overwrite_self`, `slice_overwrite_of_disjoint`).
-/

namespace LivekitBridge.Lib.Memory

universe u

variable {α : Type u}

/-- The `n` cells from `start` on. -/
def slice (memory : List α) (start n : Nat) : List α := (memory.drop start).take n

/-- The memory with these cells from `start` on. -/
def overwrite (memory : List α) (start : Nat) (cells : List α) : List α :=
  memory.take start ++ (cells ++ memory.drop (start + cells.length))

/-- `memcpy(dst + target, src + start, n)` -/
def memcpy (dst : List α) (target : Nat) (src : List α) (start n : Nat) : Option (List α) :=
  if start + n ≤ src.length ∧ target + n ≤ dst.length then
    some (overwrite dst target (slice src start n))
  else none

/-- A loop of `memcpy` over the rows of a rectangle. -/
def copyRows (src : List α) (stride target dstStride width height : Nat) (dst : List α) :
    Option (List α) :=
  (List.range height).foldlM
    (fun dst row => memcpy dst (target + row * dstStride) src (row * stride) width) dst

/-- The rows of a rectangle, one after the other. -/
def packed (src : List α) (stride width height : Nat) : List α :=
  (List.range height).flatMap fun row => slice src (row * stride) width

theorem length_slice {memory : List α} {start n : Nat} (h : start + n ≤ memory.length) :
    (slice memory start n).length = n := by
  rw [slice, List.length_take, List.length_drop]
  omega

theorem length_overwrite {memory cells : List α} {start : Nat}
    (h : start + cells.length ≤ memory.length) :
    (overwrite memory start cells).length = memory.length := by
  rw [overwrite, List.length_append, List.length_append, List.length_take, List.length_drop]
  omega

theorem getElem?_overwrite {memory cells : List α} {start : Nat}
    (h : start + cells.length ≤ memory.length) (i : Nat) :
    (overwrite memory start cells)[i]? =
      if start ≤ i ∧ i < start + cells.length then cells[i - start]? else memory[i]? := by
  have htake : (memory.take start).length = start := by
    rw [List.length_take]
    omega
  unfold overwrite
  by_cases hbefore : i < start
  · rw [List.getElem?_append_left (by omega), List.getElem?_take_of_lt hbefore, if_neg (by omega)]
  · rw [List.getElem?_append_right (by omega), htake]
    by_cases hinside : i < start + cells.length
    · rw [List.getElem?_append_left (by omega), if_pos (by omega)]
    · rw [List.getElem?_append_right (by omega), List.getElem?_drop, if_neg (by omega)]
      congr 1
      omega

theorem getElem?_slice (memory : List α) (start n i : Nat) :
    (slice memory start n)[i]? = if i < n then memory[start + i]? else none := by
  unfold slice
  by_cases hlt : i < n
  · rw [List.getElem?_take_of_lt hlt, List.getElem?_drop, if_pos hlt]
  · rw [if_neg hlt, List.getElem?_eq_none]
    rw [List.length_take]
    omega

/-- The block that was written. -/
theorem slice_overwrite_self {memory cells : List α} {start : Nat}
    (h : start + cells.length ≤ memory.length) :
    slice (overwrite memory start cells) start cells.length = cells := by
  apply List.ext_getElem?
  intro i
  rw [getElem?_slice, getElem?_overwrite h]
  by_cases hlt : i < cells.length
  · rw [if_pos hlt, if_pos (by omega), Nat.add_sub_cancel_left]
  · rw [if_neg hlt, List.getElem?_eq_none (Nat.not_lt.mp hlt)]

/-- A block beside the one that was written. -/
theorem slice_overwrite_of_disjoint {memory cells : List α} {start other n : Nat}
    (h : start + cells.length ≤ memory.length)
    (hdisjoint : other + n ≤ start ∨ start + cells.length ≤ other) :
    slice (overwrite memory start cells) other n = slice memory other n := by
  apply List.ext_getElem?
  intro i
  rw [getElem?_slice, getElem?_slice, getElem?_overwrite h]
  by_cases hlt : i < n
  · rw [if_pos hlt, if_pos hlt, if_neg (by omega)]
  · rw [if_neg hlt, if_neg hlt]

/-- Two blocks, one right after the other, are one. -/
theorem overwrite_overwrite {memory cells more : List α} {start : Nat}
    (h : start + cells.length ≤ memory.length) :
    overwrite (overwrite memory start cells) (start + cells.length) more =
      overwrite memory start (cells ++ more) := by
  have htake : (memory.take start).length = start := by
    rw [List.length_take]
    omega
  unfold overwrite
  rw [← List.append_assoc (memory.take start) cells,
    show start + cells.length = (memory.take start ++ cells).length by
      rw [List.length_append, htake],
    List.take_left, List.drop_append, List.drop_eq_nil_of_le (Nat.le_add_right _ _), List.nil_append,
    List.drop_drop, List.length_append, List.length_append, List.append_assoc, List.append_assoc,
    htake]
  congr 4
  omega

theorem packed_succ (src : List α) (stride width height : Nat) :
    packed src stride width (height + 1) =
      packed src stride width height ++ slice src (height * stride) width := by
  simp [packed, List.range_succ]

theorem length_packed {src : List α} {stride width height : Nat}
    (h : ∀ row < height, row * stride + width ≤ src.length) :
    (packed src stride width height).length = height * width := by
  induction height with
  | zero => simp [packed]
  | succ height ih =>
    rw [packed_succ, List.length_append, ih fun row hrow => h row (Nat.lt_succ_of_lt hrow),
      length_slice (h height (Nat.lt_succ_self height)), Nat.succ_mul]

/-- **A loop over all rows.**  If the rectangle is inside the source and the block inside the target,
no copy fails, and the block holds the rows. -/
theorem copyRows_eq {src dst : List α} {stride target width height : Nat}
    (hsrc : ∀ row < height, row * stride + width ≤ src.length)
    (hdst : target + height * width ≤ dst.length) :
    copyRows src stride target width width height dst =
      some (overwrite dst target (packed src stride width height)) := by
  induction height with
  | zero => simp [copyRows, packed, overwrite]
  | succ height ih =>
    rw [Nat.succ_mul] at hdst
    have hbefore : ∀ row < height, row * stride + width ≤ src.length :=
      fun row hrow => hsrc row (Nat.lt_succ_of_lt hrow)
    have hrow := hsrc height (Nat.lt_succ_self height)
    have hpacked := length_packed hbefore
    have ih := ih hbefore (by omega)
    unfold copyRows at ih ⊢
    rw [List.range_succ, List.foldlM_append, ih]
    have hlength : (overwrite dst target (packed src stride width height)).length = dst.length :=
      length_overwrite (by omega)
    simp only [Option.bind_eq_bind, Option.bind_some, List.foldlM_cons, List.foldlM_nil]
    rw [memcpy, if_pos ⟨hrow, by omega⟩, Option.bind_some, packed_succ, ← hpacked,
      overwrite_overwrite (by omega)]
    rfl

end LivekitBridge.Lib.Memory
