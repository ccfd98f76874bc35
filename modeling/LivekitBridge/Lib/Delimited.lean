import Mathlib.Algebra.Ring.Parity
import Mathlib.Data.List.DropRight
import Mathlib.Data.List.Induction

/-!
# Delimited texts with escapes

A text ends at the first delimiter that is not escaped; an escape that is not itself escaped
escapes what comes after it.  There are two ways to say where that is.  A reader goes from left to
right and remembers whether what it reads is escaped (`readFrom`).  One can also look at a
delimiter and count the escapes that stand right before it: an odd number escapes it.

`escapedAfter_eq` says that the reader remembers whether that number is odd, and
`read_eq_some_iff` that both find the same end.
-/

namespace LivekitBridge.Lib.Delimited

variable {α : Type} [DecidableEq α]

/-- The number of escapes that the text ends with. -/
def trailing (esc : α) (text : List α) : Nat := (text.rtakeWhile fun x => decide (x = esc)).length

/-- Whether what comes after the text is escaped. -/
def escapedAfter (esc : α) (escaped : Bool) (text : List α) : Bool :=
  text.foldl (fun escaped x => !escaped && decide (x = esc)) escaped

/-- The text up to its end, and what comes after the delimiter. -/
def readFrom (esc delim : α) : Bool → List α → Option (List α × List α)
  | _, [] => none
  | escaped, x :: rest =>
    if escaped = false ∧ x = delim then some ([], rest)
    else
      (readFrom esc delim (!escaped && decide (x = esc)) rest).map fun read => (x :: read.1, read.2)

/-- A reader that starts outside of an escape. -/
def read (esc delim : α) (text : List α) : Option (List α × List α) :=
  readFrom esc delim false text

/-! ### Counting the escapes -/

theorem trailing_nil (esc : α) : trailing esc [] = 0 := rfl

theorem trailing_concat_self (esc : α) (text : List α) :
    trailing esc (text ++ [esc]) = trailing esc text + 1 := by
  rw [trailing, List.rtakeWhile_concat_pos _ _ _ (by simp), List.length_append]
  rfl

theorem trailing_concat_of_ne {esc x : α} (h : x ≠ esc) (text : List α) :
    trailing esc (text ++ [x]) = 0 := by
  rw [trailing, List.rtakeWhile_concat_neg _ _ _ (by simpa using h)]
  rfl

theorem escapedAfter_concat (esc : α) (escaped : Bool) (text : List α) (x : α) :
    escapedAfter esc escaped (text ++ [x]) =
      (!escapedAfter esc escaped text && decide (x = esc)) := by
  rw [escapedAfter, List.foldl_append]
  rfl

/-- **An odd number of escapes escapes.** -/
theorem escapedAfter_eq (esc : α) (text : List α) :
    escapedAfter esc false text = true ↔ Odd (trailing esc text) := by
  induction text using List.reverseRecOn with
  | nil => simp [escapedAfter, trailing_nil]
  | append_singleton text x ih =>
    rw [escapedAfter_concat]
    by_cases hx : x = esc
    · rw [hx, trailing_concat_self, Nat.odd_add_one, ← ih]
      simp
    · rw [trailing_concat_of_ne hx]
      simp [hx]

/-! ### The reader -/

structure EndsAt (esc delim : α) (escaped : Bool) (text body rest : List α) : Prop where
  split : text = body ++ delim :: rest
  inner : ∀ before after, body = before ++ delim :: after →
    escapedAfter esc escaped before = true
  last : escapedAfter esc escaped body = false

/-- One step of the reader goes on to the end of the rest. -/
theorem endsAt_cons {esc delim x : α} {escaped : Bool} {text body rest : List α}
    (h : ¬ (escaped = false ∧ x = delim)) :
    EndsAt esc delim escaped (x :: text) (x :: body) rest ↔
      EndsAt esc delim (!escaped && decide (x = esc)) text body rest := by
  constructor
  · intro hends
    refine ⟨(List.cons.inj hends.split).2, ?_, hends.last⟩
    intro before after hbody
    exact hends.inner (x :: before) after (by rw [hbody, List.cons_append])
  · intro hends
    refine ⟨by rw [hends.split, List.cons_append], ?_, hends.last⟩
    intro before after hbody
    cases before with
    | nil =>
      -- `x` is a delimiter that is not the end
      have hx : x = delim := (List.cons.inj hbody).1
      by_contra hescaped
      exact h ⟨Bool.eq_false_iff.mpr hescaped, hx⟩
    | cons y before =>
      obtain ⟨rfl, hrest⟩ := List.cons.inj hbody
      exact hends.inner before after hrest

/-- **The reader finds the end.** -/
theorem readFrom_eq_some_iff {esc delim : α} {escaped : Bool} {text body rest : List α} :
    readFrom esc delim escaped text = some (body, rest) ↔
      EndsAt esc delim escaped text body rest := by
  induction text generalizing escaped body with
  | nil =>
    constructor
    · intro h
      cases h
    · intro h
      have hsplit := h.split
      simp at hsplit
  | cons x text ih =>
    by_cases hend : escaped = false ∧ x = delim
    · obtain ⟨rfl, rfl⟩ := hend
      rw [readFrom, if_pos ⟨rfl, rfl⟩, Option.some.injEq, Prod.mk.injEq]
      constructor
      · rintro ⟨rfl, rfl⟩
        refine ⟨rfl, ?_, rfl⟩
        intro before after hbody
        simp at hbody
      · intro h
        cases body with
        | nil => exact ⟨rfl, (List.cons.inj h.split).2⟩
        | cons y body =>
          obtain ⟨rfl, _⟩ := List.cons.inj h.split
          have hfirst := h.inner [] body rfl
          cases hfirst
    · rw [readFrom, if_neg hend, Option.map_eq_some_iff]
      constructor
      · rintro ⟨⟨body', rest'⟩, hread, heq⟩
        obtain ⟨rfl, rfl⟩ := Prod.mk.inj heq
        exact (endsAt_cons hend).mpr (ih.mp hread)
      · intro h
        cases body with
        | nil =>
          obtain ⟨rfl, _⟩ := List.cons.inj h.split
          exact absurd ⟨h.last, rfl⟩ hend
        | cons y body =>
          obtain ⟨rfl, _⟩ := List.cons.inj h.split
          exact ⟨(body, rest), ih.mpr ((endsAt_cons hend).mp h), rfl⟩

/-- **Where a delimited text ends**: at the delimiter with an even number of escapes before it, when
each one in the body has an odd number. -/
theorem read_eq_some_iff {esc delim : α} {text body rest : List α} :
    read esc delim text = some (body, rest) ↔
      text = body ++ delim :: rest ∧
      (∀ before after, body = before ++ delim :: after → Odd (trailing esc before)) ∧
      Even (trailing esc body) := by
  rw [read, readFrom_eq_some_iff, ← Nat.not_odd_iff_even, ← escapedAfter_eq, Bool.not_eq_true]
  constructor
  · intro h
    refine ⟨h.split, ?_, h.last⟩
    intro before after hbody
    exact (escapedAfter_eq esc before).mp (h.inner before after hbody)
  · rintro ⟨hsplit, hinner, hlast⟩
    refine ⟨hsplit, ?_, hlast⟩
    intro before after hbody
    exact (escapedAfter_eq esc before).mpr (hinner before after hbody)

end LivekitBridge.Lib.Delimited
