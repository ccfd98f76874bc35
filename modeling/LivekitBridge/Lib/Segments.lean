import Mathlib.Data.List.Infix

/-!
# Names as lists of segments

An absolute name writes a separator before each of its segments.  `render`
writes the segments down and `segments` reads them back; on segments that do
not contain the separator, and on texts that start with it, the two are inverse
(`segments_render`, `render_segments`).

A question asked of the text is a question about the segments.  A name that
starts with another name *and a separator* is one whose segment list strictly
extends the other's (`prefix_sep_iff_segments`), which is what a subtree match
means.
-/

namespace LivekitBridge.Lib

universe u

variable {α : Type u}

/-- The text of a segment list: a separator, then the segment, for each one. -/
def render (sep : α) (segs : List (List α)) : List α := segs.flatMap fun s => sep :: s

@[simp] theorem render_nil (sep : α) : render sep [] = [] := rfl

@[simp] theorem render_cons (sep : α) (s : List α) (segs : List (List α)) :
    render sep (s :: segs) = sep :: (s ++ render sep segs) := rfl

theorem render_append (sep : α) (l₁ l₂ : List (List α)) :
    render sep (l₁ ++ l₂) = render sep l₁ ++ render sep l₂ := List.flatMap_append ..

theorem intercalate_cons_eq_render (sep : α) : ∀ (s : List α) (segs : List (List α)),
    [sep].intercalate (s :: segs) = s ++ render sep segs := by
  intro s segs
  induction segs generalizing s with
  | nil => simp [List.intercalate]
  | cons t segs ih =>
    rw [render_cons, ← ih t]
    simp [List.intercalate, List.intersperse]

variable [DecidableEq α]

/-- The segments of a text that starts with a separator. -/
def segments (sep : α) (text : List α) : List (List α) := (text.splitOn sep).tail

theorem splitOn_render (sep : α) : ∀ (s : List α) (segs : List (List α)), sep ∉ s →
    (∀ t ∈ segs, sep ∉ t) → (s ++ render sep segs).splitOn sep = s :: segs := by
  intro s segs
  induction segs generalizing s with
  | nil => intro hs _; rw [render_nil, List.append_nil, List.splitOn_eq_singleton hs]
  | cons t segs ih =>
    intro hs hsegs
    rw [render_cons, List.splitOn_append_cons_self_of_not_mem hs,
      ih t (hsegs t List.mem_cons_self) (fun x hx => hsegs x (List.mem_cons_of_mem _ hx))]

/-- **Reading back what was written.** -/
theorem segments_render {sep : α} {segs : List (List α)} (h : ∀ s ∈ segs, sep ∉ s) :
    segments sep (render sep segs) = segs := by
  have := splitOn_render sep [] segs List.not_mem_nil h
  rw [List.nil_append] at this
  rw [segments, this, List.tail_cons]

theorem splitOn_cons_self (sep : α) (text : List α) :
    (sep :: text).splitOn sep = [] :: text.splitOn sep := by
  have := List.splitOn_append_cons_self (a := sep) [] text
  simpa using this

/-- **Writing down what was read**, for a text that starts with a separator. -/
theorem render_segments {sep : α} {text : List α} (h : text.head? = some sep) :
    render sep (segments sep text) = text := by
  cases text with
  | nil => cases h
  | cons c r =>
    rw [List.head?_cons, Option.some.injEq] at h
    subst h
    have hjoin : [c].intercalate ((c :: r).splitOn c) = c :: r := List.intercalate_splitOn c
    rw [splitOn_cons_self, intercalate_cons_eq_render, List.nil_append] at hjoin
    rw [segments, splitOn_cons_self, List.tail_cons, hjoin]

/-- **A textual prefix that ends before a separator is a strict prefix of the
segment list.** -/
theorem prefix_sep_iff_segments {sep : α} {l₁ l₂ : List (List α)} (h₁ : ∀ s ∈ l₁, sep ∉ s)
    (h₂ : ∀ s ∈ l₂, sep ∉ s) :
    render sep l₁ ++ [sep] <+: render sep l₂ ↔ l₁ <+: l₂ ∧ l₁ ≠ l₂ := by
  constructor
  · rintro ⟨rest, hrest⟩
    have hl₂ : l₂ = l₁ ++ rest.splitOn sep := by
      have hsplit : (render sep l₂).splitOn sep
          = (render sep l₁).splitOn sep ++ rest.splitOn sep := by
        rw [← hrest, List.append_assoc, List.singleton_append, List.splitOn_append_cons_self]
      have e₁ := splitOn_render sep [] l₁ List.not_mem_nil h₁
      have e₂ := splitOn_render sep [] l₂ List.not_mem_nil h₂
      rw [List.nil_append] at e₁ e₂
      rw [e₁, e₂, List.cons_append] at hsplit
      exact (List.cons.inj hsplit).2
    refine ⟨⟨_, hl₂.symm⟩, fun he => ?_⟩
    have hlen := congrArg List.length hl₂
    rw [he, List.length_append] at hlen
    have := List.length_pos_iff.mpr (List.splitOn_ne_nil sep rest)
    omega
  · rintro ⟨⟨rest, rfl⟩, hne⟩
    cases rest with
    | nil => exact absurd (List.append_nil l₁).symm hne
    | cons s rest =>
      refine ⟨s ++ render sep rest, ?_⟩
      rw [render_append, render_cons, List.append_assoc, List.singleton_append]

end LivekitBridge.Lib
