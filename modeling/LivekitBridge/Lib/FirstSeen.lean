import Mathlib.Data.List.Induction
import Mathlib.Order.Lattice
import Mathlib.Data.List.Nodup

/-!
# Lists read from the front

`List.eraseDups` keeps the first of equal items, `List.min?` the least.  A loop that
appends to its result extends the prefix it has read by one item, and these are the two
functions' equations for that.
-/

namespace LivekitBridge.Lib

universe u v

section FirstSeen

variable {α : Type u} [BEq α] [LawfulBEq α] {l : List α} {a : α}

/-- One more item was seen. -/
theorem eraseDups_concat_of_mem (h : a ∈ l) : (l ++ [a]).eraseDups = l.eraseDups := by
  rw [List.eraseDups_append, List.removeAll, List.filter_singleton]
  simp [h]

/-- One more item is new. -/
theorem eraseDups_concat_of_not_mem (h : a ∉ l) : (l ++ [a]).eraseDups = l.eraseDups ++ [a] := by
  rw [List.eraseDups_append, List.removeAll, List.filter_singleton]
  simp [h, List.eraseDups_cons]

theorem mem_eraseDups : a ∈ l.eraseDups ↔ a ∈ l := by
  induction l using List.reverseRecOn with
  | nil => simp
  | append_singleton l b ih =>
    by_cases hb : b ∈ l
    · rw [eraseDups_concat_of_mem hb, ih, List.mem_append, List.mem_singleton]
      constructor
      · exact .inl
      · rintro (ha | rfl)
        · exact ha
        · exact hb
    · rw [eraseDups_concat_of_not_mem hb, List.mem_append, List.mem_append, ih]

theorem nodup_eraseDups (l : List α) : l.eraseDups.Nodup := by
  induction l using List.reverseRecOn with
  | nil => exact List.nodup_nil
  | append_singleton l b ih =>
    by_cases hb : b ∈ l
    · rw [eraseDups_concat_of_mem hb]
      exact ih
    · rw [eraseDups_concat_of_not_mem hb, List.nodup_append]
      refine ⟨ih, List.nodup_singleton b, ?_⟩
      rintro a ha c hc rfl
      obtain rfl := List.mem_singleton.mp hc
      exact hb (mem_eraseDups.mp ha)

omit [LawfulBEq α] in
theorem idxOf?_concat (l : List α) (a b : α) :
    (l ++ [a]).idxOf? b = (l.idxOf? b).or (if a == b then some l.length else none) := by
  rw [List.idxOf?, List.findIdx?_append]
  cases h : a == b
  · simp [h]
  · simp [h]

end FirstSeen

/-- The least of a list and one more. -/
theorem min?_concat (l : List Int) (x : Int) :
    (l ++ [x]).min? = some (l.min?.elim x fun y => min y x) := by
  cases l with
  | nil => rfl
  | cons a l => rw [List.cons_append, List.min?_cons', List.min?_cons', List.foldl_append]; rfl

/-- Changing the one entry of a key changes the table at that key. -/
theorem modify_map {α : Type u} {β : Type v} {l : List α} (hl : l.Nodup) {i : Nat} {a : α}
    (hi : l[i]? = some a) {f f' : α → β} {g : β → β} (ha : g (f a) = f' a)
    (hf : ∀ b ≠ a, f b = f' b) : (l.map f).modify i g = l.map f' := by
  refine List.ext_getElem? fun j => ?_
  rw [List.getElem?_modify, List.getElem?_map, List.getElem?_map]
  cases hj : l[j]? with
  | none => simp
  | some b =>
    by_cases hij : i = j
    · subst hij
      obtain rfl : a = b := Option.some.inj (hi.symm.trans hj)
      simp [ha]
    · have hne : b ≠ a := by
        rintro rfl
        obtain ⟨hi', hib⟩ := List.getElem?_eq_some_iff.mp hi
        obtain ⟨hj', hjb⟩ := List.getElem?_eq_some_iff.mp hj
        exact hij ((List.Nodup.getElem_inj_iff hl).mp (hib.trans hjb.symm))
      simp [hij, hf b hne]

end LivekitBridge.Lib
