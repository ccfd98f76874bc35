import Mathlib.Data.List.Basic
import Mathlib.Logic.Relation

/-!
# Depth-first traversals

`DepthFirst succ visited todo order` is a depth-first traversal in preorder: `todo` is worked off
from the front with one set of visited nodes, a new node is listed and its successors come before
the rest of `todo`, and `order` lists the new nodes.  The graph is any function to lists, cycles
included; `visited` counts as a set (`congr`).

What a traversal lists is new, without repetition, and reachable; with what was visited it is
closed under successors and contains `todo`.  There is only one (`unique`).

The traversal with a larger set of visited nodes lists less.  If what was added is closed under
successors, it lists exactly what is left of the order without the added nodes (`absorb`): the
subtrees that are cut off are those that lie in the added set as a whole.
-/

namespace LivekitBridge.Lib

universe u

variable {α : Type u}

/-- A depth-first traversal in preorder. -/
inductive DepthFirst (succ : α → List α) : List α → List α → List α → Prop
  | nil (visited : List α) : DepthFirst succ visited [] []
  | known {visited : List α} {a : α} {todo order : List α} : a ∈ visited →
      DepthFirst succ visited todo order → DepthFirst succ visited (a :: todo) order
  | visit {visited : List α} {a : α} {todo below order : List α} : a ∉ visited →
      DepthFirst succ (a :: visited) (succ a) below →
      DepthFirst succ (below ++ a :: visited) todo order →
      DepthFirst succ visited (a :: todo) (a :: below ++ order)

/-- `b` is a successor of `a`. -/
def Succ (succ : α → List α) (a b : α) : Prop := b ∈ succ a

/-- What is reached from a closed set lies in it. -/
theorem mem_of_reachable {succ : α → List α} {D : List α}
    (hD : ∀ x ∈ D, ∀ y ∈ succ x, y ∈ D) {a x : α} (ha : a ∈ D)
    (h : Relation.ReflTransGen (Succ succ) a x) : x ∈ D := by
  induction h with
  | refl => exact ha
  | tail _ hstep ih => exact hD _ ih _ hstep

namespace DepthFirst

variable {succ : α → List α} {visited visited' todo todo' order order' : List α}

/-- What was visited counts as a set. -/
theorem congr (h : DepthFirst succ visited todo order) :
    ∀ {visited' : List α}, (∀ x, x ∈ visited ↔ x ∈ visited') →
      DepthFirst succ visited' todo order := by
  induction h with
  | nil visited =>
    intro visited' _
    exact .nil visited'
  | known ha _ ih =>
    intro visited' hv
    exact .known ((hv _).mp ha) (ih hv)
  | visit ha _ _ ihbelow ihrest =>
    intro visited' hv
    refine .visit (fun hmem => ha ((hv _).mpr hmem)) (ihbelow ?_) (ihrest ?_)
    · intro x
      simp [hv x]
    · intro x
      simp [hv x]

/-- Traversals one after the other are one. -/
theorem append (h : DepthFirst succ visited todo order) :
    ∀ {todo' order' : List α}, DepthFirst succ (order ++ visited) todo' order' →
      DepthFirst succ visited (todo ++ todo') (order ++ order') := by
  induction h with
  | nil visited =>
    intro todo' order' h'
    exact h'
  | known ha _ ih =>
    intro todo' order' h'
    exact .known ha (ih h')
  | @visit visited a todo below order ha hbelow _ _ ihrest =>
    intro todo' order' h'
    have hrest : DepthFirst succ (below ++ a :: visited) (todo ++ todo') (order ++ order') := by
      refine ihrest (h'.congr ?_)
      intro x
      simp only [List.mem_append, List.mem_cons]
      constructor
      · intro hx
        rcases hx with ((rfl | hx) | hx) | hx
        · exact .inr (.inr (.inl rfl))
        · exact .inr (.inl hx)
        · exact .inl hx
        · exact .inr (.inr (.inr hx))
      · intro hx
        rcases hx with hx | hx | rfl | hx
        · exact .inl (.inr hx)
        · exact .inl (.inl (.inr hx))
        · exact .inl (.inl (.inl rfl))
        · exact .inr hx
    rw [List.append_assoc]
    exact .visit ha hbelow hrest

/-- A traversal of one list after the other, taken apart. -/
theorem of_append : ∀ {todo todo' visited order : List α},
    DepthFirst succ visited (todo ++ todo') order →
    ∃ before after, order = before ++ after ∧ DepthFirst succ visited todo before ∧
      DepthFirst succ (before ++ visited) todo' after := by
  intro todo
  induction todo with
  | nil =>
    intro todo' visited order h
    exact ⟨[], order, rfl, .nil visited, h⟩
  | cons a todo ih =>
    intro todo' visited order h
    cases h with
    | known ha hrest =>
      obtain ⟨before, after, rfl, hbefore, hafter⟩ := ih hrest
      exact ⟨before, after, rfl, .known ha hbefore, hafter⟩
    | @visit _ _ _ below _ ha hbelow hrest =>
      obtain ⟨before, after, rfl, hbefore, hafter⟩ := ih hrest
      refine ⟨a :: below ++ before, after, by simp, .visit ha hbelow hbefore, hafter.congr ?_⟩
      intro x
      simp only [List.mem_append, List.mem_cons]
      constructor
      · intro hx
        rcases hx with hx | hx | rfl | hx
        · exact .inl (.inr hx)
        · exact .inl (.inl (.inr hx))
        · exact .inl (.inl (.inl rfl))
        · exact .inr hx
      · intro hx
        rcases hx with ((rfl | hx) | hx) | hx
        · exact .inr (.inr (.inl rfl))
        · exact .inr (.inl hx)
        · exact .inl hx
        · exact .inr (.inr (.inr hx))

/-- What is listed is new. -/
theorem not_mem_visited (h : DepthFirst succ visited todo order) : ∀ x ∈ order, x ∉ visited := by
  induction h with
  | nil => simp
  | known _ _ ih => exact ih
  | visit ha _ _ ihbelow ihrest =>
    intro x hx hv
    rcases List.mem_append.mp hx with hx | hx
    · rcases List.mem_cons.mp hx with rfl | hx
      · exact ha hv
      · exact ihbelow x hx (List.mem_cons_of_mem _ hv)
    · exact ihrest x hx (by simp [hv])

/-- Nothing is listed twice. -/
theorem nodup (h : DepthFirst succ visited todo order) : order.Nodup := by
  induction h with
  | nil => exact List.nodup_nil
  | known _ _ ih => exact ih
  | @visit visited a todo below order ha hbelow hrest ihbelow ihrest =>
    have hfirst : (a :: below).Nodup := by
      refine List.nodup_cons.mpr ⟨?_, ihbelow⟩
      intro hmem
      exact hbelow.not_mem_visited a hmem List.mem_cons_self
    refine List.nodup_append.mpr ⟨hfirst, ihrest, ?_⟩
    intro x hx y hy hxy
    subst hxy
    refine hrest.not_mem_visited x hy ?_
    rcases List.mem_cons.mp hx with rfl | hx
    · simp
    · simp [hx]

theorem reachable (h : DepthFirst succ visited todo order) :
    ∀ x ∈ order, ∃ a ∈ todo, Relation.ReflTransGen (Succ succ) a x := by
  induction h with
  | nil => simp
  | known _ _ ih =>
    intro x hx
    obtain ⟨a, ha, hreach⟩ := ih x hx
    exact ⟨a, List.mem_cons_of_mem _ ha, hreach⟩
  | @visit visited a todo below order _ _ _ ihbelow ihrest =>
    intro x hx
    rcases List.mem_append.mp hx with hx | hx
    · rcases List.mem_cons.mp hx with rfl | hx
      · exact ⟨x, List.mem_cons_self, .refl⟩
      · obtain ⟨b, hb, hreach⟩ := ihbelow x hx
        exact ⟨a, List.mem_cons_self, Relation.ReflTransGen.head hb hreach⟩
    · obtain ⟨b, hb, hreach⟩ := ihrest x hx
      exact ⟨b, List.mem_cons_of_mem _ hb, hreach⟩

/-- A node is listed before what is reached from it. -/
theorem singleton {a : α} (h : DepthFirst succ visited [a] order) :
    (a ∈ visited ∧ order = []) ∨ (a ∉ visited ∧ order.head? = some a ∧
      ∀ x ∈ order, Relation.ReflTransGen (Succ succ) a x) := by
  have hreach : ∀ x ∈ order, Relation.ReflTransGen (Succ succ) a x := by
    intro x hx
    obtain ⟨b, hb, hreach⟩ := h.reachable x hx
    rwa [List.mem_singleton.mp hb] at hreach
  cases h with
  | known ha hrest =>
    cases hrest
    exact .inl ⟨ha, rfl⟩
  | visit ha _ _ => exact .inr ⟨ha, rfl, hreach⟩

/-- What was to do is done. -/
theorem covers (h : DepthFirst succ visited todo order) :
    ∀ a ∈ todo, a ∈ visited ∨ a ∈ order := by
  induction h with
  | nil => simp
  | known ha _ ih =>
    intro b hb
    rcases List.mem_cons.mp hb with rfl | hb
    · exact .inl ha
    · exact ih b hb
  | @visit visited a todo below order _ _ _ _ ihrest =>
    intro b hb
    rcases List.mem_cons.mp hb with rfl | hb
    · exact .inr (by simp)
    · rcases ihrest b hb with hv | ho
      · rcases List.mem_append.mp hv with hv | hv
        · exact .inr (by simp [hv])
        · rcases List.mem_cons.mp hv with rfl | hv
          · exact .inr (by simp)
          · exact .inl hv
      · exact .inr (by simp [ho])

/-- The successors of what is listed were visited or are listed. -/
theorem closed (h : DepthFirst succ visited todo order) :
    ∀ x ∈ order, ∀ y ∈ succ x, y ∈ visited ∨ y ∈ order := by
  induction h with
  | nil => simp
  | known _ _ ih => exact ih
  | @visit visited a todo below order _ hbelow _ ihbelow ihrest =>
    -- what the subtree calls visited is `a` or was visited before
    have hsub : ∀ y, y ∈ a :: visited ∨ y ∈ below → y ∈ visited ∨ y ∈ a :: below ++ order := by
      intro y hy
      rcases hy with hy | hy
      · rcases List.mem_cons.mp hy with rfl | hy
        · exact .inr (by simp)
        · exact .inl hy
      · exact .inr (by simp [hy])
    intro x hx y hy
    rcases List.mem_append.mp hx with hx | hx
    · rcases List.mem_cons.mp hx with rfl | hx
      · exact hsub y (hbelow.covers y hy)
      · exact hsub y (ihbelow x hx y hy)
    · rcases ihrest x hx y hy with hv | ho
      · rcases List.mem_append.mp hv with hv | hv
        · exact .inr (by simp [hv])
        · exact hsub y (.inl hv)
      · exact .inr (by simp [ho])

/-- From a closed set nothing outside of it is listed. -/
theorem subset_of_closed {D : List α} (hD : ∀ x ∈ D, ∀ y ∈ succ x, y ∈ D)
    (h : DepthFirst succ visited todo order) (htodo : ∀ a ∈ todo, a ∈ D) : ∀ x ∈ order, x ∈ D := by
  intro x hx
  obtain ⟨a, ha, hreach⟩ := h.reachable x hx
  exact mem_of_reachable hD (htodo a ha) hreach

/-- **A traversal from nothing lists what is reachable.** -/
theorem mem_iff_reachable (h : DepthFirst succ [] todo order) (x : α) :
    x ∈ order ↔ ∃ a ∈ todo, Relation.ReflTransGen (Succ succ) a x := by
  constructor
  · exact h.reachable x
  · intro hx
    obtain ⟨a, ha, hreach⟩ := hx
    refine mem_of_reachable ?_ ?_ hreach
    · intro y hy z hz
      exact (h.closed y hy z hz).resolve_left (by simp)
    · exact (h.covers a ha).resolve_left (by simp)

/-- **There is only one traversal.** -/
theorem unique (h : DepthFirst succ visited todo order) :
    ∀ {order' : List α}, DepthFirst succ visited todo order' → order = order' := by
  induction h with
  | nil =>
    intro order' h'
    cases h'
    rfl
  | known ha _ ih =>
    intro order' h'
    cases h' with
    | known _ hrest' => exact ih hrest'
    | visit ha' _ _ => exact absurd ha ha'
  | visit ha _ _ ihbelow ihrest =>
    intro order' h'
    cases h' with
    | known ha' _ => exact absurd ha' ha
    | visit _ hbelow' hrest' =>
      obtain rfl := ihbelow hbelow'
      rw [ihrest hrest']

/-- **A closed set that was visited before cuts its nodes out of the order.** -/
theorem absorb [DecidableEq α] {D : List α} (hD : ∀ x ∈ D, ∀ y ∈ succ x, y ∈ D)
    (h : DepthFirst succ visited todo order) :
    DepthFirst succ (visited ++ D) todo (order.filter fun x => x ∉ D) := by
  induction h with
  | nil visited => exact .nil (visited ++ D)
  | known ha _ ih => exact .known (List.mem_append_left D ha) ih
  | @visit visited a todo below order ha hbelow _ ihbelow ihrest =>
    by_cases haD : a ∈ D
    · -- the subtree lies in the closed set
      have hbelowD : ∀ x ∈ below, x ∈ D := hbelow.subset_of_closed hD (hD a haD)
      have hfilter : (a :: below ++ order).filter (fun x => x ∉ D) =
          order.filter fun x => x ∉ D := by
        rw [List.filter_append, List.filter_eq_nil_iff.mpr, List.nil_append]
        intro x hx
        rcases List.mem_cons.mp hx with rfl | hx
        · simp [haD]
        · simp [hbelowD x hx]
      rw [hfilter]
      refine .known (List.mem_append_right visited haD) (ihrest.congr ?_)
      intro x
      simp only [List.mem_append, List.mem_cons]
      constructor
      · intro hx
        rcases hx with (hx | rfl | hx) | hx
        · exact .inr (hbelowD x hx)
        · exact .inr haD
        · exact .inl hx
        · exact .inr hx
      · intro hx
        rcases hx with hx | hx
        · exact .inl (.inr (.inr hx))
        · exact .inr hx
    · have hfilter : (a :: below ++ order).filter (fun x => x ∉ D) =
          a :: below.filter (fun x => x ∉ D) ++ order.filter fun x => x ∉ D := by
        rw [List.filter_append, List.filter_cons_of_pos (by simp [haD])]
      rw [hfilter]
      refine .visit (by simp [ha, haD]) ihbelow (ihrest.congr ?_)
      intro x
      simp only [List.mem_append, List.mem_cons, List.mem_filter, decide_eq_true_eq]
      constructor
      · intro hx
        rcases hx with (hx | rfl | hx) | hx
        · by_cases hxD : x ∈ D
          · exact .inr (.inr (.inr hxD))
          · exact .inl ⟨hx, hxD⟩
        · exact .inr (.inl rfl)
        · exact .inr (.inr (.inl hx))
        · exact .inr (.inr (.inr hx))
      · intro hx
        rcases hx with ⟨hx, _⟩ | rfl | hx | hx
        · exact .inl (.inl hx)
        · exact .inl (.inr (.inl rfl))
        · exact .inl (.inr (.inr hx))
        · exact .inr hx

end DepthFirst

end LivekitBridge.Lib
