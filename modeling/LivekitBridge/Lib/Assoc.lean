import Mathlib.Data.List.AList

/-!
# Association lists: sweeping and counting

`AList` is the finite map of the development.  A sweep visits every entry
once and keeps, rewrites or drops its value; `filterMapVal` is that sweep and
`lookup_filterMapVal` says what it does at each key.  `countVal` counts the
entries whose value satisfies a test, with its change under `insert` and
`erase`.
-/

namespace AList

universe u v w

variable {κ : Type u} {ν : Type v} {ω : Type w}

/-- What a sweep by `f` does to one entry. -/
def keepVal (f : ν → Option ω) (e : Sigma fun _ : κ => ν) : Option (Sigma fun _ : κ => ω) :=
  match f e.2 with
  | none => none
  | some w => some ⟨e.1, w⟩

theorem keys_filterMap_keepVal (f : ν → Option ω) :
    ∀ l : List (Sigma fun _ : κ => ν), (l.filterMap (keepVal f)).keys.Sublist l.keys := by
  intro l
  induction l with
  | nil => exact List.Sublist.refl _
  | cons e l ih =>
    cases hf : f e.2 with
    | none => simpa [List.filterMap_cons, keepVal, hf] using ih.trans (List.sublist_cons_self _ _)
    | some w => simpa [List.filterMap_cons, keepVal, hf] using ih.cons_cons e.1

/-- The values `f` keeps, each under its own key. -/
def filterMapVal (f : ν → Option ω) (m : AList fun _ : κ => ν) : AList fun _ : κ => ω :=
  ⟨m.entries.filterMap (keepVal f), (keys_filterMap_keepVal f m.entries).nodup m.nodupKeys⟩

/-- How many values satisfy `p`. -/
def countVal (p : ν → Bool) (m : AList fun _ : κ => ν) : Nat :=
  m.entries.countP fun e => p e.2

theorem countVal_eq_zero {p : ν → Bool} {m : AList fun _ : κ => ν} :
    m.countVal p = 0 ↔ ∀ e ∈ m.entries, p e.2 = false := by
  rw [countVal, List.countP_eq_zero]
  exact forall₂_congr fun e _ => by simp

/-- What a weaker test counts is no less. -/
theorem countVal_mono {p q : ν → Bool} (m : AList fun _ : κ => ν) (h : ∀ x, p x → q x) :
    m.countVal p ≤ m.countVal q :=
  List.countP_mono_left fun e _ => h e.2

variable [DecidableEq κ]

theorem dlookup_filterMap_keepVal (f : ν → Option ω) (a : κ) :
    ∀ l : List (Sigma fun _ : κ => ν), l.NodupKeys →
      ((l.filterMap (keepVal f)).dlookup a : Option ω) = (l.dlookup a : Option ν).bind f := by
  intro l
  induction l with
  | nil => intro _; rfl
  | cons e l ih =>
    obtain ⟨k, x⟩ := e
    intro h
    rw [List.nodupKeys_cons] at h
    have ih := ih h.2
    by_cases hk : a = k
    · subst hk
      -- no later entry has this key, so a dropped head leaves nothing to find
      have hnone : l.dlookup a = none := List.dlookup_eq_none.mpr h.1
      rw [hnone] at ih
      cases hf : f x with
      | none => simpa [List.filterMap_cons, keepVal, hf] using ih
      | some w => simp [keepVal, hf]
    · rw [List.dlookup_cons_ne _ (⟨k, x⟩ : Sigma fun _ : κ => ν) hk, ← ih]
      cases hf : f x with
      | none => simp [keepVal, hf]
      | some w =>
        rw [List.filterMap_cons_some (b := (⟨k, w⟩ : Sigma fun _ : κ => ω)) (by simp [keepVal, hf])]
        exact List.dlookup_cons_ne _ _ hk

/-- **A sweep acts at each key by itself.** -/
@[simp] theorem lookup_filterMapVal (f : ν → Option ω) (m : AList fun _ : κ => ν) (a : κ) :
    ((m.filterMapVal f).lookup a : Option ω) = (m.lookup a : Option ν).bind f :=
  dlookup_filterMap_keepVal f a m.entries m.nodupKeys

theorem lookup_insert_eq_if (a b : κ) (x : ν) (m : AList fun _ : κ => ν) :
    (m.insert b x).lookup a = if a = b then some x else m.lookup a := by
  by_cases h : a = b
  · subst h
    rw [if_pos rfl, AList.lookup_insert]
  · rw [if_neg h, AList.lookup_insert_ne h]

theorem lookup_erase_eq_if (a b : κ) (m : AList fun _ : κ => ν) :
    (m.erase b).lookup a = if a = b then none else m.lookup a := by
  by_cases h : a = b
  · subst h
    rw [if_pos rfl, AList.lookup_erase]
  · rw [if_neg h, AList.lookup_erase_ne h]

theorem mem_of_lookup {m : AList fun _ : κ => ν} {a : κ} {x : ν} (h : m.lookup a = some x) :
    a ∈ m := by
  rw [← AList.lookup_isSome, h]
  rfl

/-- No entries is the same as no key with a value. -/
theorem eq_empty_iff_lookup {m : AList fun _ : κ => ν} : m = ∅ ↔ ∀ a, m.lookup a = none := by
  constructor
  · rintro rfl a
    exact AList.lookup_empty a
  · intro h
    apply AList.ext
    rw [AList.empty_entries]
    cases he : m.entries with
    | nil => rfl
    | cons e l =>
      have hmem : (⟨e.1, e.2⟩ : Sigma fun _ : κ => ν) ∈ m.entries := by rw [he]; exact List.mem_cons_self
      have := AList.mem_lookup_iff.mpr hmem
      rw [h e.1] at this
      cases this

theorem entries_perm_of_lookup {m : AList fun _ : κ => ν} {a : κ} {x : ν}
    (h : m.lookup a = some x) : m.entries.Perm (⟨a, x⟩ :: (m.erase a).entries) := by
  have hmem : (⟨a, x⟩ : Sigma fun _ : κ => ν) ∈ m.entries := AList.mem_lookup_iff.mp h
  obtain ⟨b, l₁, l₂, _, hl, he⟩ := List.exists_of_kerase (List.mem_keys_of_mem hmem)
  have hb : b = x := by
    have hmem' : (⟨a, b⟩ : Sigma fun _ : κ => ν) ∈ m.entries := by rw [hl]; simp
    exact m.nodupKeys.eq_of_mk_mem hmem' hmem
  subst hb
  show m.entries.Perm (⟨a, b⟩ :: m.entries.kerase a)
  rw [he, hl]
  exact List.perm_middle

theorem countVal_insert_of_notMem {p : ν → Bool} {m : AList fun _ : κ => ν} {a : κ} {x : ν}
    (h : a ∉ m) : (m.insert a x).countVal p = m.countVal p + if p x then 1 else 0 := by
  rw [countVal, AList.entries_insert_of_notMem h, List.countP_cons, countVal]

theorem countVal_erase {p : ν → Bool} {m : AList fun _ : κ => ν} {a : κ} {x : ν}
    (h : m.lookup a = some x) :
    m.countVal p = (m.erase a).countVal p + if p x then 1 else 0 := by
  rw [countVal, (entries_perm_of_lookup h).countP_eq, List.countP_cons, countVal]

theorem countVal_replace {p : ν → Bool} {m : AList fun _ : κ => ν} {a : κ} {x y : ν}
    (h : m.lookup a = some y) :
    (m.insert a x).countVal p + (if p y then 1 else 0) = m.countVal p + if p x then 1 else 0 := by
  have hinsert : (m.insert a x).countVal p = (m.erase a).countVal p + if p x then 1 else 0 := by
    rw [countVal, AList.entries_insert, List.countP_cons]
    rfl
  rw [hinsert, countVal_erase h, Nat.add_right_comm]

/-- Replacing a value by one that the test treats alike. -/
theorem countVal_insert_of_lookup {p : ν → Bool} {m : AList fun _ : κ => ν} {a : κ} {x y : ν}
    (h : m.lookup a = some y) (hp : p x = p y) : (m.insert a x).countVal p = m.countVal p := by
  have hreplace := countVal_replace (p := p) (x := x) h
  rw [hp] at hreplace
  exact Nat.add_right_cancel hreplace

end AList
