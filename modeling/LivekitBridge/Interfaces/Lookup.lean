import LivekitBridge.Interfaces.Definitions
import LivekitBridge.Lib.Traversal
import Mathlib.Data.Finset.Card
import Mathlib.Data.Set.Finite.List

/-!
# One traversal of the interface definitions

Each requested type is looked up with a set of seen types of its own, and the results are merged.
`showInterfaces_depthFirst` says that this is one depth-first traversal over all requests with one
shared set, as long as everything reachable can be loaded, and that the request fails otherwise.

`Collects` is what both levels have in common: definitions are appended, their types are a
traversal from what has been seen, and each has the body that its type loads.  `collect` has it by
recursion on the fuel (`collect_ok`).  For the loop over requests, the types seen so far are closed
under dependencies, so that a lookup from nothing, less what has been seen, is the lookup that
starts from there (`DepthFirst.absorb`, used in `showType_ok`).

There is fuel enough when it exceeds the number of types that can be loaded, because each level of
the recursion has seen one more of them (`collect_ne_none`).
-/

namespace LivekitBridge

open Lib

/-! ### Loading -/

/-- The type has a definition. -/
def Loads (world : World) (type : Str) : Prop := ∃ body, loadDefinition world type = .ok body

/-- The types that the definition of a type names. -/
def dependencies (world : World) (type : Str) : List Str :=
  match loadDefinition world type, ParsedType.parse type with
  | .ok body, .ok parsed => parseDependencies body parsed.package
  | _, _ => []

/-- A type is reached from the requests. -/
def Reaches (world : World) (types : List Str) (type : Str) : Prop :=
  ∃ request ∈ types, Relation.ReflTransGen (Succ (dependencies world)) request type

/-- What is remembered is what loading throws. -/
def Faithful (world : World) (failures : FailureCache) : Prop :=
  ∀ type failure, failures.lookup type = some failure → loadDefinition world type = .error failure

theorem load_eq {world : World} {failures : FailureCache} (h : Faithful world failures) (type : Str) :
    load world failures type = loadDefinition world type := by
  rw [load]
  cases hl : (failures.lookup type : Option StdException) with
  | none => rfl
  | some failure => exact (h type failure hl).symm

theorem Faithful.remember {world : World} {failures : FailureCache} {type : Str} {e : StdException}
    (h : Faithful world failures) (he : loadDefinition world type = .error e) :
    Faithful world (remember failures type e) := by
  have hinsert : ∀ m : FailureCache, Faithful world m → Faithful world (m.insert type e) := by
    intro m hm t failure hl
    rw [AList.lookup_insert_eq_if] at hl
    split at hl
    · rename_i ht
      rw [ht, he, Option.some.inj hl]
    · exact hm t failure hl
  have hempty : Faithful world ∅ := by
    intro t failure hl
    cases hl
  rw [LivekitBridge.remember]
  split
  · exact hinsert failures h
  · split
    · exact hinsert ∅ hempty
    · exact hinsert failures h

theorem loadDefinition_ok {world : World} {type body : Str} (h : loadDefinition world type = .ok body) :
    ∃ parsed path, ParsedType.parse type = .ok parsed ∧
      resolveDefinitionPath world parsed = .ok path ∧ world.file path = some body := by
  rw [loadDefinition] at h
  split at h
  · cases h
  · rename_i parsed hparse
    split at h
    · cases h
    · rename_i path hpath
      split at h
      · cases h
      · rename_i found hfile
        rw [Except.ok.injEq] at h
        subst h
        exact ⟨parsed, path, hparse, hpath, hfile⟩

/-! ### Collecting -/

/-- The definitions of a traversal from what has been seen have been appended. -/
def Collects (world : World) (todo : List Str) (s s' : Collected) : Prop :=
  ∃ new : List InterfaceDefinition, s'.definitions = s.definitions ++ new ∧
    (∀ x, x ∈ s'.seen ↔ x ∈ new.map InterfaceDefinition.type ∨ x ∈ s.seen) ∧
    DepthFirst (dependencies world) s.seen todo (new.map InterfaceDefinition.type) ∧
    ∀ definition ∈ new, loadDefinition world definition.type = .ok definition.body

section Collect

variable {world : World} {todo todo' : List Str} {s s' s'' : Collected}

theorem Collects.nil (s : Collected) : Collects world [] s s :=
  ⟨[], by simp, by simp, .nil s.seen, by simp⟩

theorem Collects.append (h : Collects world todo s s') (h' : Collects world todo' s' s'') :
    Collects world (todo ++ todo') s s'' := by
  obtain ⟨new, hdefs, hseen, horder, hbodies⟩ := h
  obtain ⟨new', hdefs', hseen', horder', hbodies'⟩ := h'
  refine ⟨new ++ new', ?_, ?_, ?_, ?_⟩
  · rw [hdefs', hdefs, List.append_assoc]
  · intro x
    rw [hseen', hseen, List.map_append, List.mem_append]
    constructor
    · intro hx
      rcases hx with hx | hx | hx
      · exact .inl (.inr hx)
      · exact .inl (.inl hx)
      · exact .inr hx
    · intro hx
      rcases hx with (hx | hx) | hx
      · exact .inr (.inl hx)
      · exact .inl hx
      · exact .inr (.inr hx)
  · rw [List.map_append]
    refine horder.append (horder'.congr ?_)
    intro x
    rw [hseen, List.mem_append]
  · intro definition hd
    rcases List.mem_append.mp hd with hd | hd
    · exact hbodies definition hd
    · exact hbodies' definition hd

/-- **The rule of a loop**: what each round does, the loop does. -/
theorem forEach_ok {ε : Type} {body : Str → Collected → Option (Except ε Collected)}
    (inv : Collected → Prop) :
    ∀ {todo : List Str} {s s' : Collected},
      (∀ a ∈ todo, ∀ t t', inv t → body a t = some (.ok t') → Collects world [a] t t' ∧ inv t') →
      inv s → forEach body todo s = some (.ok s') → Collects world todo s s' ∧ inv s' := by
  intro todo
  induction todo with
  | nil =>
    intro s s' _ hinv h
    rw [forEach, Option.some.injEq, Except.ok.injEq] at h
    subst h
    exact ⟨.nil s, hinv⟩
  | cons a todo ih =>
    intro s s' hbody hinv h
    rw [forEach] at h
    split at h
    · rename_i t ht
      obtain ⟨hfirst, hinv'⟩ := hbody a List.mem_cons_self s t hinv ht
      obtain ⟨hrest, hinv''⟩ := ih (fun b hb => hbody b (List.mem_cons_of_mem a hb)) hinv' h
      exact ⟨hfirst.append hrest, hinv''⟩
    · rename_i hstopped
      exact absurd h (hstopped s')

/-- An exception in a loop comes out of one of its rounds. -/
theorem forEach_error {σ ε : Type} {body : Str → σ → Option (Except ε σ)} {e : ε} :
    ∀ {todo : List Str} {s : σ}, forEach body todo s = some (.error e) →
      ∃ a ∈ todo, ∃ t, body a t = some (.error e) := by
  intro todo
  induction todo with
  | nil =>
    intro s h
    cases h
  | cons a todo ih =>
    intro s h
    rw [forEach] at h
    split at h
    · obtain ⟨b, hb, t, ht⟩ := ih h
      exact ⟨b, List.mem_cons_of_mem a hb, t, ht⟩
    · exact ⟨a, List.mem_cons_self, s, h⟩

/-- A loop whose rounds have fuel has fuel. -/
theorem forEach_ne_none {ε : Type} {body : Str → Collected → Option (Except ε Collected)}
    (inv : Collected → Prop) :
    ∀ {todo : List Str} {s : Collected}, (∀ a t, inv t → body a t ≠ none) →
      (∀ a t t', inv t → body a t = some (.ok t') → inv t') → inv s →
      forEach body todo s ≠ none := by
  intro todo
  induction todo with
  | nil =>
    intro s _ _ _ h
    cases h
  | cons a todo ih =>
    intro s hsome hkeep hinv h
    rw [forEach] at h
    split at h
    · rename_i t ht
      exact ih hsome hkeep (hkeep a s t hinv ht) h
    · exact hsome a s hinv h

end Collect

section Traversal

variable {world : World} {failures : FailureCache}

/-- **What `collect` does.** -/
theorem collect_cases (hf : Faithful world failures) (fuel : Nat) (type : Str) (s : Collected) :
    (type ∈ s.seen ∧ collect world failures (fuel + 1) type s = some (.ok s)) ∨
    (type ∉ s.seen ∧ ∃ e, loadDefinition world type = .error e ∧
      collect world failures (fuel + 1) type s = some (.error (type, e))) ∨
    (type ∉ s.seen ∧ ∃ body, loadDefinition world type = .ok body ∧
      collect world failures (fuel + 1) type s =
        forEach (collect world failures fuel) (dependencies world type)
          ⟨type :: s.seen, s.definitions ++ [⟨type, body⟩]⟩) := by
  rw [collect]
  by_cases hseen : type ∈ s.seen
  · exact .inl ⟨hseen, if_pos hseen⟩
  · rw [if_neg hseen, load_eq hf, dependencies]
    cases hl : loadDefinition world type with
    | error e => exact .inr (.inl ⟨hseen, e, rfl, rfl⟩)
    | ok body =>
      obtain ⟨parsed, _, hp, _, _⟩ := loadDefinition_ok hl
      rw [hp]
      exact .inr (.inr ⟨hseen, body, rfl, rfl⟩)

/-- **`collect` is a traversal.** -/
theorem collect_ok (hf : Faithful world failures) : ∀ (fuel : Nat) {type : Str} {s s' : Collected},
    collect world failures fuel type s = some (.ok s') → Collects world [type] s s' := by
  intro fuel
  induction fuel with
  | zero =>
    intro type s s' h
    cases h
  | succ fuel ih =>
    intro type s s' h
    rcases collect_cases hf fuel type s with ⟨hseen, he⟩ | ⟨_, e, _, he⟩ | ⟨hseen, body, hl, he⟩
    · rw [he, Option.some.injEq, Except.ok.injEq] at h
      subst h
      exact ⟨[], by simp, by simp, .known hseen (.nil _), by simp⟩
    · rw [he] at h
      cases h
    · rw [he] at h
      obtain ⟨⟨new, hdefs, hseen', horder, hbodies⟩, _⟩ :=
        forEach_ok (fun _ => True) (fun a _ t t' _ ht => ⟨ih ht, trivial⟩) trivial h
      refine ⟨⟨type, body⟩ :: new, ?_, ?_, ?_, ?_⟩
      · rw [hdefs, List.append_assoc]
        rfl
      · intro x
        rw [hseen', List.map_cons, List.mem_cons, List.mem_cons]
        constructor
        · intro hx
          rcases hx with hx | hx | hx
          · exact .inl (.inr hx)
          · exact .inl (.inl hx)
          · exact .inr hx
        · intro hx
          rcases hx with (hx | hx) | hx
          · exact .inr (.inl hx)
          · exact .inl hx
          · exact .inr (.inr hx)
      · have hvisit := DepthFirst.visit hseen horder (.nil _)
        rwa [List.append_nil] at hvisit
      · intro definition hd
        rcases List.mem_cons.mp hd with rfl | hd
        · exact hl
        · exact hbodies definition hd

/-- **`collect` throws what a type reachable from it throws.** -/
theorem collect_error (hf : Faithful world failures) : ∀ (fuel : Nat) {type t : Str} {s : Collected}
    {e : StdException}, collect world failures fuel type s = some (.error (t, e)) →
    loadDefinition world t = .error e ∧
      Relation.ReflTransGen (Succ (dependencies world)) type t := by
  intro fuel
  induction fuel with
  | zero =>
    intro type t s e h
    cases h
  | succ fuel ih =>
    intro type t s e h
    rcases collect_cases hf fuel type s with ⟨_, he⟩ | ⟨_, e', hl, he⟩ | ⟨_, _, _, he⟩
    · rw [he] at h
      cases h
    · rw [he, Option.some.injEq, Except.error.injEq, Prod.mk.injEq] at h
      obtain ⟨rfl, rfl⟩ := h
      exact ⟨hl, .refl⟩
    · rw [he] at h
      obtain ⟨dependency, hd, _, ht⟩ := forEach_error h
      obtain ⟨hl, hreach⟩ := ih ht
      exact ⟨hl, Relation.ReflTransGen.head hd hreach⟩

/-- How many of the types that can be loaded have not been seen. -/
def unseen (loadable : Finset Str) (s : Collected) : Nat := (loadable.filter (· ∉ s.seen)).card

theorem unseen_le_of_collects (loadable : Finset Str) {todo : List Str} {s s' : Collected}
    (h : Collects world todo s s') : unseen loadable s' ≤ unseen loadable s := by
  obtain ⟨new, _, hseen, _, _⟩ := h
  refine Finset.card_le_card ?_
  intro x hx
  rw [Finset.mem_filter] at hx ⊢
  exact ⟨hx.1, fun hs => hx.2 ((hseen x).mpr (.inr hs))⟩

theorem unseen_lt_of_new (definitions : List InterfaceDefinition) {loadable : Finset Str} {type : Str}
    {s : Collected} (hload : type ∈ loadable) (hseen : type ∉ s.seen) :
    unseen loadable ⟨type :: s.seen, definitions⟩ < unseen loadable s := by
  refine Finset.card_lt_card ?_
  rw [Finset.ssubset_iff_of_subset]
  · refine ⟨type, Finset.mem_filter.mpr ⟨hload, hseen⟩, ?_⟩
    simp
  · intro x hx
    rw [Finset.mem_filter] at hx ⊢
    exact ⟨hx.1, fun hs => hx.2 (List.mem_cons_of_mem type hs)⟩

/-- **There is fuel enough**: each level of the recursion has seen one more type that loads. -/
theorem collect_ne_none (hf : Faithful world failures) {loadable : Finset Str}
    (hload : ∀ t, Loads world t → t ∈ loadable) : ∀ (fuel : Nat) (type : Str) (s : Collected),
    unseen loadable s < fuel → collect world failures fuel type s ≠ none := by
  intro fuel
  induction fuel with
  | zero =>
    intro type s h
    omega
  | succ fuel ih =>
    intro type s h hnone
    rcases collect_cases hf fuel type s with ⟨_, he⟩ | ⟨_, e, _, he⟩ | ⟨hseen, body, hl, he⟩
    · rw [he] at hnone
      cases hnone
    · rw [he] at hnone
      cases hnone
    · rw [he] at hnone
      have hless := unseen_lt_of_new (s.definitions ++ [⟨type, body⟩])
        (hload type ⟨body, hl⟩) hseen
      refine forEach_ne_none (fun t => unseen loadable t < fuel) ?_ ?_ (by omega) hnone
      · intro a t ht
        exact ih a t ht
      · intro a t t' ht hok
        have hle := unseen_le_of_collects loadable (collect_ok hf fuel hok)
        omega

/-! ### Merging -/

/-- The types seen are closed under dependencies. -/
def Closed (world : World) (s : Collected) : Prop :=
  ∀ x ∈ s.seen, ∀ y ∈ dependencies world x, y ∈ s.seen

/-- **What `mergeDefinitions` does** with definitions of different types. -/
theorem mergeDefinitions_eq : ∀ {found : List InterfaceDefinition} (s : Collected),
    (found.map InterfaceDefinition.type).Nodup →
    (mergeDefinitions s found).definitions =
      s.definitions ++ found.filter (fun definition => definition.type ∉ s.seen) ∧
    ∀ x, x ∈ (mergeDefinitions s found).seen ↔
      x ∈ found.map InterfaceDefinition.type ∨ x ∈ s.seen := by
  intro found
  induction found with
  | nil =>
    intro s _
    simp [mergeDefinitions]
  | cons definition found ih =>
    intro s hnodup
    rw [List.map_cons, List.nodup_cons] at hnodup
    obtain ⟨hnew, hnodup⟩ := hnodup
    have hstep : mergeDefinitions s (definition :: found) =
        mergeDefinitions (if definition.type ∈ s.seen then s
          else ⟨definition.type :: s.seen, s.definitions ++ [definition]⟩) found := rfl
    rw [hstep]
    by_cases hseen : definition.type ∈ s.seen
    · rw [if_pos hseen]
      obtain ⟨hdefs, hmem⟩ := ih s hnodup
      refine ⟨?_, ?_⟩
      · rw [hdefs, List.filter_cons_of_neg (by simp [hseen])]
      · intro x
        rw [hmem, List.map_cons, List.mem_cons]
        constructor
        · intro hx
          rcases hx with hx | hx
          · exact .inl (.inr hx)
          · exact .inr hx
        · intro hx
          rcases hx with (rfl | hx) | hx
          · exact .inr hseen
          · exact .inl hx
          · exact .inr hx
    · rw [if_neg hseen]
      obtain ⟨hdefs, hmem⟩ := ih ⟨definition.type :: s.seen, s.definitions ++ [definition]⟩ hnodup
      refine ⟨?_, ?_⟩
      · have hrest : found.filter (fun d => d.type ∉ definition.type :: s.seen) =
            found.filter (fun d => d.type ∉ s.seen) := by
          refine List.filter_congr ?_
          intro d hd
          have hne : d.type ≠ definition.type := by
            intro he
            exact hnew (he ▸ List.mem_map_of_mem hd)
          simp [hne]
        rw [hdefs, hrest, List.filter_cons_of_pos (by simp [hseen]), List.append_assoc]
        rfl
      · intro x
        rw [hmem, List.map_cons, List.mem_cons, List.mem_cons]
        constructor
        · intro hx
          rcases hx with hx | rfl | hx
          · exact .inl (.inr hx)
          · exact .inl (.inl rfl)
          · exact .inr hx
        · intro hx
          rcases hx with (rfl | hx) | hx
          · exact .inr (.inl rfl)
          · exact .inl hx
          · exact .inr (.inr hx)

/-- One round of the loop of `showInterfaces`. -/
def showType (world : World) (failures : FailureCache) (fuel : Nat) (type : Str) (s : Collected) :
    Option (Except (Str × StdException) Collected) :=
  match lookupDefinitions world failures fuel type with
  | none => none
  | some (.error e) => some (.error e)
  | some (.ok found) => some (.ok (mergeDefinitions s found))

theorem showTypes_eq (world : World) (failures : FailureCache) (fuel : Nat) (types : List Str) :
    showTypes world failures fuel types = forEach (showType world failures fuel) types ⟨[], []⟩ :=
  rfl

/-- **What a round does.** -/
theorem showType_cases (world : World) (failures : FailureCache) (fuel : Nat) (type : Str)
    (s : Collected) :
    (collect world failures fuel type ⟨[], []⟩ = none ∧
      showType world failures fuel type s = none) ∨
    (∃ e, collect world failures fuel type ⟨[], []⟩ = some (.error e) ∧
      showType world failures fuel type s = some (.error e)) ∨
    (∃ t, collect world failures fuel type ⟨[], []⟩ = some (.ok t) ∧
      showType world failures fuel type s = some (.ok (mergeDefinitions s t.definitions))) := by
  rw [showType, lookupDefinitions]
  cases hc : collect world failures fuel type ⟨[], []⟩ with
  | none => exact .inl ⟨rfl, rfl⟩
  | some result =>
    cases result with
    | error e => exact .inr (.inl ⟨e, rfl, rfl⟩)
    | ok t => exact .inr (.inr ⟨t, rfl, rfl⟩)

/-- **A round is a traversal from what has been seen**, which stays closed. -/
theorem showType_ok (hf : Faithful world failures) {fuel : Nat} {type : Str} {s s' : Collected}
    (hclosed : Closed world s) (h : showType world failures fuel type s = some (.ok s')) :
    Collects world [type] s s' ∧ Closed world s' := by
  rcases showType_cases world failures fuel type s with ⟨_, he⟩ | ⟨e, _, he⟩ | ⟨t, hc, he⟩
  · rw [he] at h
    cases h
  · rw [he] at h
    cases h
  rw [he, Option.some.injEq, Except.ok.injEq] at h
  obtain ⟨found, hdefs, _, horder, hbodies⟩ := collect_ok hf fuel hc
  have hfound : t.definitions = found := hdefs
  rw [hfound] at h
  obtain ⟨hmerged, hmem⟩ := mergeDefinitions_eq s horder.nodup
  rw [h] at hmerged hmem
  have hmap : (found.filter fun d => d.type ∉ s.seen).map InterfaceDefinition.type =
      (found.map InterfaceDefinition.type).filter fun x => x ∉ s.seen := by
    rw [List.filter_map]
    rfl
  refine ⟨⟨found.filter fun d => d.type ∉ s.seen, hmerged, ?_, ?_, ?_⟩, ?_⟩
  · intro x
    rw [hmem, hmap, List.mem_filter, decide_eq_true_eq]
    constructor
    · intro hx
      by_cases hs : x ∈ s.seen
      · exact .inr hs
      · exact .inl ⟨hx.resolve_right hs, hs⟩
    · intro hx
      rcases hx with ⟨hx, _⟩ | hx
      · exact .inl hx
      · exact .inr hx
  · rw [hmap]
    have habsorb := horder.absorb hclosed
    rw [show (⟨[], []⟩ : Collected).seen ++ s.seen = s.seen from rfl] at habsorb
    convert habsorb
  · intro d hd
    exact hbodies d (List.mem_filter.mp hd).1
  · intro x hx y hy
    rw [hmem] at hx ⊢
    rcases hx with hx | hx
    · exact .inl ((horder.closed x hx y hy).resolve_left (by simp))
    · exact .inr (hclosed x hx y hy)

/-! ### The response -/

theorem showTypes_ok (hf : Faithful world failures) {fuel : Nat} {types : List Str} {s : Collected}
    (h : showTypes world failures fuel types = some (.ok s)) :
    Collects world types ⟨[], []⟩ s := by
  have hclosed : Closed world ⟨[], []⟩ := by
    intro x hx
    cases hx
  rw [showTypes_eq] at h
  refine (forEach_ok (Closed world) ?_ hclosed h).1
  intro type _ t t' ht hround
  exact showType_ok hf ht hround

theorem showTypes_error (hf : Faithful world failures) {fuel : Nat} {types : List Str} {t : Str}
    {e : StdException} (h : showTypes world failures fuel types = some (.error (t, e))) :
    loadDefinition world t = .error e ∧ Reaches world types t := by
  rw [showTypes_eq] at h
  obtain ⟨type, htype, s, hround⟩ := forEach_error h
  rcases showType_cases world failures fuel type s with ⟨_, he⟩ | ⟨e', hc, he⟩ | ⟨_, _, he⟩
  · rw [he] at hround
    cases hround
  · rw [he, Option.some.injEq, Except.error.injEq] at hround
    subst hround
    obtain ⟨hl, hreach⟩ := collect_error hf fuel hc
    exact ⟨hl, type, htype, hreach⟩
  · rw [he] at hround
    cases hround

theorem showTypes_ne_none (hf : Faithful world failures) {loadable : Finset Str}
    (hload : ∀ t, Loads world t → t ∈ loadable) {fuel : Nat} (hfuel : loadable.card < fuel)
    (types : List Str) : showTypes world failures fuel types ≠ none := by
  rw [showTypes_eq]
  refine forEach_ne_none (fun _ => True) ?_ (fun _ _ _ _ _ => trivial) trivial
  intro type s _ hnone
  have hless : unseen loadable ⟨[], []⟩ < fuel :=
    Nat.lt_of_le_of_lt (Finset.card_filter_le _ _) hfuel
  rcases showType_cases world failures fuel type s with ⟨hc, _⟩ | ⟨e, _, he⟩ | ⟨t, _, he⟩
  · exact collect_ne_none hf hload fuel type ⟨[], []⟩ hless hc
  · rw [he] at hnone
    cases hnone
  · rw [he] at hnone
    cases hnone

/-- What the cache holds was thrown by loading. -/
theorem Remembered.faithful (h : Remembered world failures) : Faithful world failures := by
  induction h with
  | empty =>
    intro t failure hl
    cases hl
  | @served failures failures' fuel types response _ hshow ih =>
    rw [showInterfaces] at hshow
    split at hshow
    · cases hshow
    · rename_i t e herror
      rw [Option.some.injEq, Prod.mk.injEq] at hshow
      obtain ⟨rfl, _⟩ := hshow
      exact ih.remember (showTypes_error ih herror).1
    · rw [Option.some.injEq, Prod.mk.injEq] at hshow
      obtain ⟨rfl, _⟩ := hshow
      exact ih

end Traversal

/-- The definitions are those of one depth-first traversal over the requests, in preorder and with
one set of visited types. -/
structure SharedTraversal (world : World) (types : List Str) (definitions : List InterfaceDefinition) :
    Prop where
  order : ∀ order, DepthFirst (dependencies world) [] types order ↔
    order = definitions.map InterfaceDefinition.type
  bodies : ∀ definition ∈ definitions, loadDefinition world definition.type = .ok definition.body
  /-- A request is followed by what is found from it, unless it was found from an earlier one. -/
  requests : ∀ pre request post, types = pre ++ request :: post → ∃ before new after,
    definitions.map InterfaceDefinition.type = before ++ new ++ after ∧
    DepthFirst (dependencies world) [] pre before ∧
    (request ∈ before ∧ new = [] ∨ request ∉ before ∧ new.head? = some request ∧
      ∀ x ∈ new, Relation.ReflTransGen (Succ (dependencies world)) request x)
  nodup : (definitions.map InterfaceDefinition.type).Nodup
  closed : ∀ definition ∈ definitions, ∀ parsed, ParsedType.parse definition.type = .ok parsed →
    ∀ x ∈ parseDependencies definition.body parsed.package,
      x ∈ definitions.map InterfaceDefinition.type
  reached : ∀ x, x ∈ definitions.map InterfaceDefinition.type ↔ Reaches world types x

theorem Collects.sharedTraversal {world : World} {types : List Str} {s : Collected}
    (h : Collects world types ⟨[], []⟩ s) : SharedTraversal world types s.definitions := by
  obtain ⟨definitions, hdefs, _, horder, hbodies⟩ := h
  have hnew : s.definitions = definitions := hdefs
  rw [hnew]
  refine ⟨?_, hbodies, ?_, horder.nodup, ?_, horder.mem_iff_reachable⟩
  · intro order
    constructor
    · intro horder'
      exact horder'.unique horder
    · intro he
      rw [he]
      exact horder
  · intro pre request post htypes
    rw [htypes] at horder
    obtain ⟨before, rest, hsplit, hbefore, hrest⟩ := horder.of_append
    rw [List.append_nil] at hrest
    obtain ⟨new, after, hsplit', hfrom, _⟩ :=
      DepthFirst.of_append (show DepthFirst _ before ([request] ++ post) rest from hrest)
    refine ⟨before, new, after, ?_, hbefore, hfrom.singleton⟩
    rw [hsplit, hsplit', List.append_assoc]
  · intro definition hd parsed hparse x hx
    have hdep : x ∈ dependencies world definition.type := by
      rw [dependencies, hbodies definition hd, hparse]
      exact hx
    have hmem := horder.closed definition.type (List.mem_map_of_mem hd) x hdep
    exact hmem.resolve_left (by simp)

/-- **A request is one shared traversal.**  There is a depth that `showInterfaces` never exceeds;
it answers with the definitions of the traversal if everything reachable loads, and fails
otherwise. -/
theorem showInterfaces_depthFirst (world : World) (hfinite : {type | Loads world type}.Finite) :
    ∃ depth, ∀ fuel ≥ depth, ∀ failures, Remembered world failures → ∀ types : List Str,
      ∃ failures' response, showInterfaces world failures fuel types = some (failures', response) ∧
        ((∀ type, Reaches world types type → Loads world type) →
          ∃ definitions, response = .ok definitions ∧ SharedTraversal world types definitions) ∧
        ((∃ type, Reaches world types type ∧ ¬ Loads world type) → ∃ e, response = .error e) := by
  refine ⟨hfinite.toFinset.card + 1, ?_⟩
  intro fuel hfuel failures hremembered types
  have hf := hremembered.faithful
  have hload : ∀ type, Loads world type → type ∈ hfinite.toFinset := by
    intro type hl
    exact hfinite.mem_toFinset.mpr hl
  have hsome := showTypes_ne_none hf hload (show hfinite.toFinset.card < fuel by omega) types
  rw [showInterfaces]
  cases hshow : showTypes world failures fuel types with
  | none => exact absurd hshow hsome
  | some result =>
    cases result with
    | error failure =>
      obtain ⟨type, e⟩ := failure
      obtain ⟨hl, hreach⟩ := showTypes_error hf hshow
      refine ⟨_, _, rfl, ?_, fun _ => ⟨e, rfl⟩⟩
      intro hall
      obtain ⟨body, hbody⟩ := hall type hreach
      rw [hl] at hbody
      cases hbody
    | ok s =>
      have hshared := (showTypes_ok hf hshow).sharedTraversal
      refine ⟨_, _, rfl, fun _ => ⟨s.definitions, rfl, hshared⟩, ?_⟩
      intro hex
      obtain ⟨type, hreach, hl⟩ := hex
      obtain ⟨definition, hd, rfl⟩ := List.mem_map.mp ((hshared.reached type).mpr hreach)
      exact absurd ⟨definition.body, hshared.bodies definition hd⟩ hl

/-! ### Two messages that contain each other -/

/-- One package, whose two messages contain each other. -/
def cycle : World where
  resource package := if package = lit "a" then some ([], []) else none
  file path :=
    if path = lit "share/a/msg/A.msg" then some (lit "B b")
    else if path = lit "share/a/msg/B.msg" then some (lit "A a")
    else none

theorem length_le_of_loads_cycle {type : Str} (h : Loads cycle type) : type.length ≤ 17 := by
  obtain ⟨body, hl⟩ := h
  obtain ⟨parsed, path, hparse, hresolve, hfile⟩ := loadDefinition_ok hl
  have hpath : path.length = 17 := by
    simp only [cycle] at hfile
    split at hfile
    · rename_i hp
      rw [hp]
      rfl
    · split at hfile
      · rename_i hp
        rw [hp]
        rfl
      · cases hfile
  by_cases hpackage : parsed.package = lit "a"
  · have hjoin : path = lit "share/a/" ++
        (parsed.kind ++ lit "/" ++ parsed.name ++ lit "." ++ parsed.kind) := by
      simp only [resolveDefinitionPath, cycle, hpackage, if_pos] at hresolve
      exact (Except.ok.inj hresolve).symm
    rw [hjoin] at hpath
    rw [(eq_of_parse hparse).1, hpackage]
    simp only [List.length_append, List.length_cons] at hpath ⊢
    have hlit : (lit "a").length = 1 ∧ (lit "share/a/").length = 8 := by decide
    omega
  · simp only [resolveDefinitionPath, cycle, if_neg hpackage] at hresolve
    cases hresolve

theorem dependencies_cycle : dependencies cycle (lit "a/msg/A") = [lit "a/msg/B"] ∧
    dependencies cycle (lit "a/msg/B") = [lit "a/msg/A"] := by
  decide

/-- The request for both messages lists each once. -/
theorem showInterfaces_depthFirst_cycle : {type | Loads cycle type}.Finite ∧
    ∃ depth, ∀ fuel ≥ depth, ∃ failures' definitions,
      showInterfaces cycle ∅ fuel [lit "a/msg/B", lit "a/msg/A"] =
        some (failures', .ok definitions) ∧
      definitions.map InterfaceDefinition.type = [lit "a/msg/B", lit "a/msg/A"] := by
  have hbytes : Finite UInt8 := Finite.of_injective UInt8.toFin fun _ _ h => UInt8.toFin_inj.mp h
  have hfinite : {type | Loads cycle type}.Finite :=
    (List.finite_length_le UInt8 17).subset fun _ => length_le_of_loads_cycle
  obtain ⟨hA, hB⟩ := dependencies_cycle
  have hall : ∀ type, Reaches cycle [lit "a/msg/B", lit "a/msg/A"] type → Loads cycle type := by
    intro type hreach
    obtain ⟨request, hrequest, hreach⟩ := hreach
    have hmem : type ∈ [lit "a/msg/B", lit "a/msg/A"] := by
      refine mem_of_reachable ?_ hrequest hreach
      simp [hA, hB]
    simp only [List.mem_cons, List.not_mem_nil, or_false] at hmem
    rcases hmem with rfl | rfl
    · exact ⟨lit "A a", by decide⟩
    · exact ⟨lit "B b", by decide⟩
  have horder : DepthFirst (dependencies cycle) [] [lit "a/msg/B", lit "a/msg/A"]
      [lit "a/msg/B", lit "a/msg/A"] := by
    have hbelow : DepthFirst (dependencies cycle) [lit "a/msg/A", lit "a/msg/B"]
        (dependencies cycle (lit "a/msg/A")) [] := by
      rw [hA]
      exact .known (by simp) (.nil _)
    have hfirst : DepthFirst (dependencies cycle) [lit "a/msg/B"]
        (dependencies cycle (lit "a/msg/B")) [lit "a/msg/A"] := by
      rw [hB]
      exact .visit (by decide) hbelow (.nil _)
    exact .visit (by simp) hfirst (.known (by simp) (.nil _))
  refine ⟨hfinite, ?_⟩
  obtain ⟨depth, hdepth⟩ := showInterfaces_depthFirst cycle hfinite
  refine ⟨depth, ?_⟩
  intro fuel hfuel
  obtain ⟨failures', response, hshow, hok, _⟩ :=
    hdepth fuel hfuel ∅ .empty [lit "a/msg/B", lit "a/msg/A"]
  obtain ⟨definitions, rfl, hshared⟩ := hok hall
  exact ⟨failures', definitions, hshow, ((hshared.order _).mp horder).symm⟩

end LivekitBridge
