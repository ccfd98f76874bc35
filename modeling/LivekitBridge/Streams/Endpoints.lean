import LivekitBridge.Streams.Rules

/-!
# The endpoints of a pipeline

`utils/gstreamer_pipeline_validation.cpp`: `validatePipeline` parses a description, goes through the
elements of the result and counts its endpoints.  GStreamer may tell the iterator to start over
(`GST_ITERATOR_RESYNC`); `countEndpoints` goes on with the counts that it has.

`Lists` is what the iterator does: any number of passes that are given up, and a last one over all
elements.  `Owns` says that the endpoints are those of the layout, under the names of the layout.
What is counted in a pass that is given up is counted again in the last one, so a layout with at most
one endpoint of a kind is never matched by a pipeline that does not have it
(`validatePipeline_eq_ok_iff`).

`gst_parse_launch` and the iterator are parameters.  A counter is a natural number: a pipeline with
2^32 elements is not part of the model.
-/

namespace LivekitBridge

open Lib

/-- What is read of a `GstElement`. -/
structure GstElement where
  /-- The name of the factory, when there is one. -/
  factory : Option Str
  name : Str
  /-- `GST_IS_APP_SRC` -/
  isAppSrc : Bool
  /-- `GST_IS_APP_SINK` -/
  isAppSink : Bool
deriving DecidableEq, Repr

/-- A result of `gst_iterator_next` before `GST_ITERATOR_DONE`. -/
inductive GstIteratorResult
  | ok (element : GstElement)
  | resync
  | error
deriving DecidableEq, Repr

/-- What `gst_parse_launch` returns. -/
structure GstPipeline where
  /-- `GST_IS_BIN` -/
  isBin : Bool
  /-- The elements of the bin and of the bins in it. -/
  elements : List GstElement
deriving DecidableEq, Repr

/-- What `gst_parse_launch` returns and the error that it sets; there may be both. -/
structure GstParse where
  pipeline : Option GstPipeline
  error : Option Str
deriving DecidableEq, Repr

@[ext] structure EndpointCounts where
  appsrc : Nat
  appsink : Nat
  bridgeAppsrc : Nat
  bridgeAppsink : Nat
deriving DecidableEq, Repr

namespace GstElement

def factoryName (e : GstElement) : Str := e.factory.getD []

/-- `is_appsrc` -/
def fromAppsrc (e : GstElement) : Bool := e.factoryName = lit "appsrc"

/-- `is_appsink` -/
def fromAppsink (e : GstElement) : Bool := e.factoryName = lit "appsink"

def hasName (reserved : Option Str) (e : GstElement) : Bool := reserved = some e.name

end GstElement

/-- A name that is reserved for an endpoint: the element that has it counts as the bridge's. -/
def countReserved (context : Str) (reserved : Option Str) (isKind : Bool)
    (add : EndpointCounts → EndpointCounts) (e : GstElement) (counts : EndpointCounts) :
    Except Str EndpointCounts :=
  if e.hasName reserved then
    if isKind then .ok (add counts)
    else .error (context ++ lit " must not reuse reserved element name '" ++ e.name ++ lit "'")
  else .ok counts

/-- One element in the loop of `countEndpoints`. -/
def countElement (context : Str) (layout : EndpointLayout) (counts : EndpointCounts)
    (e : GstElement) : Except Str EndpointCounts := do
  let counts :=
    if e.fromAppsrc then { counts with appsrc := counts.appsrc + 1 } else counts
  let counts :=
    if e.fromAppsink then { counts with appsink := counts.appsink + 1 } else counts
  let counts ← countReserved context layout.bridgeAppsrcName e.fromAppsrc
    (fun counts => { counts with bridgeAppsrc := counts.bridgeAppsrc + 1 }) e counts
  countReserved context layout.bridgeAppsinkName e.fromAppsink
    (fun counts => { counts with bridgeAppsink := counts.bridgeAppsink + 1 }) e counts

/-- `countEndpoints`: the loop, from the counts so far. -/
def countEndpoints (context : Str) (layout : EndpointLayout) :
    List GstIteratorResult → EndpointCounts → Except Str EndpointCounts
  | [], counts => .ok counts
  | .resync :: results, counts => countEndpoints context layout results counts
  | .error :: _, _ => .error (context ++ lit " could not inspect parsed GStreamer elements")
  | .ok e :: results, counts => do
    let counts ← countElement context layout counts e
    countEndpoints context layout results counts

namespace EndpointLayout

/-- `EndpointLayout::matches` -/
def matchesCounts (layout : EndpointLayout) (counts : EndpointCounts) : Bool :=
  counts.appsrc = layout.appsrc && counts.appsink = layout.appsink &&
    counts.bridgeAppsrc = layout.bridgeAppsrc && counts.bridgeAppsink = layout.bridgeAppsink

def hasUserEndpoint (layout : EndpointLayout) (counts : EndpointCounts) : Bool :=
  layout.appsrc < counts.appsrc || layout.appsink < counts.appsink ||
    layout.bridgeAppsrc < counts.bridgeAppsrc || layout.bridgeAppsink < counts.bridgeAppsink ||
    (counts.appsrc ≠ 0 && layout.bridgeAppsrc = 0) || (counts.appsink ≠ 0 && layout.bridgeAppsink = 0)

end EndpointLayout

/-- The text of the ownership error. -/
def ownershipError (context : Str) : Str :=
  context ++ lit " must not define appsrc/appsink endpoints; the bridge owns them"

section Validate

variable (parse : Str → GstParse) (iterate : GstPipeline → List GstIteratorResult)

/-- The first block of `validatePipeline`: what a partial parse already shows. -/
def checkPartialParse (context : Str) (layout : EndpointLayout) (parsed : GstParse) :
    Except Str Unit :=
  match parsed with
  | ⟨some pipeline, some _⟩ => do
    let counts ← countEndpoints context layout (iterate pipeline) ⟨0, 0, 0, 0⟩
    if layout.hasUserEndpoint counts then .error (ownershipError context) else .ok ()
  | _ => .ok ()

def validatePipeline (context description : Str) (layout : EndpointLayout) : Except Str Unit := do
  checkPartialParse iterate context layout (parse description)
  match (parse description).error, (parse description).pipeline with
  | some message, _ => .error (context ++ lit " has invalid GStreamer syntax: " ++ message)
  | none, none =>
    .error (context ++ lit " has invalid GStreamer syntax: gst_parse_launch returned null")
  | none, some pipeline =>
    if pipeline.isBin = false then .error (context ++ lit " must parse to a GstBin")
    else do
      let counts ← countEndpoints context layout (iterate pipeline) ⟨0, 0, 0, 0⟩
      if layout.matchesCounts counts then .ok () else .error (ownershipError context)

end Validate

/-! ### Counting -/

def returned : List GstIteratorResult → List GstElement
  | [] => []
  | .ok e :: results => e :: returned results
  | .resync :: results => returned results
  | .error :: results => returned results

/-- **What the iterator does**: passes that it gives up, which return the elements `seen`, and one
over all elements. -/
inductive Lists (elements : List GstElement) : List GstElement → List GstIteratorResult → Prop
  | done : Lists elements [] (elements.map .ok)
  | resync {pass seen : List GstElement} {results : List GstIteratorResult} :
      (∀ e ∈ pass, e ∈ elements) → Lists elements seen results →
        Lists elements (pass ++ seen) (pass.map .ok ++ .resync :: results)

namespace EndpointCounts

/-- The counts of some elements. -/
def count (layout : EndpointLayout) (elements : List GstElement) : EndpointCounts where
  appsrc := elements.countP GstElement.fromAppsrc
  appsink := elements.countP GstElement.fromAppsink
  bridgeAppsrc := elements.countP (GstElement.hasName layout.bridgeAppsrcName)
  bridgeAppsink := elements.countP (GstElement.hasName layout.bridgeAppsinkName)

instance : Add EndpointCounts where
  add a b := ⟨a.appsrc + b.appsrc, a.appsink + b.appsink, a.bridgeAppsrc + b.bridgeAppsrc,
    a.bridgeAppsink + b.bridgeAppsink⟩

@[simp] theorem add_appsrc (a b : EndpointCounts) : (a + b).appsrc = a.appsrc + b.appsrc := rfl

@[simp] theorem add_appsink (a b : EndpointCounts) : (a + b).appsink = a.appsink + b.appsink := rfl

@[simp] theorem add_bridgeAppsrc (a b : EndpointCounts) :
    (a + b).bridgeAppsrc = a.bridgeAppsrc + b.bridgeAppsrc := rfl

@[simp] theorem add_bridgeAppsink (a b : EndpointCounts) :
    (a + b).bridgeAppsink = a.bridgeAppsink + b.bridgeAppsink := rfl

theorem count_cons (layout : EndpointLayout) (e : GstElement) (elements : List GstElement) :
    count layout (e :: elements) = count layout [e] + count layout elements := by
  ext <;> simp only [count, List.countP_cons, List.countP_nil, add_appsrc, add_appsink,
    add_bridgeAppsrc, add_bridgeAppsink] <;> omega

theorem add_assoc (a b c : EndpointCounts) : a + b + c = a + (b + c) := by
  ext <;> simp [Nat.add_assoc]

end EndpointCounts

/-- A reserved name is on an endpoint of its kind only. -/
structure GstElement.Respects (layout : EndpointLayout) (e : GstElement) : Prop where
  appsrc : e.hasName layout.bridgeAppsrcName = true → e.fromAppsrc = true
  appsink : e.hasName layout.bridgeAppsinkName = true → e.fromAppsink = true

/-- The element is an endpoint, or has the name of one. -/
def GstElement.isEndpoint (layout : EndpointLayout) (e : GstElement) : Bool :=
  e.fromAppsrc || e.fromAppsink || e.hasName layout.bridgeAppsrcName ||
    e.hasName layout.bridgeAppsinkName

/-- **The endpoints are those of the layout.** -/
structure Owns (layout : EndpointLayout) (elements : List GstElement) : Prop where
  respects : ∀ e ∈ elements, e.Respects layout
  appsrc : elements.countP GstElement.fromAppsrc = layout.appsrc
  appsink : elements.countP GstElement.fromAppsink = layout.appsink
  bridgeAppsrc : elements.countP (GstElement.hasName layout.bridgeAppsrcName) = layout.bridgeAppsrc
  bridgeAppsink :
    elements.countP (GstElement.hasName layout.bridgeAppsinkName) = layout.bridgeAppsink

/-- The layout has at most one endpoint of each kind. -/
structure EndpointLayout.Single (layout : EndpointLayout) : Prop where
  appsrc : layout.appsrc ≤ 1
  appsink : layout.appsink ≤ 1
  bridgeAppsrc : layout.bridgeAppsrc ≤ 1
  bridgeAppsink : layout.bridgeAppsink ≤ 1

section Counting

variable {context : Str} {layout : EndpointLayout} {counts counts' : EndpointCounts} {e : GstElement}
  {results : List GstIteratorResult} {elements seen : List GstElement}

/-- **One round**: the element is counted unless it has a name that it must not have. -/
theorem countElement_eq_ok_iff : countElement context layout counts e = .ok counts' ↔
    e.Respects layout ∧ counts' = counts + EndpointCounts.count layout [e] := by
  have hrespects : e.Respects layout ↔
      (e.hasName layout.bridgeAppsrcName = true → e.fromAppsrc = true) ∧
        (e.hasName layout.bridgeAppsinkName = true → e.fromAppsink = true) :=
    ⟨fun h => ⟨h.appsrc, h.appsink⟩, fun h => ⟨h.1, h.2⟩⟩
  have hcount : counts' = counts + EndpointCounts.count layout [e] ↔
      counts + EndpointCounts.count layout [e] = counts' := eq_comm
  rw [hrespects, hcount, countElement]
  -- by what the element is, and which names it has
  cases hsrc : e.fromAppsrc <;> cases hsink : e.fromAppsink <;>
    cases hsrcName : e.hasName layout.bridgeAppsrcName <;>
    cases hsinkName : e.hasName layout.bridgeAppsinkName <;>
    simp [countReserved, bind, Except.bind, EndpointCounts.ext_iff, EndpointCounts.count, hsrc, hsink,
      hsrcName, hsinkName]

/-- **The loop**: it has returned when every element is counted. -/
theorem countEndpoints_eq_ok_iff : countEndpoints context layout results counts = .ok counts' ↔
    .error ∉ results ∧ (∀ e ∈ returned results, e.Respects layout) ∧
      counts' = counts + EndpointCounts.count layout (returned results) := by
  induction results generalizing counts with
  | nil =>
    have hzero : counts + EndpointCounts.count layout [] = counts := rfl
    simp [countEndpoints, returned, hzero, eq_comm]
  | cons result results ih =>
    cases result with
    | ok e =>
      rw [countEndpoints, bind_eq_ok, returned, EndpointCounts.count_cons, ← EndpointCounts.add_assoc]
      constructor
      · intro h
        obtain ⟨counted, hcounted, h⟩ := h
        obtain ⟨hrespects, rfl⟩ := countElement_eq_ok_iff.mp hcounted
        obtain ⟨herror, hall, rfl⟩ := ih.mp h
        refine ⟨by simpa using herror, ?_, rfl⟩
        intro x hx
        rcases List.mem_cons.mp hx with rfl | hx
        · exact hrespects
        · exact hall x hx
      · intro h
        obtain ⟨herror, hall, rfl⟩ := h
        refine ⟨_, countElement_eq_ok_iff.mpr ⟨hall e List.mem_cons_self, rfl⟩, ih.mpr ⟨?_, ?_, rfl⟩⟩
        · simpa using herror
        · exact fun x hx => hall x (List.mem_cons_of_mem e hx)
    | resync =>
      rw [countEndpoints, returned, ih]
      simp
    | error => simp [countEndpoints]

theorem returned_append (results more : List GstIteratorResult) :
    returned (results ++ more) = returned results ++ returned more := by
  induction results with
  | nil => rfl
  | cons result results ih => cases result <;> simp [returned, ih]

theorem returned_map_ok (elements : List GstElement) : returned (elements.map .ok) = elements := by
  induction elements with
  | nil => rfl
  | cons e elements ih => simp [returned, ih]

/-- What the loop sees of the iterator. -/
theorem Lists.returns (h : Lists elements seen results) :
    .error ∉ results ∧ returned results = seen ++ elements ∧ ∀ e ∈ seen, e ∈ elements := by
  induction h with
  | done => exact ⟨by simp, returned_map_ok elements, by simp⟩
  | @resync pass seen results hpass _ ih =>
    obtain ⟨herror, hreturned, hseen⟩ := ih
    refine ⟨by simpa using herror, ?_, ?_⟩
    · rw [returned_append, returned_map_ok, returned, hreturned, List.append_assoc]
    · intro e he
      rcases List.mem_append.mp he with he | he
      · exact hpass e he
      · exact hseen e he

/-- What is in both parts is counted twice, which is once too often. -/
theorem countP_append_eq_iff {p : GstElement → Bool} {n : Nat} (hn : n ≤ 1)
    (hseen : ∀ e ∈ seen, e ∈ elements) : (seen ++ elements).countP p = n ↔
      elements.countP p = n ∧ ∀ e ∈ seen, p e = false := by
  rw [List.countP_append]
  by_cases hnone : ∀ e ∈ seen, p e = false
  · have hzero : seen.countP p = 0 := List.countP_eq_zero.mpr (by simpa using hnone)
    rw [hzero, Nat.zero_add]
    exact ⟨fun h => ⟨h, hnone⟩, fun h => h.1⟩
  · have htwice : ∃ e ∈ seen, p e = true := by simpa using hnone
    obtain ⟨e, he, hpe⟩ := htwice
    have hfirst : 0 < seen.countP p := List.countP_pos_iff.mpr ⟨e, he, hpe⟩
    have hagain : 0 < elements.countP p := List.countP_pos_iff.mpr ⟨e, hseen e he, hpe⟩
    constructor
    · intro h
      omega
    · intro h
      exact absurd h.2 hnone

theorem GstElement.isEndpoint_eq_false_iff : e.isEndpoint layout = false ↔
    e.fromAppsrc = false ∧ e.fromAppsink = false ∧ e.hasName layout.bridgeAppsrcName = false ∧
      e.hasName layout.bridgeAppsinkName = false := by
  simp [GstElement.isEndpoint, and_assoc]

/-- **What is seen before the last pass** must not have an endpoint. -/
theorem owns_append_iff (hsingle : layout.Single) (hseen : ∀ e ∈ seen, e ∈ elements) :
    Owns layout (seen ++ elements) ↔
      Owns layout elements ∧ ∀ e ∈ seen, e.isEndpoint layout = false := by
  constructor
  · intro h
    obtain ⟨happsrc, hnoSrc⟩ := (countP_append_eq_iff hsingle.appsrc hseen).mp h.appsrc
    obtain ⟨happsink, hnoSink⟩ := (countP_append_eq_iff hsingle.appsink hseen).mp h.appsink
    obtain ⟨hsrc, hnoSrcName⟩ := (countP_append_eq_iff hsingle.bridgeAppsrc hseen).mp h.bridgeAppsrc
    obtain ⟨hsink, hnoSinkName⟩ :=
      (countP_append_eq_iff hsingle.bridgeAppsink hseen).mp h.bridgeAppsink
    refine ⟨⟨fun e he => h.respects e (List.mem_append_right seen he), happsrc, happsink, hsrc,
      hsink⟩, ?_⟩
    intro e he
    exact GstElement.isEndpoint_eq_false_iff.mpr
      ⟨hnoSrc e he, hnoSink e he, hnoSrcName e he, hnoSinkName e he⟩
  · intro h
    obtain ⟨howns, hnone⟩ := h
    have hfalse := fun e he => GstElement.isEndpoint_eq_false_iff.mp (hnone e he)
    refine ⟨?_,
      (countP_append_eq_iff hsingle.appsrc hseen).mpr ⟨howns.appsrc, fun e he => (hfalse e he).1⟩,
      (countP_append_eq_iff hsingle.appsink hseen).mpr ⟨howns.appsink, fun e he => (hfalse e he).2.1⟩,
      (countP_append_eq_iff hsingle.bridgeAppsrc hseen).mpr
        ⟨howns.bridgeAppsrc, fun e he => (hfalse e he).2.2.1⟩,
      (countP_append_eq_iff hsingle.bridgeAppsink hseen).mpr
        ⟨howns.bridgeAppsink, fun e he => (hfalse e he).2.2.2⟩⟩
    intro e he
    rcases List.mem_append.mp he with he | he
    · exact howns.respects e (hseen e he)
    · exact howns.respects e he

theorem countEndpoints_matches_iff : (∃ counts, countEndpoints context layout results ⟨0, 0, 0, 0⟩ =
      .ok counts ∧ layout.matchesCounts counts = true) ↔
    .error ∉ results ∧ Owns layout (returned results) := by
  have hzero : ∀ counts : EndpointCounts, ⟨0, 0, 0, 0⟩ + counts = counts := fun counts => by
    ext <;> simp
  constructor
  · intro h
    obtain ⟨counts, hcounts, hmatches⟩ := h
    obtain ⟨herror, hrespects, rfl⟩ := countEndpoints_eq_ok_iff.mp hcounts
    simp only [hzero, EndpointLayout.matchesCounts, EndpointCounts.count, Bool.and_eq_true,
      decide_eq_true_eq] at hmatches
    exact ⟨herror, hrespects, hmatches.1.1.1, hmatches.1.1.2, hmatches.1.2, hmatches.2⟩
  · intro h
    obtain ⟨herror, howns⟩ := h
    refine ⟨_, countEndpoints_eq_ok_iff.mpr ⟨herror, howns.respects, rfl⟩, ?_⟩
    simp [hzero, EndpointLayout.matchesCounts, EndpointCounts.count, howns.appsrc, howns.appsink,
      howns.bridgeAppsrc, howns.bridgeAppsink]

end Counting

/-! ### Validation -/

section Validated

variable {parse : Str → GstParse} {iterate : GstPipeline → List GstIteratorResult}
  {context description : Str} {layout : EndpointLayout}

theorem validatePipeline_eq_ok_iff_counts :
    validatePipeline parse iterate context description layout = .ok () ↔
      ∃ p, parse description = ⟨some p, none⟩ ∧ p.isBin = true ∧ .error ∉ iterate p ∧
        Owns layout (returned (iterate p)) := by
  rw [validatePipeline, bind_eq_ok]
  obtain ⟨pipeline, error⟩ := parse description
  cases error with
  | some message =>
    -- what the first block makes of a partial parse is an error in any case
    constructor
    · intro h
      obtain ⟨_, _, h⟩ := h
      cases h
    · intro h
      obtain ⟨p, hparse, _⟩ := h
      cases hparse
  | none =>
    have hfirst : checkPartialParse iterate context layout ⟨pipeline, none⟩ = .ok () := by
      cases pipeline <;> rfl
    rw [hfirst]
    cases pipeline with
    | none =>
      constructor
      · intro h
        obtain ⟨_, _, h⟩ := h
        cases h
      · intro h
        obtain ⟨p, hparse, _⟩ := h
        cases hparse
    | some pipeline =>
      constructor
      · intro h
        obtain ⟨_, _, h⟩ := h
        simp only at h
        split_ifs at h with hbin
        obtain ⟨counts, hcounts, h⟩ := bind_eq_ok.mp h
        split_ifs at h with hmatches
        obtain ⟨herror, howns⟩ := countEndpoints_matches_iff.mp ⟨counts, hcounts, hmatches⟩
        exact ⟨pipeline, rfl, by simpa using hbin, herror, howns⟩
      · intro h
        obtain ⟨p, hparse, hbin, herror, howns⟩ := h
        cases hparse
        obtain ⟨counts, hcounts, hmatches⟩ := countEndpoints_matches_iff.mpr ⟨herror, howns⟩
        refine ⟨(), rfl, ?_⟩
        simp only
        rw [if_neg (by simp [hbin]), bind_eq_ok]
        exact ⟨counts, hcounts, if_pos hmatches⟩

/-- **Acceptance**: the description parses to a bin that has the endpoints of the layout and no
others, and no endpoint was seen in a pass that was given up. -/
theorem validatePipeline_eq_ok_iff (hsingle : layout.Single)
    (hiterate : ∀ p : GstPipeline, p.isBin = true → ∃ seen, Lists p.elements seen (iterate p)) :
    validatePipeline parse iterate context description layout = .ok () ↔
      ∃ p seen, parse description = ⟨some p, none⟩ ∧ p.isBin = true ∧
        Lists p.elements seen (iterate p) ∧ Owns layout p.elements ∧
        ∀ e ∈ seen, e.isEndpoint layout = false := by
  rw [validatePipeline_eq_ok_iff_counts]
  constructor
  · intro h
    obtain ⟨p, hparse, hbin, _, howns⟩ := h
    obtain ⟨seen, hlists⟩ := hiterate p hbin
    obtain ⟨_, hreturned, hseen⟩ := hlists.returns
    rw [hreturned] at howns
    obtain ⟨howns, hnone⟩ := (owns_append_iff hsingle hseen).mp howns
    exact ⟨p, seen, hparse, hbin, hlists, howns, hnone⟩
  · intro h
    obtain ⟨p, seen, hparse, hbin, hlists, howns, hnone⟩ := h
    obtain ⟨herror, hreturned, hseen⟩ := hlists.returns
    refine ⟨p, hparse, hbin, herror, ?_⟩
    rw [hreturned]
    exact (owns_append_iff hsingle hseen).mpr ⟨howns, hnone⟩

theorem prefix_of_countReserved {reserved : Option Str} {isKind : Bool}
    {add : EndpointCounts → EndpointCounts} {e : GstElement} {counts : EndpointCounts} {what : Str}
    (h : countReserved context reserved isKind add e counts = .error what) : context <+: what := by
  rw [countReserved] at h
  split_ifs at h
  cases h
  simp [List.append_assoc]

theorem prefix_of_countElement {counts : EndpointCounts} {e : GstElement} {what : Str}
    (h : countElement context layout counts e = .error what) : context <+: what := by
  rcases bind_eq_error.mp h with h | ⟨counts', _, h⟩
  · exact prefix_of_countReserved h
  · exact prefix_of_countReserved h

theorem prefix_of_countEndpoints {results : List GstIteratorResult} {counts : EndpointCounts}
    {what : Str} (h : countEndpoints context layout results counts = .error what) :
    context <+: what := by
  induction results generalizing counts with
  | nil => cases h
  | cons result results ih =>
    cases result with
    | ok e =>
      rcases bind_eq_error.mp h with h | ⟨counts', _, h⟩
      · exact prefix_of_countElement h
      · exact ih h
    | resync => exact ih h
    | error =>
      cases h
      exact List.prefix_append context _

/-- **Every error names what is validated.** -/
theorem prefix_of_validatePipeline {what : Str}
    (h : validatePipeline parse iterate context description layout = .error what) :
    context <+: what := by
  rw [validatePipeline] at h
  rcases bind_eq_error.mp h with h | ⟨_, _, h⟩
  · rw [checkPartialParse.eq_def] at h
    split at h
    · rcases bind_eq_error.mp h with h | ⟨counts, _, h⟩
      · exact prefix_of_countEndpoints h
      · split_ifs at h
        cases h
        exact List.prefix_append context _
    · cases h
  · split at h
    · cases h
      simp [List.append_assoc]
    · cases h
      exact List.prefix_append context _
    · split_ifs at h
      · cases h
        exact List.prefix_append context _
      · rcases bind_eq_error.mp h with h | ⟨counts, _, h⟩
        · exact prefix_of_countEndpoints h
        · split_ifs at h
          cases h
          exact List.prefix_append context _

end Validated

/-- **Only the bridge has endpoints.**  However often the iterator starts over, what is accepted for
a layout with at most one endpoint of a kind is a bin with exactly these endpoints, under their
names, and it is accepted unless an endpoint was seen in a pass that was given up.  What is not
accepted is refused with an error that names it. -/
theorem endpoints_owned {parse : Str → GstParse} {iterate : GstPipeline → List GstIteratorResult}
    (hiterate : ∀ p : GstPipeline, p.isBin = true → ∃ seen, Lists p.elements seen (iterate p))
    {layout : EndpointLayout} (hsingle : layout.Single) (context description : Str) :
    (validatePipeline parse iterate context description layout = .ok () ↔
      ∃ p seen, parse description = ⟨some p, none⟩ ∧ p.isBin = true ∧
        Lists p.elements seen (iterate p) ∧ Owns layout p.elements ∧
        ∀ e ∈ seen, e.isEndpoint layout = false) ∧
    ∀ p, (parse description).pipeline = some p → ¬ Owns layout p.elements →
      ∃ reason, validatePipeline parse iterate context description layout =
        .error (context ++ reason) := by
  refine ⟨validatePipeline_eq_ok_iff hsingle hiterate, ?_⟩
  intro p hparse howns
  cases hresult : validatePipeline parse iterate context description layout with
  | ok _ =>
    obtain ⟨p', _, hparse', _, _, howns', _⟩ :=
      (validatePipeline_eq_ok_iff hsingle hiterate).mp hresult
    rw [hparse'] at hparse
    cases hparse
    exact absurd howns' howns
  | error what =>
    obtain ⟨reason, rfl⟩ := prefix_of_validatePipeline hresult
    exact ⟨reason, rfl⟩

theorem single_kOtherSourceLayout : Video.kOtherSourceLayout.Single := by
  constructor <;> decide

theorem single_kRosTopicRuleLayout : Video.kRosTopicRuleLayout.Single := by
  constructor <;> decide

/-- The bin of a test source, the last element first. -/
def testBin : GstPipeline where
  isBin := true
  elements :=
    [⟨some (lit "appsink"), Video.kBridgeAppSinkName, false, true⟩,
      ⟨some (lit "capsfilter"), lit "capsfilter0", false, false⟩,
      ⟨some (lit "videoconvert"), lit "videoconvert0", false, false⟩,
      ⟨some (lit "queue"), lit "queue0", false, false⟩,
      ⟨some (lit "videotestsrc"), lit "videotestsrc0", false, false⟩]

def parseTestSource (description : Str) : GstParse :=
  if description = Video.buildPipelineDescription (lit "videotestsrc") [] then ⟨some testBin, none⟩
  else ⟨none, some (lit "syntax error")⟩

/-- An iterator that does not start over. -/
def iterateOnce (p : GstPipeline) : List GstIteratorResult := p.elements.map .ok

theorem lists_iterateOnce (p : GstPipeline) : ∃ seen, Lists p.elements seen (iterateOnce p) :=
  ⟨[], .done⟩

theorem owns_testBin : Owns Video.kOtherSourceLayout testBin.elements := by
  have hrespects : ∀ e ∈ testBin.elements,
      (e.hasName Video.kOtherSourceLayout.bridgeAppsrcName = true → e.fromAppsrc = true) ∧
        (e.hasName Video.kOtherSourceLayout.bridgeAppsinkName = true → e.fromAppsink = true) := by
    decide
  exact ⟨fun e he => ⟨(hrespects e he).1, (hrespects e he).2⟩, by decide, by decide, by decide,
    by decide⟩

/-- The test source is accepted, and refused for the layout of a topic. -/
theorem endpoints_owned_testSource :
    validatePipeline parseTestSource iterateOnce (lit "source")
        (Video.buildPipelineDescription (lit "videotestsrc") []) Video.kOtherSourceLayout = .ok () ∧
      ∃ reason, validatePipeline parseTestSource iterateOnce (lit "source")
          (Video.buildPipelineDescription (lit "videotestsrc") []) Video.kRosTopicRuleLayout =
        .error (lit "source" ++ reason) := by
  have hparse : parseTestSource (Video.buildPipelineDescription (lit "videotestsrc") []) =
      ⟨some testBin, none⟩ := if_pos rfl
  constructor
  · refine (endpoints_owned (fun p _ => lists_iterateOnce p) single_kOtherSourceLayout _ _).1.mpr
      ⟨testBin, [], hparse, rfl, .done, owns_testBin, by simp⟩
  · refine (endpoints_owned (fun p _ => lists_iterateOnce p) single_kRosTopicRuleLayout _ _).2 testBin
      (by rw [hparse]) ?_
    intro howns
    exact absurd howns.appsrc (by decide)

-- An iterator that starts over behind the sink has counted it twice.
example : (countEndpoints (lit "source") Video.kOtherSourceLayout
    ((testBin.elements.take 1).map .ok ++ .resync :: testBin.elements.map .ok) ⟨0, 0, 0, 0⟩).toOption =
      some ⟨0, 2, 0, 2⟩ := by
  decide

end LivekitBridge
