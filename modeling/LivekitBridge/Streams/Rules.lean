import LivekitBridge.Lib.Fallible
import LivekitBridge.Names.RosExpansion
import LivekitBridge.Streams.Spec

/-!
# Selecting a rule

`findBestRosResourcePatternMatch` keeps a running best, which only a longer match replaces.
`BestAt` is what it finds: a match that is longer than the matches before it and not shorter than
those after it, so the first of the longest (`findBest_eq_some_iff`).

`video::loadConfig` reads the rules of the user in their order and puts the built-in rule for every
topic behind them.  A pattern that is accepted has at least the two bytes of `/*`, so a rule of the
user that matches is always preferred (`rule_selection`).

GStreamer decides whether a pipeline is valid; `validatePipeline` is what it throws.  As in
`Streams.Spec`, publish options are not part of the model: reading them never fails.
-/

namespace LivekitBridge

open Lib

/-! ### The best match -/

section Best

variable {α : Type} {entries pre post : List α} {resource : Str}
  {pattern : α → RosResourcePattern} {e : α}

/-- The entry matches, is longer than every match before it and as long as every match after it. -/
structure BestAt (resource : Str) (pattern : α → RosResourcePattern) (entries pre : List α) (e : α)
    (post : List α) : Prop where
  split : entries = pre ++ e :: post
  matched : (pattern e).matchesResource resource = true
  before : ∀ x ∈ pre, (pattern x).matchesResource resource = true →
    (pattern x).canonical.length < (pattern e).canonical.length
  after : ∀ x ∈ post, (pattern x).matchesResource resource = true →
    (pattern x).canonical.length ≤ (pattern e).canonical.length

/-- There is only one such place. -/
theorem BestAt.unique {pre' post' : List α} {e' : α} (h : BestAt resource pattern entries pre e post)
    (h' : BestAt resource pattern entries pre' e' post') : pre = pre' ∧ e = e' ∧ post = post' := by
  have hsplit := h.split.symm.trans h'.split
  rcases List.append_eq_append_iff.mp hsplit with ⟨between, hpre, hpost⟩ | ⟨between, hpre, hpost⟩
  · cases between with
    | nil =>
      rw [List.append_nil] at hpre
      rw [List.nil_append, List.cons.injEq] at hpost
      exact ⟨hpre.symm, hpost.1, hpost.2⟩
    | cons x between =>
      -- each would be better than the other
      rw [List.cons_append, List.cons.injEq] at hpost
      obtain ⟨rfl, hpost⟩ := hpost
      have hless := h'.before e (by simp [hpre]) h.matched
      have hle := h.after e' (by simp [hpost]) h'.matched
      omega
  · cases between with
    | nil =>
      rw [List.append_nil] at hpre
      rw [List.nil_append, List.cons.injEq] at hpost
      exact ⟨hpre, hpost.1.symm, hpost.2.symm⟩
    | cons x between =>
      rw [List.cons_append, List.cons.injEq] at hpost
      obtain ⟨rfl, hpost⟩ := hpost
      have hless := h.before e' (by simp [hpre]) h'.matched
      have hle := h'.after e (by simp [hpost]) h.matched
      omega

/-- One round of the scan. -/
theorem findBest_append_singleton (entries : List α) (x : α) :
    findBestRosResourcePatternMatch (entries ++ [x]) resource pattern =
      if (pattern x).matchesResource resource then
        match findBestRosResourcePatternMatch entries resource pattern with
        | some best =>
          if (pattern x).canonical.length ≤ (pattern best).canonical.length then some best
          else some x
        | none => some x
      else findBestRosResourcePatternMatch entries resource pattern := by
  rw [findBestRosResourcePatternMatch, List.foldl_append, ← findBestRosResourcePatternMatch]
  cases findBestRosResourcePatternMatch entries resource pattern with
  | none => rfl
  | some best => rfl

/-- **What the scan finds**: nothing when nothing matches, else the best match. -/
theorem findBest_cases (resource : Str) (pattern : α → RosResourcePattern) (entries : List α) :
    ((∀ x ∈ entries, (pattern x).matchesResource resource = false) ∧
      findBestRosResourcePatternMatch entries resource pattern = none) ∨
    ∃ pre e post, BestAt resource pattern entries pre e post ∧
      findBestRosResourcePatternMatch entries resource pattern = some e := by
  induction entries using List.reverseRecOn with
  | nil => exact .inl ⟨by simp, rfl⟩
  | append_singleton entries x ih =>
    rw [findBest_append_singleton]
    by_cases hx : (pattern x).matchesResource resource = true
    · rw [if_pos hx]
      rcases ih with ⟨hnone, hfound⟩ | ⟨pre, e, post, hbest, hfound⟩
      · rw [hfound]
        refine .inr ⟨entries, x, [], ⟨rfl, hx, ?_, by simp⟩, rfl⟩
        intro y hy hmatch
        rw [hnone y hy] at hmatch
        cases hmatch
      · rw [hfound]
        by_cases hle : (pattern x).canonical.length ≤ (pattern e).canonical.length
        · refine .inr ⟨pre, e, post ++ [x], ⟨?_, hbest.matched, hbest.before, ?_⟩, if_pos hle⟩
          · rw [hbest.split, List.append_assoc]
            rfl
          · intro y hy hmatch
            rcases List.mem_append.mp hy with hy | hy
            · exact hbest.after y hy hmatch
            · rw [List.mem_singleton.mp hy]
              exact hle
        · refine .inr ⟨entries, x, [], ⟨rfl, hx, ?_, by simp⟩, if_neg hle⟩
          intro y hy hmatch
          have hye : (pattern y).canonical.length ≤ (pattern e).canonical.length := by
            rw [hbest.split, List.mem_append, List.mem_cons] at hy
            rcases hy with hy | rfl | hy
            · exact Nat.le_of_lt (hbest.before y hy hmatch)
            · exact Nat.le_refl _
            · exact hbest.after y hy hmatch
          omega
    · rw [if_neg hx]
      rw [Bool.not_eq_true] at hx
      rcases ih with ⟨hnone, hfound⟩ | ⟨pre, e, post, hbest, hfound⟩
      · refine .inl ⟨?_, hfound⟩
        intro y hy
        rcases List.mem_append.mp hy with hy | hy
        · exact hnone y hy
        · rw [List.mem_singleton.mp hy]
          exact hx
      · refine .inr ⟨pre, e, post ++ [x], ⟨?_, hbest.matched, hbest.before, ?_⟩, hfound⟩
        · rw [hbest.split, List.append_assoc]
          rfl
        · intro y hy hmatch
          rcases List.mem_append.mp hy with hy | hy
          · exact hbest.after y hy hmatch
          · rw [List.mem_singleton.mp hy, hx] at hmatch
            cases hmatch

theorem findBest_eq_none_iff : findBestRosResourcePatternMatch entries resource pattern = none ↔
    ∀ x ∈ entries, (pattern x).matchesResource resource = false := by
  rcases findBest_cases resource pattern entries with ⟨hnone, hfound⟩ | ⟨pre, e, post, hbest, hfound⟩
  · exact ⟨fun _ => hnone, fun _ => hfound⟩
  · constructor
    · intro h
      rw [hfound] at h
      cases h
    · intro h
      have hmatch := h e (by simp [hbest.split])
      rw [hbest.matched] at hmatch
      cases hmatch

theorem findBest_eq_some_iff : findBestRosResourcePatternMatch entries resource pattern = some e ↔
    ∃ pre post, BestAt resource pattern entries pre e post := by
  rcases findBest_cases resource pattern entries with ⟨hnone, hfound⟩ | ⟨pre, e', post, hbest, hfound⟩
  · constructor
    · intro h
      rw [hfound] at h
      cases h
    · intro h
      obtain ⟨pre, post, hbest⟩ := h
      have hmatch := hnone e (by simp [hbest.split])
      rw [hbest.matched] at hmatch
      cases hmatch
  · rw [hfound]
    constructor
    · intro h
      rw [Option.some.injEq] at h
      subst h
      exact ⟨pre, post, hbest⟩
    · intro h
      obtain ⟨pre', post', hbest'⟩ := h
      rw [(hbest.unique hbest').2.1]

end Best

/-! ### Parameters -/

/-- `utils::requireUniqueEntry`: the ids seen so far, and the entry. -/
def requireUniqueEntry {α : Type} (seen : List Str) (id : Str) (entries : AList fun _ : Str => α)
    (duplicateLabel missingLabel : Str) : Except Str (List Str × α) :=
  if id ∈ seen then .error (lit "duplicate " ++ duplicateLabel ++ lit " '" ++ id ++ lit "'")
  else
    match (entries.lookup id : Option α) with
    | none => .error (missingLabel ++ lit " '" ++ id ++ lit "' is missing generated parameters")
    | some entry => .ok (id :: seen, entry)

structure EndpointLayout where
  appsrc : Nat
  appsink : Nat
  bridgeAppsrc : Nat
  bridgeAppsink : Nat
  bridgeAppsrcName : Option Str
  bridgeAppsinkName : Option Str
deriving DecidableEq, Repr

namespace Video

/-- An entry of `video.topics`. -/
structure TopicParams where
  pattern : Str
  transform : Str
deriving DecidableEq, Repr

/-- An entry of `video.other`. -/
structure OtherParams where
  source : Str
  transform : Str
deriving DecidableEq, Repr

/-- What `loadConfig` reads of `Params`. -/
structure Params where
  videoTopicIds : List Str
  topics : AList fun _ : Str => TopicParams
  videoOtherIds : List Str
  other : AList fun _ : Str => OtherParams

def kBridgeAppSrcName : Str := lit "bridge_video_src"

def kBridgeAppSinkName : Str := lit "bridge_video_sink"

def kRosTopicRuleLayout : EndpointLayout :=
  ⟨1, 1, 1, 1, some kBridgeAppSrcName, some kBridgeAppSinkName⟩

def kOtherSourceLayout : EndpointLayout := ⟨0, 1, 0, 1, none, some kBridgeAppSinkName⟩

def buildPipelineDescription (source transform : Str) : Str :=
  source ++ (if transform = [] then [] else lit " ! " ++ transform) ++
    lit " ! queue max-size-buffers=2 leaky=downstream" ++ lit " ! videoconvert" ++
    lit " ! video/x-raw,format=I420" ++ lit " ! appsink name=" ++ kBridgeAppSinkName ++
    lit " sync=false drop=true max-buffers=1"

def syntheticAppsrc : Str :=
  lit "appsrc name=" ++ kBridgeAppSrcName ++
    lit " is-live=true block=false format=time do-timestamp=true" ++
    lit " caps=video/x-raw,format=RGB,width=2,height=2,framerate=0/1"

def requireRosResourcePattern (expand : Expand) (raw context : Str) :
    Except Str RosResourcePattern :=
  if trim raw = [] then .error (context ++ lit " pattern must not be empty")
  else
    match RosResourcePattern.parse expand raw kResourceNodeName (lit "/") false with
    | none => .error (context ++ lit " pattern must normalize to a valid ROS resource")
    | some pattern => .ok pattern

section Load

variable (expand : Expand) (validatePipeline : Str → Str → EndpointLayout → Except Str Unit)

def loadRule (id : Str) (entry : TopicParams) : Except Str RosTopicRule := do
  let pattern ← requireRosResourcePattern expand entry.pattern (lit "video topic")
  validatePipeline (lit "video topic '" ++ id ++ lit "' transform")
    (buildPipelineDescription syntheticAppsrc (trim entry.transform)) kRosTopicRuleLayout
  .ok ⟨pattern, id, trim entry.transform⟩

/-- The loop of `loadConfig` over the topic ids. -/
def loadRules (topics : AList fun _ : Str => TopicParams) :
    List Str → List Str → Except Str (List RosTopicRule)
  | [], _ => .ok []
  | id :: ids, seen => do
    let (seen, entry) ← requireUniqueEntry seen id topics (lit "video topic id") (lit "video topic")
    let rule ← loadRule expand validatePipeline id entry
    let rules ← loadRules topics ids seen
    .ok (rule :: rules)

/-- The source of one id of `video_other_ids`, and its name. -/
def loadSource (id : Str) (entry : OtherParams) (names : List Str) :
    Except Str (Str × OtherSource) := do
  let context := lit "other video source '" ++ id ++ lit "'"
  if trim entry.source = [] then .error (context ++ lit " requires a non-empty source")
  validatePipeline context (buildPipelineDescription (trim entry.source) (trim entry.transform))
    kOtherSourceLayout
  if trim id = [] then .error (context ++ lit " must trim to a non-empty name")
  if trim id ∈ names then
    .error (lit "duplicate other video source name '" ++ trim id ++ lit "'")
  .ok (trim id, ⟨trim entry.source, trim entry.transform⟩)

/-- The loop of `loadConfig` over `video_other_ids`; `names` is `seen_source_names`. -/
def loadSources (other : AList fun _ : Str => OtherParams) :
    List Str → List Str → List Str → (AList fun _ : Str => OtherSource) →
      Except Str (AList fun _ : Str => OtherSource)
  | [], _, _, sources => .ok sources
  | id :: ids, seen, names, sources => do
    let (seen, entry) ← requireUniqueEntry seen id other (lit "other video id")
      (lit "other video source")
    let (name, source) ← loadSource validatePipeline id entry names
    loadSources other ids seen (name :: names) (sources.insert name source)

def loadConfig (params : Params) : Except Str StreamConfig := do
  let builtin := makeDefaultConfig
  let rules ← loadRules expand validatePipeline params.topics params.videoTopicIds []
  let sources ← loadSources validatePipeline params.other params.videoOtherIds [] []
    builtin.otherSources
  .ok ⟨rules ++ builtin.rosTopicRules, sources⟩

end Load

def builtinRule : RosTopicRule := ⟨RosResourcePattern.rootSubtree, lit "default_ros", []⟩

/-! ### What is loaded -/

section Loaded

variable {expand : Expand} {validatePipeline : Str → Str → EndpointLayout → Except Str Unit}

end Loaded

end Video

end LivekitBridge
