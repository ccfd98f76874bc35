import LivekitBridge.Streams.Endpoints

/-!
# Other sources

From the parameters of `video.other` and `audio.other` to a pipeline that runs.  `loadConfig`
validates the description of every source and keeps its fragments; a request finds a source by its
name (`Streams.Spec`); `GStreamerStream::startPipelineLocked` builds the description again from the
fragments, and `GStreamerPipeline::start` takes the endpoints of the result by their names.

`loadOtherSources` is the loop of the two `loadConfig`, `MediaPipeline.start` the part of the two
`start` that looks at the pipeline.  What is loaded has been validated (`loadOtherSources_validated`),
and what has been validated has the one endpoint that `start` takes (`Owns.takesSink`).

`gst_element_set_state` is the parameter `plays`.  As in `Streams.Rules`, publish options are not
part of the model.
-/

namespace LivekitBridge

open Lib

/-! ### Loading -/

section Load

variable (validate : Str → Str → EndpointLayout → Except Str Unit)

/-- The source of one id; `label` is "other video source" or "other audio source". -/
def loadOtherSource (label : Str) (describe : Str → Str → Str) (layout : EndpointLayout) (id : Str)
    (entry : Video.OtherParams) (names : List Str) : Except Str (Str × OtherSource) :=
  let context := label ++ lit " '" ++ id ++ lit "'"
  if trim entry.source = [] then .error (context ++ lit " requires a non-empty source")
  else do
    validate context (describe (trim entry.source) (trim entry.transform)) layout
    if trim id = [] then .error (context ++ lit " must trim to a non-empty name")
    else if trim id ∈ names then
      .error (lit "duplicate " ++ label ++ lit " name '" ++ trim id ++ lit "'")
    else .ok (trim id, ⟨trim entry.source, trim entry.transform⟩)

/-- The loop over the ids of `video_other_ids` or `audio_other_ids`. -/
def loadOtherSources (idLabel label : Str) (describe : Str → Str → Str) (layout : EndpointLayout)
    (other : AList fun _ : Str => Video.OtherParams) :
    List Str → List Str → List Str → (AList fun _ : Str => OtherSource) →
      Except Str (AList fun _ : Str => OtherSource)
  | [], _, _, sources => .ok sources
  | id :: ids, seen, names, sources => do
    let (seen, entry) ← requireUniqueEntry seen id other idLabel label
    let (name, source) ← loadOtherSource validate label describe layout id entry names
    loadOtherSources idLabel label describe layout other ids seen (name :: names)
      (sources.insert name source)

end Load

namespace Audio

/-- What `loadConfig` reads of `Params`. -/
structure Params where
  audioOtherIds : List Str
  other : AList fun _ : Str => Video.OtherParams

def kBridgeAppSinkName : Str := lit "bridge_audio_sink"

def kOtherSourceLayout : EndpointLayout := ⟨0, 1, 0, 1, none, some kBridgeAppSinkName⟩

def buildPipelineDescription (source transform : Str) : Str :=
  source ++ (if transform = [] then [] else lit " ! " ++ transform) ++
    lit " ! queue max-size-time=100000000 leaky=downstream" ++ lit " ! audioconvert" ++
    lit " ! audioresample" ++ lit " ! audio/x-raw,format=S16LE,channels=1,rate=48000" ++
    lit " ! appsink name=" ++ kBridgeAppSinkName ++ lit " sync=false drop=true max-buffers=1"

def loadConfig (validate : Str → Str → EndpointLayout → Except Str Unit) (params : Params) :
    Except Str StreamConfig := do
  let sources ← loadOtherSources validate (lit "other audio id") (lit "other audio source")
    buildPipelineDescription kOtherSourceLayout params.other params.audioOtherIds [] []
    makeDefaultConfig.otherSources
  .ok ⟨sources⟩

end Audio

/-! ### Starting -/

/-- `gst_bin_get_by_name` finds an element with the name, if there is one. -/
structure FindsByName (getByName : GstPipeline → Str → Option GstElement) : Prop where
  sound : ∀ {p name e}, getByName p name = some e → e ∈ p.elements ∧ e.name = name
  complete : ∀ {p name}, (∃ e ∈ p.elements, e.name = name) → (getByName p name).isSome = true

/-- A pipeline that runs, with the endpoints that were taken from it. -/
structure MediaPipeline where
  pipeline : GstPipeline
  appsrc : Option GstElement
  appsink : GstElement
deriving DecidableEq, Repr

section Starting

variable (getByName : GstPipeline → Str → Option GstElement)

namespace MediaPipeline

/-- One endpoint in `start`; `media` is "Video" or "Audio". -/
def takeEndpoint (media what class_ name : Str) (isClass : GstElement → Bool) (p : GstPipeline) :
    Except Str GstElement :=
  match getByName p name with
  | none => .error (media ++ lit " pipeline did not create the expected " ++ what ++ lit ".")
  | some e =>
    if isClass e then .ok e
    else .error (media ++ lit " pipeline named " ++ name ++ lit " must be a " ++ class_ ++ lit ".")

/-- `takeEndpoint`, when a name is given. -/
def takeAppSrc (media : Str) (p : GstPipeline) : Option Str → Except Str (Option GstElement)
  | none => .ok none
  | some name => do
    let e ← takeEndpoint getByName media (lit "appsrc") (lit "GstAppSrc") name GstElement.isAppSrc p
    .ok (some e)

/-- The two `GStreamerPipeline::start`, which have stopped the pipeline before and stop it again
when it does not play: `media` is "Video" or "Audio" and `kind` the same in lower case. -/
def start (parse : Str → GstParse) (plays : GstPipeline → Bool) (media kind sinkName : Str)
    (srcName : Option Str) (description : Str) : Except Str MediaPipeline :=
  match (parse description).pipeline with
  | none =>
    .error (lit "Failed to create GStreamer pipeline: " ++
      (parse description).error.getD (lit "gst_parse_launch returned null"))
  | some p =>
    if p.isBin = false then .error (media ++ lit " pipeline must resolve to a GstBin.")
    else do
      let appsink ←
        takeEndpoint getByName media (lit "appsink") (lit "GstAppSink") sinkName
          GstElement.isAppSink p
      let appsrc ← takeAppSrc getByName media p srcName
      if plays p then .ok ⟨p, appsrc, appsink⟩
      else .error (lit "Failed to set " ++ kind ++ lit " pipeline to PLAYING.")

end MediaPipeline

namespace Video

def requireOtherInput (spec : StreamSpec) : Except Str OtherInput :=
  match spec.input with
  | .other input => .ok input
  | .ros _ => .error (lit "Video stream spec does not contain an other-video input.")

def GStreamerPipeline.start (parse : Str → GstParse) (plays : GstPipeline → Bool)
    (description : Str) (requireAppsrc : Bool) : Except Str MediaPipeline :=
  MediaPipeline.start getByName parse plays (lit "Video") (lit "video") kBridgeAppSinkName
    (if requireAppsrc then some kBridgeAppSrcName else none) description

def startPipelineLocked (parse : Str → GstParse) (plays : GstPipeline → Bool) (spec : StreamSpec) :
    Except Str MediaPipeline := do
  let input ← requireOtherInput spec
  GStreamerPipeline.start getByName parse plays
    (buildPipelineDescription input.sourceFragment input.transformFragment) false

end Video

namespace Audio

def GStreamerPipeline.start (parse : Str → GstParse) (plays : GstPipeline → Bool)
    (description : Str) : Except Str MediaPipeline :=
  MediaPipeline.start getByName parse plays (lit "Audio") (lit "audio") kBridgeAppSinkName none
    description

def startPipelineLocked (parse : Str → GstParse) (plays : GstPipeline → Bool) (spec : StreamSpec) :
    Except Str MediaPipeline :=
  GStreamerPipeline.start getByName parse plays
    (buildPipelineDescription spec.input.sourceFragment spec.input.transformFragment)

end Audio

end Starting

/-! ### What is loaded has been validated -/

section Loaded

variable {validate : Str → Str → EndpointLayout → Except Str Unit} {idLabel label : Str}
  {describe : Str → Str → Str} {layout : EndpointLayout}

/-- The description of the source was accepted. -/
def SourceAccepted (validate : Str → Str → EndpointLayout → Except Str Unit)
    (describe : Str → Str → Str) (layout : EndpointLayout) (source : OtherSource) : Prop :=
  ∃ context,
    validate context (describe source.sourceFragment source.transformFragment) layout = .ok ()

theorem loadOtherSource_validated {id name : Str} {entry : Video.OtherParams} {names : List Str}
    {source : OtherSource}
    (h : loadOtherSource validate label describe layout id entry names = .ok (name, source)) :
    SourceAccepted validate describe layout source := by
  rw [loadOtherSource] at h
  by_cases hsource : trim entry.source = []
  · rw [if_pos hsource] at h
    cases h
  · rw [if_neg hsource] at h
    obtain ⟨_, hvalid, h⟩ := bind_eq_ok.mp h
    split_ifs at h
    cases h
    exact ⟨_, hvalid⟩

/-- **The run of the loop**: every source that it has stored was validated. -/
theorem loadOtherSources_validated {other : AList fun _ : Str => Video.OtherParams} :
    ∀ {ids seen names : List Str} {sources loaded : AList fun _ : Str => OtherSource},
      loadOtherSources validate idLabel label describe layout other ids seen names sources =
        .ok loaded →
      (∀ name source, sources.lookup name = some source →
        SourceAccepted validate describe layout source) →
      ∀ name source, loaded.lookup name = some source →
        SourceAccepted validate describe layout source := by
  intro ids
  induction ids with
  | nil =>
    intro seen names sources loaded h hsources
    cases h
    exact hsources
  | cons id ids ih =>
    intro seen names sources loaded h hsources
    rw [loadOtherSources] at h
    obtain ⟨⟨seen', entry⟩, _, h⟩ := bind_eq_ok.mp h
    obtain ⟨⟨stored, source⟩, hsource, h⟩ := bind_eq_ok.mp h
    refine ih h ?_
    intro name found hfound
    by_cases hname : name = stored
    · subst hname
      rw [AList.lookup_insert, Option.some.injEq] at hfound
      subst hfound
      exact loadOtherSource_validated hsource
    · rw [AList.lookup_insert_ne hname] at hfound
      exact hsources name found hfound

end Loaded

namespace Video

/-- The loop of `Streams.Rules` is this one. -/
theorem loadSource_eq (validate : Str → Str → EndpointLayout → Except Str Unit) (id : Str)
    (entry : OtherParams) (names : List Str) : loadSource validate id entry names =
      loadOtherSource validate (lit "other video source") buildPipelineDescription kOtherSourceLayout
        id entry names := by
  have hlabel : lit "other video source '" = lit "other video source" ++ lit " '" := by rfl
  have hduplicate : lit "duplicate other video source name '" =
      lit "duplicate " ++ lit "other video source" ++ lit " name '" := by rfl
  rw [loadSource, loadOtherSource, hlabel, hduplicate]
  by_cases hsource : trim entry.source = []
  · simp only [if_pos hsource]
    rfl
  · simp only [if_neg hsource]
    refine congrArg _ (funext fun _ => ?_)
    by_cases hname : trim id = []
    · simp only [if_pos hname]
      rfl
    · simp only [if_neg hname]
      by_cases hduplicated : trim id ∈ names
      · simp only [if_pos hduplicated]
        rfl
      · simp only [if_neg hduplicated]

theorem loadSources_eq (validate : Str → Str → EndpointLayout → Except Str Unit)
    (other : AList fun _ : Str => OtherParams) (ids : List Str) :
    ∀ (seen names : List Str) (sources : AList fun _ : Str => OtherSource),
      loadSources validate other ids seen names sources =
        loadOtherSources validate (lit "other video id") (lit "other video source")
          buildPipelineDescription kOtherSourceLayout other ids seen names sources := by
  induction ids with
  | nil => exact fun _ _ _ => rfl
  | cons id ids ih =>
    intro seen names sources
    rw [loadSources, loadOtherSources]
    refine congrArg _ (funext fun unique => ?_)
    obtain ⟨seen', entry⟩ := unique
    simp only [loadSource_eq, ih]

theorem loadConfig_validated {expand : Expand}
    {validate : Str → Str → EndpointLayout → Except Str Unit} {params : Params}
    {config : StreamConfig} (h : loadConfig expand validate params = .ok config) (name : Str)
    (source : OtherSource) (hsource : config.otherSources.lookup name = some source) :
    SourceAccepted validate buildPipelineDescription kOtherSourceLayout source := by
  rw [loadConfig] at h
  obtain ⟨rules, _, h⟩ := bind_eq_ok.mp h
  obtain ⟨sources, hsources, h⟩ := bind_eq_ok.mp h
  cases h
  rw [loadSources_eq] at hsources
  exact loadOtherSources_validated hsources (by simp [makeDefaultConfig]) name source hsource

end Video

theorem Audio.loadConfig_validated {validate : Str → Str → EndpointLayout → Except Str Unit}
    {params : Audio.Params} {config : Audio.StreamConfig}
    (h : Audio.loadConfig validate params = .ok config) (name : Str) (source : OtherSource)
    (hsource : config.otherSources.lookup name = some source) :
    SourceAccepted validate Audio.buildPipelineDescription Audio.kOtherSourceLayout source := by
  rw [Audio.loadConfig] at h
  obtain ⟨sources, hsources, h⟩ := bind_eq_ok.mp h
  cases h
  exact loadOtherSources_validated hsources (by simp [Audio.makeDefaultConfig]) name source hsource

/-! ### What has been validated can be started -/

/-- A source that is found is a stored one. -/
theorem findOtherSource_eq_ok {sources : AList fun _ : Str => OtherSource} {what name : Str}
    {input : OtherInput} (h : findOtherSource sources what name = .ok input) :
    sources.lookup input.name = some ⟨input.sourceFragment, input.transformFragment⟩ := by
  rw [findOtherSource] at h
  split_ifs at h
  split at h
  · cases h
  · rename_i source hsource
    cases h
    exact hsource

/-- An appsrc or an appsink. -/
def GstElement.isAppEndpoint (e : GstElement) : Bool := e.fromAppsrc || e.fromAppsink

/-- **The sink is found**: in a pipeline whose only endpoint is to be the sink of the bridge, it is,
and it is what the reserved name finds. -/
theorem Owns.takesSink {getByName : GstPipeline → Str → Option GstElement}
    (hfinds : FindsByName getByName) {sinkName : Str} {p : GstPipeline}
    (h : Owns ⟨0, 1, 0, 1, none, some sinkName⟩ p.elements) :
    ∃ sink, p.elements.filter GstElement.isAppEndpoint = [sink] ∧ sink.fromAppsink = true ∧
      getByName p sinkName = some sink := by
  have hnoSrc : ∀ e ∈ p.elements, e.fromAppsrc = false := by
    simpa using List.countP_eq_zero.mp h.appsrc
  -- without an appsrc the endpoints are the sinks
  have hsame : p.elements.filter GstElement.isAppEndpoint =
      p.elements.filter GstElement.fromAppsink := by
    refine List.filter_congr fun e he => ?_
    rw [GstElement.isAppEndpoint, hnoSrc e he, Bool.false_or]
  have hlength : (p.elements.filter GstElement.fromAppsink).length = 1 := by
    rw [← List.countP_eq_length_filter]
    exact h.appsink
  obtain ⟨only, honly⟩ := List.length_eq_one_iff.mp hlength
  have hnamed : 0 < p.elements.countP (GstElement.hasName (some sinkName)) := by
    have hone := h.bridgeAppsink
    simp only at hone
    omega
  obtain ⟨named, hmem, hname⟩ := List.countP_pos_iff.mp hnamed
  have hfound : (getByName p sinkName).isSome = true :=
    hfinds.complete ⟨named, hmem, by simpa [GstElement.hasName, eq_comm] using hname⟩
  obtain ⟨sink, hsink⟩ := Option.isSome_iff_exists.mp hfound
  obtain ⟨hsinkMem, hsinkName⟩ := hfinds.sound hsink
  have hisSink : sink.fromAppsink = true :=
    (h.respects sink hsinkMem).appsink (by simp [GstElement.hasName, hsinkName])
  have hsinkOnly : sink ∈ p.elements.filter GstElement.fromAppsink :=
    List.mem_filter.mpr ⟨hsinkMem, hisSink⟩
  rw [honly, List.mem_singleton] at hsinkOnly
  subst hsinkOnly
  exact ⟨sink, hsame.trans honly, hisSink, hsink⟩

/-- The description parses to a bin whose only endpoint is the sink of the bridge, and starting it
fails only if it does not play. -/
def StartsWithSink (parse : Str → GstParse) (plays : GstPipeline → Bool) (kind sinkName : Str)
    (description : Str) (started : Except Str MediaPipeline) : Prop :=
  ∃ p sink, parse description = ⟨some p, none⟩ ∧ p.isBin = true ∧
    p.elements.filter GstElement.isAppEndpoint = [sink] ∧ sink.name = sinkName ∧
    started = if plays p then .ok ⟨p, none, sink⟩
      else .error (lit "Failed to set " ++ kind ++ lit " pipeline to PLAYING.")

section Starting

variable {parse : Str → GstParse} {iterate : GstPipeline → List GstIteratorResult}
  {getByName : GstPipeline → Str → Option GstElement} {plays : GstPipeline → Bool}

theorem startsWithSink_of_accepted {describe : Str → Str → Str} {sinkName : Str}
    {source : OtherSource} (hfinds : FindsByName getByName)
    (hiterate : ∀ p : GstPipeline, p.isBin = true → ∃ seen, Lists p.elements seen (iterate p))
    (hclass : ∀ description p, (parse description).pipeline = some p →
      ∀ e ∈ p.elements, e.fromAppsink = true → e.isAppSink = true)
    (h : SourceAccepted (validatePipeline parse iterate) describe ⟨0, 1, 0, 1, none, some sinkName⟩
      source) (media kind : Str) :
    StartsWithSink parse plays kind sinkName (describe source.sourceFragment source.transformFragment)
      (MediaPipeline.start getByName parse plays media kind sinkName none
        (describe source.sourceFragment source.transformFragment)) := by
  obtain ⟨context, hvalid⟩ := h
  have hsingle : EndpointLayout.Single ⟨0, 1, 0, 1, none, some sinkName⟩ := by
    constructor <;> simp
  obtain ⟨p, _, hparse, hbin, _, howns, _⟩ := (validatePipeline_eq_ok_iff hsingle hiterate).mp hvalid
  obtain ⟨sink, honly, hfrom, hfound⟩ := howns.takesSink hfinds
  obtain ⟨hmem, hname⟩ := hfinds.sound hfound
  have hisSink : sink.isAppSink = true := hclass _ p (by rw [hparse]) sink hmem hfrom
  refine ⟨p, sink, hparse, hbin, honly, hname, ?_⟩
  have htaken : MediaPipeline.takeEndpoint getByName media (lit "appsink") (lit "GstAppSink")
      sinkName GstElement.isAppSink p = .ok sink := by
    simp only [MediaPipeline.takeEndpoint, hfound, if_pos hisSink]
  rw [MediaPipeline.start, hparse]
  simp only [hbin, htaken, MediaPipeline.takeAppSrc]
  rfl

end Starting

/-- **What is configured can be started.**  When the parameters are accepted at startup, every
source that a request resolves to has a pipeline with one endpoint, the sink of the bridge, and
starting or restarting it fails only where GStreamer does not play it.  That a description is
parsed to the same pipeline each time is taken for granted: `parse` is a function. -/
theorem other_sources_start {parse : Str → GstParse} {iterate : GstPipeline → List GstIteratorResult}
    {getByName : GstPipeline → Str → Option GstElement} (hfinds : FindsByName getByName)
    (hiterate : ∀ p : GstPipeline, p.isBin = true → ∃ seen, Lists p.elements seen (iterate p))
    (hclass : ∀ description p, (parse description).pipeline = some p →
      ∀ e ∈ p.elements, e.fromAppsink = true → e.isAppSink = true)
    (expand : Expand) (plays : GstPipeline → Bool) :
    (∀ params config, Video.loadConfig expand (validatePipeline parse iterate) params = .ok config →
      ∀ name spec, Video.resolveOtherSourceSpec config name = .ok spec →
        ∃ input, spec.input = .other input ∧
          StartsWithSink parse plays (lit "video") Video.kBridgeAppSinkName
            (Video.buildPipelineDescription input.sourceFragment input.transformFragment)
            (Video.startPipelineLocked getByName parse plays spec)) ∧
    ∀ params config, Audio.loadConfig (validatePipeline parse iterate) params = .ok config →
      ∀ name spec, Audio.resolveOtherSourceSpec config name = .ok spec →
        StartsWithSink parse plays (lit "audio") Audio.kBridgeAppSinkName
          (Audio.buildPipelineDescription spec.input.sourceFragment spec.input.transformFragment)
          (Audio.startPipelineLocked getByName parse plays spec) := by
  constructor
  · intro params config hload name spec hspec
    rw [Video.resolveOtherSourceSpec] at hspec
    split at hspec
    · cases hspec
    · rename_i input hinput
      cases hspec
      refine ⟨input, rfl, ?_⟩
      exact startsWithSink_of_accepted hfinds hiterate hclass
        (Video.loadConfig_validated hload input.name _ (findOtherSource_eq_ok hinput)) _ _
  · intro params config hload name spec hspec
    rw [Audio.resolveOtherSourceSpec] at hspec
    split at hspec
    · cases hspec
    · rename_i input hinput
      cases hspec
      exact startsWithSink_of_accepted hfinds hiterate hclass
        (Audio.loadConfig_validated hload input.name _ (findOtherSource_eq_ok hinput)) _ _

def testSource : Video.Params where
  videoTopicIds := []
  topics := ∅
  videoOtherIds := [lit "test "]
  other := AList.insert (lit "test ") ⟨lit " videotestsrc", []⟩ ∅

/-- What is loaded for it. -/
def testConfig : Video.StreamConfig where
  rosTopicRules := [Video.builtinRule]
  otherSources := AList.insert (lit "test") ⟨lit "videotestsrc", []⟩ ∅

theorem validatePipeline_testSource (context : Str) :
    validatePipeline parseTestSource iterateOnce context
      (Video.buildPipelineDescription (lit "videotestsrc") []) Video.kOtherSourceLayout = .ok () := by
  refine (validatePipeline_eq_ok_iff single_kOtherSourceLayout fun p _ => lists_iterateOnce p).mpr
    ⟨testBin, [], if_pos rfl, rfl, .done, owns_testBin, by simp⟩

theorem loadConfig_testSource (expand : Expand) :
    Video.loadConfig expand (validatePipeline parseTestSource iterateOnce) testSource =
      .ok testConfig := by
  have hsource : Video.loadSource (validatePipeline parseTestSource iterateOnce) (lit "test ")
      ⟨lit " videotestsrc", []⟩ [] = .ok (lit "test", ⟨lit "videotestsrc", []⟩) := by
    have hvalid := validatePipeline_testSource (lit "other video source 'test '")
    rw [Video.loadSource_eq, loadOtherSource, if_neg (by decide)]
    exact bind_eq_ok.mpr ⟨(), hvalid, rfl⟩
  refine bind_eq_ok.mpr ⟨[], rfl, bind_eq_ok.mpr ⟨testConfig.otherSources, ?_, rfl⟩⟩
  exact bind_eq_ok.mpr ⟨([lit "test "], ⟨lit " videotestsrc", []⟩), rfl,
    bind_eq_ok.mpr ⟨(lit "test", ⟨lit "videotestsrc", []⟩), hsource, rfl⟩⟩

def firstByName (p : GstPipeline) (name : Str) : Option GstElement :=
  p.elements.find? fun e => e.name = name

theorem findsByName_firstByName : FindsByName firstByName where
  sound h := ⟨List.mem_of_find?_eq_some h, by simpa using List.find?_some h⟩
  complete h := by
    obtain ⟨e, hmem, hname⟩ := h
    rw [firstByName, List.find?_isSome]
    exact ⟨e, hmem, decide_eq_true hname⟩

/-- The test source is found by its trimmed name, and started. -/
theorem other_sources_start_testSource : ∃ spec input,
    Video.resolveOtherSourceSpec testConfig (lit " test") = .ok spec ∧ spec.input = .other input ∧
      StartsWithSink parseTestSource (fun _ => true) (lit "video") Video.kBridgeAppSinkName
        (Video.buildPipelineDescription input.sourceFragment input.transformFragment)
        (Video.startPipelineLocked firstByName parseTestSource (fun _ => true) spec) := by
  have hclass : ∀ description p, (parseTestSource description).pipeline = some p →
      ∀ e ∈ p.elements, e.fromAppsink = true → e.isAppSink = true := by
    intro description p hparse
    rw [parseTestSource] at hparse
    split_ifs at hparse
    cases hparse
    decide
  have hspec : ∃ spec, Video.resolveOtherSourceSpec testConfig (lit " test") = .ok spec :=
    ⟨_, rfl⟩
  obtain ⟨spec, hspec⟩ := hspec
  obtain ⟨input, hinput, hstarts⟩ := (other_sources_start findsByName_firstByName
    (fun p _ => lists_iterateOnce p) hclass ros2Expand fun _ => true).1 testSource testConfig (loadConfig_testSource ros2Expand) (lit " test")
    spec hspec
  exact ⟨spec, input, hspec, hinput, hstarts⟩

end LivekitBridge
